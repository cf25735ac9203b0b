import HundunFlow.Lib.Boxes
import HundunFlow.Lib.Dominance
import HundunFlow.Proofs.IccgRows
import HundunFlow.Proofs.TopologyRegions

/-!
# The faces of the global matrix

The rows of all patches are those of one matrix over the cells of the box, whose entries belong to the
faces between two cells.
-/

namespace HundunFlow.Proofs

open Lib EBTopology MgWorkspace IccgMatrix

def oppositeFace : Fin 6 → Fin 6
  | 0 => 1
  | 1 => 0
  | 2 => 3
  | 3 => 2
  | 4 => 5
  | 5 => 4

variable (f : Fin 6)

variable (axis : Axis)

lemma oppositeFace_oppositeFace : oppositeFace (oppositeFace f) = f := by
  revert f
  decide

lemma faceAxis_oppositeFace : faceAxis (oppositeFace f) = faceAxis f := by
  revert f
  decide

lemma oppositeFace_upperFace : oppositeFace (upperFace axis) = lowerFace axis := by
  cases axis <;> rfl

lemma faceAxis_upperFace : faceAxis (upperFace axis) = axis := by
  cases axis <;> rfl

lemma face_cases : f = lowerFace (faceAxis f) ∨ f = upperFace (faceAxis f) := by
  revert f
  decide

lemma upper_or_opposite : f.val % 2 = 1 ∨ (oppositeFace f).val % 2 = 1 := by
  revert f
  decide

lemma component_directionDelta_oppositeFace :
    component (directionDelta (oppositeFace f)) axis = -component (directionDelta f) axis := by
  revert f
  cases axis <;> decide

lemma component_directionDelta_of_ne {f : Fin 6} {axis : Axis} (h : axis ≠ faceAxis f) :
    component (directionDelta f) axis = 0 := by
  revert f
  cases axis <;> decide

def besideCell (globalCells cell : Int3) (f : Fin 6) : Int3 := wrap globalCells (addIndex cell (directionDelta f))

def SharesFace (globalCells : Int3) (periodic : Axis → Bool) (cell : Int3) (f : Fin 6) : Prop :=
  periodic (faceAxis f) = true ∨ InBox globalCells (addIndex cell (directionDelta f))

section Box

variable {globalCells : Int3} {periodic : Axis → Bool} {cell : Int3} {f : Fin 6}

lemma addIndex_inBox_iff (hcell : InBox globalCells cell) : InBox globalCells (addIndex cell (directionDelta f)) ↔
    0 ≤ component (addIndex cell (directionDelta f)) (faceAxis f) ∧
      component (addIndex cell (directionDelta f)) (faceAxis f) < component globalCells (faceAxis f) := by
  rw [inBox_iff_axes]
  refine ⟨fun h => h _, fun h axis => ?_⟩
  by_cases haxis : axis = faceAxis f
  · rw [haxis]
    exact h
  · rw [component_addIndex, component_directionDelta_of_ne haxis, add_zero]
    exact inBox_iff_axes.mp hcell axis

lemma besideCell_inBox (hcell : InBox globalCells cell) : InBox globalCells (besideCell globalCells cell f) := by
  apply wrap_inBox
  intro axis
  obtain ⟨hnonneg, hlt⟩ := inBox_iff_axes.mp hcell axis
  omega

lemma besideCell_of_inBox (h : InBox globalCells (addIndex cell (directionDelta f))) :
    besideCell globalCells cell f = addIndex cell (directionDelta f) := wrap_of_inBox h

lemma besideCell_back (hcell : InBox globalCells cell) :
    besideCell globalCells (besideCell globalCells cell f) (oppositeFace f) = cell := by
  apply int3_ext
  intro axis
  obtain ⟨hnonneg, hlt⟩ := inBox_iff_axes.mp hcell axis
  simp only [besideCell, wrap, component_ofComponents, component_addIndex, component_directionDelta_oppositeFace]
  rw [Int.emod_add_emod, add_neg_cancel_right, Int.emod_eq_of_lt hnonneg hlt]

lemma sharesFace_back (hcell : InBox globalCells cell) (h : SharesFace globalCells periodic cell f) :
    SharesFace globalCells periodic (besideCell globalCells cell f) (oppositeFace f) := by
  rcases h with hperiodic | hinside
  · exact .inl (by rwa [faceAxis_oppositeFace])
  · refine .inr ?_
    have hback : addIndex (besideCell globalCells cell f) (directionDelta (oppositeFace f)) = cell := by
      rw [besideCell_of_inBox hinside]
      apply int3_ext
      intro axis
      rw [component_addIndex, component_addIndex, component_directionDelta_oppositeFace, add_neg_cancel_right]
    rwa [hback]

end Box

section Matrix

variable {𝕜 : Type} [Field 𝕜] [LinearOrder 𝕜] (globalCells : Int3) (periodic : Axis → Bool) (rows : Int3 → ColdPressureRow 𝕜)

def StrictRow (cell : Int3) : Prop := ∑ f, (rows cell).neighbour f < (rows cell).diagonal

def RowsCoupled (c d : Int3) : Prop :=
  InBox globalCells c ∧ ∃ f, 0 < (rows c).neighbour f ∧ d = besideCell globalCells c f

structure GlobalRowFine (cell : Int3) : Prop where
  diagonal : 0 < (rows cell).diagonal
  neighbour : ∀ f, 0 ≤ (rows cell).neighbour f
  outer : ∀ f, ¬ SharesFace globalCells periodic cell f → (rows cell).neighbour f = 0
  weak : ∑ f, (rows cell).neighbour f ≤ (rows cell).diagonal

def OppositesEqual : Prop := ∀ cell, InBox globalCells cell → ∀ f, SharesFace globalCells periodic cell f →
  (rows (besideCell globalCells cell f)).neighbour (oppositeFace f) = (rows cell).neighbour f

def ComponentsStrict : Prop := ∀ cell, InBox globalCells cell →
  ∃ d, InBox globalCells d ∧ StrictRow rows d ∧ Relation.EqvGen (RowsCoupled globalCells rows) d cell

structure MatrixAdmissible : Prop where
  fine : ∀ cell, InBox globalCells cell → GlobalRowFine globalCells periodic rows cell
  symmetric : OppositesEqual globalCells periodic rows
  components : ComponentsStrict globalCells rows

end Matrix

variable {𝕜 : Type} {n : ℕ}

/-- The ranks hold the rows of one matrix, and their patches are a partition of the box. -/
structure IccgJob (globalCells : Int3) (periodic : Axis → Bool) (rows : Int3 → ColdPressureRow 𝕜)
    (input : Fin n → IccgInput 𝕜) : Prop where
  globalCells_eq : ∀ i, (input i).globalCells = globalCells
  periodic_eq : ∀ i, (input i).periodic = periodic
  rows_eq : ∀ i cell, (input i).rows cell = rows (addIndex (input i).patch.begin cell)
  nonempty : ∀ i axis, 0 < component (input i).patch.cells axis
  partition : Partitions {cell | InBox globalCells cell} fun i => {cell | Contains (input i).patch cell}

/-- An exchange that fills the ghosts beside the faces of the patches with the values of their cells
and leaves those outside the box. -/
structure CopiesFaces (globalCells : Int3) (periodic : Axis → Bool) (patch : Fin n → MeshPatch)
    (exchange : (Fin n → Int3 → 𝕜) → Fin n → Status × (Int3 → 𝕜)) : Prop where
  succeeds : ∀ fields i, (exchange fields i).1.isOk = true
  copied : ∀ fields i j cell f, Contains (patch i) cell → SharesFace globalCells periodic cell f →
    Contains (patch j) (besideCell globalCells cell f) →
    (exchange fields i).2 (subIndex (addIndex cell (directionDelta f)) (patch i).begin) =
      fields j (subIndex (besideCell globalCells cell f) (patch j).begin)
  exterior : ∀ fields i cell f, Contains (patch i) cell → ¬ SharesFace globalCells periodic cell f →
    (exchange fields i).2 (subIndex (addIndex cell (directionDelta f)) (patch i).begin) =
      fields i (subIndex (addIndex cell (directionDelta f)) (patch i).begin)

variable {globalCells : Int3} {periodic : Axis → Bool} {rows : Int3 → ColdPressureRow 𝕜} {input : Fin n → IccgInput 𝕜}
  (job : IccgJob globalCells periodic rows input)

include job

variable {cell : Int3} {i : Fin n} {f : Fin 6} {exchange : (Fin n → Int3 → 𝕜) → Fin n → Status × (Int3 → 𝕜)}

lemma IccgJob.inBox (h : Contains (input i).patch cell) : InBox globalCells cell :=
  job.partition.subset i h

lemma IccgJob.exists_owner (h : InBox globalCells cell) : ∃ i, Contains (input i).patch cell :=
  job.partition.exists_mem h

omit job in
lemma mem_cells : cell ∈ (input i).cells ↔ Contains (input i).patch (addIndex (input i).patch.begin cell) :=
  mem_boxIndices_iff_contains

omit job in
lemma addIndex_assoc (a b c : Int3) : addIndex (addIndex a b) c = addIndex a (addIndex b c) := by
  apply int3_ext
  intro axis
  simp only [component_addIndex, add_assoc]

lemma IccgJob.outer_iff (hcell : cell ∈ (input i).cells) :
    (input i).outer cell f = true ↔ ¬ SharesFace globalCells periodic (addIndex (input i).patch.begin cell) f := by
  have hbox := job.inBox (mem_cells.mp hcell)
  rw [SharesFace, addIndex_inBox_iff hbox, addIndex_assoc, component_addIndex]
  simp only [IccgInput.outer, job.globalCells_eq, job.periodic_eq, Bool.and_eq_true, Bool.not_eq_true', Bool.or_eq_true,
    decide_eq_true_eq, not_or, not_and_or, not_le, not_lt, Bool.not_eq_true]
  rw [add_comm (component (input i).patch.begin (faceAxis f))]

variable [Field 𝕜] [LinearOrder 𝕜]

lemma IccgJob.rowFine_iff (hcell : cell ∈ (input i).cells) :
    RowFine (input i) cell ↔ GlobalRowFine globalCells periodic rows (addIndex (input i).patch.begin cell) := by
  have hrow := job.rows_eq i cell
  constructor
  · intro h
    exact ⟨hrow ▸ h.diagonal, hrow ▸ h.neighbour, fun f hf => hrow ▸ h.outer f ((job.outer_iff hcell).mpr hf), hrow ▸ h.weak⟩
  · intro h
    refine ⟨?_, ?_, fun f hf => ?_, ?_⟩
    · rw [hrow]
      exact h.diagonal
    · rw [hrow]
      exact h.neighbour
    · rw [hrow]
      exact h.outer f ((job.outer_iff hcell).mp hf)
    · rw [hrow]
      exact h.weak

lemma IccgJob.strict_iff (i : Fin n) (cell : Int3) :
    Strict (input i) cell ↔ StrictRow rows (addIndex (input i).patch.begin cell) := by
  rw [Strict, StrictRow, job.rows_eq]

lemma IccgJob.rows_fine_iff : (∀ i, ∀ cell ∈ (input i).cells, RowFine (input i) cell) ↔
    ∀ cell, InBox globalCells cell → GlobalRowFine globalCells periodic rows cell := by
  constructor
  · intro h cell hcell
    obtain ⟨i, hi⟩ := job.exists_owner hcell
    have hmem : subIndex cell (input i).patch.begin ∈ (input i).cells := by rwa [mem_cells, addIndex_subIndex]
    have hfine := (job.rowFine_iff hmem).mp (h i _ hmem)
    rwa [addIndex_subIndex] at hfine
  · intro h i cell hcell
    exact (job.rowFine_iff hcell).mpr (h _ (job.inBox (mem_cells.mp hcell)))

omit [LinearOrder 𝕜] [Field 𝕜]

lemma IccgJob.shown (hexchange : CopiesFaces globalCells periodic (fun i => (input i).patch) exchange)
    {fields : Fin n → Int3 → 𝕜} (value : Int3 → 𝕜)
    (hfields : ∀ j, ∀ cell ∈ (input j).cells, fields j cell = value (addIndex (input j).patch.begin cell))
    (hcell : cell ∈ (input i).cells)
    (hshared : SharesFace globalCells periodic (addIndex (input i).patch.begin cell) f) :
    (exchange fields i).2 (addIndex cell (directionDelta f)) =
      value (besideCell globalCells (addIndex (input i).patch.begin cell) f) := by
  have hin := mem_cells.mp hcell
  obtain ⟨j, hj⟩ := job.exists_owner (besideCell_inBox (f := f) (job.inBox hin))
  have hcopied := hexchange.copied fields i j _ f hin hshared hj
  have hmem : subIndex (besideCell globalCells (addIndex (input i).patch.begin cell) f) (input j).patch.begin ∈ (input j).cells := by
    rwa [mem_cells, addIndex_subIndex]
  rw [addIndex_assoc, subIndex_addIndex] at hcopied
  rw [hcopied, hfields j _ hmem, addIndex_subIndex]

omit job in
lemma exchange_exterior (hexchange : CopiesFaces globalCells periodic (fun i => (input i).patch) exchange)
    (fields : Fin n → Int3 → 𝕜) (hcell : cell ∈ (input i).cells)
    (hshared : ¬ SharesFace globalCells periodic (addIndex (input i).patch.begin cell) f) :
    (exchange fields i).2 (addIndex cell (directionDelta f)) = fields i (addIndex cell (directionDelta f)) := by
  have hexterior := hexchange.exterior fields i _ f (mem_cells.mp hcell) hshared
  rwa [addIndex_assoc, subIndex_addIndex] at hexterior

end HundunFlow.Proofs
