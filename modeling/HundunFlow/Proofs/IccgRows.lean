import HundunFlow.IccgMatrix
import HundunFlow.Lib.Folding
import HundunFlow.Lib.Forest
import HundunFlow.Proofs.RegionExchange

/-!
# The rows of a rank

One pass over the rows of a patch finds whether they are well formed and dominant, and joins the cells
that are coupled within the patch.
-/

namespace HundunFlow.Proofs

open Lib EBTopology MgWorkspace IccgMatrix List

/-- The status is free of failures as long as `P` holds. -/
def Reports (status : Status) (P : Prop) : Prop := (P → status = {}) ∧ (¬ P → status.isOk = false)

variable {status : Status}

lemma Reports.isOk_iff {P : Prop} (h : Reports status P) : status.isOk = true ↔ P := by
  constructor
  · intro hok
    by_contra hnot
    rw [h.2 hnot] at hok
    exact Bool.false_ne_true hok
  · intro hP
    rw [h.1 hP]
    rfl

lemma Reports.congr {P Q : Prop} (h : Reports status P) (hPQ : P ↔ Q) : Reports status Q := by
  rwa [← propext hPQ]

lemma Reports.check {P bad : Prop} [Decidable bad] (h : Reports status P) (detail : UInt32) :
    Reports (if bad then IccgMatrix.invalid detail else status) (P ∧ ¬ bad) := by
  split_ifs with hbad
  · exact ⟨fun hP => absurd hbad hP.2, fun _ => rfl⟩
  · exact ⟨fun hP => h.1 hP.1, fun hnot => h.2 fun hP => hnot ⟨hP, hbad⟩⟩

lemma root_spec {S : Finset Int3} {r : Int3 → Int3} (fuel : ℕ) {parent : Int3 → Int3} {k : ℕ} {i top : Int3}
    (hfuel : k < fuel) (hclimbs : Climbs parent k i top) (hi : i ∈ S) (h : Forest S parent r) :
    ∃ parent', root fuel parent i = some (top, parent') ∧ Forest S parent' r := by
  induction fuel generalizing parent k i with
  | zero => omega
  | succ fuel ih =>
    rw [root]
    by_cases hroot : parent i = i
    · rw [if_pos hroot, hclimbs.eq_of_isRoot hroot]
      exact ⟨parent, rfl, h⟩
    · rw [if_neg hroot]
      have hhalved := hclimbs.halve i
      have hforest := h.halve hi
      have hparent : Function.update parent i (parent (parent i)) i = parent (parent i) := Function.update_self ..
      cases hhalved with
      | root _ _ htop =>
        -- the grandparent of a node is not the node
        rw [hparent] at htop
        exact absurd (hclimbs.acyclic (k := 1) htop) hroot
      | step k _ _ hup =>
        exact ih (by omega) hup (hforest.closed i hi) hforest

variable {𝕜 : Type} {input : IccgInput 𝕜}

def cellSet (input : IccgInput 𝕜) : Finset Int3 := input.cells.toFinset

variable {cell : Int3}

lemma mem_cellSet : cell ∈ cellSet input ↔ cell ∈ input.cells := mem_toFinset

lemma root_forest {parent r : Int3 → Int3} {i : Int3} (h : Forest (cellSet input) parent r) (hi : i ∈ input.cells) :
    ∃ parent', root input.fuel parent i = some (r i, parent') ∧ Forest (cellSet input) parent' r := by
  have hmem := mem_cellSet.mpr hi
  obtain ⟨n, hn⟩ := h.climbs i hmem
  have hcard : (cellSet input).card ≤ input.cells.length := toFinset_card_le _
  exact root_spec input.fuel (Nat.lt_succ_of_le hcard) (hn.bounded h.closed hmem) hmem h

variable [Field 𝕜] [LinearOrder 𝕜]

def JoinedBy (input : IccgInput 𝕜) (cell : Int3) (f : Fin 6) (c d : Int3) : Prop :=
  input.joins cell f = true ∧ c = cell ∧ d = addIndex cell (directionDelta f)

def Joined (input : IccgInput 𝕜) (c d : Int3) : Prop :=
  c ∈ input.cells ∧ ∃ f, input.joins c f = true ∧ d = addIndex c (directionDelta f)

structure RowFine (input : IccgInput 𝕜) (cell : Int3) : Prop where
  diagonal : 0 < (input.rows cell).diagonal
  neighbour : ∀ f, 0 ≤ (input.rows cell).neighbour f
  outer : ∀ f, input.outer cell f = true → (input.rows cell).neighbour f = 0
  weak : ∑ f, (input.rows cell).neighbour f ≤ (input.rows cell).diagonal

def Strict (input : IccgInput 𝕜) (cell : Int3) : Prop :=
  ∑ f, (input.rows cell).neighbour f < (input.rows cell).diagonal

lemma directionDelta_upper {f : Fin 6} (h : f.val % 2 = 1) (axis : Axis) : 0 ≤ component (directionDelta f) axis := by
  revert f
  cases axis <;> decide

lemma joins_mem {f : Fin 6} (hcell : cell ∈ input.cells) (h : input.joins cell f = true) :
    addIndex cell (directionDelta f) ∈ input.cells := by
  simp only [IccgInput.joins, Bool.and_eq_true, decide_eq_true_eq] at h
  obtain ⟨⟨⟨⟨hupper, -⟩, hx⟩, hy⟩, hz⟩ := h
  have hin := mem_boxIndices.mp hcell
  apply mem_boxIndices.mpr
  intro axis
  have hcoord := hin axis
  have hdelta := directionDelta_upper hupper axis
  rw [component_addIndex]
  refine ⟨by omega, ?_⟩
  cases axis
  · exact hx
  · exact hy
  · exact hz

structure FacesScanned (input : IccgInput 𝕜) (cell : Int3) (P : Prop) (R : Int3 → Int3 → Prop) (grounded : Int3 → Bool)
    (seen : List (Fin 6)) (state : RowScan × 𝕜) : Prop where
  sum : state.2 = (seen.map (input.rows cell).neighbour).sum
  status : Reports state.1.status (P ∧ ∀ f ∈ seen, 0 ≤ (input.rows cell).neighbour f ∧
    (input.outer cell f = true → (input.rows cell).neighbour f = 0))
  grounded : state.1.grounded = grounded
  forest : ∃ r, Forest (cellSet input) state.1.parent r ∧
    SameRoot (cellSet input) r fun c d => R c d ∨ ∃ f ∈ seen, JoinedBy input cell f c d

lemma scanFace_spec {P : Prop} {R : Int3 → Int3 → Prop} {grounded : Int3 → Bool} {seen : List (Fin 6)}
    {state : RowScan × 𝕜} (hcell : cell ∈ input.cells) (hR : ∀ c d, R c d → c ∈ cellSet input ∧ d ∈ cellSet input)
    (h : FacesScanned input cell P R grounded seen state) (f : Fin 6) :
    ∃ state', input.scanFace cell state f = some state' ∧ FacesScanned input cell P R grounded (seen ++ [f]) state' := by
  obtain ⟨r, hforest, hclasses⟩ := h.forest
  have hsum : state.2 + (input.rows cell).neighbour f = ((seen ++ [f]).map (input.rows cell).neighbour).sum := by
    rw [h.sum, map_append, sum_append, map_singleton, sum_singleton]
  have hstatus : Reports
      (if input.outer cell f = true ∧ (input.rows cell).neighbour f ≠ 0 then IccgMatrix.invalid 17869
        else if 0 ≤ (input.rows cell).neighbour f then state.1.status else IccgMatrix.invalid 17869)
      (P ∧ ∀ g ∈ seen ++ [f], 0 ≤ (input.rows cell).neighbour g ∧
        (input.outer cell g = true → (input.rows cell).neighbour g = 0)) := by
    have hflip : (if 0 ≤ (input.rows cell).neighbour f then state.1.status else IccgMatrix.invalid 17869) =
        if ¬ 0 ≤ (input.rows cell).neighbour f then IccgMatrix.invalid 17869 else state.1.status := by
      split_ifs <;> rfl
    rw [hflip]
    refine ((h.status.check 17869).check 17869).congr ?_
    simp only [forall_mem_append, forall_mem_singleton]
    tauto
  have hgrown : ∀ {extra : Int3 → Int3 → Prop}, (∀ c d, extra c d ↔ JoinedBy input cell f c d) → ∀ c d,
      ((R c d ∨ ∃ g ∈ seen, JoinedBy input cell g c d) ∨ extra c d ↔ R c d ∨ ∃ g ∈ seen ++ [f], JoinedBy input cell g c d) := by
    intro extra hextra c d
    rw [hextra c d]
    simp only [mem_append, mem_singleton, or_and_right, exists_or, exists_eq_left, or_assoc]
  rw [IccgInput.scanFace]
  by_cases hjoins : input.joins cell f = true
  · have hbeside := joins_mem hcell hjoins
    obtain ⟨parent₁, hsearch₁, hforest₁⟩ := root_forest hforest hcell
    obtain ⟨parent₂, hsearch₂, hforest₂⟩ := root_forest hforest₁ hbeside
    simp only [hjoins, if_true, hsearch₁, hsearch₂]
    refine ⟨_, rfl, ⟨hsum, hstatus, h.grounded, ?_⟩⟩
    refine ⟨_, hforest₂.link (mem_cellSet.mpr hcell) (mem_cellSet.mpr hbeside), ?_⟩
    have hlinked := hclasses.link (mem_cellSet.mpr hcell) (mem_cellSet.mpr hbeside) fun c d hcd => by
      rcases hcd with hcd | ⟨g, -, hg, rfl, rfl⟩
      · exact hR c d hcd
      · exact ⟨mem_cellSet.mpr hcell, mem_cellSet.mpr (joins_mem hcell hg)⟩
    have hpair : ∀ c d, (c = cell ∧ d = addIndex cell (directionDelta f)) ↔ JoinedBy input cell f c d := fun c d =>
      (and_iff_right hjoins).symm
    have heq : (fun c d => (R c d ∨ ∃ g ∈ seen, JoinedBy input cell g c d) ∨
        c = cell ∧ d = addIndex cell (directionDelta f)) = fun c d => R c d ∨ ∃ g ∈ seen ++ [f], JoinedBy input cell g c d := by
      funext c d
      exact propext (hgrown hpair c d)
    rwa [heq] at hlinked
  · simp only [hjoins]
    refine ⟨_, rfl, ⟨hsum, hstatus, h.grounded, r, hforest, ?_⟩⟩
    have hnone : ∀ c d, False ↔ JoinedBy input cell f c d := fun c d => (false_iff _).mpr fun hby => hjoins hby.1
    have heq : (fun c d => R c d ∨ ∃ g ∈ seen, JoinedBy input cell g c d) =
        fun c d => R c d ∨ ∃ g ∈ seen ++ [f], JoinedBy input cell g c d := by
      funext c d
      rw [← propext (hgrown hnone c d), or_false]
    rwa [heq] at hclasses

structure CellsScanned (input : IccgInput 𝕜) (seen : List Int3) (scan : RowScan) : Prop where
  status : Reports scan.status (∀ cell ∈ seen, RowFine input cell)
  grounded : ∀ cell, scan.grounded cell = true ↔ cell ∈ seen ∧ Strict input cell
  forest : ∃ r, Forest (cellSet input) scan.parent r ∧
    SameRoot (cellSet input) r fun c d => c ∈ seen ∧ Joined input c d

lemma scanCell_spec {seen : List Int3} {scan : RowScan} (hcell : cell ∈ input.cells)
    (h : CellsScanned input seen scan) :
    ∃ scan', input.scanCell scan cell = some scan' ∧ CellsScanned input (seen ++ [cell]) scan' := by
  obtain ⟨r, hforest, hclasses⟩ := h.forest
  have hdiag : Reports (if 0 < (input.rows cell).diagonal then scan.status else IccgMatrix.invalid 17869)
      ((∀ c ∈ seen, RowFine input c) ∧ 0 < (input.rows cell).diagonal) := by
    have hflip : (if 0 < (input.rows cell).diagonal then scan.status else IccgMatrix.invalid 17869) =
        if ¬ 0 < (input.rows cell).diagonal then IccgMatrix.invalid 17869 else scan.status := by
      split_ifs <;> rfl
    rw [hflip]
    exact (h.status.check 17869).congr (and_congr_right fun _ => not_not)
  have hR : ∀ c d, (c ∈ seen ∧ Joined input c d) → c ∈ cellSet input ∧ d ∈ cellSet input := by
    rintro c d ⟨-, hc, f, hf, rfl⟩
    exact ⟨mem_cellSet.mpr hc, mem_cellSet.mpr (joins_mem hc hf)⟩
  have hstart : FacesScanned input cell ((∀ c ∈ seen, RowFine input c) ∧ 0 < (input.rows cell).diagonal)
      (fun c d => c ∈ seen ∧ Joined input c d) scan.grounded []
      ({ scan with status := if 0 < (input.rows cell).diagonal then scan.status else IccgMatrix.invalid 17869 }, (0 : 𝕜)) := by
    refine ⟨rfl, hdiag.congr ?_, rfl, r, hforest, ?_⟩
    · simp
    · simpa using hclasses
  obtain ⟨state, hfold, hfaces⟩ := foldlM_rule hstart (l := finRange 6)
    fun done f s _ _ hs => scanFace_spec hcell hR hs f
  have hsum : state.2 = ∑ f, (input.rows cell).neighbour f := by
    rw [hfaces.sum, ← ofFn_eq_map, sum_ofFn]
  obtain ⟨r', hforest', hclasses'⟩ := hfaces.forest
  rw [IccgInput.scanCell]
  simp only [hfold]
  refine ⟨_, rfl, ⟨(hfaces.status.check 17870).congr ?_, ?_, r', hforest', ?_⟩⟩
  · simp only [mem_finRange, forall_const, forall_mem_append, forall_mem_singleton, not_lt, hsum]
    constructor
    · rintro ⟨⟨⟨hseen, hpos⟩, hfine⟩, hweak⟩
      exact ⟨hseen, hpos, fun f => (hfine f).1, fun f => (hfine f).2, hweak⟩
    · rintro ⟨hseen, hfine⟩
      exact ⟨⟨⟨hseen, hfine.diagonal⟩, fun f => ⟨hfine.neighbour f, hfine.outer f⟩⟩, hfine.weak⟩
  · intro c
    simp only [hfaces.grounded, mem_append, mem_singleton, Function.update_apply, hsum]
    by_cases hc : c = cell
    · subst hc
      simp [Strict]
    · simp [hc, h.grounded]
  · have heq : (fun c d => (c ∈ seen ∧ Joined input c d) ∨ ∃ g ∈ finRange 6, JoinedBy input cell g c d) =
        fun c d => c ∈ seen ++ [cell] ∧ Joined input c d := by
      funext c d
      simp only [mem_finRange, true_and, mem_append, mem_singleton, or_and_right, eq_iff_iff]
      refine or_congr_right ?_
      constructor
      · rintro ⟨g, hg, rfl, rfl⟩
        exact ⟨rfl, hcell, g, hg, rfl⟩
      · rintro ⟨rfl, -, g, hg, rfl⟩
        exact ⟨g, hg, rfl, rfl⟩
    rwa [heq] at hclasses'

/-- The scan of all rows. -/
theorem scanRows_spec (input : IccgInput 𝕜) : ∃ scan, input.scanRows {} = some scan ∧ CellsScanned input input.cells scan := by
  refine foldlM_rule (I := CellsScanned input) ⟨?_, ?_, fun i => i, Forest.initial _, ?_⟩ fun seen cell s _ hcell hs =>
    scanCell_spec hcell hs
  · exact ⟨fun _ => rfl, fun hnot => absurd (by simp) hnot⟩
  · simp
  · simpa using sameRoot_initial (cellSet input)

end HundunFlow.Proofs
