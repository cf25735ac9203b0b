import HundunFlow.Proofs.MgProlongation

/-!
# The transfers of a hierarchy

Every pair of levels of a hierarchy is cut along the process grid.
-/

namespace HundunFlow.Proofs

open Lib MgWorkspace MgTransfer

section Levels

variable {n : ℕ} {p : Fin n → LevelPlan} {s : Fin n → LevelState}

variable {cut : Axis → ℤ → ℤ}

lemma votedGrid_process {p : LevelPlan} {s : LevelState} {actual : AxisMask} (hcomputes : (ballot p s).isSome)
    (hactual : ∀ axis, actual.has axis = true → (localMask p s).has axis = true) :
    (votedGrid p s actual).patch.processGrid = s.grid.patch.processGrid ∧
      (votedGrid p s actual).patch.processCoord = s.grid.patch.processCoord := by
  obtain ⟨next, -, -, hloop⟩ := nextGrid_eq hcomputes hactual
  exact coarsenAxes_process hloop

lemma Descends.tensor {last : ℕ} (h : Descends p s last) (hshared : Shared s) {grid : Int3} (i₀ : Fin n)
    (hcut : TensorPartition (s i₀).grid.shape grid cut fun i => (s i).grid.patch) {k : ℕ} (hk : k ≤ last) :
    ∃ cut, TensorPartition (stateAt p s k i₀).grid.shape grid cut fun i => (stateAt p s k i).grid.patch := by
  induction k with
  | zero => exact ⟨cut, hcut⟩
  | succ k ih =>
    obtain ⟨before, hbefore⟩ := ih (Nat.le_of_succ_le hk)
    have hcoarsened := h.coarsened hshared hk
    have hprocess : ∀ i, (stateAt p s (k + 1) i).grid.patch.processGrid = (stateAt p s k i).grid.patch.processGrid ∧
        (stateAt p s (k + 1) i).grid.patch.processCoord = (stateAt p s k i).grid.patch.processCoord := by
      intro i
      rw [stateAt, following_grid (not_or.mp (h.goes k hk i)).1]
      exact votedGrid_process (h.computes k (Nat.le_of_succ_le hk) i) fun axis hvote => (vote_has p _ axis).mp hvote i
    exact ⟨_, hbefore.coarsened (hcoarsened i₀).shape (fun i => (hcoarsened i).begin_) (fun i => (hcoarsened i).end_)
      (fun i => (hcoarsened i).proper.cells_pos) (fun i => (hprocess i).1) fun i => (hprocess i).2⟩

lemma Descends.levelPair {last : ℕ} (h : Descends p s last) (hshared : Shared s) {grid : Int3} (i₀ : Fin n)
    (hcut : TensorPartition (s i₀).grid.shape grid cut fun i => (s i).grid.patch)
    {requirements : Fin n → MgWorkspaceRequirements}
    (hlevels : ∀ i, (requirements i).levels = (List.range (last + 1)).map (levelAt p s i)) {k : ℕ}
    {fine coarse : Fin n → MgWorkspaceLevelRequirements} (hfine : LevelsAt requirements k fine)
    (hcoarse : LevelsAt requirements (k + 1) coarse) :
    LevelPair (fine i₀).coarsenAxisMask (fine i₀).globalShape (coarse i₀).globalShape grid fine coarse := by
  have hk := (levelsAt_eq hlevels hcoarse i₀).1
  have hfineAt : ∀ i, fine i = levelAt p s i k := fun i => (levelsAt_eq hlevels hfine i).2
  have hcoarseAt : ∀ i, coarse i = levelAt p s i (k + 1) := fun i => (levelsAt_eq hlevels hcoarse i).2
  obtain rfl : fine = fun i => levelAt p s i k := funext hfineAt
  obtain rfl : coarse = fun i => levelAt p s i (k + 1) := funext hcoarseAt
  have hcoarsened := h.coarsened hshared hk
  obtain ⟨fineCut, hfineCut⟩ := h.tensor hshared i₀ hcut (Nat.le_of_succ_le hk)
  obtain ⟨coarseCut, hcoarseCut⟩ := h.tensor hshared i₀ hcut hk
  constructor
  all_goals simp only [levelAt, (levelOf_fields _).1, (levelOf_fields _).2.1, (levelOf_fields _).2.2.1]
  · exact fun _ => trivial
  · exact fun i => (h.shared hshared (Nat.le_of_succ_le hk)).shape i i₀
  · exact fun i => (h.shared hshared hk).shape i i₀
  · exact (hcoarsened i₀).shape
  · exact fun i => (hcoarsened i).begin_
  · exact fun i => (hcoarsened i).end_
  · exact ⟨fineCut, hfineCut⟩
  · exact ⟨coarseCut, hcoarseCut⟩

end Levels

/-- Both transfers between any two levels are those of the box. -/
def TransfersGlobal (F : Type) [Field F] [LinearOrder F] {n : ℕ} (requirements : Fin n → MgWorkspaceRequirements)
    (boundaries : MgBoundarySet) (nullSpace : MgNullSpace) (grid : Int3) : Prop :=
  ∀ k fine coarse, LevelsAt requirements k fine → LevelsAt requirements (k + 1) coarse →
    (∀ i, RestrictsGlobally F (fine i).coarsenAxisMask (fine i).globalShape (coarse i).globalShape fine coarse boundaries
      nullSpace) ∧
    ProlongatesGlobally F fine coarse boundaries grid

/-- No patch that is restricted has two odd ends. -/
def OddEndsApart {n : ℕ} (requirements : Fin n → MgWorkspaceRequirements) : Prop :=
  ∀ k fine coarse, LevelsAt requirements k fine → LevelsAt requirements (k + 1) coarse → OneOddEnd fine

section Calls

variable {F : Type} [Field F] [LinearOrder F] [DoubleWord F] {n : ℕ} {hn : 0 < n}
  {hsize : n < 2 ^ 31} {geometry : CartesianGeometryPlan F} {finestPatch : Fin n → MeshPatch}
  {policy : MgHierarchyPolicy F} {executionRevision : Fin n → UInt64}

variable {requirements : Fin n → MgWorkspaceRequirements}

lemma levelPair_of_ok {grid : Int3} {cut : Axis → ℤ → ℤ}
    (hcut : TensorPartition geometry.globalCells grid cut finestPatch)
    (hextent : ∀ axis, component geometry.globalCells axis < 2 ^ 31 - 1) {trace : List JobSignature}
    (hrun : (mpiJob hn).Run (fun i => makeMgWorkspaceRequirements (.valid (jobComm hsize i)) geometry (finestPatch i)
      policy (executionRevision i)) trace fun i => .ok (requirements i)) {k : ℕ}
    {fine coarse : Fin n → MgWorkspaceLevelRequirements} (hfine : LevelsAt requirements k fine)
    (hcoarse : LevelsAt requirements (k + 1) coarse) (i : Fin n) :
    LevelPair (fine i).coarsenAxisMask (fine i).globalShape (coarse i).globalShape grid fine coarse := by
  obtain ⟨hshared, last, hdesc, hmade⟩ := levels_of_ok (hcut.partitions ⟨0, hn⟩) hextent hrun
  exact hdesc.levelPair hshared i hcut (fun i => (hmade i).1) hfine hcoarse

variable [IsStrictOrderedRing F]

omit [DoubleWord F] in
lemma LevelPair.not_transfersGlobal {mask : AxisMask} {shape coarseShape grid : Int3} {k : ℕ}
    {fine coarse : Fin n → MgWorkspaceLevelRequirements}
    {boundaries : MgBoundarySet} {nullSpace : MgNullSpace} (h : LevelPair mask shape coarseShape grid fine coarse)
    (hfine : LevelsAt requirements k fine) (hcoarse : LevelsAt requirements (k + 1) coarse) (hodd : ¬ OneOddEnd fine)
    (i : Fin n) : ¬ TransfersGlobal F requirements boundaries nullSpace grid := by
  intro hglobal
  have hrestr := (hglobal k fine coarse hfine hcoarse).1 i
  rw [h.mask_eq i, h.shape_eq i, h.coarse_eq i] at hrestr
  exact h.not_restricts hodd hrestr

end Calls

/-- Four ranks with quarters of a box of 6 × 6 cells. -/
def quarterPatch (i : Fin 4) : MeshPatch where
  begin := ⟨3 * (i % 2 : ℕ), 3 * (i / 2 : ℕ), 0⟩
  cells := ⟨3, 3, 1⟩
  processGrid := ⟨2, 2, 1⟩
  processCoord := ⟨(i % 2 : ℕ), (i / 2 : ℕ), 0⟩

lemma quarterPatch_tensor : TensorPartition ⟨6, 6, 1⟩ ⟨2, 2, 1⟩ (fun axis c => component ⟨3, 3, 1⟩ axis * c) quarterPatch := by
  constructor
  · decide
  · unfold InGrid
    decide
  · decide
  · decide
  · intro i axis
    cases axis <;> revert i <;> decide
  · intro i axis
    cases axis <;> revert i <;> decide
  · intro axis
    rw [mul_zero]
  · intro axis
    cases axis <;> decide
  · intro i axis
    cases axis <;> revert i <;> decide

lemma quarters_run : ∃ (trace : List JobSignature) (requirements : Fin 4 → MgWorkspaceRequirements),
    (mpiJob (by decide : 0 < 4)).Run (fun i : Fin 4 => makeMgWorkspaceRequirements (.valid (jobComm (by decide) i))
      (unitGeometry 5 5 0) (quarterPatch i) samplePolicy 1) trace fun i => .ok (requirements i) := by
  have hadm := unit_admitted_of 5 5 0 (show ∀ i, positive (quarterPatch i).cells = true by decide)
  have hplans : levelPlans (fun _ : Fin 4 => unitGeometry 5 5 0) (fun _ => samplePolicy) = fun _ => ⟨2, 3, .all, .none⟩ :=
    funext fun _ => levelPlan_unit 5 5 0
  have hlevels : LevelRun (fun _ : Fin 4 => ⟨2, 3, .all, .none⟩) (initialState (fun _ => unitGeometry 5 5 0) quarterPatch) _ :=
    .next (by decide +kernel) (by decide +kernel) (.stop (by decide +kernel) (by decide +kernel))
  rw [← hplans] at hlevels
  obtain ⟨t, hloop⟩ := levelLoop_run (by decide) hlevels hadm.remaining
  obtain ⟨trace, hcalls⟩ := (calls_run_iff (by decide) (by decide) hadm _).mpr ⟨t, _, hloop, rfl⟩
  simp only [hplans] at hcalls
  obtain ⟨requirements, hrun⟩ := hcalls.exists_ok (by decide +kernel)
  exact ⟨trace, requirements, hrun⟩

section ConstantProjection

open EBTopology (boxIndices addIndex)

variable {F : Type} [Field F] [LinearOrder F] {n : ℕ} {shape grid : Int3} {cut : Axis → ℤ → ℤ}
  {patches : Fin n → MgWorkspaceLevelRequirements} {volume value : Int3 → F} {volumes field : Fin n → LevelSlot F}

def boxSum (shape : Int3) (f : Int3 → F) : F := ∑ cell ∈ (boxIndices shape).toFinset, f cell

/-- The value less its mean by volume, zero where there is no volume. -/
def withoutMean (shape : Int3) (volume value : Int3 → F) (cell : Int3) : F :=
  if 0 < volume cell then value cell - boxSum shape (volume * value) / boxSum shape volume else 0

lemma mul_fluid {v : F} (h : 0 ≤ v) (x : F) : v * (if 0 < v then x else 0) = v * x := by
  split_ifs with hv
  · rfl
  · rw [le_antisymm (not_lt.mp hv) h, zero_mul, zero_mul]

lemma withoutMean_balanced (value : Int3 → F) (hvolume : ∀ cell, 0 ≤ volume cell) (htotal : 0 < boxSum shape volume) :
    boxSum shape (volume * withoutMean shape volume value) = 0 := by
  have hcell : ∀ c ∈ (boxIndices shape).toFinset, (volume * withoutMean shape volume value) c =
      (volume * value) c - volume c * (boxSum shape (volume * value) / boxSum shape volume) :=
    fun c _ => (mul_fluid (hvolume c) _).trans (mul_sub _ _ _)
  rw [boxSum, Finset.sum_congr rfl hcell, Finset.sum_sub_distrib, ← Finset.sum_mul]
  exact sub_eq_zero.mpr (mul_div_cancel₀ _ htotal.ne').symm

omit [Field F] [LinearOrder F] in
lemma spread_writeCells (value : Int3 → F) (slots : Fin n → LevelSlot F) : Spread patches value fun i =>
    writeCells (patches i).patch.cells (fun cell => value (addIndex (patches i).patch.begin cell)) (slots i) :=
  fun _ _ hcell => if_pos hcell

variable (hcut : TensorPartition shape grid cut fun i => (patches i).patch) (i₀ : Fin n)
  (hvolumes : Spread patches volume volumes) (hfield : Spread patches value field)

include hcut i₀ hvolumes hfield

lemma projectConstant_spread : projectConstant (fun i => (patches i).patch.cells) volumes field =
    if 0 < boxSum shape volume then some fun i => writeCells (patches i).patch.cells
      (fun cell => withoutMean shape volume value (addIndex (patches i).patch.begin cell)) (field i)
    else none := by
  have hweighted : Spread patches (volume * value) fun i cell => volumes i cell * field i cell :=
    fun i cell hcell => congrArg₂ _ (hvolumes i cell hcell) (hfield i cell hcell)
  unfold projectConstant
  simp only [hcut.sum_spread i₀ _ hweighted, hcut.sum_spread i₀ _ hvolumes]
  refine if_congr Iff.rfl (congrArg some (funext fun i => funext fun cell => ?_)) rfl
  unfold writeCells
  split_ifs with hcell
  · dsimp only
    rw [hvolumes i cell hcell, hfield i cell hcell]
    rfl
  · rfl

/-- On every partition the projection takes the mean of the whole box off and leaves none. A second one changes
nothing. Without volume it fails. -/
theorem project_constant_is_global [IsStrictOrderedRing F] (hvolume : ∀ cell, 0 ≤ volume cell) :
    ((∀ cell ∈ boxIndices shape, volume cell = 0) →
      projectConstant (fun i => (patches i).patch.cells) volumes field = none) ∧
    ((∃ cell ∈ boxIndices shape, volume cell ≠ 0) →
      ∃ projected, projectConstant (fun i => (patches i).patch.cells) volumes field = some projected ∧
        Spread patches (withoutMean shape volume value) projected ∧
        boxSum shape (volume * withoutMean shape volume value) = 0 ∧
        projectConstant (fun i => (patches i).patch.cells) volumes projected = some projected) := by
  rw [projectConstant_spread hcut i₀ hvolumes hfield]
  refine ⟨fun hnone => if_neg ?_, fun ⟨cell, hcell, hfluid⟩ => ?_⟩
  · rw [boxSum, Finset.sum_eq_zero fun c hc => hnone c (List.mem_toFinset.mp hc)]
    exact lt_irrefl 0
  · have htotal : 0 < boxSum shape volume := Finset.sum_pos' (fun c _ => hvolume c)
      ⟨cell, List.mem_toFinset.mpr hcell, (hvolume cell).lt_of_ne' hfluid⟩
    have hbalanced := withoutMean_balanced value hvolume htotal
    refine ⟨_, if_pos htotal, spread_writeCells _ field, hbalanced, ?_⟩
    rw [projectConstant_spread hcut i₀ hvolumes (spread_writeCells _ field), if_pos htotal]
    have hagain : withoutMean shape volume (withoutMean shape volume value) = withoutMean shape volume value := by
      funext cell
      conv_lhs => rw [withoutMean, hbalanced, zero_div, sub_zero]
      unfold withoutMean
      split_ifs <;> rfl
    refine congrArg some (funext fun i => funext fun cell => ?_)
    unfold writeCells
    rw [hagain]
    split_ifs <;> rfl

end ConstantProjection

theorem project_constant_is_global_quarters : ∃ projected, projectConstant (fun i : Fin 4 => (quarterPatch i).cells)
    (fun _ _ => (1 : ℚ)) (fun _ _ => 2) = some projected := by
  have hspread : ∀ c : ℚ, Spread (fun i => { patch := quarterPatch i }) (fun _ => c) fun _ _ => c := fun _ _ _ _ => rfl
  obtain ⟨projected, hprojected, -⟩ := (project_constant_is_global quarterPatch_tensor 0 (hspread 1) (hspread 2)
    fun _ => zero_le_one).2 ⟨⟨0, 0, 0⟩, by decide, one_ne_zero⟩
  exact ⟨projected, hprojected⟩

end HundunFlow.Proofs
