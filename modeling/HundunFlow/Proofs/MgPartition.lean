import HundunFlow.Lib.Boxes
import HundunFlow.Proofs.MgRequirements
import HundunFlow.Proofs.MgStorage

/-!
# The patches of every level are a partition

Coarsening keeps the cells whose even children the patch has, on all ranks by the same axes.
-/

namespace HundunFlow.Proofs

open Lib MgWorkspace List Option

def patchCells (patch : MeshPatch) : Set (Axis → ℤ) :=
  box (component patch.begin) fun axis => component patch.begin axis + component patch.cells axis

def shapeCells (shape : Int3) : Set (Axis → ℤ) := box (fun _ => 0) (component shape)

variable {mask : AxisMask}

lemma asInt32_eq {value result : ℤ} (h : asInt32 value = some result) : result = value := by
  unfold asInt32 at h
  split_ifs at h
  exact (some.inj h).symm

lemma halved_spec {minimumExtent : ℕ} {extent begin_ cells : ℤ} {range : AxisRange} (hbegin : 0 ≤ begin_)
    (hcells : 0 < cells) (h : halved minimumExtent (extent, begin_, cells) = some (some range)) :
    range.1 = (extent + 1) / 2 ∧ range.2.1 = (begin_ + 1) / 2 ∧
      range.2.1 + range.2.2 = (begin_ + cells + 1) / 2 ∧ 0 < range.2.2 := by
  unfold halved at h
  simp only at h
  cases hend : asInt32 (begin_ + cells) with
  | none =>
    rw [hend] at h
    exact nomatch h
  | some end_ =>
    rw [hend] at h
    simp only at h
    split_ifs at h with hminimum
    · exact nomatch h
    · cases hbegin' : asInt32 (begin_ + 1) with
      | none => simp [hbegin'] at h
      | some begin' =>
        cases hend' : asInt32 (end_ + 1) with
        | none => simp [hbegin', hend'] at h
        | some end' =>
          cases hextent : asInt32 (extent + 1) with
          | none => simp [hbegin', hend', hextent] at h
          | some extent' =>
            have hends := asInt32_eq hend
            have hbegins := asInt32_eq hbegin'
            have hends' := asInt32_eq hend'
            have hextents := asInt32_eq hextent
            rw [hbegin', hend', hextent] at h
            simp only at h
            split_ifs at h with hempty
            · exact nomatch h
            · obtain rfl := some.inj (some.inj h)
              simp only
              rw [Int.tdiv_eq_ediv_of_nonneg (by omega), Int.tdiv_eq_ediv_of_nonneg (by omega)] at hempty
              rw [Int.tdiv_eq_ediv_of_nonneg (by omega), Int.tdiv_eq_ediv_of_nonneg (by omega),
                Int.tdiv_eq_ediv_of_nonneg (by omega)]
              omega

structure Proper (grid : Grid) : Prop where
  begin_nonneg : ∀ axis, 0 ≤ component grid.patch.begin axis
  cells_pos : ∀ axis, 0 < component grid.patch.cells axis

structure Coarsened (mask : AxisMask) (grid next : Grid) : Prop where
  shape : component next.shape = halfUp mask.has (component grid.shape)
  begin_ : component next.patch.begin = halfUp mask.has (component grid.patch.begin)
  end_ : (fun axis => component next.patch.begin axis + component next.patch.cells axis) =
    halfUp mask.has fun axis => component grid.patch.begin axis + component grid.patch.cells axis
  proper : Proper next

lemma votedGrid_coarsened {p : LevelPlan} {s : LevelState} {actual : AxisMask} (hcomputes : (ballot p s).isSome)
    (hactual : ∀ axis, actual.has axis = true → (localMask p s).has axis = true) (hproper : Proper s.grid) :
    Coarsened actual s.grid (votedGrid p s actual) := by
  obtain ⟨next, -, -, hloop⟩ := nextGrid_eq hcomputes hactual
  obtain ⟨hhalves, hothers⟩ := coarsenAxes_spec axes_nodup hloop
  have haxis : ∀ axis, component (votedGrid p s actual).shape axis = halfUp actual.has (component s.grid.shape) axis ∧
      component (votedGrid p s actual).patch.begin axis = halfUp actual.has (component s.grid.patch.begin) axis ∧
      component (votedGrid p s actual).patch.begin axis + component (votedGrid p s actual).patch.cells axis =
        halfUp actual.has (fun axis => component s.grid.patch.begin axis + component s.grid.patch.cells axis) axis ∧
      0 < component (votedGrid p s actual).patch.cells axis := by
    intro axis
    unfold halfUp
    by_cases hwanted : actual.has axis = true
    · obtain ⟨range, hrange⟩ := (localMask_has hcomputes axis).mp (hactual axis hwanted)
      have hnext := (hhalves axis (mem_axes axis) range ⟨hwanted, hrange.2⟩).2
      have hspec := halved_spec (hproper.begin_nonneg axis) (hproper.cells_pos axis) hrange.2
      rw [← hnext] at hspec
      simp only [if_pos hwanted]
      exact hspec
    · have hnext := (hothers axis (.inr fun range hrange => hwanted hrange.1)).2
      simp only [axisRange, Prod.mk.injEq] at hnext
      simp only [if_neg hwanted]
      rw [hnext.1, hnext.2.1, hnext.2.2]
      exact ⟨rfl, rfl, rfl, hproper.cells_pos axis⟩
  refine ⟨funext fun axis => (haxis axis).1, funext fun axis => (haxis axis).2.1,
    funext fun axis => (haxis axis).2.2.1, fun axis => ?_, fun axis => (haxis axis).2.2.2⟩
  rw [(haxis axis).2.1, halfUp]
  have hbegin := hproper.begin_nonneg axis
  split_ifs <;> omega

lemma Coarsened.patchCells {grid next : Grid} (h : Coarsened mask grid next) :
    patchCells next.patch = Set.preimage (double mask.has) (patchCells grid.patch) := by
  rw [Proofs.patchCells, Proofs.patchCells, preimage_double_box, ← h.end_, ← h.begin_]

lemma Coarsened.shapeCells {grid next : Grid} (h : Coarsened mask grid next) :
    shapeCells next.shape = Set.preimage (double mask.has) (shapeCells grid.shape) := by
  rw [Proofs.shapeCells, Proofs.shapeCells, preimage_double_box, h.shape]
  congr 1
  funext axis
  unfold halfUp
  split_ifs <;> rfl

section Ranks

variable {n : ℕ} {p : Fin n → LevelPlan} {s : Fin n → LevelState}

structure Shared (s : Fin n → LevelState) : Prop where
  shape : ∀ i j, (s i).grid.shape = (s j).grid.shape
  proper : ∀ i, Proper (s i).grid
  partition : ∀ i, Partitions (shapeCells (s i).grid.shape) fun j => patchCells (s j).grid.patch
  extents : ∀ i axis, component (s i).grid.shape axis < 2 ^ 31 - 1

variable {actual : AxisMask} {last k : ℕ}

lemma following_grid {p : LevelPlan} {s : LevelState} (h : ¬ Overflows p s actual) :
    (following p s actual).grid = votedGrid p s actual := by
  unfold following
  cases happend : appendStorage (makeLevel p s actual) s.cursor with
  | none => exact absurd happend h
  | some appended => rfl

lemma coarsened_of_vote (hcomputes : ∀ i, Computes (p i) (s i)) (hshared : Shared s) (i : Fin n) :
    Coarsened (vote p s) (s i).grid (votedGrid (p i) (s i) (vote p s)) :=
  votedGrid_coarsened (hcomputes i) (fun axis h => (vote_has p s axis).mp h i) (hshared.proper i)

lemma Shared.next (hshared : Shared s) (hcomputes : ∀ i, Computes (p i) (s i))
    (hgo : ∀ i, ¬ (Overflows (p i) (s i) (vote p s) ∨ EndsLevels (p i) (s i) (vote p s))) :
    Shared fun i => following (p i) (s i) (vote p s) := by
  have hcoarse := coarsened_of_vote hcomputes hshared
  have hgrid : ∀ i, (following (p i) (s i) (vote p s)).grid = votedGrid (p i) (s i) (vote p s) := fun i =>
    following_grid (not_or.mp (hgo i)).1
  constructor
  · intro i j
    rw [hgrid, hgrid]
    apply int3_ext
    intro axis
    rw [(hcoarse i).shape, (hcoarse j).shape, hshared.shape i j]
  · intro i
    rw [hgrid]
    exact (hcoarse i).proper
  · intro i
    simp only [hgrid, (hcoarse _).patchCells, (hcoarse i).shapeCells]
    exact (hshared.partition i).preimage (double (vote p s).has)
  · intro i axis
    rw [hgrid, (hcoarse i).shape, halfUp]
    have hextent := hshared.extents i axis
    split_ifs <;> omega

lemma Proper.nonempty {grid : Grid} (h : Proper grid) : (patchCells grid.patch).Nonempty :=
  ⟨_, box_nonempty fun axis => lt_add_of_pos_right _ (h.cells_pos axis)⟩

lemma Shared.cells_le (hshared : Shared s) (i : Fin n) (axis : Axis) :
    component (s i).grid.patch.begin axis + component (s i).grid.patch.cells axis ≤ component (s i).grid.shape axis := by
  have hproper := hshared.proper i
  -- the last cell of the patch
  have hlast : (fun axis => component (s i).grid.patch.begin axis + component (s i).grid.patch.cells axis - 1) ∈
      patchCells (s i).grid.patch := by
    intro axis
    have hcells := hproper.cells_pos axis
    exact ⟨Int.le_sub_one_of_lt (lt_add_of_pos_right _ hcells), Int.sub_lt_self _ Int.one_pos⟩
  have hinside := ((hshared.partition i).subset i hlast axis).2
  omega

lemma Shared.shape_pos (hshared : Shared s) (i : Fin n) (axis : Axis) : 0 < component (s i).grid.shape axis := by
  have hle := hshared.cells_le i axis
  have hbegin := (hshared.proper i).begin_nonneg axis
  have hcells := (hshared.proper i).cells_pos axis
  omega

variable (p s) in
def stateAt : ℕ → Fin n → LevelState
  | 0 => s
  | k + 1 => fun i => following (p i) (stateAt k i) (vote p (stateAt k))

lemma stateAt_following (k : ℕ) :
    stateAt p (fun i => following (p i) (s i) (vote p s)) k = stateAt p s (k + 1) := by
  induction k with
  | zero => rfl
  | succ k ih =>
    rw [stateAt, ih]
    rfl

structure Descends (p : Fin n → LevelPlan) (s : Fin n → LevelState) (last : ℕ) : Prop where
  computes : ∀ k ≤ last, ∀ i, Computes (p i) (stateAt p s k i)
  goes : ∀ k < last, ∀ i, ¬ (Overflows (p i) (stateAt p s k i) (vote p (stateAt p s k)) ∨
    EndsLevels (p i) (stateAt p s k i) (vote p (stateAt p s k)))

lemma LevelRun.descends {r : Fin n → LoopResult} (h : LevelRun p s r) : ∃ last, Descends p s last ∧
    r = fun i => stopped (p i) (stateAt p s last i) (vote p (stateAt p s last)) := by
  induction h with
  | @stop s hcomputes hstop =>
    refine ⟨0, ⟨fun k hk => ?_, fun k hk => absurd hk (Nat.not_lt_zero k)⟩, rfl⟩
    obtain rfl := Nat.le_zero.mp hk
    exact hcomputes
  | @next s r hcomputes hgo _ ih =>
    obtain ⟨last, hdesc, rfl⟩ := ih
    simp only [stateAt_following]
    refine ⟨last + 1, ⟨fun k hk => ?_, fun k hk => ?_⟩, rfl⟩
    · cases k with
      | zero => exact hcomputes
      | succ k =>
        have hrest := hdesc.computes k (Nat.le_of_succ_le_succ hk)
        rwa [stateAt_following] at hrest
    · cases k with
      | zero => exact hgo
      | succ k =>
        have hrest := hdesc.goes k (Nat.lt_of_succ_lt_succ hk)
        rwa [stateAt_following] at hrest

lemma Descends.shared (h : Descends p s last) (hshared : Shared s) (hk : k ≤ last) : Shared (stateAt p s k) := by
  induction k with
  | zero => exact hshared
  | succ k ih => exact (ih (Nat.le_of_succ_le hk)).next (h.computes k (Nat.le_of_succ_le hk)) (h.goes k hk)

def levelOf (p : LevelPlan) (s : LevelState) (actual : AxisMask) : MgWorkspaceLevelRequirements :=
  ((appendStorage (makeLevel p s actual) s.cursor).map Prod.fst).getD (makeLevel p s actual)

def levelAt (p : Fin n → LevelPlan) (s : Fin n → LevelState) (i : Fin n) (k : ℕ) : MgWorkspaceLevelRequirements :=
  levelOf (p i) (stateAt p s k i) (vote p (stateAt p s k))

lemma following_levels {p : LevelPlan} {s : LevelState} (h : ¬ Overflows p s actual) :
    (following p s actual).levels = s.levels ++ [levelOf p s actual] := by
  unfold following levelOf
  cases happend : appendStorage (makeLevel p s actual) s.cursor with
  | none => exact absurd happend h
  | some appended => rfl

lemma Descends.levels (h : Descends p s last) (i : Fin n) (hk : k ≤ last) :
    (stateAt p s k i).levels = (s i).levels ++ (range k).map (levelAt p s i) := by
  induction k with
  | zero => exact (append_nil _).symm
  | succ k ih =>
    rw [stateAt, following_levels (not_or.mp (h.goes k hk i)).1, ih (Nat.le_of_succ_le hk), range_succ,
      map_append, append_assoc]
    rfl

lemma stopped_ok {p : LevelPlan} {s : LevelState} {levels : List MgWorkspaceLevelRequirements} {cursor : ℕ}
    (h : stopped p s actual = .ok (levels, cursor)) : levels = s.levels ++ [levelOf p s actual] ∧
      appendStorage (makeLevel p s actual) s.cursor = some (levelOf p s actual, cursor) := by
  unfold stopped at h
  unfold levelOf
  cases happend : appendStorage (makeLevel p s actual) s.cursor with
  | none =>
    rw [happend] at h
    exact nomatch h
  | some appended =>
    obtain ⟨level, cursor'⟩ := appended
    rw [happend] at h
    simp only [Stage.ok.injEq, Prod.mk.injEq] at h
    obtain ⟨rfl, rfl⟩ := h
    exact ⟨rfl, rfl⟩

lemma validLevels_levelOf {p : LevelPlan} {s : LevelState} {next : ℕ}
    (happend : appendStorage (makeLevel p s actual) s.cursor = some (levelOf p s actual, next))
    (hshape : ∀ axis, 0 < component s.grid.shape axis) (hcells : ∀ axis, 0 < component s.grid.patch.cells axis) :
    validLevels [levelOf p s actual] s.cursor = some next := by
  obtain ⟨hlevel, -⟩ := appendStorage_spec happend
  have hpos : (positive (levelOf p s actual).globalShape && positive (levelOf p s actual).patch.cells) = true := by
    rw [hlevel, Bool.and_eq_true, positive_iff, positive_iff]
    exact ⟨hshape, hcells⟩
  rw [validLevels, if_pos hpos, appendStorage_again happend]
  simp only [if_true, validLevels]

lemma appendStorage_of_fits {p : LevelPlan} {s : LevelState} (h : ¬ Overflows p s actual) :
    appendStorage (makeLevel p s actual) s.cursor = some (levelOf p s actual, (following p s actual).cursor) := by
  unfold levelOf following
  cases happend : appendStorage (makeLevel p s actual) s.cursor with
  | none => exact absurd happend h
  | some appended => rfl

lemma Descends.validLevels (h : Descends p s last) (hshared : Shared s) (hstart : ∀ i, (s i).cursor = 0) (i : Fin n)
    (hk : k ≤ last) : validLevels ((range k).map (levelAt p s i)) 0 = some (stateAt p s k i).cursor := by
  induction k with
  | zero => exact congrArg some (hstart i).symm
  | succ k ih =>
    have hfits := (not_or.mp (h.goes k hk i)).1
    have hlevel := h.shared hshared (Nat.le_of_succ_le hk)
    rw [range_succ, map_append, map_singleton, validLevels_append, ih (Nat.le_of_succ_le hk),
      bind_some, stateAt]
    exact validLevels_levelOf (appendStorage_of_fits hfits) (hlevel.shape_pos i) (hlevel.proper i).cells_pos

lemma Descends.length_le (h : Descends p s last) (hempty : ∀ i, (s i).levels = [])
    (hmaximum : ∀ i, 1 ≤ (p i).maximumLevels) (i : Fin n) (hk : k ≤ last) : k + 1 ≤ (p i).maximumLevels := by
  induction k with
  | zero => exact hmaximum i
  | succ k ih =>
    have hle := ih (Nat.le_of_succ_le hk)
    have hlast := (not_or.mp (not_or.mp (h.goes k hk i)).2).2
    rw [h.levels i (Nat.le_of_succ_le hk), hempty, nil_append, length_map, length_range] at hlast
    omega

end Ranks

/-- The ranks have a level at `k`. -/
def LevelsAt {n : ℕ} (requirements : Fin n → MgWorkspaceRequirements) (k : ℕ)
    (level : Fin n → MgWorkspaceLevelRequirements) : Prop :=
  ∀ i, (requirements i).levels[k]? = some (level i)

/-- The levels of all ranks: as many on every rank, of one shape with one mask, partitioned by the
patches, and each the halved one of the level before. -/
structure LevelsSound {n : ℕ} (requirements : Fin n → MgWorkspaceRequirements) : Prop where
  count : ∀ i j, (requirements i).levels.length = (requirements j).levels.length
  same : ∀ k level, LevelsAt requirements k level → ∀ i j, (level i).globalShape = (level j).globalShape ∧
    (level i).coarsenAxisMask = (level j).coarsenAxisMask ∧ (level i).lineAxisMask = (level j).lineAxisMask
  nonempty : ∀ k level, LevelsAt requirements k level → ∀ i, (patchCells (level i).patch).Nonempty
  partition : ∀ k level, LevelsAt requirements k level → ∀ i,
    Partitions (shapeCells (level i).globalShape) fun j => patchCells (level j).patch
  shape : ∀ k level next, LevelsAt requirements k level → LevelsAt requirements (k + 1) next → ∀ i axis,
    component (next i).globalShape axis =
      if (level i).coarsenAxisMask.has axis then (component (level i).globalShape axis + 1) / 2
      else component (level i).globalShape axis
  owner : ∀ k level next, LevelsAt requirements k level → LevelsAt requirements (k + 1) next →
    ∀ i, ∀ cell ∈ patchCells (level i).patch,
      (∃ j, double (level i).coarsenAxisMask.has (half (level i).coarsenAxisMask.has cell) ∈
        patchCells (level j).patch) ∧
      ∀ j, double (level i).coarsenAxisMask.has (half (level i).coarsenAxisMask.has cell) ∈ patchCells (level j).patch →
        half (level i).coarsenAxisMask.has cell ∈ patchCells (next j).patch

section Levels

variable {n : ℕ} {p : Fin n → LevelPlan} {s : Fin n → LevelState}

variable {requirements : Fin n → MgWorkspaceRequirements} {last : ℕ}

lemma levelOf_fields {p : LevelPlan} {s : LevelState} (actual : AxisMask) :
    (levelOf p s actual).globalShape = s.grid.shape ∧ (levelOf p s actual).patch = s.grid.patch ∧
      (levelOf p s actual).coarsenAxisMask = actual ∧ (levelOf p s actual).lineAxisMask = p.lineMask := by
  unfold levelOf
  cases happend : appendStorage (makeLevel p s actual) s.cursor with
  | none => exact ⟨rfl, rfl, rfl, rfl⟩
  | some appended =>
    rw [map_some, getD_some, (appendStorage_spec happend).1]
    exact ⟨rfl, rfl, rfl, rfl⟩

lemma levelsAt_eq (hlevels : ∀ i, (requirements i).levels = (range (last + 1)).map (levelAt p s i)) {k : ℕ}
    {level : Fin n → MgWorkspaceLevelRequirements} (hk : LevelsAt requirements k level) (i : Fin n) :
    k ≤ last ∧ level i = levelAt p s i k := by
  have hki := hk i
  rw [hlevels, List.getElem?_map, map_eq_some_iff] at hki
  obtain ⟨k', hk', hlevel⟩ := hki
  obtain ⟨hlt, rfl⟩ := List.getElem?_eq_some_iff.mp hk'
  rw [getElem_range] at hlevel
  rw [length_range] at hlt
  exact ⟨Nat.le_of_lt_succ hlt, hlevel.symm⟩

lemma Descends.coarsened (h : Descends p s last) (hshared : Shared s) {k : ℕ} (hk : k + 1 ≤ last) (i : Fin n) :
    Coarsened (vote p (stateAt p s k)) (stateAt p s k i).grid (stateAt p s (k + 1) i).grid := by
  rw [stateAt, following_grid (not_or.mp (h.goes k hk i)).1]
  exact coarsened_of_vote (h.computes k (Nat.le_of_succ_le hk)) (h.shared hshared (Nat.le_of_succ_le hk)) i

lemma Descends.levelsSound (h : Descends p s last) (hshared : Shared s)
    (hline : ∀ i j, (p i).lineMask = (p j).lineMask)
    (hlevels : ∀ i, (requirements i).levels = (range (last + 1)).map (levelAt p s i)) :
    LevelsSound requirements := by
  -- the levels at `k` are those of the states at `k`
  have hat : ∀ {k level}, LevelsAt requirements k level → ∀ i, k ≤ last ∧
      (level i).globalShape = (stateAt p s k i).grid.shape ∧ (level i).patch = (stateAt p s k i).grid.patch ∧
        (level i).coarsenAxisMask = vote p (stateAt p s k) ∧ (level i).lineAxisMask = (p i).lineMask := by
    intro k level hk i
    obtain ⟨hle, hlevel⟩ := levelsAt_eq hlevels hk i
    rw [hlevel]
    exact ⟨hle, levelOf_fields _⟩
  constructor
  · intro i j
    rw [hlevels, hlevels, length_map, length_map]
  · intro k level hk i j
    obtain ⟨hle, hshape, -, hmask, hlinei⟩ := hat hk i
    obtain ⟨-, hshape', -, hmask', hlinej⟩ := hat hk j
    rw [hshape, hshape', hmask, hmask', hlinei, hlinej]
    exact ⟨(h.shared hshared hle).shape i j, rfl, hline i j⟩
  · intro k level hk i
    obtain ⟨hle, -, hpatch, -⟩ := hat hk i
    rw [hpatch]
    exact ((h.shared hshared hle).proper i).nonempty
  · intro k level hk i
    obtain ⟨hle, hshape, -⟩ := hat hk i
    have hpatches : (fun j => patchCells (level j).patch) = fun j => patchCells (stateAt p s k j).grid.patch :=
      funext fun j => by rw [(hat hk j).2.2.1]
    rw [hshape, hpatches]
    exact (h.shared hshared hle).partition i
  · intro k level next hk hnext i axis
    obtain ⟨-, hshape, -, hmask, -⟩ := hat hk i
    obtain ⟨hle, hshape', -⟩ := hat hnext i
    rw [hshape', (h.coarsened hshared hle i).shape, hshape, hmask]
    rfl
  · intro k level next hk hnext i cell hcell
    obtain ⟨hle, hshape, hpatch, hmask, -⟩ := hat hk i
    have hpart := (h.shared hshared hle).partition i
    rw [hpatch] at hcell
    rw [hmask]
    constructor
    · obtain ⟨j, hj⟩ := hpart.exists_mem (double_half_mem (hpart.subset i hcell))
      refine ⟨j, ?_⟩
      rw [(hat hk j).2.2.1]
      exact hj
    · intro j hj
      rw [(hat hk j).2.2.1] at hj
      rw [(hat hnext j).2.2.1, (h.coarsened hshared (hat hnext j).1 j).patchCells]
      exact hj

end Levels

section Calls

variable {F : Type} [Field F] [LinearOrder F] [DoubleWord F] {n : ℕ} {hn : 0 < n} {hsize : n < 2 ^ 31}
  {geometry : CartesianGeometryPlan F} {finestPatch : Fin n → MeshPatch} {policy : MgHierarchyPolicy F}
  {executionRevision : Fin n → UInt64}

variable {requirements : Fin n → MgWorkspaceRequirements} {trace : List JobSignature}

lemma initial_shared (hadm : Admitted (fun _ => geometry) finestPatch (fun _ => policy) executionRevision)
    (hpart : Partitions (shapeCells geometry.globalCells) fun i => patchCells (finestPatch i))
    (hextent : ∀ axis, component geometry.globalCells axis < 2 ^ 31 - 1) :
    Shared (initialState (fun _ => geometry) finestPatch) := by
  have hcells : ∀ i axis, 0 < component (finestPatch i).cells axis := by
    intro i
    have hvalid := hadm.valid i
    simp only [localValid, Bool.and_eq_true] at hvalid
    exact (positive_iff _).mp hvalid.1.1.1.1.1.1.1.2
  refine ⟨fun _ _ => rfl, fun i => ⟨fun axis => ?_, hcells i⟩, fun _ => hpart, fun _ => hextent⟩
  have hfirst : component (finestPatch i).begin ∈ patchCells (finestPatch i) :=
    box_nonempty fun axis => lt_add_of_pos_right _ (hcells i axis)
  exact (hpart.subset i hfirst axis).1

lemma requirementsOf_ok {semantic executionRevision : UInt64} {result : LoopResult}
    {requirements : MgWorkspaceRequirements} (h : requirementsOf semantic executionRevision result = .ok requirements) :
    ∃ levels cursor, result = .ok (levels, cursor) ∧
      makeRequirements semantic executionRevision levels cursor = some requirements := by
  cases result with
  | fault => exact absurd h (by simp [requirementsOf])
  | failed e => exact absurd h (by simp [requirementsOf])
  | ok result =>
    obtain ⟨levels, cursor⟩ := result
    refine ⟨levels, cursor, rfl, ?_⟩
    unfold requirementsOf at h
    simp only at h
    cases hmake : makeRequirements semantic executionRevision levels cursor with
    | none =>
      rw [hmake] at h
      cases h
    | some made =>
      rw [hmake] at h
      exact congrArg some (Stage.ok.inj h)

lemma descends_of_ok
    (hrun : (mpiJob hn).Run (fun i => makeMgWorkspaceRequirements (.valid (jobComm hsize i)) geometry (finestPatch i)
      policy (executionRevision i)) trace fun i => .ok (requirements i)) :
    Admitted (fun _ => geometry) finestPatch (fun _ => policy) executionRevision ∧
      ∃ last, Descends (fun _ => levelPlan geometry policy) (initialState (fun _ => geometry) finestPatch) last ∧
        ∀ i, ∃ levels cursor, stopped (levelPlan geometry policy)
            (stateAt (fun _ => levelPlan geometry policy) (initialState (fun _ => geometry) finestPatch) last i)
            (vote (fun _ => levelPlan geometry policy)
              (stateAt (fun _ => levelPlan geometry policy) (initialState (fun _ => geometry) finestPatch) last)) =
              .ok (levels, cursor) ∧
          makeRequirements (semantic geometry policy (executionRevision i)) (executionRevision i) levels cursor =
            some (requirements i) := by
  have : Nonempty (Fin n) := ⟨⟨0, hn⟩⟩
  have hadm : Admitted (fun _ => geometry) finestPatch (fun _ => policy) executionRevision := by
    by_contra hnot
    obtain ⟨t, hrefused⟩ := calls_refused hn hsize hnot
    have hsame := congrFun (hrefused.unique hrun).2 ⟨0, hn⟩
    exact nomatch hsame
  obtain ⟨t, result, hloop, hok⟩ := (calls_run_iff hn hsize hadm _).mp ⟨trace, hrun⟩
  have hresult := fun i => requirementsOf_ok (congrFun hok i).symm
  have hfault : ∀ i, result i ≠ .fault := by
    intro i hi
    obtain ⟨levels, cursor, hlevels, -⟩ := hresult i
    rw [hi] at hlevels
    exact nomatch hlevels
  obtain ⟨last, hdesc, rfl⟩ := (levelRun_of_run hn hadm.remaining hloop hfault).descends
  exact ⟨hadm, last, hdesc, hresult⟩

lemma levels_of_ok (hpart : Partitions (shapeCells geometry.globalCells) fun i => patchCells (finestPatch i))
    (hextent : ∀ axis, component geometry.globalCells axis < 2 ^ 31 - 1)
    (hrun : (mpiJob hn).Run (fun i => makeMgWorkspaceRequirements (.valid (jobComm hsize i)) geometry (finestPatch i)
      policy (executionRevision i)) trace fun i => .ok (requirements i)) :
    Shared (initialState (fun _ => geometry) finestPatch) ∧
      ∃ last, Descends (fun _ => levelPlan geometry policy) (initialState (fun _ => geometry) finestPatch) last ∧
        ∀ i, (requirements i).levels = (range (last + 1)).map
            (levelAt (fun _ => levelPlan geometry policy) (initialState (fun _ => geometry) finestPatch) i) ∧
          validRequirements (requirements i) = true := by
  obtain ⟨hadm, last, hdesc, hresult⟩ := descends_of_ok hrun
  have hshared := initial_shared hadm hpart hextent
  have hmaximum : 2 ≤ policy.maximumLevels.toNat ∧ policy.maximumLevels.toNat ≤ maximumLevels := by
    have hvalid := hadm.valid ⟨0, hn⟩
    simp only [localValid, Bool.and_eq_true, decide_eq_true_eq] at hvalid
    exact ⟨UInt8.le_iff_toNat_le.mp hvalid.1.1.1.2, hvalid.1.1.2⟩
  have hlength := fun i => hdesc.length_le (fun _ => rfl) (fun _ => Nat.one_le_of_lt hmaximum.1) i (le_refl last)
  refine ⟨hshared, last, hdesc, fun i => ?_⟩
  obtain ⟨levels, cursor, hstopped, hmake⟩ := hresult i
  obtain ⟨hlevels, happend⟩ := stopped_ok hstopped
  have hlast := hdesc.shared hshared (le_refl last)
  rw [hdesc.levels i (le_refl last)] at hlevels
  have hall : levels = (range (last + 1)).map
      (levelAt (fun _ => levelPlan geometry policy) (initialState (fun _ => geometry) finestPatch) i) := by
    rw [hlevels, range_succ, map_append]
    rfl
  have hplaced : validLevels levels 0 = some cursor := by
    rw [hall, range_succ, map_append, map_singleton, validLevels_append,
      hdesc.validLevels hshared (fun _ => rfl) i (le_refl last), bind_some]
    exact validLevels_levelOf happend (hlast.shape_pos i) (hlast.proper i).cells_pos
  have hcount : levels.length ≤ maximumLevels := by
    rw [hall, length_map, length_range]
    exact (hlength i).trans hmaximum.2
  have hrevision : executionRevision i ≠ 0 := by
    have hvalid := hadm.valid i
    simp only [localValid, Bool.and_eq_true, decide_eq_true_eq] at hvalid
    exact hvalid.1.1.1.1.1.1.2
  rw [← hall]
  exact makeRequirements_valid hmake hplaced hcount hrevision

/-- When the finest patches partition the box and the calls succeed, the levels of all ranks are
sound, and so is the arena of each. -/
theorem coarse_levels_partition (hpartition : Partitions (shapeCells geometry.globalCells) fun i => patchCells (finestPatch i))
    (hextent : ∀ axis, component geometry.globalCells axis < 2 ^ 31 - 1) {trace : List JobSignature}
    {requirements : Fin n → MgWorkspaceRequirements}
    (hrun : (mpiJob hn).Run (fun i => makeMgWorkspaceRequirements (.valid (jobComm hsize i)) geometry (finestPatch i)
      policy (executionRevision i)) trace fun i => .ok (requirements i)) :
    LevelsSound requirements ∧ ∀ i, ArenaSound (requirements i) ∧ validRequirements (requirements i) = true := by
  obtain ⟨hshared, last, hdescends, hmade⟩ := levels_of_ok hpartition hextent hrun
  refine ⟨hdescends.levelsSound hshared (fun _ _ => rfl) fun i => (hmade i).1, fun i => ⟨?_, (hmade i).2⟩⟩
  apply arenaSound_of_valid (hmade i).2
  intro level hlevel axis
  rw [(hmade i).1, List.mem_map] at hlevel
  obtain ⟨k, hk, rfl⟩ := hlevel
  have hstate := hdescends.shared hshared (Nat.le_of_lt_succ (mem_range.mp hk))
  rw [levelAt, (levelOf_fields _).2.1]
  have hle := hstate.cells_le i axis
  have hbegin := (hstate.proper i).begin_nonneg axis
  have hextents := hstate.extents i axis
  exact ⟨(hstate.proper i).cells_pos axis, by omega⟩

end Calls

lemma mem_halfPatch {global : Int3} {cut : ℤ} (hcut : 0 ≤ cut) (hcut' : cut ≤ global.x) (i : Fin 2)
    (cell : Axis → ℤ) :
    cell ∈ patchCells (halfPatch global cut i) ↔ cell ∈ shapeCells global ∧ (i = 0 ↔ cell .x < cut) := by
  have haxes : ∀ q : Axis → Prop, (∀ axis, q axis) ↔ q .x ∧ q .y ∧ q .z :=
    fun q => ⟨fun h => ⟨h _, h _, h _⟩, fun h axis => by cases axis <;> simp [h]⟩
  simp only [patchCells, shapeCells, mem_box, haxes, component, halfPatch, zero_add]
  split_ifs with hi <;> simp only [hi, true_iff, false_iff] <;> omega

lemma halfPatch_partitions (global : Int3) {cut : ℤ} (hcut : 0 ≤ cut) (hcut' : cut ≤ global.x) :
    Partitions (shapeCells global) fun i => patchCells (halfPatch global cut i) := by
  constructor
  · ext cell
    simp only [Set.mem_iUnion, mem_halfPatch hcut hcut', exists_and_left]
    apply and_iff_left
    by_cases hside : cell .x < cut
    · exact ⟨0, iff_of_true rfl hside⟩
    · exact ⟨1, iff_of_false (by decide) hside⟩
  · intro i j hij
    rw [Function.onFun, Set.disjoint_left]
    intro cell hi hj
    have hsame := ((mem_halfPatch hcut hcut' i cell).mp hi).2.trans ((mem_halfPatch hcut hcut' j cell).mp hj).2.symm
    omega

/-- A box of 8 cells in a row on two ranks. -/
theorem coarse_levels_partition_two :
    ∃ trace requirements, (mpiJob (by decide : 0 < 2)).Run (fun i : Fin 2 => makeMgWorkspaceRequirements
        (.valid (jobComm (by decide) i)) (unitGeometry 7 0 0) (halfPatch ⟨8, 1, 1⟩ 4 i) samplePolicy 1) trace
        (fun i => .ok (requirements i)) ∧
      LevelsSound requirements ∧ ∀ i, ArenaSound (requirements i) ∧ validRequirements (requirements i) = true := by
  have hadmitted := unit_admitted 7 0 0 (by decide : (0 : ℤ) < 4) (by decide)
  have hplans : levelPlans (fun _ : Fin 2 => unitGeometry 7 0 0) (fun _ => samplePolicy) = fun _ => ⟨2, 3, .all, .none⟩ :=
    funext fun _ => levelPlan_unit 7 0 0
  have hlevels : LevelRun (fun _ : Fin 2 => ⟨2, 3, .all, .none⟩)
      (initialState (fun _ => unitGeometry 7 0 0) (halfPatch ⟨8, 1, 1⟩ 4)) _ :=
    .next (by decide +kernel) (by decide +kernel) (.stop (by decide +kernel) (by decide +kernel))
  rw [← hplans] at hlevels
  obtain ⟨t, hloop⟩ := levelLoop_run (by decide) hlevels hadmitted.remaining
  obtain ⟨trace, hcalls⟩ := (calls_run_iff (by decide) (by decide) hadmitted _).mpr ⟨t, _, hloop, rfl⟩
  simp only [hplans] at hcalls
  obtain ⟨requirements, hrun⟩ := hcalls.exists_ok (by decide +kernel)
  exact ⟨trace, requirements, hrun, coarse_levels_partition (halfPatch_partitions ⟨8, 1, 1⟩ (by decide) (by decide))
    (fun axis => by cases axis <;> decide) hrun⟩

end HundunFlow.Proofs
