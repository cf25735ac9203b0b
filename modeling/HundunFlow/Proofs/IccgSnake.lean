import HundunFlow.Proofs.IccgAdmission

/-!
# An exchange, and a matrix it is too slow for

The exchange of face-adjacent values, copied from the rank that has the cell.
-/

namespace HundunFlow.Proofs

open Lib EBTopology MgWorkspace IccgMatrix List Finset

section Copy

variable {𝕜 : Type} {n : ℕ}

def images (globalCells : Int3) (periodic : Axis → Bool) (cell : Int3) : Bool :=
  axes.all fun axis => periodic axis || (0 ≤ component cell axis && component cell axis < component globalCells axis)

def faceCopy (globalCells : Int3) (periodic : Axis → Bool) (patch : Fin n → MeshPatch) (fields : Fin n → Int3 → 𝕜) (i : Fin n) :
    Status × (Int3 → 𝕜) :=
  ({}, fun index =>
    let cell := addIndex (patch i).begin index
    if Contains (patch i) cell ∨ images globalCells periodic cell = false then fields i index
    else
      match (finRange n).find? fun j => Contains (patch j) (wrap globalCells cell) with
      | none => fields i index
      | some j => fields j (subIndex (wrap globalCells cell) (patch j).begin))

variable {globalCells : Int3} {periodic : Axis → Bool}

lemma images_iff {cell : Int3} : images globalCells periodic cell = true ↔ Real globalCells periodic cell := by
  simp only [images, axes, all_cons, all_nil, Bool.and_true, Bool.and_eq_true, Bool.or_eq_true, decide_eq_true_eq]
  constructor
  · rintro ⟨hx, hy, hz⟩ axis
    cases axis
    · exact hx
    · exact hy
    · exact hz
  · exact fun h => ⟨h .x, h .y, h .z⟩

lemma real_beside_iff {cell : Int3} {f : Fin 6} (hcell : InBox globalCells cell) :
    Real globalCells periodic (addIndex cell (directionDelta f)) ↔ SharesFace globalCells periodic cell f := by
  rw [SharesFace, addIndex_inBox_iff hcell]
  refine ⟨fun h => h _, fun h axis => ?_⟩
  by_cases haxis : axis = faceAxis f
  · rw [haxis]
    exact h
  · rw [component_addIndex, component_directionDelta_of_ne haxis, add_zero]
    exact .inr (inBox_iff_axes.mp hcell axis)

theorem faceCopy_copiesFaces {rows : Int3 → ColdPressureRow 𝕜} {input : Fin n → IccgInput 𝕜}
    (job : IccgJob globalCells periodic rows input) :
    CopiesFaces globalCells periodic (fun i => (input i).patch) (faceCopy globalCells periodic (fun i => (input i).patch) : (Fin n → Int3 → 𝕜) → Fin n → Status × (Int3 → 𝕜)) := by
  refine ⟨fun _ _ => rfl, fun fields i j cell f hcell hshared hj => ?_, fun fields i cell f hcell hshared => ?_⟩
  · simp only [faceCopy, addIndex_subIndex]
    by_cases hown : Contains (input i).patch (addIndex cell (directionDelta f))
    · have hbeside := besideCell_of_inBox (job.inBox hown)
      rw [hbeside] at hj ⊢
      rw [if_pos (.inl hown), job.partition.unique (show _ ∈ {cell | Contains (input i).patch cell} from hown) hj]
    · have hreal := images_iff.mpr ((real_beside_iff (job.inBox hcell)).mpr hshared)
      rw [if_neg (by simp [hown, hreal])]
      have hfind : (finRange n).find? (fun j => decide (Contains (input j).patch (wrap globalCells (addIndex cell (directionDelta f))))) =
          some j := by
        cases hfound : (finRange n).find? fun j =>
            decide (Contains (input j).patch (wrap globalCells (addIndex cell (directionDelta f)))) with
        | none =>
          have hnone := List.find?_eq_none.mp hfound j (mem_finRange j)
          exact absurd (decide_eq_true hj) hnone
        | some k =>
          have hk : Contains (input k).patch (wrap globalCells (addIndex cell (directionDelta f))) := by
            simpa using List.find?_some hfound
          rw [job.partition.unique (show _ ∈ {cell | Contains (input k).patch cell} from hk) hj]
      rw [hfind]
      rfl
  · simp only [faceCopy, addIndex_subIndex]
    have hnot : images globalCells periodic (addIndex cell (directionDelta f)) = false := by
      rw [← Bool.not_eq_true, images_iff, real_beside_iff (job.inBox hcell)]
      exact hshared
    rw [if_pos (.inr hnot)]

end Copy

def turns (x y : ℤ) : Bool := if y % 2 = 0 then x = 3 else x = 0

/-- The faces with a coupling, over `m` lines of four cells. -/
def snakeLinks (m : ℤ) (cell : Int3) : Fin 6 → Bool
  | 0 => 0 < cell.x
  | 1 => cell.x < 3
  | 2 => 0 < cell.y && turns cell.x (cell.y - 1)
  | 3 => cell.y + 1 < m && turns cell.x cell.y
  | 4 => false
  | 5 => false

def snakeNeighbour (m : ℤ) (cell : Int3) (f : Fin 6) : ℚ := if snakeLinks m cell f then 1 else 0

def snakeRows (m : ℤ) (cell : Int3) : ColdPressureRow ℚ where
  neighbour := snakeNeighbour m cell
  diagonal := (∑ f, snakeNeighbour m cell f) + if cell.x = 0 ∧ cell.y = 0 then 1 else 0

def snakeCells (m : ℤ) : Int3 := ⟨4, m, 1⟩

def snakePatch (m : ℤ) (i : Fin 4) : MeshPatch := { begin := ⟨i, 0, 0⟩, cells := ⟨1, m, 1⟩ }

def snakeInput (m : ℤ) (i : Fin 4) : IccgInput ℚ where
  rows cell := snakeRows m (addIndex (snakePatch m i).begin cell)
  rowCount := m.toNat
  patch := snakePatch m i
  globalCells := snakeCells m
  periodic := fun _ => false
  parentSize := m.toNat
  groundedSize := m.toNat
  workspace := true
  scratch := fun _ => 0

def snakeExchange (m : ℤ) : (Fin 4 → Int3 → ℚ) → Fin 4 → Status × (Int3 → ℚ) :=
  faceCopy (snakeCells m) (fun _ => false) fun i => (snakeInput m i).patch

def snakePlace (cell : Int3) : ℤ := 3 * cell.y + if cell.y % 2 = 0 then cell.x else 3 - cell.x

variable {m : ℤ} (hm : 0 < m)

variable {cell : Int3} {f : Fin 6}

lemma contains_snakePatch_iff {i : Fin 4} : Contains (snakePatch m i) cell ↔
    cell.x = i ∧ (0 ≤ cell.y ∧ cell.y < m) ∧ cell.z = 0 := by
  simp only [Contains, snakePatch]
  omega

lemma inBox_snakeCells_iff : InBox (snakeCells m) cell ↔
    (0 ≤ cell.x ∧ cell.x < 4) ∧ (0 ≤ cell.y ∧ cell.y < m) ∧ cell.z = 0 := by
  simp only [InBox, snakeCells]
  omega

include hm in
lemma snake_job : IccgJob (snakeCells m) (fun _ => false) (snakeRows m) (snakeInput m) where
  globalCells_eq _ := rfl
  periodic_eq _ := rfl
  rows_eq _ _ := rfl
  nonempty i axis := by
    cases axis <;> simp [snakeInput, snakePatch, component, hm]
  partition := by
    constructor
    · ext cell
      rw [Set.mem_iUnion]
      change (∃ i, Contains (snakePatch m i) cell) ↔ InBox (snakeCells m) cell
      rw [inBox_snakeCells_iff]
      simp only [contains_snakePatch_iff]
      constructor
      · rintro ⟨i, hx, hrest⟩
        have hi := i.isLt
        exact ⟨by omega, hrest⟩
      · rintro ⟨hx, hrest⟩
        refine ⟨⟨cell.x.toNat, by omega⟩, ?_, hrest⟩
        simp only
        omega
    · intro i j hij
      refine Set.disjoint_left.mpr fun cell hi hj => hij ?_
      have hi' := (contains_snakePatch_iff.mp hi).1
      have hj' := (contains_snakePatch_iff.mp hj).1
      exact Fin.ext (by omega)

lemma snakeNeighbour_nonneg (cell : Int3) (f : Fin 6) : 0 ≤ snakeNeighbour m cell f := by
  rw [snakeNeighbour]
  split_ifs <;> norm_num

lemma snakeNeighbour_pos_iff : 0 < (snakeRows m cell).neighbour f ↔ snakeLinks m cell f = true := by
  change 0 < snakeNeighbour m cell f ↔ _
  rw [snakeNeighbour]
  split_ifs with h
  · exact iff_of_true one_pos h
  · exact iff_of_false (lt_irrefl 0) h

lemma snake_sum_pos (cell : Int3) : 0 < ∑ f, snakeNeighbour m cell f := by
  by_cases hx : 0 < cell.x
  · refine sum_pos' (fun f _ => snakeNeighbour_nonneg cell f) ⟨0, mem_univ _, ?_⟩
    exact snakeNeighbour_pos_iff.mpr (decide_eq_true hx)
  · refine sum_pos' (fun f _ => snakeNeighbour_nonneg cell f) ⟨1, mem_univ _, ?_⟩
    exact snakeNeighbour_pos_iff.mpr (decide_eq_true (show cell.x < 3 by omega))

lemma snakeLinks_cases (h : snakeLinks m cell f = true) :
    (f = 0 ∧ 0 < cell.x ∧ addIndex cell (directionDelta f) = ⟨cell.x - 1, cell.y, cell.z⟩) ∨
      (f = 1 ∧ cell.x < 3 ∧ addIndex cell (directionDelta f) = ⟨cell.x + 1, cell.y, cell.z⟩) ∨
      (f = 2 ∧ 0 < cell.y ∧ turns cell.x (cell.y - 1) = true ∧ addIndex cell (directionDelta f) = ⟨cell.x, cell.y - 1, cell.z⟩) ∨
      (f = 3 ∧ cell.y + 1 < m ∧ turns cell.x cell.y = true ∧ addIndex cell (directionDelta f) = ⟨cell.x, cell.y + 1, cell.z⟩) := by
  fin_cases f <;> simp_all [snakeLinks, addIndex, directionDelta, Int.sub_eq_add_neg]

lemma snakeLinks_inBox (hcell : InBox (snakeCells m) cell) (h : snakeLinks m cell f = true) :
    InBox (snakeCells m) (addIndex cell (directionDelta f)) := by
  rw [inBox_snakeCells_iff] at hcell ⊢
  rcases snakeLinks_cases h with ⟨-, hlt, hbeside⟩ | ⟨-, hlt, hbeside⟩ | ⟨-, hlt, -, hbeside⟩ | ⟨-, hlt, -, hbeside⟩ <;>
    rw [hbeside] <;> simp only <;> omega

lemma snakeLinks_opposite (hcell : InBox (snakeCells m) cell)
    (h : InBox (snakeCells m) (addIndex cell (directionDelta f))) :
    snakeLinks m (addIndex cell (directionDelta f)) (oppositeFace f) = snakeLinks m cell f := by
  rw [inBox_snakeCells_iff] at hcell h
  obtain ⟨⟨hx, hx'⟩, ⟨hy, hy'⟩, hz⟩ := hcell
  obtain ⟨⟨hbx, hbx'⟩, ⟨hby, hby'⟩, hbz⟩ := h
  fin_cases f
  · exact decide_eq_decide.mpr (iff_of_true (show cell.x + -1 < 3 by omega) (by change 0 ≤ cell.x + -1 at hbx; omega))
  · exact decide_eq_decide.mpr (iff_of_true (show 0 < cell.x + 1 by omega) (by change cell.x + 1 < 4 at hbx'; omega))
  · change 0 ≤ cell.y + -1 at hby
    change (decide (cell.y + -1 + 1 < m) && turns (cell.x + 0) (cell.y + -1)) = (decide (0 < cell.y) && turns cell.x (cell.y - 1))
    rw [add_zero, ← sub_eq_add_neg, decide_eq_true (show cell.y - 1 + 1 < m by omega), decide_eq_true (show 0 < cell.y by omega)]
  · change cell.y + 1 < m at hby'
    change (decide (0 < cell.y + 1) && turns (cell.x + 0) (cell.y + 1 - 1)) = (decide (cell.y + 1 < m) && turns cell.x cell.y)
    rw [add_zero, add_sub_cancel_right, decide_eq_true (show 0 < cell.y + 1 by omega), decide_eq_true hby']
  · rfl
  · rfl

lemma snake_fine (hcell : InBox (snakeCells m) cell) :
    GlobalRowFine (snakeCells m) (fun _ => false) (snakeRows m) cell where
  diagonal := add_pos_of_pos_of_nonneg (snake_sum_pos cell) (by split_ifs <;> norm_num)
  neighbour := snakeNeighbour_nonneg cell
  outer f hf := by
    have hnot : ¬ snakeLinks m cell f = true := fun h => hf (.inr (snakeLinks_inBox hcell h))
    exact if_neg hnot
  weak := le_add_of_nonneg_right (by split_ifs <;> norm_num)

lemma snake_symmetric : OppositesEqual (snakeCells m) (fun _ => false) (snakeRows m) := by
  rintro cell hcell f (hperiodic | hinside)
  · exact nomatch hperiodic
  · change snakeNeighbour m _ _ = snakeNeighbour m _ _
    rw [besideCell_of_inBox hinside, snakeNeighbour, snakeNeighbour, snakeLinks_opposite hcell hinside]

lemma snake_coupled (hcell : InBox (snakeCells m) cell) (h : snakeLinks m cell f = true) :
    RowsCoupled (snakeCells m) (snakeRows m) cell (addIndex cell (directionDelta f)) :=
  ⟨hcell, f, snakeNeighbour_pos_iff.mpr h, (besideCell_of_inBox (snakeLinks_inBox hcell h)).symm⟩

lemma snake_line {y : ℤ} (hy : 0 ≤ y ∧ y < m) {x : ℕ} (hx : x < 4) :
    Relation.EqvGen (RowsCoupled (snakeCells m) (snakeRows m)) ⟨0, y, 0⟩ ⟨x, y, 0⟩ := by
  induction x with
  | zero => exact .refl _
  | succ x ih =>
    refine (ih (by omega)).trans _ _ _ (.rel _ _ ?_)
    have hcell : InBox (snakeCells m) ⟨x, y, 0⟩ := inBox_snakeCells_iff.mpr ⟨by simp only; omega, hy, rfl⟩
    have hlink : snakeLinks m ⟨x, y, 0⟩ 1 = true := decide_eq_true (by simp only; omega)
    have hcoupled := snake_coupled hcell hlink
    simpa [addIndex, directionDelta] using hcoupled

lemma snake_connected {y : ℕ} (hy : (y : ℤ) < m) {x : ℕ} (hx : x < 4) :
    Relation.EqvGen (RowsCoupled (snakeCells m) (snakeRows m)) ⟨0, 0, 0⟩ ⟨x, y, 0⟩ := by
  induction y generalizing x with
  | zero => exact snake_line ⟨le_refl _, hy⟩ hx
  | succ y ih =>
    -- the column in which the snake turns to the next line
    obtain ⟨t, ht, hturn⟩ : ∃ t : ℕ, t < 4 ∧ turns t y = true := by
      by_cases heven : (y : ℤ) % 2 = 0
      · exact ⟨3, by omega, by simp [turns, heven]⟩
      · exact ⟨0, by omega, by simp [turns, heven]⟩
    have hcell : InBox (snakeCells m) ⟨t, y, 0⟩ := inBox_snakeCells_iff.mpr ⟨by simp only; omega, by simp only; omega, rfl⟩
    have hlink : snakeLinks m ⟨t, y, 0⟩ 3 = true := by
      have hlt : (y : ℤ) + 1 < m := by omega
      simp [snakeLinks, hlt, hturn]
    have hcoupled := snake_coupled hcell hlink
    have hnext : Relation.EqvGen (RowsCoupled (snakeCells m) (snakeRows m)) ⟨t, y, 0⟩ ⟨t, ((y + 1 : ℕ) : ℤ), 0⟩ := by
      refine .rel _ _ ?_
      simpa [addIndex, directionDelta] using hcoupled
    have hline : (0 : ℤ) ≤ ((y + 1 : ℕ) : ℤ) ∧ ((y + 1 : ℕ) : ℤ) < m := ⟨by omega, hy⟩
    exact (((ih (by omega) ht).trans _ _ _ hnext).trans _ _ _ (.symm _ _ (snake_line hline ht))).trans _ _ _ (snake_line hline hx)

include hm in
lemma snake_admissible : MatrixAdmissible (snakeCells m) (fun _ => false) (snakeRows m) where
  fine _ hcell := snake_fine hcell
  symmetric := snake_symmetric
  components cell hcell := by
    obtain ⟨hx, hy, hz⟩ := inBox_snakeCells_iff.mp hcell
    refine ⟨⟨0, 0, 0⟩, inBox_snakeCells_iff.mpr ⟨by simp, by simpa using hm, rfl⟩, ?_, ?_⟩
    · exact lt_add_of_pos_right _ (by simp)
    · have hconn := snake_connected (m := m) (y := cell.y.toNat) (x := cell.x.toNat) (by omega) (by omega)
      have hcell : (⟨(cell.x.toNat : ℤ), (cell.y.toNat : ℤ), 0⟩ : Int3) = cell := by
        apply int3_ext
        intro axis
        cases axis <;> simp only [component] <;> omega
      rwa [hcell] at hconn

lemma turns_iff {x y : ℤ} : turns x y = true ↔ y % 2 = 0 ∧ x = 3 ∨ y % 2 ≠ 0 ∧ x = 0 := by
  unfold turns
  split_ifs with heven <;> simp [heven]

lemma snakePlace_step (h : snakeLinks m cell f = true) :
    ((addIndex cell (directionDelta f)).x = cell.x → snakePlace (addIndex cell (directionDelta f)) = snakePlace cell) ∧
      snakePlace cell ≤ snakePlace (addIndex cell (directionDelta f)) + 1 := by
  rcases snakeLinks_cases h with ⟨-, -, hbeside⟩ | ⟨-, -, hbeside⟩ | ⟨-, -, hturn, hbeside⟩ | ⟨-, -, hturn, hbeside⟩
  · rw [hbeside]
    simp only [snakePlace]
    split_ifs <;> omega
  · rw [hbeside]
    simp only [snakePlace]
    split_ifs <;> omega
  · rw [turns_iff] at hturn
    rw [hbeside]
    simp only [snakePlace]
    split_ifs <;> omega
  · rw [turns_iff] at hturn
    rw [hbeside]
    simp only [snakePlace]
    split_ifs <;> omega

lemma snakePlace_samePart {c d : Int3} (h : SamePart (snakePatch m) (snakeRows m) c d) : snakePlace c = snakePlace d := by
  refine eq_of_eqvGen (fun a b hab => ?_) h
  obtain ⟨i, f, ha, hb, hpos, rfl⟩ := hab
  have hx := (contains_snakePatch_iff.mp ha).1
  have hx' := (contains_snakePatch_iff.mp hb).1
  exact ((snakePlace_step (snakeNeighbour_pos_iff.mp hpos)).1 (by omega)).symm

include hm in
lemma snakePlace_le_of_reached {k : ℕ} (hcell : InBox (snakeCells m) cell)
    (h : reached (snakePatch m) (snakeCells m) (snakeRows m) k cell) : snakePlace cell ≤ k := by
  induction k generalizing cell with
  | zero =>
    obtain ⟨d, hpart, hstrict⟩ := h
    rw [← snakePlace_samePart hpart]
    have hhead : d.x = 0 ∧ d.y = 0 := by
      by_contra hnot
      have hdiag : (snakeRows m d).diagonal = ∑ f, (snakeRows m d).neighbour f := by
        change (∑ f, snakeNeighbour m d f) + (if d.x = 0 ∧ d.y = 0 then 1 else 0) = _
        rw [if_neg hnot, add_zero]
        rfl
      rw [StrictRow, hdiag] at hstrict
      exact lt_irrefl _ hstrict
    rw [snakePlace, hhead.1, hhead.2]
    decide
  | succ k ih =>
    rcases h with h | ⟨d, hpart, f, hpos, h⟩
    · have hle := ih hcell h
      push_cast
      omega
    · obtain ⟨i, hi⟩ := (snake_job hm).exists_owner hcell
      have hd := (snake_job hm).inBox (((snake_job hm).samePart_contains hpart i).mpr hi)
      have hlink := snakeNeighbour_pos_iff.mp hpos
      have hinside := snakeLinks_inBox hd hlink
      rw [besideCell_of_inBox hinside] at h
      have hle := ih hinside h
      have hstep := (snakePlace_step hlink).2
      rw [← snakePlace_samePart hpart]
      push_cast
      omega

lemma snake_stored (hfits : m < 2 ^ 63) (i : Fin 4) : Stored (snakeInput m i) := by
  have hcount : (snakeInput m i).patch.cells.x.toNat * (snakeInput m i).patch.cells.y.toNat *
      (snakeInput m i).patch.cells.z.toNat = m.toNat := by
    change 1 * m.toNat * 1 = m.toNat
    omega
  constructor
  · rw [hcount]
    omega
  · exact hcount.symm
  · exact hcount.symm
  · exact hcount.symm
  · rfl

/-- Two lines are certified. -/
theorem iccg_matrix_admission_snake :
    ∃ t outcome, (admissionNetwork (by decide) (snakeExchange 2)).Run (fun i => (snakeInput 2 i).admitIccgMatrix) t (fun _ => outcome) ∧
      Certified outcome ∧ (boxMatrix (snakeCells 2) (snakeRows 2)).IsSymm := by
  have hpos : (0 : ℤ) < 2 := by norm_num
  obtain ⟨t, outcome, hrun, -, hiff, hdefinite⟩ :=
    iccg_matrix_admission (by decide) (snake_job hpos) (faceCopy_copiesFaces (snake_job hpos))
  have hcertified : Certified outcome :=
    ((hiff (snake_stored (by norm_num))).2 (by decide)).mpr (snake_admissible hpos)
  exact ⟨t, outcome, hrun, hcertified, (hdefinite hcertified).1⟩

/-- Over so many lines grounding does not reach the end of the snake before the counter is full. -/
theorem snake_not_certified :
    IccgJob (snakeCells (2 ^ 31 - 2)) (fun _ => false) (snakeRows (2 ^ 31 - 2)) (snakeInput (2 ^ 31 - 2)) ∧
      CopiesFaces (snakeCells (2 ^ 31 - 2)) (fun _ => false) (fun i => (snakeInput (2 ^ 31 - 2) i).patch)
        (snakeExchange (2 ^ 31 - 2)) ∧
      (∀ i, Stored (snakeInput (2 ^ 31 - 2) i)) ∧
      MatrixAdmissible (snakeCells (2 ^ 31 - 2)) (fun _ => false) (snakeRows (2 ^ 31 - 2)) ∧
      ∃ t e, (admissionNetwork (by decide) (snakeExchange (2 ^ 31 - 2))).Run (fun i => (snakeInput (2 ^ 31 - 2) i).admitIccgMatrix) t
          (fun _ => .failed e) ∧ e.2.spd = false := by
  have hpos : (0 : ℤ) < 2 ^ 31 - 2 := by norm_num
  have hcopies := faceCopy_copiesFaces (snake_job hpos)
  refine ⟨snake_job hpos, hcopies, snake_stored (by norm_num), snake_admissible hpos, ?_⟩
  obtain ⟨t, outcome, hrun, hsettled⟩ := (snake_job hpos).admit_spec (by decide) hcopies
  have hfailed := hsettled.2 (by
    rintro ⟨-, -, -, k, hk, hall⟩
    have hend : InBox (snakeCells (2 ^ 31 - 2)) ⟨0, 2 ^ 31 - 3, 0⟩ :=
      inBox_snakeCells_iff.mpr ⟨by norm_num, by norm_num, rfl⟩
    have hplace := snakePlace_le_of_reached hpos hend (hall _ hend)
    have hfar : snakePlace ⟨0, 2 ^ 31 - 3, 0⟩ = 3 * (2 ^ 31 - 2) := by
      norm_num [snakePlace]
    have hlimit : maxU32 = 2 ^ 32 - 1 := rfl
    omega)
  obtain ⟨e, he, houtcome⟩ := hfailed
  rw [houtcome] at hrun
  exact ⟨t, e, hrun, he.2⟩

end HundunFlow.Proofs
