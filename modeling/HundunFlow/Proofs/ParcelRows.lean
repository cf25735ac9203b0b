import HundunFlow.Lib.SortedTable
import HundunFlow.ParcelMap

/-!
# Parcel arrays as rows

The seventeen parallel arrays of a snapshot are one list of rows: identity, parcel and TAB
state.
-/

namespace HundunFlow

open List

namespace ParcelSoASnapshot

variable {F : Type} [SprayReal F]

def row (arrays : ParcelSoASnapshot F) (index : ℕ) : Σ _ : ParcelId, ParcelEntry F :=
  ⟨arrays.idAt index, arrays.parcelAt index, arrays.tabDeformation.getD index SprayReal.zero,
    arrays.tabDeformationRate.getD index SprayReal.zero⟩

def rows (arrays : ParcelSoASnapshot F) : Lib.Rows ParcelId (ParcelEntry F) :=
  (range arrays.size).map arrays.row

/-- The finite map a snapshot stands for. -/
def map (arrays : ParcelSoASnapshot F) : ParcelMap F :=
  Lib.contents arrays.rows

end ParcelSoASnapshot

namespace Proofs

open Lib

variable {F : Type}

variable {arrays : ParcelSoASnapshot F} {index : ℕ}

variable {arrays' : ParcelSoASnapshot F}

lemma consistent_iff (arrays : ParcelSoASnapshot F) :
    arrays.consistent = true ↔ ∀ count ∈ arrays.sizes, count = arrays.size := by
  simp [ParcelSoASnapshot.consistent]

lemma consistent_of_sizes_eq (h : arrays'.sizes = arrays.sizes)
    (hc : arrays.consistent = true) : arrays'.consistent = true ∧ arrays'.size = arrays.size := by
  have hsize : arrays'.size = arrays.size := by
    have hhead := congrArg head? h
    simpa [ParcelSoASnapshot.sizes, ParcelSoASnapshot.size] using hhead
  refine ⟨?_, hsize⟩
  rw [consistent_iff] at hc ⊢
  rw [h, hsize]
  exact hc

@[simp] lemma sizes_writeParcel (arrays : ParcelSoASnapshot F) (index : ℕ) (parcel : SprayParcelState F) :
    (arrays.writeParcel index parcel).sizes = arrays.sizes := by
  simp [ParcelSoASnapshot.writeParcel, ParcelSoASnapshot.sizes]

@[simp] lemma sizes_writeTabState (arrays : ParcelSoASnapshot F) (index : ℕ) (deformation rate : F) :
    (arrays.writeTabState index deformation rate).sizes = arrays.sizes := by
  simp [ParcelSoASnapshot.writeTabState, ParcelSoASnapshot.sizes]

lemma length_resizeVector {α : Type} (l : List α) (count : ℕ) (value : α) :
    (resizeVector l count value).length = count := by
  simp only [resizeVector, length_append, length_take, length_replicate]
  omega

lemma getD_resizeVector {α : Type} (l : List α) {count j : ℕ} (value d : α) (hj : j < count)
    (hl : j < l.length) : (resizeVector l count value).getD j d = l.getD j d := by
  have htake : j < (l.take count).length := by rw [length_take]; omega
  rw [resizeVector, getD_eq_getElem?_getD, List.getElem?_append_left htake,
    List.getElem?_take_of_lt hj, getD_eq_getElem?_getD]

variable [SprayReal F]

lemma sizes_resizeArrays (arrays : ParcelSoASnapshot F) (count : ℕ) :
    (arrays.resizeArrays count).sizes = replicate 17 count := by
  simp [ParcelSoASnapshot.resizeArrays, ParcelSoASnapshot.sizes, length_resizeVector, replicate]

@[simp] lemma size_resizeArrays (arrays : ParcelSoASnapshot F) (count : ℕ) :
    (arrays.resizeArrays count).size = count := by
  simp [ParcelSoASnapshot.resizeArrays, ParcelSoASnapshot.size, length_resizeVector]

lemma resizeArrays_zero (arrays : ParcelSoASnapshot F) : arrays.resizeArrays 0 = {} := by
  simp [ParcelSoASnapshot.resizeArrays, resizeVector]

@[simp] lemma consistent_resizeArrays (arrays : ParcelSoASnapshot F) (count : ℕ) :
    (arrays.resizeArrays count).consistent = true := by
  rw [consistent_iff, sizes_resizeArrays, size_resizeArrays]
  intro c hc
  exact eq_of_mem_replicate hc

@[simp] lemma length_rows (arrays : ParcelSoASnapshot F) : arrays.rows.length = arrays.size := by
  simp [ParcelSoASnapshot.rows]

lemma getElem_rows (arrays : ParcelSoASnapshot F) {i : ℕ} (hi : i < arrays.rows.length) :
    arrays.rows[i] = arrays.row i := by
  simp [ParcelSoASnapshot.rows]

lemma getD_set_eq {α : Type} (l : List α) {i j : ℕ} (value d : α) (hi : i < l.length) :
    (l.set i value).getD j d = if j = i then value else l.getD j d := by
  by_cases hj : j = i
  · subst hj
    rw [if_pos rfl, getD_eq_getElem?_getD, List.getElem?_set_self hi]
    rfl
  · rw [if_neg hj, getD_eq_getElem?_getD, List.getElem?_set_ne (Ne.symm hj), getD_eq_getElem?_getD]

lemma row_writeParcel (hc : arrays.consistent = true) (hi : index < arrays.size) (parcel : SprayParcelState F)
    (j : ℕ) : (arrays.writeParcel index parcel).row j =
      if j = index then ⟨parcel.id, parcel, (arrays.row j).2.tabDeformation, (arrays.row j).2.tabDeformationRate⟩
      else arrays.row j := by
  simp only [ParcelSoASnapshot.consistent, ParcelSoASnapshot.sizes, all_cons, all_nil,
    Bool.and_true, Bool.and_eq_true, decide_eq_true_eq] at hc
  obtain ⟨h₁, h₂, h₃, h₄, h₅, h₆, h₇, h₈, h₉, h₁₀, h₁₁, h₁₂, h₁₃, h₁₄, h₁₅, -, -⟩ := hc
  simp only [ParcelSoASnapshot.row, ParcelSoASnapshot.parcelAt, ParcelSoASnapshot.idAt,
    ParcelSoASnapshot.writeParcel, getD_set_eq, h₁, h₂, h₃, h₄, h₅, h₆, h₇, h₈, h₉, h₁₀, h₁₁, h₁₂, h₁₃,
    h₁₄, h₁₅, hi]
  by_cases hj : j = index
  · simp only [if_pos hj]
  · simp only [if_neg hj]

lemma row_writeTabState (hc : arrays.consistent = true) (hi : index < arrays.size) (deformation rate : F) (j : ℕ) :
    (arrays.writeTabState index deformation rate).row j =
      if j = index then ⟨(arrays.row j).1, (arrays.row j).2.parcel, deformation, rate⟩
      else arrays.row j := by
  simp only [ParcelSoASnapshot.consistent, ParcelSoASnapshot.sizes, all_cons, all_nil,
    Bool.and_true, Bool.and_eq_true, decide_eq_true_eq] at hc
  obtain ⟨-, -, -, -, -, -, -, -, -, -, -, -, -, -, -, h₁₆, h₁₇⟩ := hc
  simp only [ParcelSoASnapshot.row, ParcelSoASnapshot.parcelAt, ParcelSoASnapshot.idAt,
    ParcelSoASnapshot.writeTabState, getD_set_eq, h₁₆, h₁₇, hi]
  by_cases hj : j = index
  · simp only [if_pos hj]
  · simp only [if_neg hj]

/-- What both kinds of write keep: the arrays stay of one length, and only one row changes. -/
structure WritesRow (arrays arrays' : ParcelSoASnapshot F) (index : ℕ)
    (value : Σ _ : ParcelId, ParcelEntry F) : Prop where
  consistent : arrays'.consistent = true
  size : arrays'.size = arrays.size
  row : ∀ j, arrays'.row j = if j = index then value else arrays.row j

lemma writeParcel_writes (hc : arrays.consistent = true) (hi : index < arrays.size) (parcel : SprayParcelState F) :
    WritesRow arrays (arrays.writeParcel index parcel) index
      ⟨parcel.id, parcel, (arrays.row index).2.tabDeformation, (arrays.row index).2.tabDeformationRate⟩ := by
  obtain ⟨hconsis, hsize⟩ := consistent_of_sizes_eq (sizes_writeParcel arrays index parcel) hc
  refine ⟨hconsis, hsize, fun j => ?_⟩
  rw [row_writeParcel hc hi]
  by_cases hj : j = index
  · subst hj
    rfl
  · rw [if_neg hj, if_neg hj]

lemma writeTabState_writes (hc : arrays.consistent = true) (hi : index < arrays.size) (deformation rate : F) :
    WritesRow arrays (arrays.writeTabState index deformation rate) index
      ⟨(arrays.row index).1, (arrays.row index).2.parcel, deformation, rate⟩ := by
  obtain ⟨hconsis, hsize⟩ :=
    consistent_of_sizes_eq (sizes_writeTabState arrays index deformation rate) hc
  refine ⟨hconsis, hsize, fun j => ?_⟩
  rw [row_writeTabState hc hi]
  by_cases hj : j = index
  · subst hj
    rfl
  · rw [if_neg hj, if_neg hj]

lemma writeEntry_writes (hc : arrays.consistent = true) (hi : index < arrays.size) (parcel : SprayParcelState F)
    (deformation rate : F) :
    WritesRow arrays ((arrays.writeParcel index parcel).writeTabState index deformation rate) index
      ⟨parcel.id, parcel, deformation, rate⟩ := by
  have hparcel := writeParcel_writes hc hi parcel
  have htab := writeTabState_writes hparcel.consistent (by rw [hparcel.size]; exact hi) deformation rate
  refine ⟨htab.consistent, htab.size.trans hparcel.size, fun j => ?_⟩
  rw [htab.row, hparcel.row]
  by_cases hj : j = index
  · simp only [if_pos hj, if_true]
  · rw [if_neg hj, if_neg hj, hparcel.row, if_neg hj]

lemma copyEntry_writes (hc : arrays.consistent = true) {destination : ℕ} (hd : destination < arrays.size)
    (source : ℕ) : WritesRow arrays (arrays.copyEntry destination source) destination (arrays.row source) :=
  writeEntry_writes hc hd (arrays.parcelAt source) _ _

lemma row_resizeArrays (hc : arrays.consistent = true) {count j : ℕ}
    (hj : j < count) (hsize : j < arrays.size) : (arrays.resizeArrays count).row j = arrays.row j := by
  rw [consistent_iff] at hc
  have hlength : ∀ c ∈ arrays.sizes, j < c := fun c hmem => (hc c hmem).symm ▸ hsize
  simp only [ParcelSoASnapshot.sizes, forall_mem_cons] at hlength
  obtain ⟨h₁, h₂, h₃, h₄, h₅, h₆, h₇, h₈, h₉, h₁₀, h₁₁, h₁₂, h₁₃, h₁₄, h₁₅, h₁₆, h₁₇, -⟩ := hlength
  simp only [ParcelSoASnapshot.row, ParcelSoASnapshot.parcelAt, ParcelSoASnapshot.idAt,
    ParcelSoASnapshot.resizeArrays, getD_resizeVector, hj, h₁, h₂, h₃, h₄, h₅, h₆, h₇, h₈, h₉, h₁₀, h₁₁,
    h₁₂, h₁₃, h₁₄, h₁₅, h₁₆, h₁₇]

lemma shiftUp_rows (hc : arrays.consistent = true) (insertion index : ℕ) (hi : index < arrays.size) :
    (arrays.shiftUp insertion index).consistent = true ∧
    (arrays.shiftUp insertion index).size = arrays.size ∧
    ∀ j, (arrays.shiftUp insertion index).row j =
      if insertion < j ∧ j ≤ index then arrays.row (j - 1) else arrays.row j := by
  induction index generalizing arrays with
  | zero => exact ⟨hc, rfl, fun j => by rw [if_neg (by omega)]; rfl⟩
  | succ index ih =>
    rw [ParcelSoASnapshot.shiftUp]
    by_cases hlast : insertion < index + 1
    · have hcopy := copyEntry_writes hc hi index
      obtain ⟨hconsis, hsize, hrow⟩ := ih hcopy.consistent (by rw [hcopy.size]; omega)
      rw [if_pos hlast]
      refine ⟨hconsis, hsize.trans hcopy.size, fun j => ?_⟩
      rw [hrow, hcopy.row, hcopy.row]
      by_cases hmoved : insertion < j ∧ j ≤ index
      · rw [if_pos hmoved, if_neg (show ¬ j - 1 = index + 1 by omega), if_pos (by omega)]
      by_cases hj : j = index + 1
      · subst hj
        rw [if_neg hmoved, if_pos rfl, if_pos ⟨hlast, le_rfl⟩, Nat.add_sub_cancel]
      · rw [if_neg hmoved, if_neg hj, if_neg (by omega)]
    · rw [if_neg hlast]
      exact ⟨hc, rfl, fun j => by rw [if_neg (by omega)]⟩

lemma shiftDown_rows (hc : arrays.consistent = true) (first count : ℕ) (hfirst : first + 1 + count ≤ arrays.size) :
    (arrays.shiftDown (first + 1) count).consistent = true ∧
    (arrays.shiftDown (first + 1) count).size = arrays.size ∧
    ∀ j, (arrays.shiftDown (first + 1) count).row j =
      if first ≤ j ∧ j < first + count then arrays.row (j + 1) else arrays.row j := by
  induction count generalizing arrays first with
  | zero => exact ⟨hc, rfl, fun j => by rw [if_neg (by omega)]; rfl⟩
  | succ count ih =>
    have hcopy := copyEntry_writes hc (show first < arrays.size by omega) (first + 1)
    obtain ⟨hconsis, hsize, hrow⟩ := ih hcopy.consistent (first + 1) (by rw [hcopy.size]; omega)
    rw [ParcelSoASnapshot.shiftDown, Nat.add_sub_cancel]
    refine ⟨hconsis, hsize.trans hcopy.size, fun j => ?_⟩
    rw [hrow, hcopy.row, hcopy.row]
    by_cases hmoved : first + 1 ≤ j ∧ j < first + 1 + count
    · rw [if_pos hmoved, if_neg (show ¬ j + 1 = first by omega), if_pos (by omega)]
    by_cases hj : j = first
    · subst hj
      rw [if_neg hmoved, if_pos rfl, if_pos (by omega)]
    · rw [if_neg hmoved, if_neg hj, if_neg (by omega)]

lemma rows_eq {rows : Rows ParcelId (ParcelEntry F)} (hsize : rows.length = arrays.size)
    (hrow : ∀ j (hj : j < rows.length), arrays.row j = rows[j]) : arrays.rows = rows := by
  apply ext_getElem
  · rw [length_rows, hsize]
  · intro j hj hj'
    rw [getElem_rows, hrow j hj']

lemma WritesRow.rows {value : Σ _ : ParcelId, ParcelEntry F}
    (h : WritesRow arrays arrays' index value) : arrays'.rows = arrays.rows.set index value := by
  apply rows_eq
  · rw [length_set, length_rows, h.size]
  · intro j hj
    rw [h.row, getElem_set, getElem_rows]
    exact if_congr eq_comm rfl rfl

lemma insert_rows (hc : arrays.consistent = true) {insertion : ℕ} (hi : insertion ≤ arrays.size)
    (parcel : SprayParcelState F) (deformation rate : F) :
    let shifted := (arrays.resizeArrays (arrays.size + 1)).shiftUp insertion arrays.size
    let added := (shifted.writeParcel insertion parcel).writeTabState insertion deformation rate
    added.consistent = true ∧ added.size = arrays.size + 1 ∧
      added.rows = arrays.rows.insertIdx insertion ⟨parcel.id, parcel, deformation, rate⟩ := by
  intro shifted added
  obtain ⟨hconsis, hsize, hrow⟩ :=
    shiftUp_rows (consistent_resizeArrays arrays (arrays.size + 1)) insertion arrays.size (by simp)
  rw [size_resizeArrays] at hsize
  have hadded := writeEntry_writes hconsis (show insertion < _ by rw [hsize]; omega) parcel
    deformation rate
  refine ⟨hadded.consistent, hadded.size.trans hsize, ?_⟩
  apply rows_eq
  · rw [length_insertIdx_of_le_length (by rw [length_rows]; exact hi), length_rows]
    exact (hadded.size.trans hsize).symm
  · intro j hj
    rw [length_insertIdx_of_le_length (by rw [length_rows]; exact hi), length_rows] at hj
    rw [hadded.row, hrow, getElem_insertIdx]
    simp only [getElem_rows]
    rcases Nat.lt_trichotomy j insertion with hlt | rfl | hgt
    · rw [if_neg hlt.ne, if_neg (by omega), dif_pos hlt]
      exact row_resizeArrays hc (by omega) (by omega)
    · rw [if_pos rfl, dif_neg (lt_irrefl j), dif_pos rfl]
    · rw [if_neg hgt.ne', if_pos (by omega), dif_neg (by omega), dif_neg hgt.ne']
      exact row_resizeArrays hc (by omega) (by omega)

lemma erase_rows (hc : arrays.consistent = true) {removal : ℕ} (hr : removal < arrays.size) :
    let erased := (arrays.shiftDown (removal + 1) (arrays.size - (removal + 1))).resizeArrays
      (arrays.size - 1)
    erased.consistent = true ∧ erased.size = arrays.size - 1 ∧
      erased.rows = arrays.rows.eraseIdx removal := by
  intro erased
  obtain ⟨hconsis, hsize, hrow⟩ :=
    shiftDown_rows hc removal (arrays.size - (removal + 1)) (by omega)
  have hlength : (arrays.rows.eraseIdx removal).length = arrays.size - 1 := by
    rw [length_eraseIdx_of_lt (by rw [length_rows]; exact hr), length_rows]
  refine ⟨consistent_resizeArrays _ _, size_resizeArrays _ _, ?_⟩
  apply rows_eq
  · rw [hlength]
    exact (size_resizeArrays _ _).symm
  · intro j hj
    rw [hlength] at hj
    rw [row_resizeArrays hconsis hj (by rw [hsize]; omega), hrow, getElem_eraseIdx]
    simp only [getElem_rows]
    by_cases hlt : j < removal
    · rw [if_neg (by omega), dif_pos hlt]
    · rw [if_pos (by omega), dif_neg hlt]

end Proofs

end HundunFlow
