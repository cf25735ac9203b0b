import Mathlib.Data.Finmap

/-!
# Sorted tables

Binary search, and lists of rows with strictly increasing keys as an implementation of
finite maps: looking a key up, inserting a row at its lower bound, replacing a row and
erasing a row are the operations of `Finmap`.
-/

namespace HundunFlow.Lib

open List Option

/-! ### Binary search -/

/-- Halves the interval of `count` indices from `first` on; every round is at most half as long. -/
def lowerBound (less : ℕ → Bool) : ℕ → ℕ → ℕ → ℕ
  | 0, first, _ => first
  | fuel + 1, first, count =>
    if count = 0 then first
    else if less (first + count / 2) then
      lowerBound less fuel (first + count / 2 + 1) (count - (count / 2 + 1))
    else lowerBound less fuel first (count / 2)

/-- `r` ends the initial segment of `[0, n)` on which `less` holds. -/
structure IsLowerBound (less : ℕ → Bool) (n r : ℕ) : Prop where
  le : r ≤ n
  below : ∀ i < r, less i = true
  above : ∀ i, r ≤ i → i < n → less i = false

theorem lowerBound_spec (less : ℕ → Bool) (n fuel first count : ℕ)
    (hmono : ∀ i j, i ≤ j → j < n → less j = true → less i = true) (hfuel : count ≤ fuel) (hend : first + count ≤ n)
    (hbelow : ∀ i < first, less i = true) (habove : ∀ i, first + count ≤ i → i < n → less i = false) :
    IsLowerBound less n (lowerBound less fuel first count) := by
  induction fuel generalizing first count with
  | zero => exact ⟨by rw [lowerBound]; omega, hbelow, fun i hi => habove i (by rw [lowerBound] at hi; omega)⟩
  | succ fuel ih =>
    rw [lowerBound]
    by_cases hzero : count = 0
    · rw [if_pos hzero]
      exact ⟨by omega, hbelow, fun i hi => habove i (by omega)⟩
    rw [if_neg hzero]
    have hmiddle : first + count / 2 < n := by omega
    by_cases hless : less (first + count / 2) = true
    · rw [if_pos hless]
      apply ih (first + count / 2 + 1) (count - (count / 2 + 1)) (by omega) (by omega)
      · intro i hi
        exact hmono i (first + count / 2) (by omega) hmiddle hless
      · intro i hi
        exact habove i (by omega)
    · rw [if_neg hless]
      apply ih first (count / 2) (by omega) (by omega) hbelow
      intro i hi hn
      by_contra h
      exact hless (hmono (first + count / 2) i hi hn (by simpa using h))

/-! ### Rows with increasing keys -/

variable {K V : Type}

abbrev Rows (K V : Type) := List (Σ _ : K, V)

variable [LinearOrder K]

def Ascending (rows : Rows K V) : Prop := rows.keys.Pairwise (· < ·)

def contents (rows : Rows K V) : Finmap fun _ : K => V := rows.toFinmap

/-- `r` is where `key` stands, or would stand, in the rows. -/
def PlaceOf (rows : Rows K V) (key : K) (r : ℕ) : Prop :=
  r ≤ rows.length ∧ ∀ i (h : i < rows.length), rows[i].1 < key ↔ i < r

variable {rows : Rows K V} {key : K} {value : V} {r : ℕ}

lemma Ascending.nodupKeys (h : Ascending rows) : rows.NodupKeys :=
  List.Pairwise.imp (fun hlt => ne_of_lt hlt) h

lemma Ascending.key_lt (h : Ascending rows) {i j : ℕ} (hij : i < j) (hi : i < rows.length)
    (hj : j < rows.length) : rows[i].1 < rows[j].1 := by
  have hkeys := pairwise_iff_getElem.mp h i j (by simpa [keys] using hi)
    (by simpa [keys] using hj) hij
  simpa [keys] using hkeys

@[simp] lemma mem_contents : key ∈ contents rows ↔ key ∈ rows.keys := by
  rw [contents, Finmap.mem_list_toFinmap, mem_keys]

lemma lookup_contents (h : Ascending rows) : (contents rows).lookup key = some value ↔ ⟨key, value⟩ ∈ rows := by
  rw [contents, Finmap.dlookup_list_toFinmap]
  exact mem_dlookup_iff h.nodupKeys

lemma card_contents (h : Ascending rows) : (contents rows).keys.card = rows.length := by
  have hkeys : (contents rows).keys = rows.keys.toFinset := by
    ext k
    rw [Finmap.mem_keys, mem_contents, List.mem_toFinset]
  rw [hkeys, toFinset_card_of_nodup h.nodupKeys, keys, length_map]

lemma PlaceOf.mem_iff (hp : PlaceOf rows key r) (h : Ascending rows) :
    key ∈ rows.keys ↔ ∃ hr : r < rows.length, rows[r].1 = key := by
  constructor
  · intro hmem
    obtain ⟨row, hrow, rfl⟩ := List.mem_map.mp hmem
    obtain ⟨i, hi, rfl⟩ := mem_iff_getElem.mp hrow
    have hnot : ¬ i < r := fun hlt => lt_irrefl _ ((hp.2 i hi).mpr hlt)
    have heq : r = i := by
      by_contra hne
      have hri : r < i := by omega
      exact lt_irrefl r ((hp.2 r (hri.trans hi)).mp (h.key_lt hri (hri.trans hi) hi))
    exact ⟨heq ▸ hi, by simp only [heq]⟩
  · rintro ⟨hr, rfl⟩
    exact List.mem_map_of_mem (getElem_mem hr)

/-! ### Insertion, replacement, removal -/

lemma PlaceOf.ascending_insertIdx (hp : PlaceOf rows key r) (h : Ascending rows)
    (hnew : key ∉ rows.keys) : Ascending (rows.insertIdx r ⟨key, value⟩) := by
  have hlength : (rows.insertIdx r ⟨key, value⟩).length = rows.length + 1 :=
    length_insertIdx_of_le_length hp.1 _
  have habove : ∀ i (hi : i < rows.length), r ≤ i → key < rows[i].1 := by
    intro i hi hri
    apply lt_of_le_of_ne
    · exact not_lt.mp fun hlt => absurd ((hp.2 i hi).mp hlt) (by omega)
    · rintro rfl
      exact hnew (List.mem_map_of_mem (getElem_mem hi))
  rw [Ascending, keys, pairwise_map, pairwise_iff_getElem]
  intro i j hi hj hij
  have hr := hp.1
  rw [hlength] at hi hj
  simp only [getElem_insertIdx]
  rcases Nat.lt_trichotomy i r with hir | hir | hir <;>
    rcases Nat.lt_trichotomy j r with hjr | hjr | hjr <;> try omega
  · simp only [hir, hjr, dite_true]
    exact h.key_lt hij (by omega) (by omega)
  · simp only [hir, hjr, dite_true, lt_irrefl, dite_false]
    exact (hp.2 i (by omega)).mpr hir
  · simp only [hir, dite_true, not_lt_of_gt hjr, hjr.ne', dite_false]
    exact h.key_lt (by omega) (by omega) (by omega)
  · simp only [hir, lt_irrefl, dite_true, dite_false, not_lt_of_gt hjr, hjr.ne']
    exact habove (j - 1) (by omega) (by omega)
  · simp only [dite_false, not_lt_of_gt hir, hir.ne', not_lt_of_gt hjr, hjr.ne']
    exact h.key_lt (by omega) (by omega) (by omega)

lemma PlaceOf.contents_insertIdx (hp : PlaceOf rows key r) (h : Ascending rows) (hnew : key ∉ rows.keys) :
    contents (rows.insertIdx r ⟨key, value⟩) = (contents rows).insert key value := by
  apply Finmap.ext_lookup
  intro k
  apply ext
  intro v
  rw [lookup_contents (hp.ascending_insertIdx h hnew), mem_insertIdx hp.1]
  by_cases hk : k = key
  · subst hk
    have hrow : (⟨k, v⟩ : Σ _ : K, V) ∉ rows := fun hmem => hnew (List.mem_map_of_mem hmem)
    rw [Finmap.lookup_insert]
    simp [hrow, eq_comm]
  · rw [Finmap.lookup_insert_of_ne _ hk, lookup_contents h]
    simp [hk]

omit [LinearOrder K] in
lemma keys_set (hr : r < rows.length) (hkey : rows[r].1 = key) : (rows.set r ⟨key, value⟩).keys = rows.keys := by
  have hrkeys : r < rows.keys.length := by simpa [keys] using hr
  have hget : rows.keys[r] = key := by simpa [keys] using hkey
  calc (rows.set r ⟨key, value⟩).keys = rows.keys.set r key := by rw [keys, map_set]
    _ = rows.keys := by rw [← hget, set_getElem_self]

lemma Ascending.set (h : Ascending rows) (hr : r < rows.length) (hkey : rows[r].1 = key) :
    Ascending (rows.set r ⟨key, value⟩) := by
  rw [Ascending, keys_set hr hkey]
  exact h

lemma contents_set (h : Ascending rows) (hr : r < rows.length) (hkey : rows[r].1 = key) :
    contents (rows.set r ⟨key, value⟩) = (contents rows).insert key value := by
  apply Finmap.ext_lookup
  intro k
  apply ext
  intro v
  rw [lookup_contents (h.set hr hkey)]
  by_cases hk : k = key
  · subst hk
    have hmem : (⟨k, value⟩ : Σ _ : K, V) ∈ rows.set r ⟨k, value⟩ := mem_set hr _
    have hset : (rows.set r ⟨k, value⟩).NodupKeys := (h.set hr hkey).nodupKeys
    rw [Finmap.lookup_insert, ← mem_dlookup_iff hset, mem_dlookup hset hmem]
    rfl
  · rw [Finmap.lookup_insert_of_ne _ hk, lookup_contents h, mem_iff_getElem?, mem_iff_getElem?]
    apply exists_congr
    intro i
    rw [List.getElem?_set]
    by_cases hri : r = i
    · subst hri
      rw [if_pos rfl, if_pos hr]
      rw [List.getElem?_eq_getElem hr]
      constructor
      · intro heq
        exact absurd (congrArg Sigma.fst (some.inj heq)).symm hk
      · intro heq
        rw [some.inj heq] at hkey
        exact absurd hkey hk
    · rw [if_neg hri]

lemma Ascending.eraseIdx (h : Ascending rows) : Ascending (rows.eraseIdx r) :=
  List.Pairwise.sublist ((eraseIdx_sublist rows r).map _) h

lemma contents_eraseIdx (h : Ascending rows) (hr : r < rows.length) (hkey : rows[r].1 = key) :
    contents (rows.eraseIdx r) = (contents rows).erase key := by
  apply Finmap.ext_lookup
  intro k
  apply ext
  intro v
  rw [lookup_contents h.eraseIdx, mem_eraseIdx_iff_getElem]
  by_cases hk : k = key
  · subst hk
    rw [Finmap.lookup_erase]
    constructor
    · rintro ⟨i, hi, hne, hrow⟩
      have hik : rows[i].1 = rows[r].1 := by rw [hrow, hkey]
      exact absurd hik (by
        rcases Nat.lt_or_gt_of_ne hne with hlt | hgt
        · exact ne_of_lt (h.key_lt hlt hi hr)
        · exact ne_of_gt (h.key_lt hgt hr hi))
    · intro hnone
      exact nomatch hnone
  · rw [Finmap.lookup_erase_ne hk, lookup_contents h, mem_iff_getElem]
    constructor
    · rintro ⟨i, hi, -, hrow⟩
      exact ⟨i, hi, hrow⟩
    · rintro ⟨i, hi, hrow⟩
      refine ⟨i, hi, ?_, hrow⟩
      rintro rfl
      rw [hrow] at hkey
      exact hk hkey

end HundunFlow.Lib
