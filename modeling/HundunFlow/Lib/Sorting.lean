import Mathlib.Data.List.Nodup
import Mathlib.Order.Lattice

/-!
# Sorting by a key

Sorting a list by the key of its entries, and the search of a sorted list for equal
neighbours.
-/

namespace HundunFlow.Lib

open List

variable {α κ : Type} [LinearOrder κ]

def sortOn (key : α → κ) (l : List α) : List α := l.mergeSort fun a b => key a ≤ key b

variable (key : α → κ)

lemma sortOn_perm (l : List α) : (sortOn key l).Perm l := mergeSort_perm l _

lemma sortOn_pairwise_le (l : List α) : (sortOn key l).Pairwise fun a b => key a ≤ key b := by
  have htrans : ∀ a b c : α, decide (key a ≤ key b) = true → decide (key b ≤ key c) = true →
      decide (key a ≤ key c) = true := by
    intro a b c hab hbc
    rw [decide_eq_true_eq] at hab hbc ⊢
    exact hab.trans hbc
  have htotal : ∀ a b : α, (decide (key a ≤ key b) || decide (key b ≤ key a)) = true := by
    intro a b
    rw [Bool.or_eq_true, decide_eq_true_eq, decide_eq_true_eq]
    exact le_total _ _
  exact (pairwise_mergeSort htrans htotal l).imp fun h => of_decide_eq_true h

lemma sortOn_pairwise_lt {key : α → κ} {l : List α} (h : (l.map key).Nodup) :
    (sortOn key l).Pairwise fun a b => key a < key b := by
  have hnodup : ((sortOn key l).map key).Nodup := (((sortOn_perm key l).map key).nodup_iff).mpr h
  rw [Nodup, pairwise_map] at hnodup
  exact ((sortOn_pairwise_le key l).and hnodup).imp fun h => lt_of_le_of_ne h.1 h.2

lemma eq_of_perm_of_pairwise {key : α → κ} {l l' : List α} (hlt : l.Pairwise fun a b => key a < key b)
    (hle : l'.Pairwise fun a b => key a ≤ key b) (hperm : l.Perm l') : l = l' := by
  have hnodup : (l.map key).Nodup := by
    rw [Nodup, pairwise_map]
    exact hlt.imp ne_of_lt
  apply Perm.eq_of_pairwise _ (hlt.imp le_of_lt) hle hperm
  intro a b ha hb hab hba
  exact inj_on_of_nodup_map hnodup ha (hperm.mem_iff.mpr hb) (le_antisymm hab hba)

def adjacentEqual [DecidableEq α] : List α → Bool
  | a :: b :: rest => a = b || adjacentEqual (b :: rest)
  | _ => false

lemma adjacentEqual_false_iff {l : List κ} (h : l.Pairwise (· ≤ ·)) : adjacentEqual l = false ↔ l.Nodup := by
  induction l with
  | nil => simp [adjacentEqual]
  | cons a rest ih =>
    cases rest with
    | nil => simp [adjacentEqual]
    | cons b rest =>
      obtain ⟨hall, htail⟩ := pairwise_cons.mp h
      rw [adjacentEqual, Bool.or_eq_false_iff, decide_eq_false_iff_not, ih htail]
      constructor
      · intro ⟨hab, hnodup⟩
        have hlt : a < b := lt_of_le_of_ne (hall b (by simp)) hab
        have hnot : a ∉ b :: rest := by
          intro hmem
          cases mem_cons.mp hmem with
          | inl heq => exact hab heq
          | inr hrest => exact absurd ((pairwise_cons.mp htail).1 a hrest) (not_le.mpr hlt)
        exact nodup_cons.mpr ⟨hnot, hnodup⟩
      · intro hcons
        have hsplit := nodup_cons.mp hcons
        exact ⟨fun hab => hsplit.1 (by simp [hab]), hsplit.2⟩

lemma adjacentEqual_sortOn (l : List κ) : adjacentEqual (sortOn id l) = false ↔ l.Nodup := by
  rw [adjacentEqual_false_iff (sortOn_pairwise_le id l)]
  exact (sortOn_perm id l).nodup_iff

/-! ### Runs of equal keys -/

def runs (key : α → κ) : List α → List (List α)
  | [] => []
  | a :: rest =>
    (a :: rest.takeWhile fun b => key b = key a) :: runs key (rest.dropWhile fun b => key b = key a)
termination_by l => l.length
decreasing_by
  have := (dropWhile_sublist (l := rest) fun b => decide (key b = key a)).length_le
  simp only [length_cons]
  omega

variable {key : α → κ}

variable {l : List α}

lemma runs_nil : runs key [] = [] := by
  rw [runs]

lemma runs_cons (a : α) (rest : List α) : runs key (a :: rest) =
    (a :: rest.takeWhile fun b => key b = key a) :: runs key (rest.dropWhile fun b => key b = key a) := by
  rw [runs]

/-- In a sorted list the entries with the least key come first. -/
lemma takeWhile_eq_filter {k : κ} (hsorted : l.Pairwise fun a b => key a ≤ key b) (hleast : ∀ a ∈ l, k ≤ key a) :
    l.takeWhile (fun a => key a = k) = l.filter (fun a => key a = k) ∧
      l.dropWhile (fun a => key a = k) = l.filter fun a => key a ≠ k := by
  induction l with
  | nil => exact ⟨rfl, rfl⟩
  | cons a rest ih =>
    obtain ⟨hall, htail⟩ := pairwise_cons.mp hsorted
    by_cases ha : key a = k
    · obtain ⟨htake, hdrop⟩ := ih htail fun b hb => hleast b (by simp [hb])
      constructor
      · rw [takeWhile_cons_of_pos (by simpa using ha), filter_cons_of_pos (by simpa using ha), htake]
      · rw [dropWhile_cons_of_pos (by simpa using ha), filter_cons_of_neg (by simpa using ha), hdrop]
    · have hlt : k < key a := lt_of_le_of_ne (hleast a (by simp)) (Ne.symm ha)
      have hne : ∀ b ∈ rest, key b ≠ k := fun b hb => (hlt.trans_le (hall b hb)).ne'
      constructor
      · rw [takeWhile_cons_of_neg (by simpa using ha), filter_cons_of_neg (by simpa using ha), eq_comm,
          filter_eq_nil_iff]
        intro b hb
        simpa using hne b hb
      · rw [dropWhile_cons_of_neg (by simpa using ha), filter_cons_of_pos (by simpa using ha), eq_comm,
          filter_eq_self.mpr]
        intro b hb
        simpa using hne b hb

lemma dropWhile_lt_eq_filter (k : κ) (hsorted : l.Pairwise fun a b => key a ≤ key b) :
    l.dropWhile (fun a => key a < k) = l.filter fun a => k ≤ key a := by
  induction l with
  | nil => rfl
  | cons a rest ih =>
    obtain ⟨hall, htail⟩ := pairwise_cons.mp hsorted
    by_cases ha : key a < k
    · rw [dropWhile_cons_of_pos (by simpa using ha), filter_cons_of_neg (by simpa using ha), ih htail]
    · rw [dropWhile_cons_of_neg (by simpa using ha), eq_comm, filter_eq_self]
      intro b hb
      cases mem_cons.mp hb with
      | inl heq => simpa [heq] using ha
      | inr hmem => simpa using (not_lt.mp ha).trans (hall b hmem)

/-- The runs of a sorted list are the entries of each key. -/
theorem mem_runs_iff (hsorted : l.Pairwise fun a b => key a ≤ key b) (g : List α) :
    g ∈ runs key l ↔ ∃ a ∈ l, g = l.filter fun b => key b = key a := by
  induction l using runs.induct key with
  | case1 => simp [runs_nil]
  | case2 a rest ih =>
    obtain ⟨hall, htail⟩ := pairwise_cons.mp hsorted
    obtain ⟨htake, hdrop⟩ := takeWhile_eq_filter htail hall
    rw [hdrop] at ih
    have hrest : ∀ b, key b ≠ key a → (rest.filter fun c => decide (key c ≠ key a)).filter
        (fun c => decide (key c = key b)) = (a :: rest).filter fun c => decide (key c = key b) := by
      intro b hb
      rw [filter_filter, filter_cons_of_neg (by simpa using Ne.symm hb)]
      apply filter_congr
      intro c _
      by_cases hc : key c = key b
      · simp [hc, hb]
      · simp [hc]
    rw [runs_cons, hdrop, htake, mem_cons, ih (htail.filter _)]
    constructor
    · rintro (rfl | ⟨b, hb, rfl⟩)
      · exact ⟨a, by simp, by rw [filter_cons_of_pos (by simp)]⟩
      · obtain ⟨hmem, hne⟩ := mem_filter.mp hb
        exact ⟨b, by simp [hmem], hrest b (by simpa using hne)⟩
    · rintro ⟨b, hb, rfl⟩
      by_cases hkey : key b = key a
      · left
        rw [hkey, filter_cons_of_pos (by simp)]
      · right
        have hmem : b ∈ rest := by
          cases mem_cons.mp hb with
          | inl heq => exact absurd (by rw [heq]) hkey
          | inr hmem => exact hmem
        exact ⟨b, mem_filter.mpr ⟨hmem, by simpa using hkey⟩, (hrest b hkey).symm⟩

end HundunFlow.Lib
