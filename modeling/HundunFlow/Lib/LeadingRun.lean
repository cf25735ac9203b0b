import Mathlib.Data.List.TakeWhile
import Mathlib.Order.Lattice

/-!
# Runs of a sorted list, one after the other

A sorted list begins with a run of one key, and what follows is a sorted list again. Skipping runs
reaches the entries of any one key.
-/

namespace HundunFlow.Lib

open List Function

variable {α κ : Type} [LinearOrder κ] (key : α → κ)

def leadingRun : List α → List α
  | [] => []
  | a :: l => (a :: l).takeWhile fun b => key b = key a

def afterRun : List α → List α
  | [] => []
  | a :: l => (a :: l).dropWhile fun b => key b = key a

def runCount : List α → ℕ
  | [] => 0
  | [_] => 1
  | a :: b :: l => runCount (b :: l) + if key b ≠ key a then 1 else 0

lemma leadingRun_append_afterRun (l : List α) : leadingRun key l ++ afterRun key l = l := by
  cases l with
  | nil => rfl
  | cons a l => exact takeWhile_append_dropWhile

variable {key}

lemma leadingRun_ne_nil {l : List α} (h : l ≠ []) : leadingRun key l ≠ [] := by
  cases l with
  | nil => exact absurd rfl h
  | cons a l => simp [leadingRun]

lemma afterRun_cons_cons_eq {a b : α} {l : List α} (h : key b = key a) :
    afterRun key (a :: b :: l) = afterRun key (b :: l) := by
  simp [afterRun, h]

lemma afterRun_cons_cons_ne {a b : α} {l : List α} (h : key b ≠ key a) : afterRun key (a :: b :: l) = b :: l := by
  simp [afterRun, h]

lemma runCount_pos {l : List α} (h : l ≠ []) : 0 < runCount key l := by
  induction l with
  | nil => exact absurd rfl h
  | cons a l ih =>
    cases l with
    | nil => exact Nat.one_pos
    | cons b l => exact Nat.add_pos_left (ih (by simp)) _

variable (key) in
lemma runCount_afterRun {l : List α} (h : l ≠ []) : runCount key (afterRun key l) + 1 = runCount key l := by
  induction l with
  | nil => exact absurd rfl h
  | cons a l ih =>
    cases l with
    | nil => simp [afterRun, runCount]
    | cons b l =>
      by_cases hkey : key b = key a
      · rw [afterRun_cons_cons_eq hkey, ih (by simp), runCount]
        simp [hkey]
      · rw [afterRun_cons_cons_ne hkey, runCount, if_pos hkey]

lemma afterRun_iterate_ne_nil {j : ℕ} {l : List α} (h : j < runCount key l) : (afterRun key)^[j] l ≠ [] := by
  induction j generalizing l with
  | zero =>
    rintro rfl
    exact absurd h (Nat.lt_irrefl 0)
  | succ j ih =>
    have hl : l ≠ [] := by
      rintro rfl
      exact absurd h (Nat.not_lt_zero _)
    have hcount := runCount_afterRun key hl
    rw [iterate_succ_apply]
    exact ih (by omega)

variable {l : List α}

variable (key) in
lemma afterRun_pairwise {r : α → α → Prop} (h : l.Pairwise r) : (afterRun key l).Pairwise r := by
  rw [← leadingRun_append_afterRun key l, pairwise_append] at h
  exact h.2.1

variable (key) in
lemma iterate_pairwise {r : α → α → Prop} (i : ℕ) (h : l.Pairwise r) : ((afterRun key)^[i] l).Pairwise r := by
  induction i generalizing l with
  | zero => exact h
  | succ i ih => exact ih (afterRun_pairwise key h)

lemma mem_of_mem_leadingRun {a : α} (h : a ∈ leadingRun key l) : a ∈ l := by
  rw [← leadingRun_append_afterRun key l]
  exact mem_append_left _ h

variable (key) in
lemma mem_of_mem_iterate (i : ℕ) {a : α} (h : a ∈ (afterRun key)^[i] l) : a ∈ l := by
  induction i generalizing l with
  | zero => exact h
  | succ i ih =>
    rw [← leadingRun_append_afterRun key l]
    exact mem_append_right _ (ih h)

lemma key_eq_head {first a : α} (h : a ∈ leadingRun key (first :: l)) : key a = key first := by
  unfold leadingRun at h
  simpa using mem_takeWhile_imp h

/-- In a sorted list the leading run holds all entries of its key, and later keys are larger. -/
lemma mem_afterRun_lt (h : l.Pairwise fun a b => key a ≤ key b) {a b : α} (ha : a ∈ leadingRun key l)
    (hb : b ∈ afterRun key l) : key a < key b := by
  cases l with
  | nil => exact absurd ha not_mem_nil
  | cons first l =>
    have hfirst : key a = key first := key_eq_head ha
    rw [hfirst]
    have hsplit := leadingRun_append_afterRun key (first :: l)
    have hle : ∀ c ∈ first :: l, key first ≤ key c := by
      intro c hc
      rcases mem_cons.mp hc with rfl | hc
      · exact le_rfl
      · exact (pairwise_cons.mp h).1 c hc
    cases hafter : afterRun key (first :: l) with
    | nil =>
      rw [hafter] at hb
      exact absurd hb not_mem_nil
    | cons next rest =>
      have hne : key next ≠ key first := by
        have := List.head?_dropWhile_not (fun b => decide (key b = key first)) (first :: l)
        rw [show (first :: l).dropWhile (fun b => decide (key b = key first)) = next :: rest from hafter] at this
        simpa using this
      have hnext : key first < key next := by
        refine lt_of_le_of_ne (hle next ?_) (Ne.symm hne)
        rw [← hsplit, hafter]
        exact mem_append_right _ mem_cons_self
      rw [hafter] at hb
      have hsorted := afterRun_pairwise key h
      rw [hafter] at hsorted
      rcases mem_cons.mp hb with rfl | hb
      · exact hnext
      · exact hnext.trans_le ((pairwise_cons.mp hsorted).1 b hb)

lemma key_eq_of_mem_leadingRun {a b : α} (ha : a ∈ leadingRun key l) (hb : b ∈ leadingRun key l) : key a = key b := by
  cases l with
  | nil => exact absurd ha not_mem_nil
  | cons first l =>
    rw [key_eq_head ha, key_eq_head hb]

/-- The entries of the run reached after `j` runs are the entries with their key. -/
lemma mem_run_iff (h : l.Pairwise fun a b => key a ≤ key b) {j : ℕ} {a b : α}
    (ha : a ∈ leadingRun key ((afterRun key)^[j] l)) :
    b ∈ leadingRun key ((afterRun key)^[j] l) ↔ b ∈ l ∧ key b = key a := by
  induction j generalizing l with
  | zero =>
    have hsplit := leadingRun_append_afterRun key l
    refine ⟨fun hb => ⟨?_, key_eq_of_mem_leadingRun hb ha⟩, fun ⟨hb, hkey⟩ => ?_⟩
    · rw [← hsplit]
      exact mem_append_left _ hb
    · rw [← hsplit, mem_append] at hb
      exact hb.resolve_right fun hafter => absurd hkey (mem_afterRun_lt h ha hafter).ne'
  | succ j ih =>
    have hmem : a ∈ afterRun key l := mem_of_mem_iterate key j (mem_of_mem_leadingRun ha)
    rw [iterate_succ_apply] at ha ⊢
    rw [ih (afterRun_pairwise key h) ha]
    refine and_congr_left fun hkey => ⟨fun hb => ?_, fun hb => ?_⟩
    · rw [← leadingRun_append_afterRun key l]
      exact mem_append_right _ hb
    · rw [← leadingRun_append_afterRun key l, mem_append] at hb
      exact hb.resolve_left fun hlead => absurd hkey (mem_afterRun_lt h hlead hmem).ne

lemma run_key_lt (h : l.Pairwise fun a b => key a ≤ key b) {i j : ℕ} (hij : i < j) {a b : α}
    (ha : a ∈ leadingRun key ((afterRun key)^[i] l)) (hb : b ∈ leadingRun key ((afterRun key)^[j] l)) :
    key a < key b := by
  obtain ⟨d, rfl⟩ := Nat.exists_eq_add_of_lt hij
  refine mem_afterRun_lt (iterate_pairwise key i h) ha (mem_of_mem_iterate key d (@mem_of_mem_leadingRun _ _ _ key _ _ ?_))
  rw [show i + d + 1 = d + 1 + i by omega, iterate_add_apply, iterate_succ_apply] at hb
  exact hb

end HundunFlow.Lib
