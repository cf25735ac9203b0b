import Mathlib.Tactic.Ring
import Mathlib.Data.List.Nodup

/-!
# Even shares of a range

`n` items in a row are divided among `p` players: each gets the quotient, and the first ones get one
item of the remainder in addition.
-/

namespace HundunFlow.Lib

open List

def evenBegin (n p c : ℕ) : ℕ := c * (n / p) + min c (n % p)

def evenCount (n p c : ℕ) : ℕ := n / p + if c < n % p then 1 else 0

variable {n p : ℕ}

@[simp] lemma evenBegin_zero : evenBegin n p 0 = 0 := by simp [evenBegin]

lemma evenBegin_succ (c : ℕ) : evenBegin n p (c + 1) = evenBegin n p c + evenCount n p c := by
  unfold evenBegin evenCount
  rw [Nat.add_mul, Nat.one_mul]
  split_ifs <;> omega

lemma evenBegin_top (hp : 0 < p) : evenBegin n p p = n := by
  unfold evenBegin
  have hdiv := Nat.div_add_mod n p
  have hmod := Nat.mod_lt n hp
  rw [min_eq_right hmod.le]
  exact hdiv

lemma evenBegin_mono : Monotone (evenBegin n p) :=
  monotone_nat_of_le_succ fun c => by rw [evenBegin_succ]; exact Nat.le_add_right _ _

lemma evenCount_le (c d : ℕ) : evenCount n p c ≤ evenCount n p d + 1 := by
  unfold evenCount
  split_ifs <;> omega

/-- Item `i` is in the share of player `c`. -/
def InShare (n p c i : ℕ) : Prop := evenBegin n p c ≤ i ∧ i < evenBegin n p c + evenCount n p c

lemma exists_inShare (hp : 0 < p) {i : ℕ} (hi : i < n) : ∃ c < p, InShare n p c i := by
  have hsteps : ∀ m, i < evenBegin n p m → ∃ c < m, InShare n p c i := by
    intro m
    induction m with
    | zero => simp
    | succ m ih =>
      intro hm
      by_cases hlow : i < evenBegin n p m
      · obtain ⟨c, hc, hin⟩ := ih hlow
        exact ⟨c, by omega, hin⟩
      · rw [evenBegin_succ] at hm
        exact ⟨m, Nat.lt_succ_self m, not_lt.mp hlow, hm⟩
  exact hsteps p (by rwa [evenBegin_top hp])

lemma InShare.unique {c d i : ℕ} (hc : InShare n p c i) (hd : InShare n p d i) : c = d := by
  have hno : ∀ {a b : ℕ}, a < b → InShare n p a i → InShare n p b i → False := by
    intro a b hab ha hb
    have hmono : evenBegin n p (a + 1) ≤ evenBegin n p b := evenBegin_mono hab
    rw [evenBegin_succ] at hmono
    exact absurd ha.2 (not_lt.mpr (hmono.trans hb.1))
  rcases lt_trichotomy c d with h | h | h
  · exact absurd (hno h hc hd) not_false
  · exact h
  · exact absurd (hno h hd hc) not_false

lemma InShare.lt (hp : 0 < p) {c i : ℕ} (hc : c < p) (h : InShare n p c i) : i < n := by
  have hmono : evenBegin n p (c + 1) ≤ evenBegin n p p := evenBegin_mono hc
  rw [evenBegin_succ, evenBegin_top hp] at hmono
  exact h.2.trans_le hmono

/-! ### Shares of a list -/

variable {α : Type}

/-- The share of player `c` of the items of a list. -/
def evenShare (l : List α) (p c : ℕ) : List α := (l.drop (evenBegin l.length p c)).take (evenCount l.length p c)

variable {l : List α}

lemma mem_evenShare {c : ℕ} {a : α} : a ∈ evenShare l p c ↔ ∃ i, InShare l.length p c i ∧ l[i]? = some a := by
  rw [evenShare, mem_iff_getElem?]
  constructor
  · rintro ⟨k, hk⟩
    rw [List.getElem?_take] at hk
    split_ifs at hk with hlt
    rw [List.getElem?_drop] at hk
    exact ⟨_, ⟨Nat.le_add_right _ _, Nat.add_lt_add_left hlt _⟩, hk⟩
  · rintro ⟨i, ⟨hle, hlt⟩, hi⟩
    refine ⟨i - evenBegin l.length p c, ?_⟩
    rw [List.getElem?_take, if_pos (by omega), List.getElem?_drop, Nat.add_sub_cancel' hle, hi]

lemma length_evenShare (hp : 0 < p) {c : ℕ} (hc : c < p) : (evenShare l p c).length = evenCount l.length p c := by
  have hmono : evenBegin l.length p (c + 1) ≤ evenBegin l.length p p := evenBegin_mono hc
  rw [evenBegin_succ, evenBegin_top hp] at hmono
  rw [evenShare, length_take, length_drop]
  omega

lemma existsUnique_evenShare (hp : 0 < p) (hl : l.Nodup) {a : α} (ha : a ∈ l) :
    ∃! c, c < p ∧ a ∈ evenShare l p c := by
  obtain ⟨i, hi⟩ := mem_iff_getElem?.mp ha
  obtain ⟨hlt, hget⟩ := List.getElem?_eq_some_iff.mp hi
  obtain ⟨c, hc, hin⟩ := exists_inShare hp hlt
  refine ⟨c, ⟨hc, mem_evenShare.mpr ⟨i, hin, hi⟩⟩, ?_⟩
  rintro d ⟨hd, hmem⟩
  obtain ⟨j, hj, hja⟩ := mem_evenShare.mp hmem
  obtain rfl : i = j := by
    obtain ⟨hjlt, hjget⟩ := List.getElem?_eq_some_iff.mp hja
    exact (Nodup.getElem_inj_iff hl).mp (hget.trans hjget.symm)
  exact hj.unique hin

end HundunFlow.Lib
