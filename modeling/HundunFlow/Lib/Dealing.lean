import Mathlib.Data.Int.CardIntervalMod

/-!
# Dealing in turn

Numbered items are dealt in turn to `n` players. How many of the first `count` items a player
gets, counting from any first player.
-/

namespace HundunFlow.Lib

open List

variable {n : ℕ}

lemma countP_range_eq_count (p : ℕ → Prop) [DecidablePred p] (count : ℕ) :
    (range count).countP (fun k => p k) = count.count p := by
  induction count with
  | zero => rfl
  | succ count ih =>
    rw [range_succ, countP_append, ih, Nat.count_succ, countP_singleton]
    simp

lemma countP_range_add (p : ℕ → Bool) (first count : ℕ) : (range (first + count)).countP p =
      (range first).countP p + (range count).countP fun k => p (first + k) := by
  rw [range_add, countP_append, countP_map]
  rfl

lemma mod_eq_iff_modEq {k r : ℕ} (hr : r < n) : k % n = r ↔ k ≡ r [MOD n] := by
  rw [Nat.ModEq, Nat.mod_eq_of_lt hr]

lemma countP_mod (hn : 0 < n) (count : ℕ) {r : ℕ} (hr : r < n) :
    (range count).countP (fun k => k % n = r) = count / n + if r < count % n then 1 else 0 := by
  simp only [mod_eq_iff_modEq hr]
  rw [countP_range_eq_count, Nat.count_modEq_card _ hn, Nat.mod_eq_of_lt hr]

/-- With any first player, a share is at most the quotient rounded up. -/
lemma countP_dealt_le (hn : 0 < n) (count shift : ℕ) {r : ℕ} (hr : r < n) :
    (range count).countP (fun k => (k + shift) % n = r) ≤ (count + n - 1) / n := by
  have hclass : ∀ k, (k + shift) % n = r ↔ k ≡ r + (n - shift % n) [MOD n] := by
    intro k
    have hshift := Nat.mod_lt shift hn
    have hsum : r + (n - shift % n) + shift = r + n * (shift / n + 1) := by
      have := Nat.div_add_mod shift n
      rw [Nat.mul_add, Nat.mul_one]
      omega
    constructor
    · intro h
      have hmod : k + shift ≡ r + (n - shift % n) + shift [MOD n] := by
        rw [hsum, Nat.ModEq, Nat.add_mul_mod_self_left, h, Nat.mod_eq_of_lt hr]
      exact Nat.ModEq.add_right_cancel' shift hmod
    · intro h
      have hmod := Nat.ModEq.add_right shift h
      rw [hsum, Nat.ModEq, Nat.add_mul_mod_self_left, Nat.mod_eq_of_lt hr] at hmod
      exact hmod
  simp only [hclass]
  rw [countP_range_eq_count fun k => k ≡ r + (n - shift % n) [MOD n], Nat.count_modEq_card _ hn]
  have hdivmod := Nat.div_add_mod count n
  split_ifs with hlt
  · rw [Nat.le_div_iff_mul_le hn, Nat.add_mul, Nat.mul_comm (count / n)]
    omega
  · exact Nat.div_le_div_right (by omega)

end HundunFlow.Lib
