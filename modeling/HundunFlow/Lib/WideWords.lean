import Mathlib.Data.Nat.Bitwise
import Mathlib.Tactic.Ring

/-!
# Numbers in two words

A sum of words that wraps is smaller than its first summand, and the comparison gives the carry. The
product with a half word needs two products of words and one carry.
-/

namespace HundunFlow.Lib

def wide (high low : UInt64) : ℕ := high.toNat * 2 ^ 64 + low.toNat

lemma wide_lt_iff {high low high' low' : UInt64} :
    wide high low < wide high' low' ↔ high < high' ∨ high = high' ∧ low < low' := by
  have hlow := low.toNat_lt
  have hlow' := low'.toNat_lt
  rw [UInt64.lt_iff_toNat_lt, UInt64.lt_iff_toNat_lt, ← UInt64.toNat_inj, wide, wide]
  omega

lemma carry_add (a b : UInt64) : (a + b).toNat + (if a + b < a then 2 ^ 64 else 0) = a.toNat + b.toNat := by
  have ha := a.toNat_lt
  have hb := b.toNat_lt
  have hsum : (a + b).toNat = (a.toNat + b.toNat) % 2 ^ 64 := UInt64.toNat_add a b
  simp only [UInt64.lt_iff_toNat_lt, hsum]
  split_ifs with hcarry <;> omega

/-- The product of a word with a number below `2 ^ 32`, from the products of its halves. -/
lemma wide_mul {word half : UInt64} (h : half.toNat < 2 ^ 32) {lowProduct highProduct carry : UInt64}
    (hlow : lowProduct = (word &&& 0xffffffff) * half) (hhigh : highProduct = (word >>> 32) * half)
    (hcarry : carry = if lowProduct + highProduct <<< 32 < lowProduct then 1 else 0) :
    wide (highProduct >>> 32 + carry) (lowProduct + highProduct <<< 32) = word.toNat * half.toNat := by
  have hword := word.toNat_lt
  have hlower : (word &&& 0xffffffff).toNat = word.toNat % 2 ^ 32 := by
    rw [UInt64.toNat_and]
    exact Nat.and_two_pow_sub_one_eq_mod word.toNat 32
  have hupper : (word >>> 32).toNat = word.toNat / 2 ^ 32 := by
    rw [UInt64.toNat_shiftRight, ← Nat.shiftRight_eq_div_pow]
    rfl
  have hsmall : word.toNat % 2 ^ 32 * half.toNat < 2 ^ 32 * 2 ^ 32 :=
    Nat.mul_lt_mul'' (Nat.mod_lt _ (by decide)) h
  have hquot : word.toNat / 2 ^ 32 * half.toNat < 2 ^ 32 * 2 ^ 32 :=
    Nat.mul_lt_mul'' (by omega) h
  have hlowValue : lowProduct.toNat = word.toNat % 2 ^ 32 * half.toNat := by
    rw [hlow, UInt64.toNat_mul, hlower]
    exact Nat.mod_eq_of_lt hsmall
  have hhighValue : highProduct.toNat = word.toNat / 2 ^ 32 * half.toNat := by
    rw [hhigh, UInt64.toNat_mul, hupper]
    exact Nat.mod_eq_of_lt hquot
  have hshifted : (highProduct <<< 32).toNat = highProduct.toNat * 2 ^ 32 % 2 ^ 64 := by
    rw [UInt64.toNat_shiftLeft, Nat.shiftLeft_eq]
    rfl
  have hupperHigh : (highProduct >>> 32).toNat = highProduct.toNat / 2 ^ 32 := by
    rw [UInt64.toNat_shiftRight, ← Nat.shiftRight_eq_div_pow]
    rfl
  have hsplit : word.toNat * half.toNat = lowProduct.toNat + highProduct.toNat * 2 ^ 32 := by
    rw [hlowValue, hhighValue]
    calc word.toNat * half.toNat = (2 ^ 32 * (word.toNat / 2 ^ 32) + word.toNat % 2 ^ 32) * half.toNat := by
          rw [Nat.div_add_mod]
      _ = _ := by ring
  have hsum := carry_add lowProduct (highProduct <<< 32)
  have hcarryValue : carry.toNat = if lowProduct + highProduct <<< 32 < lowProduct then 1 else 0 := by
    rw [hcarry]
    split_ifs <;> rfl
  have htop : (highProduct >>> 32 + carry).toNat = highProduct.toNat / 2 ^ 32 + carry.toNat := by
    rw [UInt64.toNat_add, hupperHigh]
    apply Nat.mod_eq_of_lt
    have hproduct := highProduct.toNat_lt
    split_ifs at hcarryValue <;> omega
  rw [wide, htop, hsplit]
  split_ifs at hsum hcarryValue <;> omega

end HundunFlow.Lib
