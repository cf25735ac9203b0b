import HundunFlow.EsfWorkspace
import Mathlib.Algebra.BigOperators.Field

/-!
# Means over the fields of an ensemble
-/

namespace HundunFlow.Proofs

open Lib Esf Finset

variable {F : Type} [Field F]

def fieldMean (n : ℕ) (value : ℕ → F) : F := (∑ f ∈ range n, value f) / n

variable {n : ℕ}

lemma fieldMean_congr {a b : ℕ → F} (h : ∀ f < n, a f = b f) : fieldMean n a = fieldMean n b := by
  rw [fieldMean, fieldMean, sum_congr rfl fun f hf => h f (mem_range.mp hf)]

lemma fieldMean_sub (n : ℕ) (a b : ℕ → F) : fieldMean n (fun f => a f - b f) = fieldMean n a - fieldMean n b := by
  rw [fieldMean, fieldMean, fieldMean, sum_sub_distrib, sub_div]

lemma fieldMean_mul (n : ℕ) (factor : F) (a : ℕ → F) : fieldMean n (fun f => factor * a f) = factor * fieldMean n a := by
  rw [fieldMean, fieldMean, ← mul_sum, mul_div_assoc]

lemma fieldMean_const [CharZero F] (hn : n ≠ 0) (a : F) : fieldMean n (fun _ => a) = a := by
  rw [fieldMean, sum_const, card_range, nsmul_eq_mul]
  exact mul_div_cancel_left₀ a (Nat.cast_ne_zero.mpr hn)

lemma fieldMean_add (n : ℕ) (a b : ℕ → F) : fieldMean n (fun f => a f + b f) = fieldMean n a + fieldMean n b := by
  rw [fieldMean, fieldMean, fieldMean, sum_add_distrib, add_div]

lemma fieldMean_contracted [CharZero F] (hn : n ≠ 0) (factor target : F) (x : ℕ → F) :
    fieldMean n (fun f => factor * (x f - fieldMean n x) + target) = target := by
  rw [fieldMean_add, fieldMean_mul, fieldMean_sub, fieldMean_const hn, fieldMean_const hn, sub_self, mul_zero, zero_add]

lemma sum_of_fieldMean_eq [CharZero F] (hn : n ≠ 0) {a b : ℕ → F} (h : fieldMean n a = fieldMean n b) :
    ∑ f ∈ range n, a f = ∑ f ∈ range n, b f :=
  (div_left_inj' (Nat.cast_ne_zero.mpr hn)).mp h

lemma sum_fieldMean [CharZero F] {ns : ℕ} (hn : n ≠ 0) {x : ℕ → ℕ → F} {total : F}
    (h : ∀ f < n, ∑ c ∈ range ns, x f c = total) : ∑ c ∈ range ns, (fieldMean n fun f => x f c) = total := by
  rw [← fieldMean_const hn total, ← fieldMean_congr h]
  simp only [fieldMean]
  rw [sum_comm, sum_div]

lemma ensembleMean_eq (n : ℕ) (value : ℕ → F) : ensembleMean n value = fieldMean n value := by
  rw [ensembleMean, runningSum_eq, fieldMean, sum_div]

lemma ensembleVariance_eq (n : ℕ) (mean : F) (value : ℕ → F) :
    ensembleVariance n mean value = fieldMean n fun f => (value f - mean) ^ 2 := by
  rw [ensembleVariance, runningSum_eq, fieldMean, sum_div]
  simp only [pow_two]

end HundunFlow.Proofs
