import Mathlib.LinearAlgebra.Matrix.NonsingularInverse
import Mathlib.Algebra.Order.Field.Basic

/-!
# Factored products

The product of a factor, the inverse of a positive diagonal and the transposed factor. When all its
equations have solutions, its inverse is symmetric and positive definite.
-/

namespace HundunFlow.Lib

open Matrix

variable {𝕜 V : Type} [Field 𝕜] [Fintype V] [DecidableEq V]

def factoredProduct (factor : Matrix V V 𝕜) (pivot : V → 𝕜) : Matrix V V 𝕜 :=
  factor * diagonal (fun v => (pivot v)⁻¹) * factorᵀ

variable {factor : Matrix V V 𝕜} {pivot : V → 𝕜}

lemma factoredProduct_isSymm : (factoredProduct factor pivot).IsSymm := by
  rw [IsSymm, factoredProduct, transpose_mul, transpose_mul, transpose_transpose, diagonal_transpose, Matrix.mul_assoc]

lemma factoredProduct_mulVec (z : V → 𝕜) :
    factoredProduct factor pivot *ᵥ z = factor *ᵥ fun v => (pivot v)⁻¹ * (factorᵀ *ᵥ z) v := by
  rw [factoredProduct, ← mulVec_mulVec, ← mulVec_mulVec]
  congr 1
  funext v
  rw [mulVec_diagonal]

lemma factoredProduct_solves (hpivot : ∀ v, pivot v ≠ 0) {x y z : V → 𝕜} (hforward : factor *ᵥ y = x)
    (hback : ∀ v, (factorᵀ *ᵥ z) v = pivot v * y v) : factoredProduct factor pivot *ᵥ z = x := by
  rw [factoredProduct_mulVec, ← hforward]
  congr 1
  funext v
  rw [hback, inv_mul_cancel_left₀ (hpivot v)]

lemma eq_inv_mulVec {M : Matrix V V 𝕜} (hunit : IsUnit M) {x z : V → 𝕜} (h : M *ᵥ z = x) : z = M⁻¹ *ᵥ x := by
  rw [← h, mulVec_mulVec, nonsing_inv_mul _ ((isUnit_iff_isUnit_det _).mp hunit), one_mulVec]

lemma factoredProduct_inv_pos [LinearOrder 𝕜] [IsStrictOrderedRing 𝕜] (hunit : IsUnit (factoredProduct factor pivot))
    (hpivot : ∀ v, 0 < pivot v) {x : V → 𝕜} (hx : x ≠ 0) : 0 < x ⬝ᵥ ((factoredProduct factor pivot)⁻¹ *ᵥ x) := by
  have hsolve : factoredProduct factor pivot *ᵥ ((factoredProduct factor pivot)⁻¹ *ᵥ x) = x := by
    rw [mulVec_mulVec, mul_nonsing_inv _ ((isUnit_iff_isUnit_det _).mp hunit), one_mulVec]
  generalize (factoredProduct factor pivot)⁻¹ *ᵥ x = z at *
  have hxz : x = factor *ᵥ fun v => (pivot v)⁻¹ * (factorᵀ *ᵥ z) v := by rw [← factoredProduct_mulVec, hsolve]
  have hform : x ⬝ᵥ z = ∑ v, (pivot v)⁻¹ * (factorᵀ *ᵥ z) v * (factorᵀ *ᵥ z) v := by
    rw [hxz, ← vecMul_transpose, ← dotProduct_mulVec, dotProduct]
  -- without a component of the transposed factor the right-hand side vanishes
  have hne : ∃ v, (factorᵀ *ᵥ z) v ≠ 0 := by
    by_contra hall
    push Not at hall
    apply hx
    have hzero : (fun v => (pivot v)⁻¹ * (factorᵀ *ᵥ z) v) = 0 := funext fun v => by rw [hall v, mul_zero, Pi.zero_apply]
    rw [hxz, hzero, mulVec_zero]
  obtain ⟨v, hv⟩ := hne
  rw [hform]
  refine Finset.sum_pos' (fun v _ => ?_) ⟨v, Finset.mem_univ v, ?_⟩
  · rw [mul_assoc]
    exact mul_nonneg (inv_nonneg.mpr (hpivot v).le) (mul_self_nonneg _)
  · rw [mul_assoc]
    exact mul_pos (inv_pos.mpr (hpivot v)) (mul_self_pos.mpr hv)

end HundunFlow.Lib
