import Mathlib.Algebra.Order.BigOperators.Ring.Finset
import Mathlib.LinearAlgebra.Matrix.Symmetric
import Mathlib.Tactic.LinearCombination
import Mathlib.Tactic.Linarith

/-!
# Weakly dominant matrices

A matrix has positive diagonal entries `diagonal v` and the negated weights of a graph elsewhere. When
the weights are symmetric, no row is lighter on the diagonal than its weights and every component has
a row that is heavier, the matrix is positive definite.
-/

namespace HundunFlow.Lib

open Matrix Finset

variable {𝕜 V : Type} [Field 𝕜] [DecidableEq V]

def weighted (diagonal : V → 𝕜) (weight : V → V → 𝕜) : Matrix V V 𝕜 :=
  Matrix.of fun v w => (if v = w then diagonal v else 0) - weight v w

variable {diagonal : V → 𝕜} {weight : V → V → 𝕜}

lemma weighted_isSymm (hsymm : ∀ v w, weight v w = weight w v) : (weighted diagonal weight).IsSymm := by
  ext v w
  simp only [weighted, transpose_apply, of_apply, hsymm w v]
  by_cases h : v = w
  · subst h
    rfl
  · rw [if_neg h, if_neg (Ne.symm h)]

variable [Fintype V]

lemma two_mul_form (diagonal : V → 𝕜) (hsymm : ∀ v w, weight v w = weight w v) (x : V → 𝕜) :
    2 * (x ⬝ᵥ (weighted diagonal weight *ᵥ x)) =
      2 * (∑ v, (diagonal v - ∑ w, weight v w) * x v ^ 2) + ∑ v, ∑ w, weight v w * (x v - x w) ^ 2 := by
  have hform : x ⬝ᵥ (weighted diagonal weight *ᵥ x) = ∑ v, diagonal v * x v ^ 2 - ∑ v, ∑ w, weight v w * (x v * x w) := by
    rw [dotProduct, ← sum_sub_distrib]
    apply sum_congr rfl
    intro v _
    rw [mulVec, dotProduct]
    have hsplit : ∀ w, weighted diagonal weight v w * x w = (if v = w then diagonal v * x w else 0) - weight v w * x w := by
      intro w
      rw [weighted, of_apply, sub_mul, ite_mul, zero_mul]
    simp only [hsplit]
    rw [sum_sub_distrib, sum_ite_eq, if_pos (mem_univ v), mul_sub, mul_sum]
    have hterms : ∀ w, x v * (weight v w * x w) = weight v w * (x v * x w) := fun w => by ring
    simp only [hterms]
    ring
  have hrows : ∑ v, (diagonal v - ∑ w, weight v w) * x v ^ 2 =
      ∑ v, diagonal v * x v ^ 2 - ∑ v, ∑ w, weight v w * x v ^ 2 := by
    rw [← sum_sub_distrib]
    apply sum_congr rfl
    intro v _
    rw [sub_mul, sum_mul]
  have hcolumns : ∑ v, ∑ w, weight v w * x w ^ 2 = ∑ v, ∑ w, weight v w * x v ^ 2 := by
    rw [sum_comm]
    apply sum_congr rfl
    intro v _
    apply sum_congr rfl
    intro w _
    rw [hsymm w v]
  have hsquares : ∑ v, ∑ w, weight v w * (x v - x w) ^ 2 =
      2 * (∑ v, ∑ w, weight v w * x v ^ 2) - 2 * ∑ v, ∑ w, weight v w * (x v * x w) := by
    have hterms : ∀ v w, weight v w * (x v - x w) ^ 2 =
        weight v w * x v ^ 2 + weight v w * x w ^ 2 - 2 * (weight v w * (x v * x w)) := fun v w => by ring
    simp only [hterms, sum_sub_distrib, sum_add_distrib, ← mul_sum, hcolumns]
    ring
  rw [hform, hrows, hsquares]
  ring

variable [LinearOrder 𝕜] [IsStrictOrderedRing 𝕜]

def Connected (weight : V → V → 𝕜) : V → V → Prop := Relation.EqvGen fun v w => 0 < weight v w

theorem weighted_pos (hsymm : ∀ v w, weight v w = weight w v) (hweight : ∀ v w, 0 ≤ weight v w)
    (hweak : ∀ v, ∑ w, weight v w ≤ diagonal v)
    (hstrict : ∀ v, ∃ d, Connected weight d v ∧ ∑ w, weight d w < diagonal d) {x : V → 𝕜} (hx : x ≠ 0) :
    0 < x ⬝ᵥ (weighted diagonal weight *ᵥ x) := by
  have hrow : ∀ v, 0 ≤ (diagonal v - ∑ w, weight v w) * x v ^ 2 := fun v =>
    mul_nonneg (sub_nonneg.mpr (hweak v)) (sq_nonneg _)
  have hpair : ∀ v w, 0 ≤ weight v w * (x v - x w) ^ 2 := fun v w => mul_nonneg (hweight v w) (sq_nonneg _)
  have hrows : 0 ≤ ∑ v, (diagonal v - ∑ w, weight v w) * x v ^ 2 := sum_nonneg fun v _ => hrow v
  have hpairs : 0 ≤ ∑ v, ∑ w, weight v w * (x v - x w) ^ 2 :=
    sum_nonneg fun v _ => sum_nonneg fun w _ => hpair v w
  have htwo := two_mul_form diagonal hsymm x
  by_contra hnot
  push Not at hnot
  -- both sums vanish, so `x` is constant on components and zero on the rows that are heavier
  have hrows₀ : ∑ v, (diagonal v - ∑ w, weight v w) * x v ^ 2 = 0 := by linarith
  have hpairs₀ : ∑ v, ∑ w, weight v w * (x v - x w) ^ 2 = 0 := by linarith
  have hsame : ∀ v w, 0 < weight v w → x v = x w := by
    intro v w hvw
    have hinner := (sum_eq_zero_iff_of_nonneg fun v _ => sum_nonneg fun w _ => hpair v w).mp hpairs₀ v
      (mem_univ v)
    have hterm := (sum_eq_zero_iff_of_nonneg fun w _ => hpair v w).mp hinner w (mem_univ w)
    rcases mul_eq_zero.mp hterm with h | h
    · exact absurd h hvw.ne'
    · exact sub_eq_zero.mp (pow_eq_zero_iff two_ne_zero |>.mp h)
  apply hx
  funext v
  obtain ⟨d, hconn, hd⟩ := hstrict v
  have hdv : x d = x v := by
    clear hd
    induction hconn with
    | rel a b hab => exact hsame a b hab
    | refl => rfl
    | symm _ _ _ ih => exact ih.symm
    | trans _ _ _ _ _ ih₁ ih₂ => exact ih₁.trans ih₂
  have hterm := (sum_eq_zero_iff_of_nonneg fun v _ => hrow v).mp hrows₀ d (mem_univ d)
  rcases mul_eq_zero.mp hterm with h | h
  · exact absurd (sub_eq_zero.mp h) hd.ne'
  · rw [← hdv]
    exact pow_eq_zero_iff two_ne_zero |>.mp h

/-! ### Weights by faces -/

variable {𝕜 V F : Type} [Field 𝕜] [DecidableEq V] [Fintype F] {beside : V → F → V} {coefficient : V → F → 𝕜}

def faceWeight (beside : V → F → V) (coefficient : V → F → 𝕜) (v w : V) : 𝕜 :=
  ∑ f, if beside v f = w then coefficient v f else 0

lemma sum_faceWeight [Fintype V] (v : V) : ∑ w, faceWeight beside coefficient v w = ∑ f, coefficient v f := by
  unfold faceWeight
  rw [sum_comm]
  apply sum_congr rfl
  intro f _
  rw [sum_ite_eq, if_pos (mem_univ _)]

lemma faceWeight_symm (opposite : F ≃ F) (hback : ∀ v f, beside (beside v f) (opposite f) = v)
    (hinv : ∀ f, opposite (opposite f) = f) (hequal : ∀ v f, coefficient (beside v f) (opposite f) = coefficient v f)
    (v w : V) : faceWeight beside coefficient v w = faceWeight beside coefficient w v := by
  unfold faceWeight
  rw [← Equiv.sum_comp opposite fun f => if beside w f = v then coefficient w f else 0]
  apply sum_congr rfl
  intro f _
  by_cases h : beside v f = w
  · subst h
    rw [if_pos rfl, if_pos (hback v f), hequal]
  · rw [if_neg h, if_neg]
    rintro rfl
    apply h
    have hthere := hback w (opposite f)
    rwa [hinv] at hthere

variable [LinearOrder 𝕜] [IsStrictOrderedRing 𝕜]

lemma faceWeight_nonneg (hcoeff : ∀ v f, 0 ≤ coefficient v f) (v w : V) : 0 ≤ faceWeight beside coefficient v w := by
  apply sum_nonneg
  intro f _
  split_ifs
  · exact hcoeff v f
  · exact le_refl 0

lemma faceWeight_pos (beside : V → F → V) (hcoeff : ∀ v f, 0 ≤ coefficient v f) {v : V} {f : F} (h : 0 < coefficient v f) :
    0 < faceWeight beside coefficient v (beside v f) := by
  refine sum_pos' ?_ ⟨f, mem_univ f, by rwa [if_pos rfl]⟩
  intro g _
  split_ifs
  · exact hcoeff v g
  · exact le_refl 0

end HundunFlow.Lib
