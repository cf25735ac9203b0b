import HundunFlow.ClosedMass
import Mathlib.Tactic.FieldSimp

/-!
# The iteration for the pressure of a closed mass

The mass is affine in the reference pressure.
-/

namespace HundunFlow.Proofs

open Lib ClosedMass

variable {F : Type} [Field F] [LinearOrder F] [IsStrictOrderedRing F] {plan : ClosedMassPlan F}
  {derivative intercept target pressure : F}

def nextPressure (plan : ClosedMassPlan F) (derivative intercept target pressure : F) : F :=
  pressure + pressureStep plan derivative (pressure * derivative + intercept - target) pressure

def pressureAt (plan : ClosedMassPlan F) (derivative intercept target pressure : F) : ℕ → F
  | 0 => pressure
  | k + 1 => nextPressure plan derivative intercept target (pressureAt plan derivative intercept target pressure k)

def massRoot (derivative intercept target : F) : F := (target - intercept) / derivative

/-- A step that moves towards a root, not beyond it and not far. -/
structure TowardsRoot (fraction root pressure next : F) : Prop where
  below : pressure ≤ root → pressure ≤ next ∧ next ≤ root
  above : root ≤ pressure → root ≤ next ∧ next ≤ pressure
  bounded : |next - pressure| ≤ fraction * pressure
  pos : 0 < next

omit [LinearOrder F] [IsStrictOrderedRing F] in
lemma residual_div (hd : derivative ≠ 0) (intercept target pressure : F) :
    -(pressure * derivative + intercept - target) / derivative = massRoot derivative intercept target - pressure := by
  rw [massRoot]
  field_simp
  ring

omit [LinearOrder F] [IsStrictOrderedRing F] in
lemma massRoot_mass (hd : derivative ≠ 0) (intercept target : F) :
    massRoot derivative intercept target * derivative + intercept = target := by
  rw [massRoot, div_mul_cancel₀ _ hd]
  ring

lemma nextPressure_towards (plan : ClosedMassPlan F) (intercept target : F) (hd : 0 < derivative) (hp : 0 < pressure) :
    TowardsRoot plan.maximumRelativeStep (massRoot derivative intercept target) pressure
      (nextPressure plan derivative intercept target pressure) := by
  have hlimit : 0 < plan.maximumRelativeStep * pressure := mul_pos plan.step_pos hp
  have hless : plan.maximumRelativeStep * pressure < pressure := mul_lt_of_lt_one_left hp plan.step_lt
  rw [nextPressure, pressureStep, residual_div hd.ne']
  generalize massRoot derivative intercept target = root
  generalize heq : plan.maximumRelativeStep * pressure = limit at hlimit hless ⊢
  refine ⟨fun h => ⟨?_, ?_⟩, fun h => ⟨?_, ?_⟩, ?_, ?_⟩
  · have hmin : 0 ≤ min limit (root - pressure) := le_min hlimit.le (sub_nonneg.mpr h)
    linarith [le_max_right (-limit) (min limit (root - pressure))]
  · have hmax : max (-limit) (min limit (root - pressure)) ≤ root - pressure :=
      max_le (by linarith) (min_le_right _ _)
    linarith
  · have hmin : root - pressure ≤ min limit (root - pressure) := le_min (by linarith) le_rfl
    linarith [le_max_right (-limit) (min limit (root - pressure))]
  · have hmax : max (-limit) (min limit (root - pressure)) ≤ 0 :=
      max_le (by linarith) ((min_le_right _ _).trans (by linarith))
    linarith
  · rw [add_sub_cancel_left, heq, abs_le]
    exact ⟨le_max_left _ _, max_le (by linarith) (min_le_left _ _)⟩
  · linarith [le_max_left (-limit) (min limit (root - pressure))]

lemma pressureStep_ne_zero (hd : 0 < derivative) (hp : 0 < pressure)
    (hres : pressure * derivative + intercept - target ≠ 0) :
    pressureStep plan derivative (pressure * derivative + intercept - target) pressure ≠ 0 := by
  have hlimit : 0 < plan.maximumRelativeStep * pressure := mul_pos plan.step_pos hp
  have hroot : massRoot derivative intercept target - pressure ≠ 0 := by
    rw [← residual_div hd.ne']
    exact div_ne_zero (neg_ne_zero.mpr hres) hd.ne'
  rw [pressureStep, residual_div hd.ne']
  generalize massRoot derivative intercept target - pressure = gap at *
  generalize plan.maximumRelativeStep * pressure = limit at *
  rcases lt_or_gt_of_ne hroot with hgap | hgap
  · exact (max_lt (by linarith) ((min_le_right _ _).trans_lt hgap)).ne
  · exact ((lt_min hlimit hgap).trans_le (le_max_right _ _)).ne'

structure MassStart (derivative intercept target pressure : F) : Prop where
  slope_pos : 0 < derivative
  target_pos : 0 < target
  pressure_pos : 0 < pressure
  mass_pos : 0 < pressure * derivative + intercept

lemma MassStart.next (plan : ClosedMassPlan F) (h : MassStart derivative intercept target pressure) :
    MassStart derivative intercept target (nextPressure plan derivative intercept target pressure) := by
  have hstep := nextPressure_towards plan intercept target h.slope_pos h.pressure_pos
  refine ⟨h.slope_pos, h.target_pos, hstep.pos, ?_⟩
  rcases le_total pressure (massRoot derivative intercept target) with hle | hle
  · have hmono := mul_le_mul_of_nonneg_right (hstep.below hle).1 h.slope_pos.le
    linarith [h.mass_pos]
  · have hmono := mul_le_mul_of_nonneg_right (hstep.above hle).1 h.slope_pos.le
    have hroot := massRoot_mass h.slope_pos.ne' intercept target
    linarith [h.target_pos]

lemma MassStart.at (plan : ClosedMassPlan F) (h : MassStart derivative intercept target pressure) (k : ℕ) :
    MassStart derivative intercept target (pressureAt plan derivative intercept target pressure k) := by
  induction k with
  | zero => exact h
  | succ k ih => exact ih.next plan

def WithinTolerance (plan : ClosedMassPlan F) (derivative intercept target pressure : F) : Prop :=
  |pressure * derivative + intercept - target| ≤ plan.relativeTolerance * target

lemma iterate_turn (plan : ClosedMassPlan F) (h : MassStart derivative intercept target pressure) (again : Bool) (remaining iteration : ℕ) :
    (WithinTolerance plan derivative intercept target pressure ∧
      iterate plan again derivative intercept target (remaining + 1) iteration pressure =
        .ok ⟨pressure, pressure * derivative + intercept, iteration + 1⟩) ∨
    (¬ WithinTolerance plan derivative intercept target pressure ∧
      iterate plan again derivative intercept target (remaining + 1) iteration pressure =
        iterate plan again derivative intercept target remaining (iteration + 1)
          (nextPressure plan derivative intercept target pressure)) := by
  have hfirst : ¬ (pressure * derivative + intercept ≤ 0 ∨ (again = true ∧ derivative ≤ 0)) := by
    rintro (hmass | ⟨-, hd⟩)
    · exact absurd h.mass_pos (not_lt.mpr hmass)
    · exact absurd h.slope_pos (not_lt.mpr hd)
  rw [iterate, if_neg hfirst]
  by_cases hwithin : WithinTolerance plan derivative intercept target pressure
  · exact .inl ⟨hwithin, if_pos hwithin⟩
  · refine .inr ⟨hwithin, ?_⟩
    have hres : pressure * derivative + intercept - target ≠ 0 := by
      intro hzero
      refine hwithin ?_
      rw [WithinTolerance, hzero, abs_zero]
      exact (mul_pos plan.tolerance_pos h.target_pos).le
    have hnext := (h.next plan).pressure_pos
    have hsecond : ¬ (nextPressure plan derivative intercept target pressure ≤ 0 ∨
        pressureStep plan derivative (pressure * derivative + intercept - target) pressure = 0) := by
      rintro (hle | hzero)
      · exact absurd hnext (not_lt.mpr hle)
      · exact pressureStep_ne_zero h.slope_pos h.pressure_pos hres hzero
    exact (if_neg hwithin).trans (if_neg hsecond)

lemma iterate_cases (plan : ClosedMassPlan F) (h : MassStart derivative intercept target pressure) (again : Bool) (remaining : ℕ) :
    ∀ iteration,
      ((∀ k < remaining, ¬ WithinTolerance plan derivative intercept target
          (pressureAt plan derivative intercept target pressure (iteration + k))) ∧
        iterate plan again derivative intercept target remaining iteration
          (pressureAt plan derivative intercept target pressure iteration) = .error ⟨.numericalFailure, kClosedMassConvergence⟩) ∨
      ∃ k < remaining,
        (∀ j < k, ¬ WithinTolerance plan derivative intercept target
          (pressureAt plan derivative intercept target pressure (iteration + j))) ∧
        WithinTolerance plan derivative intercept target
          (pressureAt plan derivative intercept target pressure (iteration + k)) ∧
        iterate plan again derivative intercept target remaining iteration
          (pressureAt plan derivative intercept target pressure iteration) =
          .ok ⟨pressureAt plan derivative intercept target pressure (iteration + k),
            pressureAt plan derivative intercept target pressure (iteration + k) * derivative + intercept,
            iteration + k + 1⟩ := by
  induction remaining with
  | zero => exact fun iteration => .inl ⟨fun k hk => absurd hk (Nat.not_lt_zero k), rfl⟩
  | succ remaining ih =>
    intro iteration
    rcases iterate_turn plan (h.at plan iteration) again remaining iteration with
      ⟨hwithin, hturn⟩ | ⟨hnot, hturn⟩
    · exact .inr ⟨0, Nat.succ_pos _, fun j hj => absurd hj (Nat.not_lt_zero j), hwithin, hturn⟩
    · have hshift : ∀ k, iteration + 1 + k = iteration + (k + 1) := fun k => by omega
      rw [hturn]
      rcases ih (iteration + 1) with ⟨hnone, herror⟩ | ⟨k, hk, hbefore, hwithin, hok⟩
      · refine .inl ⟨?_, herror⟩
        rintro (- | k) hk
        · exact hnot
        · rw [← hshift]
          exact hnone k (Nat.lt_of_succ_lt_succ hk)
      · rw [hshift] at hwithin hok
        refine .inr ⟨k + 1, Nat.succ_lt_succ hk, ?_, hwithin, hok⟩
        rintro (- | j) hj
        · exact hnot
        · rw [← hshift]
          exact hbefore j (Nat.lt_of_succ_lt_succ hj)

end HundunFlow.Proofs
