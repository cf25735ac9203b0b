import HundunFlow.Dyn711History

/-!
# The clock of the windows

The closed form of the clock is the iterate of its tick, and the sums of a cell that takes part in
every call are those of the calls since the last evaluation.
-/

namespace HundunFlow.Proofs

open Lib Dyn711

variable (n : ℕ)

lemma tick_clockAt : (tick (clockAt n)).available = true ∧ (tick (clockAt n)).evaluateRates = (n % 9 == 8) ∧
    (tick (clockAt n)).next = clockAt (n + 1) := by
  match n with
  | 0 => decide
  | 1 => decide
  | k + 2 =>
    have hinterval : (k + 2) % 9 < 9 := Nat.mod_lt _ (by decide)
    have hcount : k % 7 < 7 := Nat.mod_lt _ (by decide)
    have hclock : clockAt (k + 2) = ⟨(k + 2) % 9, 12 - k % 7, decide (9 ≤ k + 2)⟩ := rfl
    have hnext : clockAt (k + 2 + 1) = ⟨(k + 3) % 9, 12 - (k + 1) % 7, decide (9 ≤ k + 3)⟩ := rfl
    have hguard : ¬ (8 < (k + 2) % 9 ∨ 12 < 12 - k % 7 ∨ (0 < 12 - k % 7 ∧ 12 - k % 7 < 6)) := by omega
    rw [hclock, hnext, tick, if_neg hguard]
    refine ⟨rfl, rfl, ?_⟩
    dsimp only
    rw [Clock.mk.injEq]
    refine ⟨?_, ?_, ?_⟩
    · by_cases h : (k + 2) % 9 = 8
      · rw [h, beq_self_eq_true, if_pos rfl]
        omega
      · rw [beq_eq_false_iff_ne.mpr h, if_neg Bool.false_ne_true]
        omega
    · by_cases h : 12 - k % 7 ≤ 6
      · rw [decide_eq_true h, if_pos rfl]
        omega
      · rw [decide_eq_false h, if_neg Bool.false_ne_true]
        omega
    · by_cases h : (k + 2) % 9 = 8
      · rw [h, beq_self_eq_true, Bool.or_true]
        exact (decide_eq_true (by omega)).symm
      · rw [beq_eq_false_iff_ne.mpr h, Bool.or_false, decide_eq_decide]
        omega

lemma clockAt_iterate : clockAt n = (fun c => (tick c).next)^[n] zeroClock := by
  induction n with
  | zero => rfl
  | succ n ih =>
    rw [Function.iterate_succ_apply', ← ih]
    exact (tick_clockAt n).2.2.symm

def cphiCall (call : ℕ) : Prop := call = 1 ∨ (2 ≤ call ∧ (call - 2) % 7 = 0)

lemma updateCphi_iff : (tick (clockAt n)).updateCphi = true ↔ cphiCall (n + 1) := by
  match n with
  | 0 => simp only [cphiCall, Nat.zero_add, true_or, iff_true]; decide
  | 1 => simp only [cphiCall, Nat.reduceAdd, Nat.reduceSub, Nat.zero_mod, le_refl, and_self, or_true, iff_true]; decide
  | k + 2 =>
    have hinterval : (k + 2) % 9 < 9 := Nat.mod_lt _ (by decide)
    have hcount : k % 7 < 7 := Nat.mod_lt _ (by decide)
    have hclock : clockAt (k + 2) = ⟨(k + 2) % 9, 12 - k % 7, decide (9 ≤ k + 2)⟩ := rfl
    have hguard : ¬ (8 < (k + 2) % 9 ∨ 12 < 12 - k % 7 ∨ (0 < 12 - k % 7 ∧ 12 - k % 7 < 6)) := by omega
    rw [hclock, tick, if_neg hguard]
    dsimp only
    rw [decide_eq_true_iff, cphiCall]
    omega

variable {F : Type} [Zero F] [One F] [Add F] [Sub F] [Mul F] [Div F] [NatCast F] {m : Numbers F}

variable {x : RateInput F} {n : ℕ}

lemma advanceRate_evaluate {r r' : RateState F} (hn : n % 9 = 8) (h : advanceRate m r (clockAt n) x = some r') :
    ∃ c, speciesControl m x.eta r.pdfSum r.psrSum x.chemicalTime x.flowTime x.weakSum = some c ∧
      r' = ⟨0, 0, c.selected, c.effective, c.upperBranch, c.linearEndpoint⟩ := by
  have hevaluate : (tick (clockAt n)).evaluateRates = true := by
    rw [(tick_clockAt n).2.1, hn]
    rfl
  simp only [advanceRate, hevaluate, if_true] at h
  split at h
  · cases h
  · obtain ⟨c, hc, rfl⟩ := Option.map_eq_some_iff.mp h
    exact ⟨c, hc, rfl⟩

def controlOf (r : RateState F) : F × F × Bool × Bool := (r.selected, r.effective, r.upperBranch, r.linearEndpoint)

lemma advanceRate_accumulate {r r' : RateState F} (hn : n % 9 ≠ 8) (h : advanceRate m r (clockAt n) x = some r') :
    r'.pdfSum = r.pdfSum + cumulative x.dt x.pdfRate ∧ r'.psrSum = r.psrSum + cumulative x.dt x.psrRate ∧
      (9 ≤ n → controlOf r' = controlOf r) ∧ (n < 9 → controlOf r' = controlOf (initialRate m)) := by
  have hevaluate : (tick (clockAt n)).evaluateRates = false := by
    rw [(tick_clockAt n).2.1, beq_eq_false_iff_ne]
    exact hn
  simp only [advanceRate, hevaluate, Bool.false_eq_true, if_false] at h
  split at h
  · cases h
  · by_cases hlate : 9 ≤ n
    · have hinit : (clockAt n).ratesInitialized = true := decide_eq_true hlate
      simp only [hinit, if_true] at h
      split at h
      · cases h
        exact ⟨rfl, rfl, fun _ => rfl, fun hearly => absurd hlate (Nat.not_le.mpr hearly)⟩
      · cases h
    · have hinit : (clockAt n).ratesInitialized = false := decide_eq_false hlate
      simp only [hinit, Bool.false_eq_true, if_false] at h
      split at h
      · cases h
        exact ⟨rfl, rfl, fun hle => absurd hle hlate, fun _ => rfl⟩
      · cases h

omit [One F] [Sub F] [Mul F] [Div F] [NatCast F] in
lemma runningSum_succ (n : ℕ) (term : ℕ → F) : runningSum (n + 1) term = runningSum n term + term n := by
  rw [runningSum, List.range_succ, List.foldl_append]
  rfl

/-- The sum of `count` calls from call `first` on. -/
def pdfWindow (x : ℕ → RateInput F) (first count : ℕ) : F :=
  runningSum count fun k => cumulative (x (first + k)).dt (x (first + k)).pdfRate

def psrWindow (x : ℕ → RateInput F) (first count : ℕ) : F :=
  runningSum count fun k => cumulative (x (first + k)).dt (x (first + k)).psrRate

/-- The state of a rate that had input `x k` in call `k`, for each of `n` calls. -/
structure InWindow (m : Numbers F) (x : ℕ → RateInput F) (n : ℕ) (r : RateState F) : Prop where
  pdf : r.pdfSum = pdfWindow x (n - n % 9) (n % 9)
  psr : r.psrSum = psrWindow x (n - n % 9) (n % 9)
  early : n < 9 → controlOf r = controlOf (initialRate m)
  late : 9 ≤ n → ∃ c, speciesControl m (x (9 * (n / 9) - 1)).eta (pdfWindow x (9 * (n / 9) - 9) 8)
      (psrWindow x (9 * (n / 9) - 9) 8) (x (9 * (n / 9) - 1)).chemicalTime (x (9 * (n / 9) - 1)).flowTime
      (x (9 * (n / 9) - 1)).weakSum = some c ∧
    controlOf r = (c.selected, c.effective, c.upperBranch, c.linearEndpoint)

lemma inWindow_zero (x : ℕ → RateInput F) : InWindow m x 0 (initialRate m) :=
  ⟨rfl, rfl, fun _ => rfl, nofun⟩

lemma inWindow_succ {x : ℕ → RateInput F} {r r' : RateState F} (hr : InWindow m x n r)
    (h : advanceRate m r (clockAt n) (x n) = some r') : InWindow m x (n + 1) r' := by
  by_cases hn : n % 9 = 8
  · obtain ⟨c, hc, rfl⟩ := advanceRate_evaluate hn h
    have hmod : (n + 1) % 9 = 0 := by omega
    have hlast : 9 * ((n + 1) / 9) - 1 = n := by omega
    have hfirst : 9 * ((n + 1) / 9) - 9 = n - n % 9 := by omega
    refine ⟨?_, ?_, fun hearly => absurd hearly (by omega), fun _ => ⟨c, ?_, rfl⟩⟩
    · rw [hmod]
      rfl
    · rw [hmod]
      rfl
    · rw [hlast, hfirst, ← hc, hr.pdf, hr.psr, hn]
  · obtain ⟨hpdf, hpsr, hkeep, hinit⟩ := advanceRate_accumulate hn h
    have hmod : (n + 1) % 9 = n % 9 + 1 := by omega
    have hfirst : n + 1 - (n % 9 + 1) = n - n % 9 := by omega
    have hlast : n - n % 9 + n % 9 = n := by omega
    refine ⟨?_, ?_, ?_, ?_⟩
    · rw [hpdf, hr.pdf, hmod, hfirst, pdfWindow, pdfWindow, runningSum_succ, hlast]
    · rw [hpsr, hr.psr, hmod, hfirst, psrWindow, psrWindow, runningSum_succ, hlast]
    · intro hearly
      exact hinit (by omega)
    · intro hlate
      have hle : 9 ≤ n := by omega
      have hdiv : (n + 1) / 9 = n / 9 := by omega
      rw [hkeep hle, hdiv]
      exact hr.late hle

end HundunFlow.Proofs
