import HundunFlow.Proofs.TimeSteps
import Mathlib.Tactic.FieldSimp

/-!
# The time controller over whole runs

Every call of a job is a step of each rank, so a property of the history of a rank is
proved by looking at the five kinds of such steps.
-/

namespace HundunFlow.Proofs

open Lib TimeController List Function Option

variable {F : Type} [Field F] [LinearOrder F] [TimeReal F]

section Job

variable {n : ℕ} {hn : 0 < n} {hsize : n < 2 ^ 31}

variable {plan : TimeSchemePlan F}

/-- No call can leave the ranks waiting for each other. -/
theorem timeJob_runs (s : Fin n → TimeRank F) (op : TimeJobOp F n) :
    ∃ event s', TimeJobStep hn hsize s ⟨op, event⟩ s' := by
  cases op with
  | propose limits =>
    obtain ⟨trace, hrun⟩ := propose_run hn hsize (fun i => (s i).controller) limits
    exact ⟨_, _, .propose s limits trace _ hrun⟩
  | prepareFinish step localOutcome =>
    obtain ⟨trace, decision, -, -, hrun⟩ := prepareFinish_run hn hsize (fun i => (s i).controller) step
      localOutcome
    exact ⟨_, _, .prepareFinish s step localOutcome trace _ hrun⟩
  | finish step localOutcome =>
    obtain ⟨trace, decision, -, -, hrun⟩ := prepareFinish_run hn hsize (fun i => (s i).controller) step
      localOutcome
    exact ⟨_, _, .finish s step localOutcome (trace ++ []) _ (Network.Run.bind hrun (.done _))⟩
  | commit decision rank certificate => exact ⟨_, _, .commit s decision rank certificate⟩

/-- All ranks run one plan, and their certificates are sound. -/
def SoundJob (plan : TimeSchemePlan F) (s : Fin n → TimeRank F) : Prop :=
  ∀ i, (s i).controller.plan = plan ∧ ∀ prepared ∈ (s i).certificates, Sound plan prepared

lemma finishPrepared_rankStep {c : TimeController F} {r : PrepareTimeResult F} (hplan : c.plan = plan)
    (hsound : ∀ prepared, r.out = some prepared → Sound plan prepared) :
    RankStep c (finishEvent (c.finishPrepared r).committed (c.finishPrepared r).next)
      (c.finishPrepared r).controller := by
  unfold finishPrepared
  cases hout : r.out with
  | none => exact .idle c (-1)
  | some prepared =>
    cases hdec : prepared.decision with
    | accept =>
      have h := (commitOf_rankStep hplan (hsound prepared hout) .accept).1
      have hnext : (c.commitAccept prepared).next = none := by
        unfold commitAccept
        split <;> rfl
      simp only [commitOf, hnext] at h
      simp only [hdec]
      exact h
    | retry =>
      have h := (commitOf_rankStep hplan (hsound prepared hout) .retry).1
      simp only [hdec]
      exact h
    | fatal =>
      have h := (commitOf_rankStep hplan (hsound prepared hout) .fatal).1
      have hnext : (c.commitFatal prepared).next = none := by
        unfold commitFatal
        dsimp only
        split <;> rfl
      simp only [commitOf, hnext] at h
      simp only [hdec]
      exact h

lemma commit_rankStep {rank : TimeRank F} (hplan : rank.controller.plan = plan)
    (hsound : ∀ prepared ∈ rank.certificates, Sound plan prepared) (decision : TimeFinishDecision) (certificate : ℕ) :
    RankStep rank.controller (rank.commit decision certificate).2
        (rank.commit decision certificate).1.controller ∧
      ∀ prepared ∈ (rank.commit decision certificate).1.certificates, Sound plan prepared := by
  unfold TimeRank.commit
  cases hget : rank.certificates[certificate]? with
  | none => exact ⟨.idle rank.controller rank.controller.lowestFailingRank, hsound⟩
  | some prepared =>
    have hmem : prepared ∈ rank.certificates := mem_of_getElem? hget
    obtain ⟨hstep, hdone⟩ := commitOf_rankStep hplan (hsound prepared hmem) decision
    refine ⟨hstep, fun other hother => ?_⟩
    rcases mem_or_eq_of_mem_set hother with hold | hnew
    · exact hsound other hold
    · rw [hnew]
      exact hdone

lemma jobStep_rankStep {s s' : Fin n → TimeRank F} {call : TimeJobCall F n} (hsound : SoundJob plan s)
    (h : TimeJobStep hn hsize s call s') :
    (∀ i, RankStep (s i).controller (call.event i) (s' i).controller) ∧ SoundJob plan s' := by
  have : Nonempty (Fin n) := ⟨⟨0, hn⟩⟩
  have hplans : ∀ i, (s i).controller.plan = plan := fun i => (hsound i).1
  suffices hsuffices : (∀ i, RankStep (s i).controller (call.event i) (s' i).controller) ∧
      ∀ i, ∀ prepared ∈ (s' i).certificates, Sound plan prepared by
    refine ⟨hsuffices.1, fun i => ⟨?_, hsuffices.2 i⟩⟩
    rw [(hsuffices.1 i).plan_eq, hplans i]
  cases h with
  | propose limits trace r hrun =>
    obtain ⟨trace', hown⟩ := propose_run hn hsize (fun i => (s i).controller) limits
    obtain ⟨-, rfl⟩ := hown.unique hrun
    exact ⟨proposed_rankStep hn _ limits hplans, fun i => (hsound i).2⟩
  | prepareFinish step localOutcome trace r hrun =>
    obtain ⟨trace', decision, hdecided, -, hown⟩ := prepareFinish_run hn hsize
      (fun i => (s i).controller) step localOutcome
    obtain ⟨-, rfl⟩ := hown.unique hrun
    refine ⟨fun i => .idle _ _, fun i prepared hmem => ?_⟩
    rcases mem_append.mp hmem with hold | hnew
    · exact (hsound i).2 prepared hold
    · exact preparedFinish_sound hn _ step localOutcome hplans hdecided i (mem_toList.mp hnew)
  | finish step localOutcome trace r hrun =>
    obtain ⟨trace', decision, hdecided, -, hown⟩ := prepareFinish_run hn hsize
      (fun i => (s i).controller) step localOutcome
    have hfinish : (mpiJob hn).Run
        (fun i => (s i).controller.finish (.valid (jobComm hsize i)) (step i) (localOutcome i)) (trace' ++ [])
        (fun i => (s i).controller.finishPrepared
          (preparedFinish hn (fun i => (s i).controller) step decision i)) :=
      Network.Run.bind hown (.done _)
    obtain ⟨-, rfl⟩ := hfinish.unique hrun
    refine ⟨fun i => ?_, fun i => (hsound i).2⟩
    exact finishPrepared_rankStep (hplans i) fun prepared hout =>
      preparedFinish_sound hn _ step localOutcome hplans hdecided i hout
  | commit decision rank certificate =>
    obtain ⟨hstep, hdone⟩ := commit_rankStep (hplans rank) (hsound rank).2 decision certificate
    constructor
    · intro i
      by_cases hi : i = rank
      · subst hi
        simpa only [update_self] using hstep
      · simp only [update_of_ne hi]
        exact .idle _ _
    · intro i
      by_cases hi : i = rank
      · subst hi
        simpa only [update_self] using hdone
      · simpa only [update_of_ne hi] using (hsound i).2

end Job

/-- The difference formula of a step applied to a function of time, with the accepted time
before the start of the step at distance `lastDt`. -/
def applyBdf (step : StepTime F) (lastDt : F) (f : F → F) : F :=
  step.bdf.a0 * f (step.time + step.dt) + step.bdf.a1 * f step.time + step.bdf.a2 * f (step.time - lastDt)

/-- A step handed out by `c`: its size, and what its formula differentiates exactly. -/
structure Consistent (c : TimeController F) (step : StepTime F) : Prop where
  lower : c.plan.spec.minimumDt ≤ step.dt
  upper : step.dt ≤ c.plan.spec.maximumDt
  start : step.time = c.time
  sum_zero : step.bdf.a0 + step.bdf.a1 + step.bdf.a2 = 0
  order : step.bdf.order = 1 ∨ step.bdf.order = 2
  linear : ∀ a b : F, applyBdf step c.lastAcceptedDt (fun x => a * x + b) = a
  quadratic : step.bdf.order = 2 → ∀ a b d : F,
    applyBdf step c.lastAcceptedDt (fun x => a * x ^ 2 + b * x + d) = 2 * a * (step.time + step.dt) + b

variable {c : TimeController F} {bdf : BdfCoefficients F} (events : List (TimeEvent F))

variable (event : TimeEvent F)

lemma coefficients_retry {dt : F} (h : c.coefficients dt true = .ok bdf) : bdf = backwardEuler dt := by
  unfold coefficients at h
  simp only [Bool.not_true, Bool.false_and, Bool.false_eq_true, if_false] at h
  split_ifs at h
  exact (Except.ok.inj h).symm

lemma coefficients_cases {dt : F} {force : Bool} (h : c.coefficients dt force = .ok bdf) :
    bdf = backwardEuler dt ∨ (bdf = variableBdf2 dt c.lastAcceptedDt ∧ 0 < c.lastAcceptedDt) := by
  unfold coefficients at h
  dsimp only at h
  split_ifs at h with hpos hbdf hfinite hfinite
  · right
    simp only [Bool.and_eq_true, TimeSchemePlan.finitePositive, decide_eq_true_eq] at hbdf
    exact ⟨(Except.ok.inj h).symm, hbdf.1.1.1.2.2⟩
  · exact .inl (Except.ok.inj h).symm

section Formulas

variable [IsStrictOrderedRing F]

lemma consistent_of_coefficients {c : TimeController F} {step : StepTime F} {force : Bool}
    (hlower : c.plan.spec.minimumDt ≤ step.dt) (hupper : step.dt ≤ c.plan.spec.maximumDt)
    (hstart : step.time = c.time) (h : c.coefficients step.dt force = .ok step.bdf) : Consistent c step := by
  have hdt := coefficients_positive c h
  have hne : step.dt ≠ 0 := hdt.ne'
  rcases coefficients_cases h with heuler | ⟨hbdf2, hlast⟩
  · refine ⟨hlower, hupper, hstart, ?_, .inl (by rw [heuler]; rfl), ?_, ?_⟩
    · rw [heuler, backwardEuler]
      ring
    · intro a b
      rw [applyBdf, heuler, backwardEuler]
      field_simp
      ring
    · intro horder
      rw [heuler] at horder
      exact absurd horder (by simp [backwardEuler])
  · have hlastne : c.lastAcceptedDt ≠ 0 := hlast.ne'
    have hsum : c.lastAcceptedDt + step.dt ≠ 0 := by positivity
    have hratio : 1 + step.dt / c.lastAcceptedDt ≠ 0 := by positivity
    refine ⟨hlower, hupper, hstart, ?_, .inr (by rw [hbdf2]; rfl), ?_, ?_⟩
    · rw [hbdf2, variableBdf2]
      field_simp
      ring
    · intro a b
      rw [applyBdf, hbdf2, variableBdf2]
      field_simp
      ring
    · intro _ a b d
      rw [applyBdf, hbdf2, variableBdf2]
      field_simp
      ring

end Formulas

def proposalAfter (steps : List (StepTime F)) (event : TimeEvent F) : List (StepTime F) :=
  match event with
  | .issued step => [step]
  | .retried step => steps ++ [step]
  | .accepted => []
  | .abandoned => []

def openProposal (events : List (TimeEvent F)) : List (StepTime F) := events.foldl proposalAfter []

omit [Field F] [LinearOrder F] [TimeReal F] in
lemma openProposal_concat : openProposal (events ++ [event]) = proposalAfter (openProposal events) event := by
  rw [openProposal, foldl_append]
  rfl

def tickets (events : List (TimeEvent F)) : List ℕ := (events.filterMap TimeEvent.step).map (·.generation)

omit [Field F] [LinearOrder F] [TimeReal F] in
lemma tickets_concat : tickets (events ++ [event]) = tickets events ++ (event.step.map (·.generation)).toList := by
  unfold tickets
  rw [filterMap_append, map_append]
  cases event <;> rfl

inductive RankRun (plan : TimeSchemePlan F) : List (TimeEvent F) → TimeController F → Prop where
  | initial (c : TimeController F) (h : TimeController.Initial plan c) : RankRun plan [] c
  | step (events : List (TimeEvent F)) (c c' : TimeController F) (event : Option (TimeEvent F))
      (h : RankRun plan events c) (hs : RankStep c event c') (hgen : c.nextGeneration < maxU64) :
      RankRun plan (events ++ event.toList) c'

structure RankInvariant (plan : TimeSchemePlan F) (events : List (TimeEvent F)) (c : TimeController F) :
    Prop where
  samePlan : c.plan = plan
  retries : c.retryCount ≤ plan.spec.maximumRetries.toNat
  idle : c.active = false → openProposal events = [] ∧ c.retryCount = 0 ∧ ∀ g ∈ tickets events, g < c.nextGeneration
  active : c.active = true → ∃ earlier, openProposal events = earlier ++ [c.activeStep] ∧
    earlier.length = c.retryCount ∧ c.activeStep.generation = c.nextGeneration ∧
    0 < c.activeStep.dt ∧ c.activeStep.dt ≤ plan.spec.maximumDt ∧ ∀ g ∈ tickets events, g ≤ c.nextGeneration
  decreasing : (openProposal events).Pairwise fun a b => b.dt < a.dt
  euler : ∀ step ∈ (openProposal events).tail, step.bdf = backwardEuler step.dt
  ascending : (tickets events).Pairwise (· < ·)

lemma initial_invariant {plan : TimeSchemePlan F} (h : TimeController.Initial plan c) : RankInvariant plan [] c := by
  have hc : c.plan = plan ∧ c.retryCount = 0 ∧ c.active = false := by
    cases h with
    | start time _ h =>
      unfold TimeController.start at h
      split_ifs at h
      rw [← Except.ok.inj h]
      exact ⟨rfl, rfl, rfl⟩
    | restart time lastAcceptedDt acceptedStep _ h =>
      unfold TimeController.restart at h
      split_ifs at h
      rw [← Except.ok.inj h]
      exact ⟨rfl, rfl, rfl⟩
    | restartExact time lastAcceptedDt acceptedStep nextGeneration _ h =>
      unfold TimeController.restartExact at h
      split_ifs at h
      rw [← Except.ok.inj h]
      exact ⟨rfl, rfl, rfl⟩
  obtain ⟨hplan, hretry, hoff⟩ := hc
  refine ⟨hplan, by omega, fun _ => ⟨rfl, hretry, by simp [tickets]⟩, ?_, .nil, by simp [openProposal], .nil⟩
  intro hactive
  exact absurd hactive (by simp [hoff])

section Steps

variable {plan : TimeSchemePlan F} {events : List (TimeEvent F)}
  {c : TimeController F}

variable {c' : TimeController F} {earlier : List (TimeEvent F)}

omit [TimeReal F] in
lemma RankInvariant.close (h : RankInvariant plan events c) (hactive : c.active = true)
    {event : TimeEvent F} (hevent : event = .accepted ∨ event = .abandoned)
    (hplan : c'.plan = plan) (hretry : c'.retryCount = 0) (hoff : c'.active = false)
    (hgeneration : c.nextGeneration < c'.nextGeneration) : RankInvariant plan (events ++ [event]) c' := by
  obtain ⟨earlier, -, -, -, -, -, hle⟩ := h.active hactive
  have hopen : openProposal (events ++ [event]) = [] := by
    rw [openProposal_concat]
    rcases hevent with rfl | rfl <;> rfl
  have htickets : tickets (events ++ [event]) = tickets events := by
    rw [tickets_concat]
    rcases hevent with rfl | rfl <;> exact append_nil _
  refine ⟨hplan, by omega, ?_, ?_, by rw [hopen]; exact .nil, by simp [hopen], htickets ▸ h.ascending⟩
  · intro _
    refine ⟨hopen, hretry, fun g hg => ?_⟩
    rw [htickets] at hg
    exact (hle g hg).trans_lt hgeneration
  · intro hc'
    exact absurd hc' (by simp [hoff])

variable [IsStrictOrderedRing F]

lemma rankStep_invariant (hvalid : plan.spec.retryFactor < 1) (h : RankInvariant plan events c)
    {event : Option (TimeEvent F)} (hs : RankStep c event c')
    (hgen : c.nextGeneration < maxU64) : RankInvariant plan (events ++ event.toList) c' := by
  cases hs with
  | idle lowest =>
    rw [toList_none, append_nil]
    exact ⟨h.samePlan, h.retries, h.idle, h.active, h.decreasing, h.euler, h.ascending⟩
  | issue step lowest hissues =>
    obtain ⟨-, hretry, hlt⟩ := h.idle hissues.inactive
    have hopen : openProposal (events ++ [.issued step]) = [step] := openProposal_concat _ _
    have htickets : tickets (events ++ [.issued step]) = tickets events ++ [step.generation] :=
      tickets_concat _ _
    rw [toList_some]
    refine ⟨h.samePlan, h.retries, nofun, fun _ => ?_,
      by rw [hopen]; exact pairwise_singleton _ _, by simp [hopen], ?_⟩
    · refine ⟨[], hopen, hretry.symm, hissues.generation, coefficients_positive c hissues.coefficients,
        h.samePlan ▸ hissues.upper, fun g hg => ?_⟩
      rw [htickets, mem_append, mem_singleton] at hg
      rcases hg with hg | rfl
      · exact (hlt g hg).le
      · exact hissues.generation.le
    · rw [htickets, pairwise_append]
      refine ⟨h.ascending, pairwise_singleton _ _, fun a ha b hb => ?_⟩
      rw [mem_singleton.mp hb, hissues.generation]
      exact hlt a ha
  | accept candidate hactive haccepts =>
    rw [toList_some]
    refine h.close hactive (.inl rfl) h.samePlan rfl rfl ?_
    rw [haccepts.generation]
    exact Nat.lt_succ_self _
  | retry candidate lowest hactive hretries =>
    obtain ⟨earlier, hearlier, hlength, hgeneration, hpos, hupper, hle⟩ := h.active hactive
    have hopen : openProposal (events ++ [.retried candidate]) = openProposal events ++ [candidate] :=
      openProposal_concat _ _
    have htickets : tickets (events ++ [.retried candidate]) = tickets events ++ [candidate.generation] :=
      tickets_concat _ _
    have hsmaller : candidate.dt < c.activeStep.dt := by
      rw [hretries.dt, h.samePlan]
      exact mul_lt_of_lt_one_right hpos hvalid
    rw [toList_some]
    have hcount : c.retryCount < plan.spec.maximumRetries.toNat := h.samePlan ▸ hretries.count
    have hattempt := hretries.attempt
    refine ⟨h.samePlan, by show candidate.attempt ≤ _; omega,
      nofun, fun _ => ?_, ?_, ?_, ?_⟩
    · refine ⟨openProposal events, hopen, ?_, rfl, coefficients_positive c hretries.coefficients,
        hsmaller.le.trans hupper, fun g hg => ?_⟩
      · show (openProposal events).length = candidate.attempt
        rw [hearlier, length_append, length_singleton]
        omega
      · show g ≤ candidate.generation
        rw [hretries.generation]
        rw [htickets, mem_append, mem_singleton] at hg
        rcases hg with hg | rfl
        · have := hle g hg
          omega
        · rw [hretries.generation]
    · rw [hopen, pairwise_append]
      refine ⟨h.decreasing, pairwise_singleton _ _, fun a ha b hb => ?_⟩
      rw [mem_singleton.mp hb]
      have hdecr := h.decreasing
      rw [hearlier] at ha hdecr
      rcases mem_append.mp ha with hold | hlast
      · exact hsmaller.trans ((pairwise_append.mp hdecr).2.2 a hold c.activeStep (by simp))
      · rw [mem_singleton.mp hlast]
        exact hsmaller
    · intro step hstep
      rw [hopen, hearlier, append_assoc] at hstep
      have hne : earlier ++ ([c.activeStep] ++ [candidate]) = (earlier ++ [c.activeStep]) ++ [candidate] := by simp
      rw [hne, tail_append_of_ne_nil (by simp), mem_append, ← hearlier] at hstep
      rcases hstep with hold | hnew
      · exact h.euler step hold
      · rw [mem_singleton.mp hnew]
        exact coefficients_retry hretries.coefficients
    · rw [htickets, pairwise_append]
      refine ⟨h.ascending, pairwise_singleton _ _, fun a ha b hb => ?_⟩
      rw [mem_singleton.mp hb, hretries.generation]
      have := hle a ha
      omega
  | abandon lowest hactive =>
    obtain ⟨-, -, -, hgeneration, -⟩ := h.active hactive
    rw [toList_some]
    refine h.close hactive (.inr rfl) h.samePlan rfl rfl ?_
    rw [hgeneration, if_pos hgen.ne]
    exact Nat.lt_succ_self _

lemma rankRun_invariant (hvalid : plan.spec.retryFactor < 1) (h : RankRun plan events c) :
    RankInvariant plan events c := by
  induction h with
  | initial c h => exact initial_invariant h
  | step events c c' event _ hs hgen ih => exact rankStep_invariant hvalid ih hs hgen

omit [IsStrictOrderedRing F] in
lemma rankRun_prefix (h : RankRun plan events c) (hp : earlier <+: events) :
    ∃ c', RankRun plan earlier c' := by
  induction h with
  | initial c h =>
    rw [prefix_nil.mp hp]
    exact ⟨c, .initial c h⟩
  | step events c c' event h hs hgen ih =>
    cases event with
    | none =>
      rw [toList_none, append_nil] at hp
      exact ih hp
    | some event =>
      rw [toList_some, prefix_concat_iff] at hp
      rcases hp with rfl | hp
      · exact ⟨c', .step events c c' (some event) h hs hgen⟩
      · exact ih hp

lemma rankRun_retried (hvalid : plan.spec.retryFactor < 1) {step : StepTime F}
    (h : RankRun plan (earlier ++ [.retried step]) c) : openProposal earlier ≠ [] := by
  generalize hevents : earlier ++ [.retried step] = events at h
  induction h with
  | initial c h => exact absurd hevents (by simp)
  | step events c c' event h hs hgen ih =>
    cases event with
    | none =>
      rw [toList_none, append_nil] at hevents
      exact ih hevents
    | some event =>
      obtain ⟨rfl, hlast⟩ := append_inj' hevents rfl
      obtain rfl : TimeEvent.retried step = event := by simpa using hlast
      cases hs with
      | retry _ lowest hactive hretries =>
        obtain ⟨front, hfront, -⟩ := (rankRun_invariant hvalid h).active hactive
        rw [hfront]
        simp

end Steps

/-- What one call does to the accepted state of a rank, and what it hands out. -/
structure Accounts (before : TimeController F) (event : Option (TimeEvent F)) (after : TimeController F) :
    Prop where
  accepted : event = some .accepted → before.time < after.time ∧
    after.time = before.time + after.lastAcceptedDt ∧ after.acceptedStep = before.acceptedStep + 1
  unchanged : event ≠ some .accepted → after.time = before.time ∧
    after.lastAcceptedDt = before.lastAcceptedDt ∧ after.acceptedStep = before.acceptedStep
  issued : ∀ e step, event = some e → e.step = some step → Consistent before step

/-- The rules of one proposal: few enough retries, each smaller than the step before it and
with the weights of the backward Euler method. -/
structure ProposalRules (plan : TimeSchemePlan F) (steps : List (StepTime F)) : Prop where
  count : steps.length ≤ plan.spec.maximumRetries.toNat + 1
  decreasing : steps.Pairwise fun a b => b.dt < a.dt
  euler : ∀ step ∈ steps.tail, step.bdf = backwardEuler step.dt

section Invariant

variable {plan : TimeSchemePlan F}

variable {events : List (TimeEvent F)}

omit [TimeReal F] in
lemma RankInvariant.rules {c : TimeController F}
    (h : RankInvariant plan events c) : ProposalRules plan (openProposal events) := by
  refine ⟨?_, h.decreasing, h.euler⟩
  have hretries := h.retries
  cases hactive : c.active with
  | false =>
    rw [(h.idle hactive).1]
    exact Nat.zero_le _
  | true =>
    obtain ⟨earlier, hearlier, hlength, -⟩ := h.active hactive
    rw [hearlier, length_append, length_singleton]
    omega

variable [IsStrictOrderedRing F]

lemma rankStep_accounts (hvalid : plan.spec.retryFactor < 1) {c c' : TimeController F}
    {event : Option (TimeEvent F)} (h : RankInvariant plan events c) (hs : RankStep c event c') : Accounts c event c' := by
  cases hs with
  | idle lowest => exact ⟨nofun, fun _ => ⟨rfl, rfl, rfl⟩, nofun⟩
  | issue step lowest hissues =>
    refine ⟨nofun, fun _ => ⟨rfl, rfl, rfl⟩, fun e s he hstep => ?_⟩
    obtain rfl := some.inj he
    obtain rfl := some.inj hstep
    exact consistent_of_coefficients hissues.lower hissues.upper hissues.time hissues.coefficients
  | accept candidate hactive haccepts =>
    refine ⟨fun _ => ⟨haccepts.later, haccepts.time, haccepts.acceptedStep⟩, fun hne => absurd rfl hne,
      fun e s he hstep => ?_⟩
    obtain rfl := some.inj he
    exact absurd hstep (by simp [TimeEvent.step])
  | retry candidate lowest hactive hretries =>
    refine ⟨nofun, fun _ => ⟨rfl, rfl, rfl⟩, fun e s he hstep => ?_⟩
    obtain rfl := some.inj he
    obtain rfl := some.inj hstep
    obtain ⟨-, -, -, -, hpos, hupper, -⟩ := h.active hactive
    have hsmaller : candidate.dt ≤ c.activeStep.dt := by
      rw [hretries.dt, h.samePlan]
      exact (mul_lt_of_lt_one_right hpos hvalid).le
    have hmax : candidate.dt ≤ c.plan.spec.maximumDt := by
      rw [h.samePlan]
      exact hsmaller.trans hupper
    exact consistent_of_coefficients hretries.lower hmax hretries.time hretries.coefficients
  | abandon lowest hactive =>
    refine ⟨nofun, fun _ => ⟨rfl, rfl, rfl⟩, fun e s he hstep => ?_⟩
    obtain rfl := some.inj he
    exact absurd hstep (by simp [TimeEvent.step])

omit [IsStrictOrderedRing F] in
lemma compile_retryFactor {spec : TimeControlSpec F} (h : TimeSchemePlan.compile spec = .ok plan) :
    plan.spec.retryFactor < 1 := by
  unfold TimeSchemePlan.compile at h
  split_ifs at h with hspec
  have hvalid : TimeSchemePlan.validSpec spec = true := by simpa using hspec
  obtain rfl : (⟨spec, TimeSchemePlan.fingerprintOf spec⟩ : TimeSchemePlan F) = plan := Except.ok.inj h
  simp only [TimeSchemePlan.validSpec, Bool.and_eq_true, decide_eq_true_eq] at hvalid
  exact hvalid.1.1.1.1.2

variable {n : ℕ} {hn : 0 < n} {hsize : n < 2 ^ 31}

omit [Field F] [LinearOrder F] [TimeReal F] [IsStrictOrderedRing F] in
lemma timeEvents_concat (i : Fin n) (t : List (Transition (Fin n → TimeRank F) (TimeJobCall F n)))
    (tr : Transition (Fin n → TimeRank F) (TimeJobCall F n)) :
    timeEvents i (t ++ [tr]) = timeEvents i t ++ (tr.op.event i).toList := by
  unfold timeEvents
  rw [filterMap_append]
  cases h : tr.op.event i <;> simp [h]

end Invariant

/-- The numbers of the sample plan, with their bits as `double`s. -/
instance : TimeReal ℚ where
  isFinite _ := true
  bits q := if q = 1 then 0x3ff0000000000000 else if q = 2 then 0x4000000000000000
    else if q = 1 / 2 then 0x3fe0000000000000 else 0

def sampleTimeSpec : TimeControlSpec ℚ where
  control := .fixed
  scheme := .variableBdf2
  initialDt := 1
  minimumDt := 1 / 2
  maximumDt := 2
  convectiveCfl := 1
  viscousCfl := 1
  thermalCfl := 1
  speciesCfl := 1
  acousticCfl := 1
  maximumGrowth := 2
  retryFactor := 1 / 2
  maximumRetries := 2
  minimumBdfRatio := 1 / 2
  maximumBdfRatio := 2
  convectiveCflMargin := 0
  convectiveCflDefinition := .outgoingSum

def sampleTimePlan : TimeSchemePlan ℚ := ⟨sampleTimeSpec, TimeSchemePlan.fingerprintOf sampleTimeSpec⟩

/-- A rank that restarts at time 2 after a step of size 1, exactly. -/
def sampleTimeRank : TimeRank ℚ where
  controller := { plan := sampleTimePlan, activeStep := noStep, time := 2, lastAcceptedDt := 1, acceptedStep := 2
                  nextGeneration := 5, nextOrigin := .restart, forceBackwardEuler := false }

def sampleTimeLimits : LocalTimeLimits ℚ := ⟨.infinity, .infinity, .infinity, .infinity, .infinity, .number 0⟩

end HundunFlow.Proofs
