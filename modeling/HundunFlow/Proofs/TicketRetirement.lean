import HundunFlow.Proofs.TimeAgreement

/-!
# Finished tickets

A ticket is spent when the controller and its active step are beyond its generation, and no call goes
back.
-/

namespace HundunFlow.Proofs

open Lib TimeController Finset

variable {F : Type} [Field F] [LinearOrder F] [TimeReal F]

section Spent

variable {c c' : TimeController F} {generation : ℕ} {event : Option (TimeEvent F)}

structure TicketSpent (generation : ℕ) (c : TimeController F) : Prop where
  next : generation < c.nextGeneration
  active : c.active = true → generation < c.activeStep.generation

omit [Field F] [TimeReal F] in
lemma TicketSpent.matchesActive (h : TicketSpent generation c) {step : StepTime F} (hstep : step.generation = generation) :
    c.matchesActive step = false := by
  by_contra hmatch
  simp only [TimeController.matchesActive, Bool.not_eq_false, Bool.and_eq_true, decide_eq_true_eq] at hmatch
  obtain ⟨hactive, rfl⟩ := hmatch
  have hlt := h.active hactive
  rw [hstep] at hlt
  exact lt_irrefl _ hlt

lemma TicketSpent.rankStep (h : TicketSpent generation c) (hstep : RankStep c event c') : TicketSpent generation c' := by
  have hnext := h.next
  cases hstep with
  | idle lowest => exact ⟨h.next, h.active⟩
  | issue step lowest hissues =>
    refine ⟨h.next, fun _ => ?_⟩
    change generation < step.generation
    rw [hissues.generation]
    exact hnext
  | accept candidate hactive haccepts =>
    refine ⟨?_, nofun⟩
    change generation < candidate.generation
    rw [haccepts.generation]
    exact Nat.lt_succ_of_lt hnext
  | retry candidate lowest hactive hretries =>
    have hlt : generation < candidate.generation := by
      rw [hretries.generation]
      exact Nat.lt_succ_of_lt hnext
    exact ⟨hlt, fun _ => hlt⟩
  | abandon lowest hactive =>
    refine ⟨?_, nofun⟩
    change generation < if c.activeStep.generation ≠ maxU64 then c.activeStep.generation + 1 else c.nextGeneration
    have hlt := h.active hactive
    split_ifs
    · exact Nat.lt_succ_of_lt hlt
    · exact hnext

end Spent

section Runs

variable {n : ℕ} {hn : 0 < n} {hsize : n < 2 ^ 31} {plan : TimeSchemePlan F}
  {s₀ s s' : Fin n → TimeRank F} {t : List (Transition (Fin n → TimeRank F) (TimeJobCall F n))}

variable {c : TimeController F}

lemma job_rankRuns (hstart : ∀ i, TimeController.Initial plan (s₀ i).controller ∧ (s₀ i).certificates = [])
    (h : Exec (TimeJobStep hn hsize) s₀ t s) (hgen : ∀ tr ∈ t, ∀ i, (tr.pre i).controller.nextGeneration < maxU64) :
    SoundJob plan s ∧ ∀ i, RankRun plan (timeEvents i t) (s i).controller := by
  refine h.history (P := fun tr => ∀ i, (tr.pre i).controller.nextGeneration < maxU64)
    (I := fun t s => SoundJob plan s ∧ ∀ i, RankRun plan (timeEvents i t) (s i).controller) hgen ?_ ?_
  · refine ⟨fun i => ⟨(initial_invariant (hstart i).1).samePlan, ?_⟩, fun i => .initial _ (hstart i).1⟩
    rw [(hstart i).2]
    simp
  · rintro t s call s' - ⟨hsound, hruns⟩ hstep hnext
    obtain ⟨hranks, hsound'⟩ := jobStep_rankStep hsound hstep
    refine ⟨hsound', fun i => ?_⟩
    rw [timeEvents_concat]
    exact .step _ _ _ _ (hruns i) (hranks i) (hnext i)

lemma job_spent {generation : ℕ} (hsound : SoundJob plan s) (hspent : ∀ i, TicketSpent generation (s i).controller)
    (h : Exec (TimeJobStep hn hsize) s t s') : ∀ i, TicketSpent generation (s' i).controller := by
  have hrule := h.invariant (I := fun s => SoundJob plan s ∧ ∀ i, TicketSpent generation (s i).controller) ⟨hsound, hspent⟩ ?_
  · exact hrule.2
  · rintro s call s' ⟨hsound, hspent⟩ hstep
    obtain ⟨hranks, hsound'⟩ := jobStep_rankStep hsound hstep
    exact ⟨hsound', fun i => (hspent i).rankStep (hranks i)⟩

lemma coefficients_order {dt : F} {force : Bool} {bdf : BdfCoefficients F}
    (h : c.coefficients dt force = .ok bdf) : bdf.order < 2 ^ 8 := by
  rcases coefficients_cases h with rfl | ⟨rfl, -⟩
  · exact (by decide : 1 < 2 ^ 8)
  · exact (by decide : 2 < 2 ^ 8)

lemma rankRun_decodes [IsStrictOrderedRing F] {events : List (TimeEvent F)} (hvalid : plan.spec.retryFactor < 1)
    (h : RankRun plan events c) (hactive : c.active = true) : decodeStepWire (stepWire c.activeStep) = some c.activeStep := by
  suffices hfits : c.active = true → c.activeStep.attempt = c.retryCount ∧ c.activeStep.bdf.order < 2 ^ 8 by
    obtain ⟨hattempt, horder⟩ := hfits hactive
    refine decode_stepWire ?_ horder
    rw [hattempt]
    exact (rankRun_invariant hvalid h).retries.trans_lt (UInt32.toNat_lt _)
  clear hactive
  induction h with
  | initial c h =>
    intro hactive
    have hidle := (initial_invariant h).active hactive
    obtain ⟨earlier, hopen, -⟩ := hidle
    exact absurd hopen (by simp [openProposal])
  | step events c c' event _ hs _ ih =>
    cases hs with
    | idle lowest => exact ih
    | issue step lowest hissues => exact fun _ => ⟨hissues.attempt, coefficients_order hissues.coefficients⟩
    | accept candidate hactive haccepts => exact fun h => (by cases h)
    | retry candidate lowest hactive hretries => exact fun _ => ⟨rfl, coefficients_order hretries.coefficients⟩
    | abandon lowest hactive => exact fun h => (by cases h)

end Runs

section Finish

variable {n : ℕ} {hn : 0 < n} {hsize : n < 2 ^ 31} {plan : TimeSchemePlan F} {s s' : Fin n → TimeRank F}
  {steps : Fin n → StepTime F} {localOutcome : Fin n → RawStatus} {event : Fin n → Option (TimeEvent F)}

variable {prepared : PreparedTimeFinish F} {c : TimeController F}

lemma ok_or_wins {n : ℕ} (s : Fin n → Status) : (∀ i, (s i).isOk = true) ∨ ∃ k, Wins s k := by
  by_cases hok : ∀ i, (s i).isOk = true
  · exact .inl hok
  · push Not at hok
    obtain ⟨i, hi⟩ := hok
    have hfailed : (univ.filter fun i => (s i).isOk = false).Nonempty :=
      ⟨i, mem_filter.mpr ⟨mem_univ i, Bool.eq_false_of_not_eq_true hi⟩⟩
    obtain ⟨k, hk, hleast⟩ := exists_min_image _ (fun i => toLex (outcomeClass (s i), i)) hfailed
    have hbelow : ∀ i, (s i).isOk = false → outcomeClass (s k) < outcomeClass (s i) ∨
        outcomeClass (s k) = outcomeClass (s i) ∧ k ≤ i := fun i hi =>
      Prod.Lex.toLex_le_toLex.mp (hleast i (mem_filter.mpr ⟨mem_univ i, hi⟩))
    refine .inr ⟨k, (mem_filter.mp hk).2, fun i hi => ?_, fun i hi hclass => ?_⟩
    · rcases hbelow i hi with hlt | ⟨heq, -⟩
      · exact hlt.le
      · exact heq.le
    · rcases hbelow i hi with hlt | ⟨-, hle⟩
      · exact absurd hclass hlt.ne'
      · exact hle

omit [Field F] [TimeReal F] in
lemma commitRetry_next (h : (c.commitRetry prepared).committed = true) :
    (c.commitRetry prepared).next = some prepared.candidate := by
  unfold commitRetry at h ⊢
  by_cases hrefused : (!(c.matchesPrepared prepared && decide (prepared.decision = .retry))) = true
  · rw [if_pos hrefused] at h
    exact nomatch h
  · rw [if_neg hrefused]

omit [TimeReal F] in
lemma finishPrepared_retry {r : PrepareTimeResult F}
    (h : (c.finishPrepared r).committed = some .retry) : ∃ candidate, (c.finishPrepared r).next = some candidate := by
  unfold finishPrepared at h ⊢
  cases hout : r.out with
  | none =>
    rw [hout] at h
    exact nomatch h
  | some prepared =>
    rw [hout] at h
    cases hdec : prepared.decision with
    | accept =>
      simp only [hdec] at h
      split_ifs at h
      exact nomatch h
    | retry =>
      simp only [hdec] at h ⊢
      split_ifs at h with hcommitted
      exact ⟨_, commitRetry_next hcommitted⟩
    | fatal =>
      simp only [hdec] at h
      split_ifs at h
      exact nomatch h

variable [IsStrictOrderedRing F]

lemma finish_agreed (h : TimeJobStep hn hsize s ⟨.finish steps localOutcome, event⟩ s') : ∃ r : Fin n → FinishResult F,
    FinishAgreed hn (fun i => (s i).controller) steps localOutcome r ∧ (∀ i, (s' i).controller = (r i).controller) ∧
      (∀ i, event i = finishEvent (r i).committed (r i).next) ∧
      ∀ i, (r i).committed = some .retry → ∃ candidate, (r i).next = some candidate := by
  have : Nonempty (Fin n) := ⟨rankZero hn⟩
  cases h with
  | finish steps localOutcome trace r hrun =>
    obtain ⟨trace', decision, hd, hnames, hown⟩ := timeFinish_run hn hsize (fun i => (s i).controller) steps localOutcome
    obtain ⟨-, rfl⟩ := hown.unique hrun
    exact ⟨_, finished_agreed hn _ steps hd hnames, fun _ => rfl, fun _ => rfl, fun i hi => finishPrepared_retry hi⟩

lemma finish_refused (h : TimeJobStep hn hsize s ⟨.finish steps localOutcome, event⟩ s') {k : Fin n}
    (hk : (s k).controller.matchesActive (steps k) = false) (i : Fin n) : StateKept (s i).controller (s' i).controller := by
  obtain ⟨r, hagreed, hcontr, -⟩ := finish_agreed h
  have hother : ¬ AtAuthority hn (fun i => (s i).controller) steps localOutcome k := by
    intro hat
    have hactive := hat.active
    rw [hk] at hactive
    exact nomatch hactive
  rw [hcontr]
  exact (hagreed.refused k hother i).2.2

/-- The ranks are at one active step, and bring statuses of the enumeration. -/
structure Finishing (hn : 0 < n) (s : Fin n → TimeRank F) (step : StepTime F) (localOutcome : Fin n → RawStatus) : Prop where
  shared : ∀ i, SameState (s i).controller (s (rankZero hn)).controller
  active : ∀ i, (s i).controller.matchesActive step = true
  code : ∀ i, (validStatusCode (localOutcome i).code).isSome = true

/-- The ticket of `step` has no effect in any later state, and there is a new active step or none. -/
structure TicketRetired (hn : 0 < n) (hsize : n < 2 ^ 31) (plan : TimeSchemePlan F) (step : StepTime F)
    (s : Fin n → TimeRank F) : Prop where
  inactive : ∀ t later, Exec (TimeJobStep hn hsize) s t later → ∀ i, (later i).controller.matchesActive step = false
  finish : ∀ t later, Exec (TimeJobStep hn hsize) s t later → ∀ (steps : Fin n → StepTime F) localOutcome event after,
    TimeJobStep hn hsize later ⟨.finish steps localOutcome, event⟩ after → (∃ k, steps k = step) →
      ∀ i, StateKept (later i).controller (after i).controller
  commit : ∀ t later, Exec (TimeJobStep hn hsize) s t later → ∀ i decision certificate prepared,
    (later i).certificates[certificate]? = some prepared → prepared.proposal = step →
      ((later i).commit decision certificate).1.controller = (later i).controller
  next : (∃ candidate, candidate ≠ step ∧ ∀ i, (s i).controller.active = true ∧ (s i).controller.activeStep = candidate) ∨
    (∀ i, (s i).controller.active = false) ∧ ∀ limits i,
      (s i).controller.localProposal (s (rankZero hn)).controller.identity limits = plan.localCandidate limits

omit [TimeReal F] [IsStrictOrderedRing F] in
lemma commit_unmatched {rank : TimeRank F} {certificate : ℕ} {decision : TimeFinishDecision}
    (hget : rank.certificates[certificate]? = some prepared)
    (h : rank.controller.matchesActive prepared.proposal = false) :
    (rank.commit decision certificate).1.controller = rank.controller := by
  have hmatch : rank.controller.matchesPrepared prepared = false := by
    rw [matchesPrepared, h, Bool.and_false]
  simp only [TimeRank.commit, hget]
  cases decision with
  | accept => simp only [commitOf, commitAccept, hmatch, Bool.false_and, Bool.not_false, if_true]
  | retry => simp only [commitOf, commitRetry, hmatch, Bool.false_and, Bool.not_false, if_true]
  | fatal => simp only [commitOf, commitFatal, hmatch, Bool.false_and, Bool.not_false, if_true]

lemma retired_of_spent {step : StepTime F} (hsound : SoundJob plan s)
    (hspent : ∀ i, TicketSpent step.generation (s i).controller)
    (hnext : (∃ candidate, candidate ≠ step ∧ ∀ i, (s i).controller.active = true ∧ (s i).controller.activeStep = candidate) ∨
      (∀ i, (s i).controller.active = false) ∧ ∀ i, SameState (s i).controller (s (rankZero hn)).controller) :
    TicketRetired hn hsize plan step s := by
  have hlater : ∀ t later, Exec (TimeJobStep hn hsize) s t later → ∀ i, (later i).controller.matchesActive step = false :=
    fun t later h i => (job_spent hsound hspent h i).matchesActive rfl
  refine ⟨hlater, ?_, ?_, ?_⟩
  · rintro t later h steps localOutcome event after hfinish ⟨k, rfl⟩
    exact finish_refused hfinish (hlater t later h k)
  · rintro t later h i decision certificate prepared hget rfl
    exact commit_unmatched hget (hlater t later h i)
  · rcases hnext with hactive | ⟨hoff, hsame⟩
    · exact .inl hactive
    · refine .inr ⟨hoff, fun limits i => ?_⟩
      rw [localProposal, if_neg (not_not.mpr (sameState_iff.mp (hsame i)).symm), if_neg (by rw [hoff i]; simp), (hsound i).1]

section

omit [IsStrictOrderedRing F]

lemma sameState_closed {c c' d d' : TimeController F} {closing : TimeEvent F} (hclosing : closing = .accepted ∨ closing = .abandoned)
    (hc : RankStep c (some closing) c') (hd : RankStep d (some closing) d') (h : SameState c d) :
    c'.active = false ∧ SameState c' d' := by
  rcases hclosing with rfl | rfl
  · cases hc with
    | accept candidate hactive haccepts =>
      cases hd with
      | accept candidate' hactive' haccepts' =>
        refine ⟨rfl, h.fingerprint, ?_, ?_, ?_, ?_, rfl, rfl, rfl, rfl, rfl⟩
        · change candidate.time = candidate'.time
          rw [haccepts.time, haccepts'.time, h.time, h.activeStep]
        · exact congrArg StepTime.dt h.activeStep
        · change candidate.acceptedStep = candidate'.acceptedStep
          rw [haccepts.acceptedStep, haccepts'.acceptedStep, h.acceptedStep]
        · change candidate.generation = candidate'.generation
          rw [haccepts.generation, haccepts'.generation, h.nextGeneration]
  · cases hc with
    | abandon lowest hactive =>
      cases hd with
      | abandon lowest' hactive' =>
        refine ⟨rfl, h.fingerprint, h.time, h.lastAcceptedDt, h.acceptedStep, ?_, rfl, rfl, rfl, rfl, rfl⟩
        change (if c.activeStep.generation ≠ maxU64 then c.activeStep.generation + 1 else c.nextGeneration) =
          if d.activeStep.generation ≠ maxU64 then d.activeStep.generation + 1 else d.nextGeneration
        rw [h.activeStep, h.nextGeneration]

lemma spent_of_event {c c' : TimeController F} {e : TimeEvent F} (hstep : RankStep c (some e) c') (hactive : c.active = true)
    (hgeneration : c.activeStep.generation = c.nextGeneration) (hlast : c.nextGeneration < maxU64) :
    TicketSpent c.activeStep.generation c' := by
  rw [hgeneration]
  cases hstep with
  | issue step lowest hissues =>
    rw [hissues.inactive] at hactive
    exact nomatch hactive
  | accept candidate hactive haccepts =>
    refine ⟨?_, nofun⟩
    change c.nextGeneration < candidate.generation
    rw [haccepts.generation]
    exact Nat.lt_succ_self _
  | retry candidate lowest hactive hretries =>
    have hlt : c.nextGeneration < candidate.generation := by
      rw [hretries.generation]
      exact Nat.lt_succ_self _
    exact ⟨hlt, fun _ => hlt⟩
  | abandon lowest hactive =>
    refine ⟨?_, nofun⟩
    change c.nextGeneration < if c.activeStep.generation ≠ maxU64 then c.activeStep.generation + 1 else c.nextGeneration
    rw [hgeneration, if_pos hlast.ne]
    exact Nat.lt_succ_self _

lemma rankStep_retried {c c' : TimeController F} {candidate : StepTime F} (h : RankStep c (some (.retried candidate)) c') :
    c'.active = true ∧ c'.activeStep = candidate := by
  cases h
  exact ⟨rfl, rfl⟩

end

section Reached

variable {step : StepTime F} {event : Fin n → Option (TimeEvent F)} {s₀ : Fin n → TimeRank F}
  {t : List (Transition (Fin n → TimeRank F) (TimeJobCall F n))}

omit [Field F] [TimeReal F] [IsStrictOrderedRing F] in
lemma Finishing.atAuthority (h : Finishing hn s step localOutcome) (i : Fin n) :
    AtAuthority hn (fun i => (s i).controller) (fun _ => step) localOutcome i :=
  ⟨h.shared i, rfl, h.active i, h.code i⟩

omit [Field F] [TimeReal F] [IsStrictOrderedRing F] in
lemma Finishing.activeStep (h : Finishing hn s step localOutcome) (i : Fin n) :
    (s i).controller.active = true ∧ (s i).controller.activeStep = step := by
  have hactive := h.active i
  simp only [matchesActive, Bool.and_eq_true, decide_eq_true_eq] at hactive
  exact ⟨hactive.1, hactive.2.symm⟩

lemma not_retired (h : Finishing hn s step localOutcome)
    (hfinish : TimeJobStep hn hsize s ⟨.finish (fun _ => step) localOutcome, event⟩ s') {k : Fin n}
    (hk : Wins (suppliedOutcome localOutcome) k) (hcode : (suppliedOutcome localOutcome k).code = .mpiFailure) :
    ¬ TicketRetired hn hsize plan step s' := by
  intro hretired
  obtain ⟨r, hagreed, hcontr, -⟩ := finish_agreed hfinish
  have hkept := (hagreed.mpiFailure h.atAuthority k hk hcode k).2.2
  have hoff := hretired.inactive [] s' .nil k
  rw [hcontr, hkept] at hoff
  have hactive := h.active k
  simp only [matchesActive] at hactive hoff
  rw [hactive] at hoff
  cases hoff

lemma retired_of_outcome {spec : TimeControlSpec F} (hplan : TimeSchemePlan.compile spec = .ok plan)
    (hstart : ∀ i, TimeController.Initial plan (s₀ i).controller ∧ (s₀ i).certificates = [])
    (hrun : Exec (TimeJobStep hn hsize) s₀ t s) (hgen : ∀ tr ∈ t, ∀ i, (tr.pre i).controller.nextGeneration < maxU64)
    (hlast : ∀ i, (s i).controller.nextGeneration < maxU64) (h : Finishing hn s step localOutcome)
    (hfinish : TimeJobStep hn hsize s ⟨.finish (fun _ => step) localOutcome, event⟩ s')
    (hcode : ∀ k, Wins (suppliedOutcome localOutcome) k → (suppliedOutcome localOutcome k).code ≠ .mpiFailure) :
    TicketRetired hn hsize plan step s' := by
  obtain ⟨hsound, hruns⟩ := job_rankRuns hstart hrun hgen
  obtain ⟨hranks, hsound'⟩ := jobStep_rankStep hsound hfinish
  change ∀ i, RankStep (s i).controller (event i) (s' i).controller at hranks
  obtain ⟨r, hagreed, hcontr, hevent, hretry⟩ := finish_agreed hfinish
  have hvalid := compile_retryFactor hplan
  have hgeneration : ∀ i, (s i).controller.activeStep.generation = (s i).controller.nextGeneration := fun i =>
    let ⟨_, _, _, hg, _⟩ := (rankRun_invariant hvalid (hruns i)).active (h.activeStep i).1
    hg
  have hplans : ∀ i, (s i).controller.plan = (s (rankZero hn)).controller.plan := fun i => (hsound i).1.trans (hsound _).1.symm
  have hdecodes : decodeStepWire (stepWire step) = some step := by
    obtain ⟨hactive, hstep⟩ := h.activeStep (rankZero hn)
    rw [← hstep]
    exact rankRun_decodes hvalid (hruns _) hactive
  -- the ranks commit one decision
  obtain ⟨d, hd⟩ : ∃ d, ∀ i, (r i).committed = some d := by
    rcases ok_or_wins (suppliedOutcome localOutcome) with hok | ⟨k, hk⟩
    · exact ⟨_, fun i => (hagreed.accepted h.atAuthority hok hdecodes i).2⟩
    · exact ⟨_, fun i => (hagreed.failed h.atAuthority hplans k hk (hcode k hk) i).2.1⟩
  have hspent : ∀ e : Fin n → TimeEvent F, (∀ i, event i = some (e i)) → ∀ i, TicketSpent step.generation (s' i).controller := by
    intro e he i
    have hstep := hranks i
    rw [he i] at hstep
    rw [← (h.activeStep i).2]
    exact spent_of_event hstep (h.activeStep i).1 (hgeneration i) (hlast i)
  have hclosed : ∀ closing : TimeEvent F, closing = .accepted ∨ closing = .abandoned → (∀ i, event i = some closing) →
      TicketRetired hn hsize plan step s' := by
    intro closing hclosing he
    have hsame : ∀ i, (s' i).controller.active = false ∧ SameState (s' i).controller (s' (rankZero hn)).controller := by
      intro i
      have hi := hranks i
      have hzero := hranks (rankZero hn)
      rw [he] at hi hzero
      exact sameState_closed hclosing hi hzero (h.shared i)
    exact retired_of_spent hsound' (hspent _ he) (.inr ⟨fun i => (hsame i).1, fun i => (hsame i).2⟩)
  cases d with
  | accept => exact hclosed .accepted (.inl rfl) fun i => by rw [hevent, hd i]; rfl
  | fatal => exact hclosed .abandoned (.inr rfl) fun i => by rw [hevent, hd i]; rfl
  | retry =>
    obtain ⟨candidate, hnext⟩ := hretry (rankZero hn) (hd _)
    have he : ∀ i, event i = some (.retried candidate) := by
      intro i
      rw [hevent, hd i, hagreed.next i (rankZero hn), hnext]
      rfl
    have hactive : ∀ i, (s' i).controller.active = true ∧ (s' i).controller.activeStep = candidate := by
      intro i
      have hi := hranks i
      rw [he i] at hi
      exact rankStep_retried hi
    refine retired_of_spent hsound' (hspent _ he) (.inl ⟨candidate, ?_, hactive⟩)
    rintro rfl
    have hlt := (hspent _ he (rankZero hn)).active (hactive _).1
    rw [(hactive _).2] at hlt
    exact lt_irrefl _ hlt

variable (hn hsize) in
/-- In every state that a job on one compiled plan reaches, `finish` retires the ticket of the active step
if and only if the outcome that decides, the one of the lowest rank of the highest class of failure, is
not a failure of MPI. -/
theorem finished_ticket_retired {spec : TimeControlSpec F} (hplan : TimeSchemePlan.compile spec = .ok plan)
    (hstart : ∀ i, TimeController.Initial plan (s₀ i).controller ∧ (s₀ i).certificates = [])
    (hrun : Exec (TimeJobStep hn hsize) s₀ t s) (hgen : ∀ tr ∈ t, ∀ i, (tr.pre i).controller.nextGeneration < maxU64)
    (hlast : ∀ i, (s i).controller.nextGeneration < maxU64) (h : Finishing hn s step localOutcome)
    (hfinish : TimeJobStep hn hsize s ⟨.finish (fun _ => step) localOutcome, event⟩ s') :
    TicketRetired hn hsize plan step s' ↔
      ∀ k, Wins (suppliedOutcome localOutcome) k → (suppliedOutcome localOutcome k).code ≠ .mpiFailure := by
  constructor
  · intro hretired k hk hcode
    exact not_retired h hfinish hk hcode hretired
  · exact retired_of_outcome hplan hstart hrun hgen hlast h hfinish

end Reached

end Finish

lemma sample_proposed : ∃ t, Exec (TimeJobStep (n := 2) (by decide) (by decide)) (fun _ => sampleTimeRank) t
      (fun _ => { sampleTimeRank with controller := sampleActive }) ∧
    ∀ tr ∈ t, ∀ i, (tr.pre i).controller.nextGeneration < maxU64 := by
  obtain ⟨trace, hrun⟩ := propose_run (by decide : 0 < 2) (by decide) (fun _ => sampleTimeRank.controller)
    (fun _ => sampleTimeLimits)
  have hexec := Exec.single (TimeJobStep.propose (fun _ => sampleTimeRank) (fun _ => sampleTimeLimits) trace _ hrun)
  have hcontr : ∀ i : Fin 2, (proposed (by decide : 0 < 2) (fun _ => sampleTimeRank.controller)
      (fun _ => sampleTimeLimits) i).controller = sampleActive := by decide +kernel
  simp only [hcontr] at hexec
  refine ⟨_, hexec, fun tr htr i => ?_⟩
  rw [List.mem_singleton.mp htr]
  exact (by decide : 5 < maxU64)

lemma sample_finishing {localOutcome : Fin 2 → RawStatus} (h : ∀ i, (validStatusCode (localOutcome i).code).isSome = true) :
    Finishing (by decide) (fun _ => { sampleTimeRank with controller := sampleActive }) sampleActive.activeStep localOutcome :=
  ⟨fun _ => sameState_iff.mpr rfl, fun _ => by decide +kernel, h⟩

lemma two_ranks_finish (localOutcome : Fin 2 → RawStatus) : ∃ event s',
    TimeJobStep (n := 2) (by decide) (by decide) (fun _ => { sampleTimeRank with controller := sampleActive })
      ⟨.finish (fun _ => sampleActive.activeStep) localOutcome, event⟩ s' :=
  timeJob_runs _ _

/-- The second rank rejects the step, and the ticket is retired. -/
theorem finished_ticket_retired_two : ∃ event s',
    TimeJobStep (n := 2) (by decide) (by decide) (fun _ => { sampleTimeRank with controller := sampleActive })
      ⟨.finish (fun _ => sampleActive.activeStep) (fun i => if i = 0 then ⟨0, 0⟩ else ⟨6, 1⟩), event⟩ s' ∧
    TicketRetired (by decide) (by decide) sampleTimePlan sampleActive.activeStep s' := by
  obtain ⟨t, hexec, hgen⟩ := sample_proposed
  obtain ⟨event, s', hfinish⟩ := two_ranks_finish fun i => if i = 0 then ⟨0, 0⟩ else ⟨6, 1⟩
  have hplan : TimeSchemePlan.compile sampleTimeSpec = .ok sampleTimePlan := by decide +kernel
  have hinitial : TimeController.Initial sampleTimePlan sampleTimeRank.controller := .restartExact 2 1 2 5 _ (by decide +kernel)
  have hcode : ∀ k, (suppliedOutcome (fun i : Fin 2 => if i = 0 then (⟨0, 0⟩ : RawStatus) else ⟨6, 1⟩) k).code ≠ .mpiFailure := by
    decide
  exact ⟨event, s', hfinish, (finished_ticket_retired (by decide) (by decide) hplan (fun _ => ⟨hinitial, rfl⟩) hexec hgen
    (fun _ => (by decide : 5 < maxU64)) (sample_finishing (by decide)) hfinish).mpr fun k _ => hcode k⟩

/-- The second rank hands in a failure of MPI, and the ticket stays active. -/
theorem mpi_failure_keeps_ticket : ∃ t, Exec (TimeJobStep (n := 2) (by decide) (by decide)) (fun _ => sampleTimeRank) t
      (fun _ => { sampleTimeRank with controller := sampleActive }) ∧
    ∃ event s', TimeJobStep (n := 2) (by decide) (by decide) (fun _ => { sampleTimeRank with controller := sampleActive })
      ⟨.finish (fun _ => sampleActive.activeStep) (fun i => if i = 0 then ⟨0, 0⟩ else ⟨4, 1⟩), event⟩ s' ∧
    ¬ TicketRetired (by decide) (by decide) sampleTimePlan sampleActive.activeStep s' := by
  obtain ⟨t, hexec, -⟩ := sample_proposed
  obtain ⟨event, s', hfinish⟩ := two_ranks_finish fun i => if i = 0 then ⟨0, 0⟩ else ⟨4, 1⟩
  have hwins : Wins (suppliedOutcome fun i : Fin 2 => if i = 0 then (⟨0, 0⟩ : RawStatus) else ⟨4, 1⟩) 1 :=
    ⟨by decide, by decide, by decide⟩
  exact ⟨t, hexec, event, s', hfinish, not_retired (sample_finishing (by decide)) hfinish hwins (by decide)⟩

end HundunFlow.Proofs
