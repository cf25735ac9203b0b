import HundunFlow.Proofs.TimeDecisions

/-!
# Steps of one rank

Whatever the other ranks do, a call changes the controller of a rank in one of five ways: it
records a failing rank only, activates an issued step, replaces the active step by a retry,
accepts it or abandons it.
-/

namespace HundunFlow.Proofs

open Lib TimeController Option

variable {F : Type} [Field F] [LinearOrder F] [TimeReal F]

/-- `step` may be issued by the controller `c`. -/
structure Issues (c : TimeController F) (step : StepTime F) : Prop where
  inactive : c.active = false
  time : step.time = c.time
  attempt : step.attempt = c.retryCount
  generation : step.generation = c.nextGeneration
  lower : c.plan.spec.minimumDt ≤ step.dt
  upper : step.dt ≤ c.plan.spec.maximumDt
  coefficients : c.coefficients step.dt c.forceBackwardEuler = .ok step.bdf

/-- `candidate` may replace the active step `step` of `c`. -/
structure Retries (c : TimeController F) (step candidate : StepTime F) : Prop where
  count : c.retryCount < c.plan.spec.maximumRetries.toNat
  time : candidate.time = c.time
  dt : candidate.dt = step.dt * c.plan.spec.retryFactor
  attempt : candidate.attempt = c.retryCount + 1
  generation : candidate.generation = c.nextGeneration + 1
  lower : c.plan.spec.minimumDt ≤ candidate.dt
  coefficients : c.coefficients candidate.dt true = .ok candidate.bdf

/-- `candidate` is the state of `c` after it accepts `step`. -/
structure Accepts (c : TimeController F) (step candidate : StepTime F) : Prop where
  time : candidate.time = c.time + step.dt
  later : c.time < candidate.time
  acceptedStep : candidate.acceptedStep = c.acceptedStep + 1
  generation : candidate.generation = c.nextGeneration + 1

inductive RankStep : TimeController F → Option (TimeEvent F) → TimeController F → Prop where
  | idle (c : TimeController F) (lowest : ℤ) : RankStep c none { c with lowestFailingRank := lowest }
  | issue (c : TimeController F) (step : StepTime F) (lowest : ℤ) (h : Issues c step) :
      RankStep c (some (.issued step))
        { c with lowestFailingRank := lowest, activeStep := step, active := true }
  | accept (c : TimeController F) (candidate : StepTime F) (hactive : c.active = true)
      (h : Accepts c c.activeStep candidate) :
      RankStep c (some .accepted)
        { c with
          time := candidate.time, lastAcceptedDt := c.activeStep.dt
          acceptedStep := candidate.acceptedStep, nextGeneration := candidate.generation
          retryCount := 0, lowestFailingRank := -1, nextOrigin := .accepted
          forceBackwardEuler := false, active := false, activeStep := noStep }
  | retry (c : TimeController F) (candidate : StepTime F) (lowest : ℤ) (hactive : c.active = true)
      (h : Retries c c.activeStep candidate) :
      RankStep c (some (.retried candidate))
        { c with
          retryCount := candidate.attempt, nextGeneration := candidate.generation
          lowestFailingRank := lowest, nextOrigin := .retry, forceBackwardEuler := true
          activeStep := candidate, active := true }
  | abandon (c : TimeController F) (lowest : ℤ) (hactive : c.active = true) :
      RankStep c (some .abandoned)
        { c with
          nextGeneration :=
            if c.activeStep.generation ≠ maxU64 then c.activeStep.generation + 1 else c.nextGeneration
          retryCount := 0, lowestFailingRank := lowest, nextOrigin := .retry
          forceBackwardEuler := true, activeStep := noStep, active := false }

section RankZero

variable (c : TimeController F)

variable (step : StepTime F)

lemma coefficients_positive {dt : F} {force : Bool} {bdf : BdfCoefficients F}
    (h : c.coefficients dt force = .ok bdf) : 0 < dt := by
  unfold coefficients at h
  by_contra hneg
  rw [if_pos (by simp [TimeSchemePlan.finitePositive, hneg])] at h
  exact nomatch h

lemma coefficients_error_code {dt : F} {force : Bool} {status : Status}
    (h : c.coefficients dt force = .error status) : status.isOk = false := by
  unfold coefficients at h
  split_ifs at h
  · rw [← Except.error.inj h]
    rfl
  · dsimp only at h
    split_ifs at h
    all_goals
      rw [← Except.error.inj h]
      rfl

lemma propose0_issues (globalDt : F) (hoff : c.active = false) (hok : (c.propose0 globalDt).1.isOk = true)
    (hupper : (c.propose0 globalDt).2.dt ≤ c.plan.spec.maximumDt) : Issues c (c.propose0 globalDt).2 := by
  unfold propose0 at hok hupper ⊢
  dsimp only at hok hupper ⊢
  split_ifs at hok hupper ⊢ with hfinite hlow
  · exact nomatch hok
  · exact nomatch hok
  · cases hbdf : c.coefficients (c.proposedDt globalDt) c.forceBackwardEuler with
    | error status =>
      rw [hbdf] at hok
      exact absurd hok (by simp [coefficients_error_code c hbdf])
    | ok bdf =>
      rw [hbdf] at hupper
      exact ⟨hoff, rfl, rfl, rfl, not_lt.mp hlow, hupper, hbdf⟩

lemma accept0_accepts (hok : (c.accept0 step).1.isOk = true) : Accepts c step (c.accept0 step).2 := by
  unfold accept0 at hok ⊢
  split_ifs at hok ⊢ with hlast
  · cases hok
  · dsimp only at hok ⊢
    split_ifs at hok ⊢ with hlater
    · cases hok
    · rw [Bool.not_eq_true, Bool.or_eq_false_iff, decide_eq_false_iff_not, not_le] at hlater
      exact ⟨rfl, hlater.2, rfl, rfl⟩

lemma retry0_retries (hok : (c.retry0 step).1.isOk = true) : Retries c step (c.retry0 step).2 := by
  unfold retry0 at hok ⊢
  dsimp only at hok ⊢
  split_ifs at hok ⊢ with hcount hlow
  · exact nomatch hok
  · exact nomatch hok
  · simp only [Bool.or_eq_true, decide_eq_true_eq, not_or, not_le, not_lt] at hcount hlow
    cases hbdf : c.coefficients (step.dt * c.plan.spec.retryFactor) true with
    | error status =>
      rw [hbdf] at hok
      exact absurd hok (by simp [coefficients_error_code c hbdf])
    | ok bdf => exact ⟨hcount.1, rfl, rfl, rfl, rfl, hlow.2, hbdf⟩

end RankZero

variable {c : TimeController F} {step : StepTime F} {decision : FinishDecision}
  {authority : List (TimeWord F)} {localOutcome : RawStatus} {prepared : PreparedTimeFinish F}

variable {d : TimeController F} {candidate : StepTime F}

omit [Field F] [LinearOrder F] [TimeReal F] in
lemma eq_of_identity (hplan : c.plan = d.plan) (h : c.identity = d.identity) :
    c = { d with lowestFailingRank := c.lowestFailingRank } := by
  have horigin : c.nextOrigin = d.nextOrigin := by
    have hwire : c.nextOrigin.toWire = d.nextOrigin.toWire := by
      simp only [identity, List.cons_append, List.cons.injEq, TimeWord.int.injEq] at h
      exact h.2.2.2.2.2.2.1
    have := StepOrigin.ofWire_toWire c.nextOrigin
    rwa [hwire, StepOrigin.ofWire_toWire, some.injEq, eq_comm] at this
  have hbool : ∀ x y : Bool, x.toNat = y.toNat → x = y := by decide
  simp only [identity, List.cons_append, List.cons.injEq, TimeWord.int.injEq, TimeWord.real.injEq,
    List.nil_append] at h
  obtain ⟨-, htime, hdt, hstep, hgeneration, hretry, -, hforce, hactive, hwire⟩ := h
  have hactiveStep := stepWire_injective hwire
  have hforce' := hbool _ _ hforce
  have hactive' := hbool _ _ hactive
  cases c
  cases d
  simp_all

omit [Field F] [LinearOrder F] [TimeReal F] in
lemma identity_of_finishIdentity {a b : StepTime F}
    (h : c.finishIdentity a = d.finishIdentity b) : c.identity = d.identity ∧ a = b := by
  unfold finishIdentity at h
  obtain ⟨hidentity, hwire⟩ := List.append_inj h rfl
  exact ⟨hidentity, stepWire_injective hwire⟩

lemma Issues.congr (hplan : c.plan = d.plan) (h : c.identity = d.identity) (hd : Issues d step) : Issues c step := by
  rw [eq_of_identity hplan h]
  exact ⟨hd.inactive, hd.time, hd.attempt, hd.generation, hd.lower, hd.upper, hd.coefficients⟩

lemma Retries.congr (hplan : c.plan = d.plan)
    (h : c.identity = d.identity) (hd : Retries d step candidate) : Retries c step candidate := by
  rw [eq_of_identity hplan h]
  exact ⟨hd.count, hd.time, hd.dt, hd.attempt, hd.generation, hd.lower, hd.coefficients⟩

omit [TimeReal F] in
lemma Accepts.congr (hplan : c.plan = d.plan)
    (h : c.identity = d.identity) (hd : Accepts d step candidate) : Accepts c step candidate := by
  rw [eq_of_identity hplan h]
  exact ⟨hd.time, hd.later, hd.acceptedStep, hd.generation⟩

lemma checkProposal_ok {own : StepTime F} {published : Status × StepTime F}
    (h : (c.checkProposal own (proposalWire 0 published)).2.isOk = true) :
    published.1.isOk = true ∧ (c.checkProposal own (proposalWire 0 published)).1 = published.2 ∧
      c.validCandidate published.2 = true := by
  have hwire : proposalWire 0 published = statusWire published.1 ++ stepWire published.2 := rfl
  unfold checkProposal at h ⊢
  cases hstep : decodeStepWire (stepWire published.2) with
  | none =>
    simp only [hwire, decodeStatus_append, hstep] at h
    exact nomatch h
  | some candidate =>
    have hcand := decodeStepWire_some hstep
    subst hcand
    simp only [hwire, decodeStatus_append, hstep] at h ⊢
    by_cases hstatus : published.1.isOk = true
    · by_cases hvalid : c.validCandidate published.2 = true
      · exact ⟨hstatus, by simp only [hstatus, hvalid, Bool.not_true, Bool.false_eq_true, if_false], hvalid⟩
      · rw [if_neg (by simp [hstatus]), if_pos (by simp [hvalid])] at h
        exact nomatch h
    · rw [if_pos (by simp [hstatus])] at h
      exact absurd h hstatus

lemma checkFinish_ok {own published : Status × StepTime F}
    (h : (c.checkFinish step own (finishWire 0 decision published)).brought.isOk = true) : published.1.isOk = true ∧
      (c.checkFinish step own (finishWire 0 decision published)).kind = finishKind decision ∧
      (c.checkFinish step own (finishWire 0 decision published)).candidate = published.2 := by
  have hwire : finishWire 0 decision published =
    statusWire published.1 ++ (.int (finishKind decision).toWire :: stepWire published.2) := rfl
  have hkind : ∀ kind : FinishKind, FinishKind.ofWire kind.toWire = some kind := by
    intro kind
    cases kind <;> rfl
  unfold checkFinish at h ⊢
  cases hstep : decodeStepWire (stepWire published.2) with
  | none =>
    simp only [hwire, decodeStatus_append, hkind, hstep] at h
    exact nomatch h
  | some candidate =>
    have hcand := decodeStepWire_some hstep
    subst hcand
    simp only [hwire, decodeStatus_append, hkind, hstep] at h ⊢
    by_cases hstatus : published.1.isOk = true
    · exact ⟨hstatus, trivial, trivial⟩
    · rw [if_pos (by simp [hstatus])] at h
      exact absurd h hstatus

omit [Field F] [TimeReal F] in
lemma finishOutcome_identity
    (h : (c.finishOutcome authority step localOutcome).1.code = .ok ∨
      (c.finishOutcome authority step localOutcome).2 = 2) :
    authority = c.finishIdentity step ∧ c.matchesActive step = true := by
  unfold finishOutcome at h
  by_cases hauth : authority = c.finishIdentity step
  · by_cases hactive : c.matchesActive step = true
    · exact ⟨hauth, hactive⟩
    · rw [if_neg (by simp [hauth]), if_pos (by simp [hactive])] at h
      exact nomatch h
  · rw [if_pos hauth] at h
    exact nomatch h

omit [Field F] [TimeReal F] in
lemma finishOutcome_retryable (h : (c.finishOutcome authority step localOutcome).1.code.retryable = true) :
    (c.finishOutcome authority step localOutcome).2 = 2 := by
  unfold finishOutcome at h ⊢
  by_cases hauth : authority ≠ c.finishIdentity step
  · rw [if_pos hauth] at h
    exact absurd h (by simp [StatusCode.retryable])
  · rw [if_neg hauth] at h ⊢
    by_cases hactive : (!c.matchesActive step) = true
    · rw [if_pos hactive] at h
      exact absurd h (by simp [StatusCode.retryable])
    · rw [if_neg hactive] at h ⊢
      cases hcode : validStatusCode localOutcome.code with
      | none =>
        rw [hcode] at h
        exact absurd h (by simp [StatusCode.retryable])
      | some code =>
        rw [hcode] at h
        simp only [h, Bool.true_or, if_true]

/-- Whoever may commit `prepared` will find in it what rank zero computed from the same state. -/
structure Sound (plan : TimeSchemePlan F) (prepared : PreparedTimeFinish F) : Prop where
  accepts : ∀ c : TimeController F, c.plan = plan → c.matchesPrepared prepared = true →
    prepared.decision = .accept → Accepts c prepared.proposal prepared.candidate
  retries : ∀ c : TimeController F, c.plan = plan → c.matchesPrepared prepared = true →
    prepared.decision = .retry → Retries c prepared.proposal prepared.candidate

omit [Field F] [LinearOrder F] [TimeReal F] in
lemma finishResult_out {checked : CheckedFinish F} {status : Status} {lowest : ℤ}
    (h : (c.finishResult step decision checked status lowest).out = some prepared)
    (hfatal : prepared.decision ≠ .fatal) :
    status.isOk = true ∧ prepared.identity = c.finishIdentity step ∧ prepared.proposal = step ∧
      prepared.candidate = checked.candidate ∧ (prepared.decision = .accept → checked.kind = .accept) ∧
      (prepared.decision = .retry → checked.kind = .retry) := by
  unfold finishResult at h
  by_cases hmpi : status.code = .mpiFailure
  · rw [if_pos hmpi] at h
    exact nomatch h
  rw [if_neg hmpi] at h
  by_cases hok : status.isOk = true
  · rw [if_neg (by simp [hok])] at h
    cases hkind : checked.kind with
    | fatal =>
      rw [hkind] at h
      rw [← some.inj h] at hfatal
      exact absurd rfl hfatal
    | accept =>
      rw [hkind] at h
      rw [← some.inj h]
      exact ⟨hok, rfl, rfl, rfl, fun _ => rfl, fun hretry => absurd hretry (by simp [certificate])⟩
    | retry =>
      rw [hkind] at h
      rw [← some.inj h]
      exact ⟨hok, rfl, rfl, rfl, fun haccept => absurd haccept (by simp [certificate]), fun _ => rfl⟩
  · rw [if_pos (by simp [hok])] at h
    rw [← some.inj h] at hfatal
    exact absurd rfl hfatal

section Job

variable {n : ℕ} (hn : 0 < n) (c : Fin n → TimeController F) (step : Fin n → StepTime F)
  (localOutcome : Fin n → RawStatus)

variable {decision : FinishDecision} {d : TimeController F} {s : StepTime F}

omit [Field F] [TimeReal F] in
lemma decided_identity (hd : Decided (outcomes hn c step localOutcome) decision)
    (hkind : finishKind decision ≠ .fatal) (i : Fin n) :
    (c i).finishIdentity (step i) = (c (rankZero hn)).finishIdentity (step (rankZero hn)) := by
  suffices h : (outcomes hn c step localOutcome i).1.code = .ok ∨
      (outcomes hn c step localOutcome i).2 = 2 from (finishOutcome_identity h).1.symm
  cases hd with
  | success hall => exact .inl (hall i)
  | failure k hk hfirst =>
    have hretry : (outcomes hn c step localOutcome k).1.code.retryable = true := by
      by_contra hnot
      exact hkind (by simp [finishKind, hnot])
    have hpriority := finishOutcome_retryable hretry
    by_cases hi : (outcomes hn c step localOutcome i).1.code = .ok
    · exact .inl hi
    · have hle : (outcomes hn c step localOutcome k).2 ≤ (outcomes hn c step localOutcome i).2 := hfirst i hi
      have hbound : (outcomes hn c step localOutcome i).2 ≤ 2 := finishOutcome_priority _ _ _ _
      have hk2 : (outcomes hn c step localOutcome k).2 = 2 := hpriority
      exact .inr (by omega)

lemma ownFinish_accept (hkind : finishKind decision = .accept) : d.ownFinish 0 s decision = d.accept0 s := by
  simp [ownFinish, hkind]

lemma ownFinish_retry (hkind : finishKind decision = .retry) : d.ownFinish 0 s decision = d.retry0 s := by
  simp [ownFinish, hkind]

lemma preparedFinish_sound {plan : TimeSchemePlan F} (hplan : ∀ i, (c i).plan = plan)
    (hd : Decided (outcomes hn c step localOutcome) decision) (i : Fin n) {prepared : PreparedTimeFinish F}
    (h : (preparedFinish hn c step decision i).out = some prepared) : Sound plan prepared := by
  unfold preparedFinish at h
  split_ifs at h with hmpi
  have hcommon : prepared.decision ≠ .fatal →
      (publishedFinish hn c step decision).1.isOk = true ∧
      prepared.candidate = (publishedFinish hn c step decision).2 ∧
      prepared.proposal = step i ∧ prepared.identity = (c i).finishIdentity (step i) ∧
      (prepared.decision = .accept → finishKind decision = .accept) ∧
      (prepared.decision = .retry → finishKind decision = .retry) := by
    intro hfatal
    obtain ⟨hok, hidentity, hprop, hcand, haccept, hretry⟩ := finishResult_out h hfatal
    obtain ⟨hpubl, hkind, hchecked⟩ := checkFinish_ok (agreed_isOk_iff.mp hok i)
    exact ⟨hpubl, hcand.trans hchecked, hprop, hidentity,
      fun hdec => hkind.symm.trans (haccept hdec), fun hdec => hkind.symm.trans (hretry hdec)⟩
  have hmatch : ∀ d : TimeController F, d.plan = plan → d.matchesPrepared prepared = true →
      prepared.proposal = step i → prepared.identity = (c i).finishIdentity (step i) →
      finishKind decision ≠ .fatal →
      d.plan = (c (rankZero hn)).plan ∧ d.identity = (c (rankZero hn)).identity ∧
        step i = step (rankZero hn) := by
    intro d hdplan hd' hprop hidentity hkind
    have hstate := decided_identity hn c step localOutcome hd hkind i
    simp only [matchesPrepared, Bool.and_eq_true, decide_eq_true_eq] at hd'
    have hown : d.finishIdentity (step i) = (c (rankZero hn)).finishIdentity (step (rankZero hn)) := by
      rw [← hstate, ← hidentity, hd'.1.2, hprop]
    exact ⟨hdplan.trans (hplan _).symm, identity_of_finishIdentity hown⟩
  constructor
  · intro d hdplan hd' hdec
    obtain ⟨hok, hcand, hprop, hidentity, haccept, -⟩ := hcommon (by simp [hdec])
    have hkind := haccept hdec
    obtain ⟨hplans, hstate, hstep⟩ := hmatch d hdplan hd' hprop hidentity (by simp [hkind])
    have hpubl : publishedFinish hn c step decision =
      (c (rankZero hn)).accept0 (step (rankZero hn)) := ownFinish_accept hkind
    rw [hpubl] at hok hcand
    rw [hprop, hcand, hstep]
    exact (accept0_accepts _ _ hok).congr hplans hstate
  · intro d hdplan hd' hdec
    obtain ⟨hok, hcand, hprop, hidentity, -, hretry⟩ := hcommon (by simp [hdec])
    have hkind := hretry hdec
    obtain ⟨hplans, hstate, hstep⟩ := hmatch d hdplan hd' hprop hidentity (by simp [hkind])
    have hpubl : publishedFinish hn c step decision =
      (c (rankZero hn)).retry0 (step (rankZero hn)) := ownFinish_retry hkind
    rw [hpubl] at hok hcand
    rw [hprop, hcand, hstep]
    exact (retry0_retries _ _ hok).congr hplans hstate

end Job

lemma RankStep.plan_eq {c' : TimeController F} {event : Option (TimeEvent F)} (h : RankStep c event c') :
    c'.plan = c.plan := by
  cases h <;> rfl

omit [Field F] [TimeReal F] in
lemma matchesPrepared_active
    (h : c.matchesPrepared prepared = true) : c.active = true ∧ prepared.proposal = c.activeStep := by
  simp only [matchesPrepared, matchesActive, Bool.and_eq_true, decide_eq_true_eq] at h
  exact h.2

lemma sound_consume (plan : TimeSchemePlan F) (prepared : PreparedTimeFinish F) :
    Sound plan (consume prepared) := by
  have hinvalid : ∀ c : TimeController F, c.matchesPrepared (consume prepared) = false := fun c => rfl
  constructor
  · intro c _ h
    exact absurd h (by simp [hinvalid])
  · intro c _ h
    exact absurd h (by simp [hinvalid])

lemma commitOf_rankStep {plan : TimeSchemePlan F} (hplan : c.plan = plan) (hsound : Sound plan prepared)
    (decision : TimeFinishDecision) : RankStep c
        (finishEvent (if (c.commitOf decision prepared).committed then some decision else none)
          (c.commitOf decision prepared).next)
        (c.commitOf decision prepared).controller ∧
      Sound plan (c.commitOf decision prepared).prepared := by
  by_cases hvalid : c.matchesPrepared prepared = true ∧ prepared.decision = decision
  · obtain ⟨hmatch, hdec⟩ := hvalid
    obtain ⟨hactive, hprop⟩ := matchesPrepared_active hmatch
    cases decision with
    | accept =>
      have haccepts := hsound.accepts c hplan hmatch hdec
      have hdone : c.commitOf .accept prepared = _ := if_neg (by simp [hmatch, hdec])
      rw [hdone]
      rw [hprop] at haccepts ⊢
      exact ⟨.accept c prepared.candidate hactive haccepts, sound_consume plan prepared⟩
    | retry =>
      have hretries := hsound.retries c hplan hmatch hdec
      have hdone : c.commitOf .retry prepared = _ := if_neg (by simp [hmatch, hdec])
      rw [hdone]
      rw [hprop] at hretries
      exact ⟨.retry c prepared.candidate prepared.lowestFailingRank hactive hretries,
        sound_consume plan prepared⟩
    | fatal =>
      have hdone : c.commitOf .fatal prepared = _ := if_neg (by simp [hmatch, hdec])
      rw [hdone, hprop]
      exact ⟨.abandon c prepared.lowestFailingRank hactive, sound_consume plan prepared⟩
  · have hcond : (!(c.matchesPrepared prepared && decide (prepared.decision = decision))) = true := by
      simpa only [Bool.not_eq_true', Bool.and_eq_false_iff, decide_eq_false_iff_not, not_and_or,
        Bool.not_eq_true] using hvalid
    have hdone : c.commitOf decision prepared = { controller := c, prepared := prepared } := by
      cases decision <;> exact if_pos hcond
    rw [hdone]
    exact ⟨.idle c c.lowestFailingRank, hsound⟩

variable {n : ℕ} (hn : 0 < n)

lemma localProposal_ok {c : TimeController F} {authority : List (TimeWord F)} {limits : LocalTimeLimits F}
    (h : (localStatus (c.localProposal authority limits)).isOk = true) :
    authority = c.identity ∧ c.active = false := by
  unfold localProposal at h
  split_ifs at h with hauth hactive
  · exact absurd h (by simp [localStatus])
  · exact absurd h (by simp [localStatus])
  · exact ⟨not_not.mp hauth, Bool.eq_false_of_not_eq_true hactive⟩

lemma proposed_rankStep (c : Fin n → TimeController F) (limits : Fin n → LocalTimeLimits F)
    {plan : TimeSchemePlan F} (hplan : ∀ i, (c i).plan = plan) (i : Fin n) :
    RankStep (c i) ((proposed hn c limits i).out.map .issued) (proposed hn c limits i).controller := by
  unfold proposed
  by_cases hfirst : (proposalConsensus hn c limits).1.isOk = true
  · rw [if_neg (by simp [hfirst])]
    unfold proposeResult
    by_cases hsecond : (publicationConsensus hn c limits).1.isOk = true
    · rw [if_neg (by simp [hsecond])]
      have hchecked := agreed_isOk_iff.mp hsecond
      obtain ⟨hpubl, hcand, -⟩ := checkProposal_ok (hchecked i)
      obtain ⟨-, -, hvalid⟩ := checkProposal_ok (hchecked (rankZero hn))
      have hlocal := agreed_isOk_iff.mp hfirst
      obtain ⟨hidentity, -⟩ := localProposal_ok (hlocal i)
      obtain ⟨-, hoff⟩ := localProposal_ok (hlocal (rankZero hn))
      have hupper : (publishedProposal hn c limits).2.dt ≤ (c (rankZero hn)).plan.spec.maximumDt := by
        simp only [validCandidate, Bool.and_eq_true, decide_eq_true_eq] at hvalid
        exact hvalid.1.1.1.1.1.1.1.1.1.2
      have hissues := propose0_issues (c (rankZero hn)) _ hoff hpubl hupper
      have hown := hissues.congr ((hplan i).trans (hplan _).symm) hidentity.symm
      have hstep : (checkedProposal hn c limits i).1 = (publishedProposal hn c limits).2 := hcand
      rw [hstep]
      exact .issue (c i) _ _ hown
    · rw [if_pos (by simp [hsecond])]
      exact .idle (c i) _
  · rw [if_pos (by simp [hfirst])]
    exact .idle (c i) _

end HundunFlow.Proofs
