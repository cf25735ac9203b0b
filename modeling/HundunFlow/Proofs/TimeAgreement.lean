import HundunFlow.Proofs.TimeInvariant

/-!
# Agreement of the time controller

Ranks that call together return the same status and take the same decision, also when their
plans, states or arguments differ.
-/

namespace HundunFlow.Proofs

open Lib TimeController

variable {F : Type} [Field F] [LinearOrder F] [TimeReal F]

section Checks

variable {c : TimeController F} {s candidate : StepTime F} {own published : Status × StepTime F}
  {decision : FinishDecision}

omit [Field F] [LinearOrder F] [TimeReal F] in
lemma decode_stepWire {s : StepTime F} (hattempt : s.attempt < 2 ^ 32) (horder : s.bdf.order < 2 ^ 8) :
    decodeStepWire (stepWire s) = some s := by
  rw [decodeStepWire_stepWire, if_neg (by simp; omega)]

lemma coefficients_finite {dt : F} {force : Bool} {bdf : BdfCoefficients F}
    (h : c.coefficients dt force = .ok bdf) : TimeReal.isFinite bdf.a0 = true ∧ TimeReal.isFinite bdf.a1 = true := by
  unfold coefficients at h
  dsimp only at h
  split_ifs at h with hdt hbdf hfinite hfinite
  all_goals
    rw [Except.ok.injEq] at h
    subst h
    simp only [Bool.or_eq_true, Bool.not_eq_true', not_or, Bool.not_eq_false] at hfinite
    exact ⟨hfinite.1.1, hfinite.1.2⟩

lemma validAccept_accept0 (h : (c.accept0 s).1.isOk = true) : c.validAccept s (c.accept0 s).2 = true := by
  unfold accept0 at h ⊢
  split_ifs at h ⊢ with hlast
  · exact nomatch h
  · dsimp only at h ⊢
    split_ifs at h ⊢ with hlater
    · exact nomatch h
    · rw [Bool.not_eq_true, Bool.or_eq_false_iff, decide_eq_false_iff_not, not_le, Bool.not_eq_false'] at hlater
      simp [validAccept, hlater.1, hlater.2]

lemma validRetry_retry0 [IsStrictOrderedRing F] (h : (c.retry0 s).1.isOk = true) :
    c.validRetry (c.retry0 s).2 = true := by
  unfold retry0 at h ⊢
  dsimp only at h ⊢
  split_ifs at h ⊢ with hcount hlow
  · exact nomatch h
  · exact nomatch h
  · simp only [Bool.or_eq_true, decide_eq_true_eq, not_or, not_lt, Bool.not_eq_true', Bool.not_eq_false] at hlow
    cases hbdf : c.coefficients (s.dt * c.plan.spec.retryFactor) true with
    | error status =>
      rw [hbdf] at h
      exact absurd h (by simp [coefficients_error_code c hbdf])
    | ok bdf =>
      obtain ⟨hfinite0, hfinite1⟩ := coefficients_finite hbdf
      have hdt := coefficients_positive c hbdf
      have heuler := coefficients_retry hbdf
      have ha0 : 0 < bdf.a0 := by
        rw [heuler]
        exact one_div_pos.mpr hdt
      have ha1 : bdf.a1 < 0 := by
        rw [heuler]
        exact div_neg_of_neg_of_pos (by simp) hdt
      have ha2 : bdf.a2 = 0 := by rw [heuler, backwardEuler]
      have horder : bdf.order = 1 := by rw [heuler, backwardEuler]
      simp [validRetry, hlow.1, hlow.2, hfinite0, hfinite1, ha0, ha1, ha2, horder]

lemma decodes_accept0 (hs : decodeStepWire (stepWire s) = some s) :
    decodeStepWire (stepWire (c.accept0 s).2) = some (c.accept0 s).2 := by
  have hrange : s.attempt < 2 ^ 32 ∧ s.bdf.order < 2 ^ 8 := by
    rw [decodeStepWire_stepWire] at hs
    split_ifs at hs with hrange
    simp only [Bool.or_eq_true, decide_eq_true_eq, not_or, not_le] at hrange
    exact hrange
  unfold accept0
  dsimp only
  split_ifs
  · rfl
  · exact decode_stepWire hrange.1 hrange.2
  · exact decode_stepWire hrange.1 hrange.2

lemma decodes_retry0 : decodeStepWire (stepWire (c.retry0 s).2) = some (c.retry0 s).2 := by
  unfold retry0
  dsimp only
  split_ifs with hcount hlow
  · rfl
  · rfl
  · have hattempt : c.retryCount + 1 < 2 ^ 32 := by
      have hmax := c.plan.spec.maximumRetries.toNat_lt
      simp only [Bool.or_eq_true, decide_eq_true_eq, not_or, not_le] at hcount
      omega
    cases hbdf : c.coefficients (s.dt * c.plan.spec.retryFactor) true with
    | error status => exact decode_stepWire hattempt (by simp [noCoefficients])
    | ok bdf =>
      refine decode_stepWire hattempt ?_
      rw [coefficients_retry hbdf, backwardEuler]
      norm_num

lemma checkFinish_passes (hok : published.1.isOk = true)
    (hdecodes : decodeStepWire (stepWire published.2) = some published.2)
    (haccept : finishKind decision = .accept → c.validAccept s published.2 = true)
    (hretry : finishKind decision = .retry → c.validRetry published.2 = true) :
    (c.checkFinish s own (finishWire 0 decision published)).brought.isOk = true := by
  have hkind : ∀ kind : FinishKind, FinishKind.ofWire kind.toWire = some kind := by
    intro kind
    cases kind <;> rfl
  have hwire : finishWire 0 decision published =
    statusWire published.1 ++ (.int (finishKind decision).toWire :: stepWire published.2) := rfl
  unfold checkFinish
  simp only [hwire, decodeStatus_append, hkind, hdecodes, hok, Bool.not_true, Bool.false_eq_true, if_false]
  cases hdec : finishKind decision with
  | fatal => rfl
  | accept =>
    rw [haccept hdec]
    rfl
  | retry =>
    rw [hretry hdec]
    rfl

end Checks

def StateKept (c d : TimeController F) : Prop := d = { c with lowestFailingRank := d.lowestFailingRank }

structure SameState (c d : TimeController F) : Prop where
  fingerprint : c.plan.fingerprint = d.plan.fingerprint
  time : c.time = d.time
  lastAcceptedDt : c.lastAcceptedDt = d.lastAcceptedDt
  acceptedStep : c.acceptedStep = d.acceptedStep
  nextGeneration : c.nextGeneration = d.nextGeneration
  retryCount : c.retryCount = d.retryCount
  nextOrigin : c.nextOrigin = d.nextOrigin
  forceBackwardEuler : c.forceBackwardEuler = d.forceBackwardEuler
  active : c.active = d.active
  activeStep : c.activeStep = d.activeStep

omit [Field F] [LinearOrder F] [TimeReal F] in
lemma toWire_injective {a b : StepOrigin} (h : a.toWire = b.toWire) : a = b := by
  have ha := StepOrigin.ofWire_toWire a
  rw [h, StepOrigin.ofWire_toWire] at ha
  exact (Option.some.inj ha).symm

omit [Field F] [LinearOrder F] [TimeReal F] in
lemma sameState_iff {c d : TimeController F} : SameState c d ↔ c.identity = d.identity := by
  have hbool : ∀ x y : Bool, x.toNat = y.toNat → x = y := by decide
  constructor
  · intro h
    simp only [identity, h.fingerprint, h.time, h.lastAcceptedDt, h.acceptedStep, h.nextGeneration, h.retryCount,
      h.nextOrigin, h.forceBackwardEuler, h.active, h.activeStep]
  · intro h
    simp only [identity, List.cons_append, List.cons.injEq, TimeWord.int.injEq, TimeWord.real.injEq,
      List.nil_append] at h
    obtain ⟨hplan, htime, hdt, hstep, hgeneration, hretry, horigin, hforce, hactive, hwire⟩ := h
    exact ⟨UInt64.toNat_inj.mp hplan, htime, hdt, hstep, hgeneration, hretry, toWire_injective horigin,
      hbool _ _ hforce, hbool _ _ hactive, stepWire_injective hwire⟩

section Consensus

variable {n : ℕ} {s : Fin n → Status}

lemma agreed_cases (s : Fin n → Status) :
    ((agreed s).1.isOk = true ∧ (agreed s).1 = {}) ∨ ∃ k, (agreed s).1 = s k ∧ (s k).isOk = false := by
  unfold agreed
  cases h : firstFailing s with
  | none => exact .inl ⟨rfl, rfl⟩
  | some k => exact .inr ⟨k, rfl, (firstFailing_some h).1⟩

lemma agreed_of_rankZero {hn : 0 < n} (h : (s (rankZero hn)).isOk = false) : (agreed s).1 = s (rankZero hn) := by
  unfold agreed
  cases hfirst : firstFailing s with
  | none => exact absurd (firstFailing_none hfirst (rankZero hn)) (by simp [h])
  | some k =>
    have hk : k = rankZero hn := by
      by_contra hne
      have hlt : rankZero hn < k := lt_of_le_of_ne (Nat.zero_le _) (Ne.symm hne)
      exact absurd ((firstFailing_some hfirst).2 _ hlt) (by simp [h])
    rw [hk]

end Consensus

section Job

variable {n : ℕ} (hn : 0 < n) (hsize : n < 2 ^ 31) (c : Fin n → TimeController F)

/-- What the ranks have in common after `propose`. -/
structure ProposalAgreed (c : Fin n → TimeController F) (r : Fin n → ProposeResult F) : Prop where
  status : ∀ i j, (r i).status = (r j).status
  step : ∀ i j, (r i).out = (r j).out
  lowest : ∀ i j, (r i).controller.lowestFailingRank = (r j).controller.lowestFailingRank
  issued : ∀ i, (r i).status.isOk = true → ∃ step, (r i).out = some step ∧
    (r i).controller = { c i with lowestFailingRank := -1, activeStep := step, active := true }
  failed : ∀ i, (r i).status.isOk = false → (r i).out = none ∧ StateKept (c i) (r i).controller
  refused : ∀ k, ¬ SameState (c k) (c (rankZero hn)) → ∀ i, (r i).status.isOk = false

variable {i k : Fin n} {d : TimeController F} {outcome : Status}

lemma proposed_agreed (limits : Fin n → LocalTimeLimits F) : ProposalAgreed hn c (proposed hn c limits) := by
  by_cases hfirst : (proposalConsensus hn c limits).1.isOk = true
  · have hproposed : proposed hn c limits = fun i =>
        (c i).proposeResult (checkedProposal hn c limits i).1 (publicationConsensus hn c limits).1
          (publicationConsensus hn c limits).2 := by
      funext i
      exact if_neg (by simp [hfirst])
    have hlocal := agreed_isOk_iff.mp hfirst
    have hsame : ∀ k, SameState (c k) (c (rankZero hn)) := fun k =>
      sameState_iff.mpr (localProposal_ok (hlocal k)).1.symm
    rw [hproposed]
    by_cases hsecond : (publicationConsensus hn c limits).1.isOk = true
    · have hchecked := agreed_isOk_iff.mp hsecond
      have hstep : ∀ i, (checkedProposal hn c limits i).1 = (publishedProposal hn c limits).2 := fun i =>
        (checkProposal_ok (hchecked i)).2.1
      have hcons : publicationConsensus hn c limits = ({}, -1) := agreed_eq_of_isOk hsecond
      have hresult : ∀ i, (c i).proposeResult (checkedProposal hn c limits i).1 (publicationConsensus hn c limits).1
          (publicationConsensus hn c limits).2 =
          ⟨{ c i with
              lowestFailingRank := -1, activeStep := (publishedProposal hn c limits).2, active := true }, {},
            some (publishedProposal hn c limits).2,
            ⟨true, (publishedProposal hn c limits).2.dt, (c i).plan.spec.minimumDt⟩⟩ := by
        intro i
        rw [hstep i, hcons]
        rfl
      simp only [hresult]
      exact ⟨fun _ _ => rfl, fun _ _ => rfl, fun _ _ => rfl, fun i _ => ⟨_, rfl, rfl⟩,
        fun _ h => (by cases h), fun k hk => absurd (hsame k) hk⟩
    · rw [Bool.not_eq_true] at hsecond
      have hresult : ∀ i, ((c i).proposeResult (checkedProposal hn c limits i).1
          (publicationConsensus hn c limits).1 (publicationConsensus hn c limits).2).status =
            (publicationConsensus hn c limits).1 ∧
          ((c i).proposeResult (checkedProposal hn c limits i).1 (publicationConsensus hn c limits).1
            (publicationConsensus hn c limits).2).out = none ∧
          ((c i).proposeResult (checkedProposal hn c limits i).1 (publicationConsensus hn c limits).1
            (publicationConsensus hn c limits).2).controller =
              { c i with lowestFailingRank := (publicationConsensus hn c limits).2 } := by
        intro i
        unfold proposeResult
        simp only [hsecond, Bool.not_false, if_true]
        exact ⟨rfl, rfl, rfl⟩
      refine ⟨fun i j => ?_, fun i j => ?_, fun i j => ?_, fun i h => ?_, fun i _ => ?_,
        fun k hk => absurd (hsame k) hk⟩
      · rw [(hresult i).1, (hresult j).1]
      · rw [(hresult i).2.1, (hresult j).2.1]
      · rw [(hresult i).2.2, (hresult j).2.2]
      · rw [(hresult i).1, hsecond] at h
        cases h
      · rw [StateKept, (hresult i).2.1, (hresult i).2.2]
        exact ⟨rfl, rfl⟩
  · rw [Bool.not_eq_true] at hfirst
    have hproposed : proposed hn c limits = fun i =>
        (c i).proposeFailed (proposalConsensus hn c limits).1 (proposalConsensus hn c limits).2 := by
      funext i
      exact if_pos (by simp [hfirst])
    rw [hproposed]
    exact ⟨fun _ _ => rfl, fun _ _ => rfl, fun _ _ => rfl, fun i h => absurd h (by simp [proposeFailed, hfirst]),
      fun i _ => ⟨rfl, rfl⟩, fun _ _ _ => hfirst⟩

variable (step : Fin n → StepTime F) (localOutcome : Fin n → RawStatus)

/-- Rank `i` is in the state of rank zero, finishes the step of rank zero, which is its active
one, and brings a status. -/
structure AtAuthority (i : Fin n) : Prop where
  state : SameState (c i) (c (rankZero hn))
  sameStep : step i = step (rankZero hn)
  active : (c i).matchesActive (step i) = true
  code : (validStatusCode (localOutcome i).code).isSome = true

/-- The status a caller brings. -/
def suppliedOutcome (localOutcome : Fin n → RawStatus) (i : Fin n) : Status :=
  (localOutcome i).orElse ⟨.invalidPlan, kTimeState⟩

omit [Field F] [TimeReal F] in
lemma outcomes_stranger (h : ¬ AtAuthority hn c step localOutcome i) :
    (outcomes hn c step localOutcome i).1.code = .invalidPlan ∧ (outcomes hn c step localOutcome i).2 = 0 := by
  unfold outcomes finishOutcome
  by_cases hauth : (c (rankZero hn)).finishIdentity (step (rankZero hn)) = (c i).finishIdentity (step i)
  · rw [if_neg (not_not.mpr hauth)]
    by_cases hactive : (c i).matchesActive (step i) = true
    · rw [if_neg (by simp [hactive])]
      cases hcode : validStatusCode (localOutcome i).code with
      | none => exact ⟨rfl, rfl⟩
      | some code =>
        obtain ⟨hidentity, hstep⟩ := identity_of_finishIdentity hauth.symm
        exact absurd ⟨sameState_iff.mpr hidentity, hstep, hactive, by simp [hcode]⟩ h
    · rw [if_pos (by simp [hactive])]
      exact ⟨rfl, rfl⟩
  · rw [if_pos hauth]
    exact ⟨rfl, rfl⟩

def outcomeClass (status : Status) : ℕ := if status.code.retryable || status.code = .ok then 2 else 1

omit [Field F] [TimeReal F] in
lemma outcomes_native (h : AtAuthority hn c step localOutcome i) :
    outcomes hn c step localOutcome i = (suppliedOutcome localOutcome i, outcomeClass (suppliedOutcome localOutcome i)) := by
  obtain ⟨code, hcode⟩ := Option.isSome_iff_exists.mp h.code
  have hbrought : suppliedOutcome localOutcome i = ⟨code, (localOutcome i).detail⟩ := by
    rw [suppliedOutcome, RawStatus.orElse, hcode]
  have hidentity : (c (rankZero hn)).finishIdentity (step (rankZero hn)) = (c i).finishIdentity (step i) := by
    rw [finishIdentity, finishIdentity, sameState_iff.mp h.state, h.sameStep]
  unfold outcomes finishOutcome
  rw [if_neg (not_not.mpr hidentity), if_neg (by simp [h.active]), hcode, hbrought]
  rfl

/-- Rank `k` fails, in the highest class of failure there is, and is the lowest rank of it. -/
structure Wins (s : Fin n → Status) (k : Fin n) : Prop where
  failed : (s k).isOk = false
  first : ∀ i, (s i).isOk = false → outcomeClass (s k) ≤ outcomeClass (s i)
  lowest : ∀ i, (s i).isOk = false → outcomeClass (s i) = outcomeClass (s k) → k ≤ i

variable (decision : FinishDecision)

lemma checkedFinish_authority (i : Fin n) :
    (checkedFinish hn c step decision i).authorityStatus = (publishedFinish hn c step decision).1 := by
  have hkind : ∀ kind : FinishKind, FinishKind.ofWire kind.toWire = some kind := by
    intro kind
    cases kind <;> rfl
  have hwire : finishWire 0 decision (publishedFinish hn c step decision) =
    statusWire (publishedFinish hn c step decision).1 ++
      (.int (finishKind decision).toWire :: stepWire (publishedFinish hn c step decision).2) := rfl
  unfold checkedFinish checkFinish
  simp only [hwire, decodeStatus_append, hkind]
  cases decodeStepWire (stepWire (publishedFinish hn c step decision).2) <;> rfl

lemma checkedFinish_failed (i : Fin n) (h : (publishedFinish hn c step decision).1.isOk = false)
    (hdecodes : decodeStepWire (stepWire (publishedFinish hn c step decision).2) =
      some (publishedFinish hn c step decision).2) :
    (checkedFinish hn c step decision i).brought = (publishedFinish hn c step decision).1 := by
  have hkind : ∀ kind : FinishKind, FinishKind.ofWire kind.toWire = some kind := by
    intro kind
    cases kind <;> rfl
  have hwire : finishWire 0 decision (publishedFinish hn c step decision) =
    statusWire (publishedFinish hn c step decision).1 ++
      (.int (finishKind decision).toWire :: stepWire (publishedFinish hn c step decision).2) := rfl
  unfold checkedFinish checkFinish
  simp only [hwire, decodeStatus_append, hkind, hdecodes, h, Bool.not_false, if_true]

lemma finishConsensus_code (hmpi : decision.status.code ≠ .mpiFailure) :
    (finishConsensus hn c step decision).1.code ≠ .mpiFailure := by
  have hcoef : ∀ {d : TimeController F} {dt : F} {force : Bool} {status : Status},
      d.coefficients dt force = .error status → status.code ≠ .mpiFailure := by
    intro d dt force status h
    unfold coefficients at h
    dsimp only at h
    split_ifs at h
    all_goals
      rw [← Except.error.inj h]
      simp
  have hpubl : (publishedFinish hn c step decision).1.code ≠ .mpiFailure := by
    unfold publishedFinish ownFinish
    rw [if_neg (by simp)]
    cases finishKind decision with
    | fatal => exact hmpi
    | accept =>
      simp only [accept0]
      split_ifs
      all_goals simp
    | retry =>
      simp only [retry0]
      split_ifs
      · simp
      · simp
      · cases hbdf : (c (rankZero hn)).coefficients
            ((step (rankZero hn)).dt * (c (rankZero hn)).plan.spec.retryFactor) true with
        | error status => exact hcoef hbdf
        | ok bdf => simp
  have hbrought : ∀ i, (checkedFinish hn c step decision i).brought.code ≠ .mpiFailure := by
    intro i
    have hauth := checkedFinish_authority hn c step decision i
    revert hauth
    unfold checkedFinish checkFinish
    split
    · split
      · simp
      · simp
      · intro hauth
        simp only at hauth ⊢
        split_ifs
        · rw [hauth]
          exact hpubl
        all_goals simp
    · simp
  unfold finishConsensus
  cases agreed_cases fun i => (checkedFinish hn c step decision i).brought with
  | inl h =>
    rw [h.2]
    simp
  | inr h =>
    obtain ⟨k, hk, -⟩ := h
    rw [hk]
    exact hbrought k

structure SharedFinish where
  outcome : Status
  lowest : ℤ
  decision : TimeFinishDecision
  ready : Bool

/-- The common part of the certificates, when the decision is not a failure of MPI. -/
def sharedFinish : SharedFinish :=
  if !(finishConsensus hn c step decision).1.isOk then
    ⟨(finishConsensus hn c step decision).1,
      if (publishedFinish hn c step decision).1.isOk then (finishConsensus hn c step decision).2
      else if 0 ≤ decision.lowest then decision.lowest else 0,
      .fatal, decision.selectedPriority ≠ 0 && !(publishedFinish hn c step decision).1.isOk⟩
  else
    match finishKind decision with
    | .fatal => ⟨decision.status, decision.lowest, .fatal, decision.selectedPriority ≠ 0⟩
    | .accept => ⟨{}, -1, .accept, true⟩
    | .retry => ⟨decision.status, decision.lowest, .retry, true⟩

lemma preparedFinish_shared (hmpi : decision.status.code ≠ .mpiFailure) (i : Fin n) :
    preparedFinish hn c step decision i = ⟨{}, some ((c i).certificate (step i)
      (checkedFinish hn c step decision i).candidate (sharedFinish hn c step decision).outcome
      (sharedFinish hn c step decision).lowest (sharedFinish hn c step decision).decision
      (sharedFinish hn c step decision).ready)⟩ := by
  have hcode := finishConsensus_code hn c step decision hmpi
  have hresult : preparedFinish hn c step decision i = (c i).finishResult (step i) decision
      (checkedFinish hn c step decision i) (finishConsensus hn c step decision).1
      (finishConsensus hn c step decision).2 := if_neg hmpi
  rw [hresult]
  unfold finishResult
  rw [if_neg hcode]
  by_cases hok : (finishConsensus hn c step decision).1.isOk = true
  · obtain ⟨-, hkind, -⟩ := checkFinish_ok (agreed_isOk_iff.mp hok i)
    have hkind' : (checkedFinish hn c step decision i).kind = finishKind decision := hkind
    have hshared : sharedFinish hn c step decision = match finishKind decision with
        | .fatal => ⟨decision.status, decision.lowest, .fatal, decision.selectedPriority ≠ 0⟩
        | .accept => ⟨{}, -1, .accept, true⟩
        | .retry => ⟨decision.status, decision.lowest, .retry, true⟩ := if_neg (by simp [hok])
    rw [if_neg (by simp [hok]), hkind', hshared]
    cases finishKind decision <;> rfl
  · rw [Bool.not_eq_true] at hok
    have hshared : sharedFinish hn c step decision = _ := if_pos (by rw [hok]; rfl)
    rw [if_pos (by rw [hok]; rfl), hshared, checkedFinish_authority]

omit [TimeReal F] in
lemma finishPrepared_ready {s candidate : StepTime F} {lowest : ℤ} {kind : TimeFinishDecision}
    (hactive : d.matchesActive s = true) :
    (d.finishPrepared ⟨{}, some (d.certificate s candidate outcome lowest kind true)⟩).committed = some kind ∧
      (d.finishPrepared ⟨{}, some (d.certificate s candidate outcome lowest kind true)⟩).status =
        (if kind = .fatal then outcome else {}) ∧
      (d.finishPrepared ⟨{}, some (d.certificate s candidate outcome lowest kind true)⟩).next =
        (if kind = .retry then some candidate else none) ∧
      (d.finishPrepared ⟨{}, some (d.certificate s candidate outcome lowest kind true)⟩).controller.lowestFailingRank =
        (if kind = .accept then -1 else lowest) := by
  have hmatch : d.matchesPrepared (d.certificate s candidate outcome lowest kind true) = true := by
    simp [matchesPrepared, certificate, PreparedTimeFinish.valid, hactive]
  cases kind with
  | accept =>
    have hdone : d.commitAccept (d.certificate s candidate outcome lowest .accept true) = _ :=
      if_neg (by rw [hmatch]; simp [certificate])
    simp only [finishPrepared, show (d.certificate s candidate outcome lowest .accept true).decision = .accept from rfl,
      hdone]
    exact ⟨rfl, rfl, rfl, rfl⟩
  | retry =>
    have hdone : d.commitRetry (d.certificate s candidate outcome lowest .retry true) = _ :=
      if_neg (by rw [hmatch]; simp [certificate])
    simp only [finishPrepared, show (d.certificate s candidate outcome lowest .retry true).decision = .retry from rfl,
      hdone]
    exact ⟨rfl, rfl, rfl, rfl⟩
  | fatal =>
    have hdone : d.commitFatal (d.certificate s candidate outcome lowest .fatal true) = _ :=
      if_neg (by rw [hmatch]; simp [certificate])
    simp only [finishPrepared, show (d.certificate s candidate outcome lowest .fatal true).decision = .fatal from rfl,
      hdone]
    exact ⟨rfl, rfl, rfl, rfl⟩

omit [TimeReal F] in
lemma finishPrepared_unready {s candidate : StepTime F} {lowest : ℤ} :
    d.finishPrepared ⟨{}, some (d.certificate s candidate outcome lowest .fatal false)⟩ = ⟨d, outcome, none, none⟩ := by
  have hmatch : d.matchesPrepared (d.certificate s candidate outcome lowest .fatal false) = false := by
    simp [matchesPrepared, certificate]
  have hdone : d.commitFatal (d.certificate s candidate outcome lowest .fatal false) = _ :=
    if_pos (by simp [hmatch])
  simp only [finishPrepared, show (d.certificate s candidate outcome lowest .fatal false).decision = .fatal from rfl,
    hdone]
  rfl

/-- What `finish` does on rank `i` after `decision`. -/
def finished (i : Fin n) : FinishResult F := (c i).finishPrepared (preparedFinish hn c step decision i)

variable {decision} {localOutcome}

omit [Field F] [TimeReal F] in
lemma finishKind_failed (hlowest : decision.lowest = k) (h : decision.status.code.retryable = false) :
    finishKind decision = .fatal := by
  have hnonneg : ¬ decision.lowest < 0 := by
    rw [hlowest]
    exact not_lt.mpr (Int.natCast_nonneg _)
  rw [finishKind, if_neg hnonneg, if_neg (by simp [h])]

omit [Field F] [TimeReal F] in
lemma stranger_decision (hd : Decided (outcomes hn c step localOutcome) decision)
    (h : ¬ AtAuthority hn c step localOutcome k) :
    decision.selectedPriority = 0 ∧ finishKind decision = .fatal ∧ decision.status.code = .invalidPlan := by
  obtain ⟨hcode, hpriority⟩ := outcomes_stranger hn c step localOutcome h
  cases hd with
  | success hall => exact absurd (hall k) (by simp [hcode])
  | failure j hj hfirst =>
    have hle := hfirst k (by simp [hcode])
    have hother : ¬ AtAuthority hn c step localOutcome j := by
      intro hnative
      rw [hpriority, outcomes_native hn c step localOutcome hnative] at hle
      unfold outcomeClass at hle
      dsimp only at hle
      split_ifs at hle <;> omega
    obtain ⟨hcode', hpriority'⟩ := outcomes_stranger hn c step localOutcome hother
    exact ⟨hpriority', finishKind_failed rfl (by simp [hcode', StatusCode.retryable]), hcode'⟩

lemma atAuthority_of_ready (hd : Decided (outcomes hn c step localOutcome) decision)
    (hready : (sharedFinish hn c step decision).ready = true) (i : Fin n) : AtAuthority hn c step localOutcome i := by
  by_contra hother
  obtain ⟨hpriority, hkind, -⟩ := stranger_decision hn c step hd hother
  unfold sharedFinish at hready
  rw [hkind, hpriority] at hready
  split_ifs at hready <;> simp at hready

lemma fatal_of_unready (h : (sharedFinish hn c step decision).ready = false) :
    (sharedFinish hn c step decision).decision = .fatal := by
  unfold sharedFinish at h ⊢
  by_cases hok : (!(finishConsensus hn c step decision).1.isOk) = true
  · rw [if_pos hok]
  · rw [if_neg hok] at h ⊢
    cases hkind : finishKind decision with
    | fatal => rfl
    | accept =>
      rw [hkind] at h
      exact nomatch h
    | retry =>
      rw [hkind] at h
      exact nomatch h

lemma finished_mpi (hmpi : decision.status.code = .mpiFailure) (i : Fin n) :
    finished hn c step decision i = ⟨{ c i with lowestFailingRank := -1 }, decision.status, none, none⟩ := by
  have hprepared : preparedFinish hn c step decision i = ⟨decision.status, none⟩ := if_pos hmpi
  rw [finished, hprepared]
  rfl

lemma finished_unready (hmpi : decision.status.code ≠ .mpiFailure)
    (h : (sharedFinish hn c step decision).ready = false) (i : Fin n) :
    finished hn c step decision i = ⟨c i, (sharedFinish hn c step decision).outcome, none, none⟩ := by
  rw [finished, preparedFinish_shared hn c step decision hmpi, h, fatal_of_unready hn c step h]
  exact finishPrepared_unready

lemma finished_ready (hmpi : decision.status.code ≠ .mpiFailure)
    (hd : Decided (outcomes hn c step localOutcome) decision) (h : (sharedFinish hn c step decision).ready = true)
    (i : Fin n) : (finished hn c step decision i).committed = some (sharedFinish hn c step decision).decision ∧
      (finished hn c step decision i).status = (if (sharedFinish hn c step decision).decision = .fatal then
        (sharedFinish hn c step decision).outcome else {}) ∧
      (finished hn c step decision i).next = (if (sharedFinish hn c step decision).decision = .retry then
        some (checkedFinish hn c step decision i).candidate else none) ∧
      (finished hn c step decision i).controller.lowestFailingRank =
        (if (sharedFinish hn c step decision).decision = .accept then -1
        else (sharedFinish hn c step decision).lowest) := by
  rw [finished, preparedFinish_shared hn c step decision hmpi, h]
  exact finishPrepared_ready (atAuthority_of_ready hn c step hd h i).active

lemma candidate_of_retry (h : (sharedFinish hn c step decision).decision = .retry) (i : Fin n) :
    (checkedFinish hn c step decision i).candidate = (publishedFinish hn c step decision).2 := by
  unfold sharedFinish at h
  by_cases hok : (!(finishConsensus hn c step decision).1.isOk) = true
  · rw [if_pos hok] at h
    exact nomatch h
  · rw [Bool.not_eq_true, Bool.not_eq_false'] at hok
    exact (checkFinish_ok (agreed_isOk_iff.mp hok i)).2.2

omit [Field F] [TimeReal F] in
lemma decision_of_wins (hall : ∀ i, AtAuthority hn c step localOutcome i)
    (hd : Decided (outcomes hn c step localOutcome) decision)
    (hnames : NamesLowest (outcomes hn c step localOutcome) decision) (hk : Wins (suppliedOutcome localOutcome) k) :
    decision = ⟨suppliedOutcome localOutcome k, k, outcomeClass (suppliedOutcome localOutcome k)⟩ := by
  have hnative := fun i => outcomes_native hn c step localOutcome (hall i)
  have hfailed : ∀ i, (outcomes hn c step localOutcome i).1.code ≠ .ok ↔ (suppliedOutcome localOutcome i).isOk = false := by
    intro i
    rw [hnative i]
    simp [Status.isOk]
  cases hd with
  | success hok => exact absurd (hok k) ((hfailed k).mpr hk.failed)
  | failure j hj hfirst =>
    have hjk := hfirst k ((hfailed k).mpr hk.failed)
    rw [hnative j, hnative k] at hjk
    have hkj := hk.first j ((hfailed j).mp hj)
    have hclass : outcomeClass (suppliedOutcome localOutcome j) = outcomeClass (suppliedOutcome localOutcome k) :=
      le_antisymm hjk hkj
    have hle : k ≤ j := hk.lowest j ((hfailed j).mp hj) hclass
    have hge := hnames k ((hfailed k).mpr hk.failed) (by rw [hnative j, hnative k]; exact hclass.symm)
    have heq : j = k := le_antisymm (Fin.le_def.mpr (Int.ofNat_le.mp hge)) hle
    rw [heq, hnative k]

lemma ownFinish_fatal (hkind : finishKind decision = .fatal) :
    publishedFinish hn c step decision = (decision.status, noStep) := by
  unfold publishedFinish ownFinish
  rw [if_neg (by simp), hkind]

lemma sharedFinish_failed (h : (publishedFinish hn c step decision).1.isOk = false)
    (hdecodes : decodeStepWire (stepWire (publishedFinish hn c step decision).2) =
      some (publishedFinish hn c step decision).2) :
    sharedFinish hn c step decision = ⟨(publishedFinish hn c step decision).1,
      if 0 ≤ decision.lowest then decision.lowest else 0, .fatal, decision.selectedPriority ≠ 0⟩ := by
  have hbrought := fun i => checkedFinish_failed hn c step decision i h hdecodes
  have hcons : (finishConsensus hn c step decision).1 = (publishedFinish hn c step decision).1 := by
    have hzero : (checkedFinish hn c step decision (rankZero hn)).brought.isOk = false := by
      rw [hbrought]
      exact h
    rw [finishConsensus, agreed_of_rankZero (s := fun i => (checkedFinish hn c step decision i).brought) hzero]
    exact hbrought _
  unfold sharedFinish
  rw [if_pos (by simp [hcons, h]), hcons, if_neg (by simp [h])]
  simp [h]

lemma sharedFinish_checked (h : ∀ i, (checkedFinish hn c step decision i).brought.isOk = true) :
    sharedFinish hn c step decision = match finishKind decision with
      | .fatal => ⟨decision.status, decision.lowest, .fatal, decision.selectedPriority ≠ 0⟩
      | .accept => ⟨{}, -1, .accept, true⟩
      | .retry => ⟨decision.status, decision.lowest, .retry, true⟩ := by
  have hok : (finishConsensus hn c step decision).1.isOk = true := agreed_isOk_iff.mpr h
  unfold sharedFinish
  rw [if_neg (by simp [hok])]

omit [Field F] [TimeReal F] in
lemma eq_of_atAuthority (h : AtAuthority hn c step localOutcome i) (hplan : (c i).plan = (c (rankZero hn)).plan) :
    c i = { c (rankZero hn) with lowestFailingRank := (c i).lowestFailingRank } :=
  eq_of_identity hplan (sameState_iff.mp h.state)

def retries : Bool := ((c (rankZero hn)).retry0 (step (rankZero hn))).1.isOk

def accepts : Bool := ((c (rankZero hn)).accept0 (step (rankZero hn))).1.isOk

lemma sharedFinish_wins [IsStrictOrderedRing F] (hall : ∀ i, AtAuthority hn c step localOutcome i)
    (hplan : ∀ i, (c i).plan = (c (rankZero hn)).plan) (hk : Wins (suppliedOutcome localOutcome) k)
    (hdec : decision = ⟨suppliedOutcome localOutcome k, k, outcomeClass (suppliedOutcome localOutcome k)⟩) :
    (sharedFinish hn c step decision).ready = true ∧ (sharedFinish hn c step decision).lowest = k ∧
      (sharedFinish hn c step decision).decision =
        (if (suppliedOutcome localOutcome k).code.retryable && retries hn c step then .retry else .fatal) ∧
      ((suppliedOutcome localOutcome k).code.retryable = false →
        (sharedFinish hn c step decision).outcome = suppliedOutcome localOutcome k) := by
  have hfailed := hk.failed
  have hpriority : outcomeClass (suppliedOutcome localOutcome k) ≠ 0 := by
    unfold outcomeClass
    split_ifs <;> simp
  have hlowest : ¬ decision.lowest < 0 := by
    rw [hdec]
    exact not_lt.mpr (Int.natCast_nonneg _)
  have hnonneg : (if 0 ≤ (k : ℤ) then (k : ℤ) else 0) = k := if_pos (Int.natCast_nonneg _)
  cases hretryable : (suppliedOutcome localOutcome k).code.retryable with
  | false =>
    have hkind : finishKind decision = .fatal := finishKind_failed (by rw [hdec]) (by rw [hdec]; exact hretryable)
    have hpubl := ownFinish_fatal hn c step hkind
    rw [sharedFinish_failed hn c step (by rw [hpubl, hdec]; exact hfailed) (by rw [hpubl]; rfl),
      hpubl, hdec]
    exact ⟨by simp [hpriority], hnonneg, by simp, fun _ => rfl⟩
  | true =>
    have hkind : finishKind decision = .retry := by
      rw [finishKind, if_neg hlowest, hdec, if_pos hretryable]
    have hpubl : publishedFinish hn c step decision = (c (rankZero hn)).retry0 (step (rankZero hn)) :=
      ownFinish_retry hkind
    cases hretries : retries hn c step with
    | false =>
      have hnot : ((c (rankZero hn)).retry0 (step (rankZero hn))).1.isOk = false := hretries
      rw [sharedFinish_failed hn c step (by rw [hpubl]; exact hnot)
        (by rw [hpubl]; exact decodes_retry0), hpubl, hdec]
      exact ⟨by simp [hpriority], hnonneg, by simp, fun h => (by cases h)⟩
    | true =>
      have hok : ((c (rankZero hn)).retry0 (step (rankZero hn))).1.isOk = true := hretries
      have hchecked : ∀ i, (checkedFinish hn c step decision i).brought.isOk = true := by
        intro i
        refine checkFinish_passes (by rw [hpubl]; exact hok) (by rw [hpubl]; exact decodes_retry0)
          (fun h => absurd h (by simp [hkind])) fun _ => ?_
        rw [hpubl, eq_of_atAuthority hn c step (hall i) (hplan i)]
        exact validRetry_retry0 hok
      rw [sharedFinish_checked hn c step hchecked, hkind, hdec]
      exact ⟨rfl, rfl, by simp, fun h => (by cases h)⟩

lemma sharedFinish_success (hall : ∀ i, AtAuthority hn c step localOutcome i)
    (hdecodes : decodeStepWire (stepWire (step (rankZero hn))) = some (step (rankZero hn)))
    (hdec : decision = { status := {} }) : (sharedFinish hn c step decision).ready = true ∧
      (sharedFinish hn c step decision).decision = (if accepts hn c step then .accept else .fatal) ∧
      (accepts hn c step = false → (sharedFinish hn c step decision).lowest = 0) := by
  have hkind : finishKind decision = .accept := by
    rw [hdec]
    rfl
  have hpubl : publishedFinish hn c step decision = (c (rankZero hn)).accept0 (step (rankZero hn)) :=
    ownFinish_accept hkind
  cases haccepts : accepts hn c step with
  | false =>
    have hnot : ((c (rankZero hn)).accept0 (step (rankZero hn))).1.isOk = false := haccepts
    rw [sharedFinish_failed hn c step (by rw [hpubl]; exact hnot)
      (by rw [hpubl]; exact decodes_accept0 hdecodes), hdec]
    exact ⟨by simp, by simp, fun _ => rfl⟩
  | true =>
    have hok : ((c (rankZero hn)).accept0 (step (rankZero hn))).1.isOk = true := haccepts
    have hchecked : ∀ i, (checkedFinish hn c step decision i).brought.isOk = true := by
      intro i
      refine checkFinish_passes (by rw [hpubl]; exact hok)
        (by rw [hpubl]; exact decodes_accept0 hdecodes) (fun _ => ?_) fun h => absurd h (by simp [hkind])
      have hvalid := validAccept_accept0 hok
      rw [hpubl, (hall i).sameStep]
      simpa only [validAccept, (hall i).state.time, (hall i).state.acceptedStep, (hall i).state.nextGeneration]
        using hvalid
    rw [sharedFinish_checked hn c step hchecked, hkind]
    exact ⟨rfl, by simp, fun h => (by cases h)⟩

/-- The ranks decide together. A rank away from the authority stops every rank; a failure of the
highest class is named by its lowest rank; a failure of MPI is only returned. -/
structure FinishAgreed (c : Fin n → TimeController F) (step : Fin n → StepTime F) (localOutcome : Fin n → RawStatus)
    (r : Fin n → FinishResult F) : Prop where
  status : ∀ i j, (r i).status = (r j).status
  decision : ∀ i j, (r i).committed = (r j).committed
  next : ∀ i j, (r i).next = (r j).next
  refused : ∀ k, ¬ AtAuthority hn c step localOutcome k → ∀ i,
    (r i).status.isOk = false ∧ (r i).committed = none ∧ StateKept (c i) (r i).controller
  failed : (∀ i, AtAuthority hn c step localOutcome i) → (∀ i, (c i).plan = (c (rankZero hn)).plan) →
    ∀ k, Wins (suppliedOutcome localOutcome) k → (suppliedOutcome localOutcome k).code ≠ .mpiFailure → ∀ i,
      (r i).controller.lowestFailingRank = k ∧
      (r i).committed =
        some (if (suppliedOutcome localOutcome k).code.retryable && retries hn c step then .retry else .fatal) ∧
      ((suppliedOutcome localOutcome k).code.retryable = false → (r i).status = suppliedOutcome localOutcome k)
  accepted : (∀ i, AtAuthority hn c step localOutcome i) → (∀ i, (suppliedOutcome localOutcome i).isOk = true) →
    decodeStepWire (stepWire (step (rankZero hn))) = some (step (rankZero hn)) → ∀ i,
      (r i).controller.lowestFailingRank = (if accepts hn c step then -1 else 0) ∧
      (r i).committed = some (if accepts hn c step then .accept else .fatal)
  mpiFailure : (∀ i, AtAuthority hn c step localOutcome i) → ∀ k, Wins (suppliedOutcome localOutcome) k →
    (suppliedOutcome localOutcome k).code = .mpiFailure → ∀ i,
      (r i).status = suppliedOutcome localOutcome k ∧ (r i).committed = none ∧
      (r i).controller = { c i with lowestFailingRank := -1 }

omit [Field F] [TimeReal F] in
lemma decision_of_success (hd : Decided (outcomes hn c step localOutcome) decision)
    (hall : ∀ i, AtAuthority hn c step localOutcome i) (hok : ∀ i, (suppliedOutcome localOutcome i).isOk = true) :
    decision = { status := {} } := by
  cases hd with
  | success _ => rfl
  | failure k hk _ =>
    rw [outcomes_native hn c step localOutcome (hall k)] at hk
    exact absurd ((Status.isOk_iff _).mp (hok k)) hk

lemma finished_agreed [IsStrictOrderedRing F] (hd : Decided (outcomes hn c step localOutcome) decision)
    (hnames : NamesLowest (outcomes hn c step localOutcome) decision) :
    FinishAgreed hn c step localOutcome (finished hn c step decision) := by
  have hchosen := fun hall k hk => decision_of_wins hn c step (k := k) hall hd hnames hk
  by_cases hmpi : decision.status.code = .mpiFailure
  · have hresult := finished_mpi hn c step hmpi
    constructor
    · intro i j
      rw [hresult, hresult]
    · intro i j
      rw [hresult, hresult]
    · intro i j
      rw [hresult, hresult]
    · intro k hk
      rw [(stranger_decision hn c step hd hk).2.2] at hmpi
      cases hmpi
    · intro hall _ k hk hcode
      rw [hchosen hall k hk] at hmpi
      exact absurd hmpi hcode
    · intro hall hok
      rw [decision_of_success hn c step hd hall hok] at hmpi
      cases hmpi
    · intro hall k hk _ i
      rw [hresult, hchosen hall k hk]
      exact ⟨rfl, rfl, rfl⟩
  · have hwins : ∀ hall : ∀ i, AtAuthority hn c step localOutcome i, ∀ k, Wins (suppliedOutcome localOutcome) k →
        (suppliedOutcome localOutcome k).code ≠ .mpiFailure := by
      intro hall k hk hcode
      rw [hchosen hall k hk] at hmpi
      exact hmpi hcode
    cases hready : (sharedFinish hn c step decision).ready with
    | false =>
      have hresult := finished_unready hn c step hmpi hready
      constructor
      · intro i j
        rw [hresult, hresult]
      · intro i j
        rw [hresult, hresult]
      · intro i j
        rw [hresult, hresult]
      · intro k hk i
        obtain ⟨-, hkind, hcode⟩ := stranger_decision hn c step hd hk
        have hfailed : decision.status.isOk = false := by simp [Status.isOk, hcode]
        have hpubl := ownFinish_fatal hn c step hkind
        have hunpub : (publishedFinish hn c step decision).1.isOk = false := by
          rw [hpubl]
          exact hfailed
        have hshared := sharedFinish_failed hn c step hunpub (by rw [hpubl]; rfl)
        rw [hresult, hshared, hpubl]
        exact ⟨hfailed, rfl, rfl⟩
      · intro hall hplan k hk
        have h := (sharedFinish_wins hn c step hall hplan hk (hchosen hall k hk)).1
        rw [hready] at h
        cases h
      · intro hall hok hdecodes
        have h := (sharedFinish_success hn c step hall hdecodes (decision_of_success hn c step hd hall hok)).1
        rw [hready] at h
        cases h
      · intro hall k hk hcode
        exact absurd hcode (hwins hall k hk)
    | true =>
      have hresult := finished_ready hn c step hmpi hd hready
      have hall := atAuthority_of_ready hn c step hd hready
      constructor
      · intro i j
        rw [(hresult i).2.1, (hresult j).2.1]
      · intro i j
        rw [(hresult i).1, (hresult j).1]
      · intro i j
        rw [(hresult i).2.2.1, (hresult j).2.2.1]
        split_ifs with hretry
        · rw [candidate_of_retry hn c step hretry i, candidate_of_retry hn c step hretry j]
        · rfl
      · intro k hk
        exact absurd (hall k) hk
      · intro _ hplan k hk _ i
        obtain ⟨-, hlowest, hkind, houtcome⟩ := sharedFinish_wins hn c step hall hplan hk (hchosen hall k hk)
        refine ⟨?_, ?_, fun hretryable => ?_⟩
        · rw [(hresult i).2.2.2, hlowest, hkind]
          exact if_neg (by split_ifs <;> simp)
        · rw [(hresult i).1, hkind]
        · rw [(hresult i).2.1, hkind, houtcome hretryable, hretryable]
          rfl
      · intro _ hok hdecodes i
        obtain ⟨-, hkind, hlowest⟩ := sharedFinish_success hn c step hall hdecodes
          (decision_of_success hn c step hd hall hok)
        rw [(hresult i).2.2.2, (hresult i).1, hkind]
        cases haccepts : accepts hn c step with
        | false => exact ⟨hlowest haccepts, rfl⟩
        | true => exact ⟨rfl, rfl⟩
      · intro _ k hk hcode
        exact absurd hcode (hwins hall k hk)

variable (localOutcome) in
lemma timeFinish_run : ∃ trace decision, Decided (outcomes hn c step localOutcome) decision ∧
    NamesLowest (outcomes hn c step localOutcome) decision ∧
    (mpiJob hn).Run (fun i => (c i).finish (.valid (jobComm hsize i)) (step i) (localOutcome i)) trace
      (finished hn c step decision) := by
  obtain ⟨trace, decision, hd, hnames, hprepare⟩ := prepareFinish_run hn hsize c step localOutcome
  exact ⟨_, decision, hd, hnames, Network.Run.bind hprepare (.done _)⟩

end Job

/-- A rank that is to finish a step of size 1. -/
def sampleActive : TimeController ℚ :=
  { sampleTimeRank.controller with activeStep := ⟨2, 1, 2, 0, .restart, ⟨3 / 2, -2, 1 / 2, 2⟩, 5⟩, active := true }

lemma sampleActive_atAuthority (localOutcome : Fin 2 → RawStatus)
    (h : ∀ i, (validStatusCode (localOutcome i).code).isSome = true) (i : Fin 2) :
    AtAuthority (by decide) (fun _ => sampleActive) (fun _ => sampleActive.activeStep) localOutcome i :=
  ⟨sameState_iff.mpr rfl, rfl, by decide +kernel, h i⟩

end HundunFlow.Proofs
