import HundunFlow.Proofs.FieldViews

/-!
# Finish certificates are used once

A transaction only grows older: it takes a new attempt, its attempt moves to a new revision, its
writer is claimed and detached, its attempt ends.
-/

namespace HundunFlow.Proofs

open Lib List Function

def writerStage (t : AttemptTransaction) : ℕ :=
  if t.finalFaceFluxWriterIdentity = 0 then 0 else if t.finalFaceFluxWriter then 1 else 2

def age (t : AttemptTransaction) : ℕ ×ₗ (ℕ × ℕ × ℕ) :=
  toLex (t.attemptIdentity, t.mutationRevision, writerStage t, if t.locallyActive then 0 else 1)

section Age

variable {t t' : AttemptTransaction}

lemma age_le (hidentity : t'.attemptIdentity = t.attemptIdentity) (hmutation : t.mutationRevision ≤ t'.mutationRevision)
    (hstage : writerStage t ≤ writerStage t') (hactive : t'.locallyActive = true → t.locallyActive = true) :
    age t ≤ age t' := by
  refine Prod.Lex.toLex_le_toLex.mpr (.inr ⟨hidentity.symm, hmutation, hstage, ?_⟩)
  dsimp only
  split_ifs with hold hnew hnew
  · exact le_rfl
  · exact Nat.zero_le _
  · exact absurd (hactive hnew) hold
  · exact le_rfl

lemma age_lt_of_identity (h : t.attemptIdentity < t'.attemptIdentity) : age t < age t' :=
  Prod.Lex.toLex_lt_toLex.mpr (.inl h)

lemma age_ne (h : t.mutationRevision ≠ t'.mutationRevision ∨ writerStage t ≠ writerStage t' ∨
    t.locallyActive ≠ t'.locallyActive) : age t ≠ age t' := by
  intro heq
  obtain ⟨-, hmutation, hstage, hactive⟩ := by simpa [age] using heq
  rcases h with h | h | h
  · exact h hmutation
  · exact h hstage
  · cases hold : t.locallyActive <;> cases hnew : t'.locallyActive <;> simp_all

lemma matches_age {decision : AttemptFinishDecision} {outcome : Status} {lowest : ℤ}
    (h : t'.matchesPrepared (t.certificate decision outcome lowest) = true) : age t' = age t := by
  simp only [AttemptTransaction.matchesPrepared, AttemptTransaction.certificate, Bool.and_eq_true] at h
  obtain ⟨⟨⟨⟨⟨⟨-, hwriter⟩, -⟩, hidentity⟩, hmutation⟩, hwriterIdentity⟩, hactive⟩ := h
  unfold age writerStage
  rw [of_decide_eq_true hidentity, of_decide_eq_true hmutation, of_decide_eq_true hwriterIdentity,
    of_decide_eq_true hwriter, of_decide_eq_true hactive]

end Age

def isMutator : AttemptOp → Bool
  | .begin _ | .reviseTrial _ | .bindDependency _ | .publish _ _ _ | .publishFinal _ _ _ _ | .detach _
  | .invalidate => true
  | _ => false

structure Identified (a : Attempt) : Prop where
  attempt : a.transaction.attemptIdentity < a.nextIdentity
  writer : a.transaction.finalFaceFluxWriter = true → a.transaction.finalFaceFluxWriterIdentity ≠ 0

lemma Identified.congr {a a' : Attempt} (h : Identified a) (htransaction : a'.transaction = a.transaction)
    (hnext : a.nextIdentity ≤ a'.nextIdentity) : Identified a' := by
  constructor
  · rw [htransaction]
    exact lt_of_lt_of_le h.attempt hnext
  · rw [htransaction]
    exact h.writer

section Step

variable {a a' : Attempt} {op : AttemptOp}

lemma writerStage_congr {t t' : AttemptTransaction} (hidentity : t'.finalFaceFluxWriterIdentity = t.finalFaceFluxWriterIdentity)
    (hwriter : t'.finalFaceFluxWriter = t.finalFaceFluxWriter) : writerStage t' = writerStage t := by
  unfold writerStage
  rw [hidentity, hwriter]

lemma writerStage_detached {t t' : AttemptTransaction} (hidentity : t'.finalFaceFluxWriterIdentity = t.finalFaceFluxWriterIdentity)
    (hwriter : t'.finalFaceFluxWriter = false) : writerStage t ≤ writerStage t' := by
  unfold writerStage
  rw [hidentity, hwriter, if_neg Bool.false_ne_true]
  split_ifs <;> omega

lemma detach_transaction {failActive : Bool} (h : Attempt.Step a (.detach failActive) a') :
    a'.transaction = a.transaction.detachFinalFaceFluxWriter failActive := by
  rw [step_done rfl h]
  rfl

lemma within_stage (h : Attempt.Step a op a') (hwithin : Within a.transaction a'.transaction)
    (hwriter : (∃ failActive, op = .detach failActive) ∨
      a'.transaction.finalFaceFluxWriter = a.transaction.finalFaceFluxWriter) :
    writerStage a.transaction ≤ writerStage a'.transaction := by
  rcases hwriter with ⟨failActive, rfl⟩ | hsame
  · refine writerStage_detached hwithin.writerIdentity ?_
    rw [detach_transaction h]
    exact detach_flag _ _
  · exact (writerStage_congr hwithin.writerIdentity hsame).ge

lemma within_locallyActive {t t' : AttemptTransaction} (h : Within t t') : t'.locallyActive = t.locallyActive := by
  unfold AttemptTransaction.locallyActive
  rw [h.active, h.layers]

lemma claim_frame (slot identity : ℕ) (t : AttemptTransaction) :
    (t.claimFinalFaceFluxWriter slot identity).1.attemptIdentity = t.attemptIdentity ∧
    (t.claimFinalFaceFluxWriter slot identity).1.mutationRevision = t.mutationRevision ∧
    (t.claimFinalFaceFluxWriter slot identity).1.locallyActive = t.locallyActive ∧
    writerStage t ≤ writerStage (t.claimFinalFaceFluxWriter slot identity).1 := by
  unfold AttemptTransaction.claimFinalFaceFluxWriter
  split
  · exact ⟨rfl, rfl, rfl, le_rfl⟩
  · rename_i hfree
    simp only [Bool.or_eq_true, decide_eq_true_eq, not_or, not_not] at hfree
    refine ⟨rfl, rfl, rfl, ?_⟩
    unfold writerStage
    rw [if_pos hfree.1.2]
    exact Nat.zero_le _

lemma step_age (hid : Identified a) (h : Attempt.Step a op a') : age a.transaction ≤ age a'.transaction := by
  cases step_effect h with
  | opened ref hop hopened =>
    obtain ⟨bound, s, m, catalog, ht, -⟩ := hopened.transaction
    refine (age_lt_of_identity ?_).le
    rw [ht]
    exact hid.attempt
  | refused status _ hidle _ ht =>
    rw [ht]
    exact le_rfl
  | within hwithin _ _ _ _ hwriter =>
    exact age_le hwithin.attemptIdentity hwithin.monotone (within_stage h hwithin hwriter)
      fun hactive => (within_locallyActive hwithin).symm.trans hactive
  | claimed slot identity _ hclaim =>
    obtain ⟨hidentity, hmutation, hactive, hstage⟩ := claim_frame slot identity a.transaction
    rw [hclaim]
    exact age_le hidentity hmutation.ge hstage fun hnew => hactive.symm.trans hnew
  | certified i p heq =>
    rw [heq]
    exact le_rfl
  | discarded lowest _ ht =>
    rw [ht]
    exact age_le rfl le_rfl le_rfl fun hnew => absurd hnew (by simp [discardedState,
      AttemptTransaction.discardAttempt, AttemptTransaction.locallyActive])
  | accepted hactive _ ht =>
    rw [ht]
    exact age_le rfl le_rfl le_rfl fun _ => hactive

lemma step_identified (hid : Identified a) (h : Attempt.Step a op a') :
    Identified a' ∧ a.nextIdentity ≤ a'.nextIdentity := by
  cases step_effect h with
  | opened ref hop hopened =>
    obtain ⟨bound, s, m, catalog, ht, -⟩ := hopened.transaction
    refine ⟨⟨?_, ?_⟩, hopened.identity.2 ▸ Nat.le_succ _⟩
    · rw [ht, hopened.identity.2]
      exact Nat.lt_succ_self _
    · rw [ht]
      exact hid.writer
  | refused status _ hidle _ ht _ _ hnext =>
    refine ⟨⟨?_, ?_⟩, hnext⟩ <;> rw [ht]
    · exact lt_of_lt_of_le hid.attempt hnext
    · exact hid.writer
  | within hwithin _ _ _ hnext hwriter =>
    refine ⟨⟨hwithin.attemptIdentity ▸ lt_of_lt_of_le hid.attempt hnext, fun hclaimed => ?_⟩, hnext⟩
    rw [hwithin.writerIdentity]
    refine hid.writer ?_
    rcases hwriter with ⟨failActive, rfl⟩ | hsame
    · rw [detach_transaction h, detach_flag] at hclaimed
      exact nomatch hclaimed
    · exact hsame.symm.trans hclaimed
  | claimed slot identity _ hclaim _ _ _ hnext =>
    have hframe := claim_frame slot identity a.transaction
    refine ⟨⟨?_, ?_⟩, hnext⟩ <;> rw [hclaim]
    · rw [hframe.1]
      exact lt_of_lt_of_le hid.attempt hnext
    · unfold AttemptTransaction.claimFinalFaceFluxWriter
      split
      · exact hid.writer
      · rename_i hfree
        simp only [Bool.or_eq_true, decide_eq_true_eq, not_or] at hfree
        exact fun _ => hfree.1.1.1.1.2
  | certified i p heq =>
    rw [heq]
    exact ⟨⟨hid.attempt, hid.writer⟩, le_rfl⟩
  | discarded lowest _ ht _ _ hnext =>
    refine ⟨⟨?_, ?_⟩, hnext.ge⟩ <;> rw [ht]
    · exact hnext ▸ hid.attempt
    · exact hid.writer
  | accepted hactive _ ht _ _ hnext =>
    refine ⟨⟨?_, ?_⟩, hnext.ge⟩ <;> rw [ht]
    · exact hnext ▸ hid.attempt
    · exact hid.writer

lemma mutator_idle (hop : isMutator op = true) (hidle : a.transaction.active = false) (h : Attempt.Step a op a') :
    a'.transaction = a.transaction ∨ (∃ ref, op = .begin ref) ∨ ∃ failActive, op = .detach failActive := by
  have hlocal : a.transaction.locallyActive = false := by
    unfold AttemptTransaction.locallyActive
    rw [hidle, Bool.false_and]
  have hpublish : ∀ slot dependencies stamp writerIdentity,
      (a.transaction.publishPendingCacheImpl slot dependencies stamp writerIdentity).1 = a.transaction := by
    intro slot dependencies stamp writerIdentity
    unfold AttemptTransaction.publishPendingCacheImpl AttemptTransaction.preflightPendingCacheImpl
    simp [hlocal]
  cases op with
  | begin ref => exact .inr (.inl ⟨ref, rfl⟩)
  | detach failActive => exact .inr (.inr ⟨failActive, rfl⟩)
  | reviseTrial field =>
    rw [step_done rfl h]
    left
    simp [Attempt.reviseTrial, AttemptTransaction.reviseTrial, hlocal]
  | bindDependency d =>
    rw [step_done rfl h]
    left
    simp [Attempt.withTransaction, AttemptTransaction.bindDependency, hlocal]
  | publish slot dependencies stamp =>
    rw [step_done rfl h]
    exact .inl (hpublish slot dependencies stamp 0)
  | publishFinal slot dependencies stamp identity =>
    rw [step_done rfl h]
    left
    dsimp only [Attempt.withTransaction]
    rw [publishFinal_eq]
    split
    · rfl
    · exact hpublish slot dependencies stamp identity
  | invalidate =>
    rw [step_done rfl h]
    left
    simp [Attempt.withTransaction, AttemptTransaction.invalidateFinalFaceFluxWriter, hidle]
  | reviseRuntime => exact absurd hop (by simp [isMutator])
  | claim => exact absurd hop (by simp [isMutator])
  | prepare => exact absurd hop (by simp [isMutator])
  | commitAccept => exact absurd hop (by simp [isMutator])
  | commitReject => exact absurd hop (by simp [isMutator])
  | finish => exact absurd hop (by simp [isMutator])
  | issueIdentity => exact absurd hop (by simp [isMutator])

lemma mutation_age (hid : Identified a) (hop : isMutator op = true) (h : Attempt.Step a op a')
    (hchanged : a'.transaction ≠ a.transaction)
    (hsmall : a.transaction.active = true → a.transaction.mutationRevision ≠ maxU64)
    (hbegin : ∀ ref, op = .begin ref → a.transaction.active = true ∨ a'.transaction.active = true) :
    age a.transaction < age a'.transaction := by
  refine lt_of_le_of_ne (step_age hid h) ?_
  cases step_effect h with
  | opened ref _ hopened =>
    obtain ⟨bound, s, m, catalog, ht, -⟩ := hopened.transaction
    refine (age_lt_of_identity ?_).ne
    rw [ht]
    exact hid.attempt
  | refused status hrefused hidle _ ht =>
    obtain ⟨ref, rfl⟩ := hrefused
    have hidle' : a'.transaction.active = false := by rw [ht]; exact hidle
    exact absurd (hbegin ref rfl) (by simp [hidle, hidle'])
  | within hwithin =>
    by_cases hactive : a.transaction.active = true
    · have hmoved := (hwithin.moved hactive).resolve_left hchanged
      exact age_ne (.inl (hmoved.advanced (hsmall hactive)).ne)
    · have hidle : a.transaction.active = false := by simpa using hactive
      rcases mutator_idle hop hidle h with hsame | ⟨ref, rfl⟩ | ⟨failActive, rfl⟩
      · exact absurd hsame hchanged
      · exact absurd (hbegin ref rfl) (by simp [hwithin.active, hidle])
      · -- the writer was there and is not any more
        have hdetached := detach_transaction h
        rcases detach_cases a.transaction failActive with ⟨-, hsame⟩ | ⟨-, hfree⟩ | ⟨hbusy, -⟩
        · exact absurd (hdetached.trans hsame) hchanged
        · refine age_ne (.inr (.inl ?_))
          have hclaimed : a.transaction.finalFaceFluxWriter = true := by
            by_contra hnone
            refine hchanged (hdetached.trans ?_)
            unfold AttemptTransaction.detachFinalFaceFluxWriter
            simp [hnone]
          have hnonzero := hid.writer hclaimed
          rw [hdetached, hfree]
          unfold writerStage
          simp [hnonzero, hclaimed]
        · exact absurd hbusy hactive
  | claimed _ _ hclaim => exact absurd (hclaim ▸ hop) (by simp [isMutator])
  | certified i p heq => exact absurd (congrArg Attempt.transaction heq) hchanged
  | discarded lowest hcall =>
    rcases hcall with ⟨i, ready, c, s, rfl⟩ | ⟨i, rfl⟩ | ⟨ready, c, s, rfl⟩ <;>
      exact absurd hop (by simp [isMutator])
  | accepted _ hcall =>
    rcases hcall with ⟨i, rfl, -⟩ | ⟨ready, c, s, rfl, -⟩ <;> exact absurd hop (by simp [isMutator])

end Step

section Certificate

variable {a a' : Attempt} {op : AttemptOp}

lemma prepare_valid {t : AttemptTransaction} {layers : StateLayers} {ready : Bool} {communicator : MpiComm}
    {localStatus : RawStatus} {out : PreparedAttemptFinish} {r : PrepareResult} (hout : out.valid = true)
    (h : (t.collectivePrepare layers ready communicator localStatus out).Local communicator.Faithful r) :
    r.prepared = out := by
  unfold AttemptTransaction.collectivePrepare AttemptTransaction.failPrepare at h
  rw [if_pos hout, Prog.local_done_iff] at h
  rw [h]

/-- What the transaction `a` wrote into the certificate `c`. -/
structure Minted (a : Attempt) (op : AttemptOp) (a' : Attempt) (c : ℕ) : Prop where
  call : ∃ ready communicator localStatus, op = .prepare c ready communicator localStatus
  free : (a.prepared c).valid = false
  transaction : a'.transaction = a.transaction
  certificate : ∃ decision outcome lowest, a'.prepared c = a.transaction.certificate decision outcome lowest ∧
    (decision = .accept → a.transaction.locallyActive = true)

lemma certificate_cases (h : Attempt.Step a op a') (c : ℕ) : a'.prepared c = a.prepared c ∨
    a'.prepared c = { a.prepared c with consumed := true, isValid := false } ∨ Minted a op a' c := by
  have hother : ∀ i p, c ≠ i → Function.update a.prepared i p c = a.prepared c := fun i p hne => update_of_ne hne ..
  cases op with
  | begin ref =>
    rw [step_done rfl h]
    rcases begin_cases a ref with ⟨-, s, m, heq, -⟩ | ⟨-, s, -, hprepared, -⟩ | hopened
    · exact .inl (by dsimp only; rw [heq])
    · exact .inl (congrFun hprepared c)
    · exact .inl (congrFun hopened.prepared c)
  | reviseTrial field =>
    rw [step_done rfl h]
    left
    change (a.setCurrent (a.transaction.reviseTrial a.current field).2.1).prepared c = a.prepared c
    unfold Attempt.setCurrent
    split <;> rfl
  | reviseRuntime ref lifetime field =>
    rw [step_done rfl h]
    exact .inl rfl
  | bindDependency d =>
    rw [step_done rfl h]
    exact .inl rfl
  | publish slot dependencies stamp =>
    rw [step_done rfl h]
    exact .inl rfl
  | publishFinal slot dependencies stamp identity =>
    rw [step_done rfl h]
    exact .inl rfl
  | claim slot =>
    rw [step_done rfl h]
    exact .inl rfl
  | detach failActive =>
    rw [step_done rfl h]
    exact .inl rfl
  | invalidate =>
    rw [step_done rfl h]
    exact .inl rfl
  | prepare i ready communicator localStatus =>
    obtain ⟨r, hreturns, rfl⟩ := h
    unfold AttemptOp.Returns AttemptOp.run at hreturns
    rw [Prog.local_bind_iff] at hreturns
    obtain ⟨p, hp, hreturns⟩ := hreturns
    rw [Prog.local_done_iff] at hreturns
    subst hreturns
    by_cases hi : c = i
    · subst hi
      have hself : (({ a with transaction := p.transaction } : Attempt).setPrepared c p.prepared).prepared c = p.prepared :=
        update_self ..
      by_cases hvalid : (a.prepared c).valid = true
      · exact .inl (hself.trans (prepare_valid hvalid hp))
      · have hfree : (a.prepared c).valid = false := by simpa using hvalid
        rcases prepare_cases hp with ⟨-, hr⟩ | ⟨hready, hr⟩ | ⟨outcome, lowest, hr⟩
        · exact .inl (hself.trans (by rw [hr]))
        · refine .inr (.inr ⟨⟨_, _, _, rfl⟩, hfree, ?_, .accept, {}, -1, ?_, fun _ =>
            (locallyActive_iff _).mpr hready.active⟩)
          · rw [hr]
            rfl
          · rw [hr]
            exact update_self ..
        · refine .inr (.inr ⟨⟨_, _, _, rfl⟩, hfree, ?_, .reject, outcome, lowest, ?_, fun hdec =>
            nomatch hdec⟩)
          · rw [hr]
            rfl
          · rw [hr]
            exact update_self ..
    · exact .inl (hother i _ hi)
  | commitAccept i =>
    rw [step_done rfl h]
    rcases commitAccept_cases a (a.prepared i) with heq | ⟨-, -, -, heq⟩ <;> rw [heq]
    · exact .inl (congrFun (congrArg Attempt.prepared (setPrepared_self i)) c)
    · have hprepared : (acceptedState a).prepared = a.prepared := by
        unfold acceptedState Attempt.setCurrent
        split <;> rfl
      by_cases hi : c = i
      · subst hi
        exact .inr (.inl (update_self ..))
      · left
        change Function.update (acceptedState a).prepared i _ c = a.prepared c
        rw [hprepared]
        exact hother i _ hi
  | commitReject i =>
    rw [step_done rfl h]
    rcases commitReject_cases a (a.prepared i) with heq | ⟨-, lowest, heq⟩ <;> rw [heq]
    · exact .inl (congrFun (congrArg Attempt.prepared (setPrepared_self i)) c)
    · by_cases hi : c = i
      · subst hi
        exact .inr (.inl (update_self ..))
      · exact .inl (hother i _ hi)
  | finish ready communicator localStatus =>
    obtain ⟨r, hreturns, rfl⟩ := h
    left
    rcases finish_cases hreturns with ⟨lowest, heq, -⟩ | ⟨-, heq, -⟩ <;> rw [heq]
    · rfl
    · unfold acceptedState Attempt.setCurrent
      split <;> rfl
  | issueIdentity =>
    rw [step_done rfl h]
    exact .inl rfl

end Certificate

/-- The call changed the attempt of the transaction `i`. -/
def Mutates (tr : Transition Attempts AttemptsOp) (i : ℕ) : Prop :=
  tr.op.transaction = i ∧ isMutator tr.op.call = true ∧ tr.post.transactions i ≠ tr.pre.transactions i

/-- The call is made while the mutation revision of the attempt cannot move any more. -/
def Saturates (tr : Transition Attempts AttemptsOp) : Prop :=
  isMutator tr.op.call = true ∧ (tr.pre.transactions tr.op.transaction).active = true ∧
    (tr.pre.transactions tr.op.transaction).mutationRevision = maxU64

/-- `collective_prepare` of the transaction `i` wrote the certificate `c`. -/
def Mints (tr : Transition Attempts AttemptsOp) (i c : ℕ) : Prop :=
  tr.op.transaction = i ∧
    (∃ ready communicator localStatus, tr.op.call = .prepare c ready communicator localStatus) ∧
    (tr.pre.prepared c).valid = false ∧ (tr.post.prepared c).valid = true

/-- The certificate `c` is passed to one of the commits. -/
def Commits (tr : Transition Attempts AttemptsOp) (c : ℕ) : Prop :=
  tr.op.call = .commitAccept c ∨ tr.op.call = .commitReject c

/-- A commit used up the certificate `c`. -/
def Uses (tr : Transition Attempts AttemptsOp) (c : ℕ) : Prop :=
  Commits tr c ∧ (tr.pre.prepared c).valid = true ∧ (tr.post.prepared c).valid = false

/-- What makes earlier certificates of the transaction `i` outdated: its attempt ends, it opens
another one, or the attempt or its writer changes. A `begin` that is refused on an idle transaction
opens no attempt. -/
def Outdates (tr : Transition Attempts AttemptsOp) (i : ℕ) : Prop :=
  ((tr.pre.transactions i).locallyActive = true ∧ (tr.post.transactions i).locallyActive = false) ∨
    Mutates tr i ∧ ∀ ref, tr.op.call = .begin ref →
      (tr.pre.transactions i).active = true ∨ (tr.post.transactions i).active = true

/-- The roles of some layers change, or the active caches of some transaction. -/
def TakesEffect (tr : Transition Attempts AttemptsOp) : Prop :=
  (∃ ref, (tr.post.layers ref).roleHandles ≠ (tr.pre.layers ref).roleHandles) ∨
    ∃ i, (tr.post.transactions i).activeCaches ≠ (tr.pre.transactions i).activeCaches

section Run

variable {s s' : Attempts} {t : List (Transition Attempts AttemptsOp)}

variable {op : AttemptsOp} {tr : Transition Attempts AttemptsOp} {c : ℕ}

variable {i : ℕ}

lemma put_transactions (i j : ℕ) (a : Attempt) :
    (s.put i a).transactions j = if j = i then a.transaction else s.transactions j :=
  update_apply ..

lemma attempts_age (h : Attempts.Step s op s') (hid : ∀ i, Identified (s.view i)) (i : ℕ) :
    Identified (s'.view i) ∧ age (s.transactions i) ≤ age (s'.transactions i) := by
  obtain ⟨a, hstep, rfl⟩ := h
  have hage := step_age (hid op.transaction) hstep
  obtain ⟨hidentified, hnext⟩ := step_identified (hid op.transaction) hstep
  by_cases hi : i = op.transaction
  · have htransaction : (s.put op.transaction a).transactions i = a.transaction := by
      rw [put_transactions, if_pos hi]
    refine ⟨hidentified.congr htransaction le_rfl, ?_⟩
    rw [htransaction, hi]
    exact hage
  · have htransaction : (s.put op.transaction a).transactions i = s.transactions i := by
      rw [put_transactions, if_neg hi]
    exact ⟨(hid i).congr htransaction hnext, htransaction ▸ le_rfl⟩

lemma run_age (h : Exec Attempts.Step s t s') (hid : ∀ i, Identified (s.view i)) (i : ℕ) :
    Identified (s'.view i) ∧ age (s.transactions i) ≤ age (s'.transactions i) := by
  induction h generalizing i with
  | nil => exact ⟨hid i, le_rfl⟩
  | snoc t b op b' _ hs ih =>
    obtain ⟨hidentified, hage⟩ := attempts_age hs (fun i => (ih i).1) i
    exact ⟨hidentified, (ih i).2.trans hage⟩

lemma initial_identified (h : s.Initial) (i : ℕ) : Identified (s.view i) := by
  obtain ⟨fields, slots, sources, hcreate⟩ := (h i).transaction
  have hcreated := create_ok hcreate
  refine ⟨hcreated.identity ▸ (h i).nextIdentity, fun hclaimed => ?_⟩
  exact nomatch hcreated.free.1.symm.trans hclaimed

lemma outdates_age (h : Attempts.Step tr.pre tr.op tr.post) (hid : ∀ i, Identified (tr.pre.view i))
    (hsmall : ¬ Saturates tr) (hstale : Outdates tr i) :
    age (tr.pre.transactions i) < age (tr.post.transactions i) := by
  rcases hstale with ⟨hactive, hidle⟩ | ⟨⟨rfl, hop, hchanged⟩, hbegin⟩
  · refine lt_of_le_of_ne (attempts_age h hid i).2 (age_ne (.inr (.inr ?_)))
    rw [hactive, hidle]
    simp
  · obtain ⟨a, hstep, hpost⟩ := h
    rw [hpost, put_transactions, if_pos rfl] at hchanged hbegin ⊢
    exact mutation_age (hid _) hop hstep hchanged (fun hactive hlast => hsmall ⟨hop, hactive, hlast⟩) hbegin

lemma put_kept {a : Attempt} (h : a.prepared c = (s.view i).prepared c) (k : ℕ) :
    ((s.put i a).view k).prepared c = (s.view k).prepared c := by
  have howner : (s.put i a).owners c = s.owners c := by
    change (if (a.prepared c).owner then some i else s.owners c) = s.owners c
    rw [h]
    by_cases hmine : s.owners c = some i
    · simp [Attempts.view, hmine]
    · simp [Attempts.view, hmine]
  change { a.prepared c with owner := decide ((s.put i a).owners c = some k) } = (s.view k).prepared c
  rw [howner, h]
  rfl

/-- The certificate `c` as the transaction `j` wrote it. -/
structure MintedBy (m : Transition Attempts AttemptsOp) (j c : ℕ) : Prop where
  mints : Mints m j c
  owner : m.post.owners c = some j
  certificate : ∃ decision outcome lowest,
    (m.post.view j).prepared c = (m.post.transactions j).certificate decision outcome lowest ∧
      (decision = .accept → (m.post.transactions j).locallyActive = true)

lemma attempts_certificate (h : Attempts.Step s op s') (c : ℕ) :
    (∀ k, (s'.view k).prepared c = (s.view k).prepared c) ∨ (s'.prepared c).valid = false ∨
      MintedBy ⟨s, op, s'⟩ op.transaction c := by
  obtain ⟨a, hstep, rfl⟩ := h
  rcases certificate_cases hstep c with hkept | hused | hminted
  · exact .inl (put_kept hkept)
  · refine .inr (.inl ?_)
    change (a.prepared c).valid = false
    rw [hused]
    rfl
  · obtain ⟨decision, outcome, lowest, hcert, hready⟩ := hminted.certificate
    have htransaction : (s.put op.transaction a).transactions op.transaction = s.transactions op.transaction := by
      rw [put_transactions, if_pos rfl]
      exact hminted.transaction
    have howner : (s.put op.transaction a).owners c = some op.transaction := by
      change (if (a.prepared c).owner then some op.transaction else s.owners c) = some op.transaction
      rw [hcert]
      rfl
    refine .inr (.inr ⟨⟨rfl, hminted.call, hminted.free, ?_⟩, howner, decision, outcome, lowest, ?_, ?_⟩)
    · change (a.prepared c).valid = true
      rw [hcert]
      rfl
    · change { a.prepared c with owner := decide ((s.put op.transaction a).owners c = some op.transaction) } =
        ((s.put op.transaction a).transactions op.transaction).certificate decision outcome lowest
      rw [howner, htransaction, hcert]
      simp [AttemptTransaction.certificate, Attempts.view]
    · rw [htransaction]
      exact hready

lemma exists_mint (h₀ : s.Initial) (h : Exec Attempts.Step s t s') (hvalid : (s'.prepared c).valid = true) :
    ∃ u m v j, t = u ++ m :: v ∧ MintedBy m j c ∧ (∀ tr ∈ v, ¬ Uses tr c ∧ ∀ k, ¬ Mints tr k c) ∧
      ∀ k, (s'.view k).prepared c = (m.post.view k).prepared c := by
  induction h with
  | nil =>
    have hempty : (s.view 0).prepared c = {} := (h₀ 0).prepared c
    have hinvalid : ((s.view 0).prepared c).valid = false := by
      rw [hempty]
      rfl
    exact nomatch hinvalid.symm.trans hvalid
  | snoc t b op b' hexec hs ih =>
    rcases attempts_certificate hs c with hkept | hinvalid | hminted
    · have hvalid' : (b.prepared c).valid = true :=
        (congrArg PreparedAttemptFinish.valid (hkept 0)).symm.trans hvalid
      obtain ⟨u, m, v, j, rfl, hminted, hunused, hsame⟩ := ih hvalid'
      refine ⟨u, m, v ++ [⟨b, op, b'⟩], j, by simp, hminted, fun tr htr => ?_, fun k => (hkept k).trans (hsame k)⟩
      rcases mem_append.mp htr with hold | hnew
      · exact hunused tr hold
      · rw [mem_singleton.mp hnew]
        exact ⟨fun huses => absurd (hvalid.symm.trans huses.2.2) (by simp),
          fun k hmints => absurd (hvalid'.symm.trans hmints.2.2.1) (by simp)⟩
    · exact nomatch hinvalid.symm.trans hvalid
    · exact ⟨t, ⟨b, op, b'⟩, [], op.transaction, rfl, hminted, fun tr htr => absurd htr not_mem_nil, fun _ => rfl⟩

lemma commit_cases (h : Attempts.Step tr.pre tr.op tr.post) (hcommit : Commits tr c) :
    (tr.post.transactions = tr.pre.transactions ∧ tr.post.layers = tr.pre.layers) ∨
    ((tr.pre.transactions tr.op.transaction).matchesPrepared ((tr.pre.view tr.op.transaction).prepared c) = true ∧
      (TakesEffect tr → ((tr.pre.view tr.op.transaction).prepared c).decision = .accept ∧
        (tr.pre.transactions tr.op.transaction).locallyActive = true ∧
        (tr.post.transactions tr.op.transaction).locallyActive = false ∧
        (tr.post.transactions tr.op.transaction).attemptIdentity =
          (tr.pre.transactions tr.op.transaction).attemptIdentity)) := by
  obtain ⟨a, hstep, hpost⟩ := h
  have hkeep : a.transaction = tr.pre.transactions tr.op.transaction → a.layers = tr.pre.layers →
      tr.post.transactions = tr.pre.transactions ∧ tr.post.layers = tr.pre.layers := by
    intro htransaction hlayers
    rw [hpost]
    refine ⟨?_, hlayers⟩
    change Function.update tr.pre.transactions tr.op.transaction a.transaction = tr.pre.transactions
    rw [htransaction, update_eq_self]
  have htransaction : tr.post.transactions tr.op.transaction = a.transaction := by
    rw [hpost, put_transactions, if_pos rfl]
  rcases hcommit with hcall | hcall <;> rw [hcall] at hstep
  · rw [step_done rfl hstep] at hkeep htransaction
    rcases commitAccept_cases (tr.pre.view tr.op.transaction) ((tr.pre.view tr.op.transaction).prepared c) with
      heq | ⟨hmatch, hdec, hactive, heq⟩ <;> rw [heq] at hkeep htransaction
    · exact .inl (hkeep rfl rfl)
    · refine .inr ⟨hmatch, fun _ => ⟨hdec, hactive, ?_, ?_⟩⟩
      · rw [htransaction]
        rfl
      · rw [htransaction]
        rfl
  · rw [step_done rfl hstep] at hkeep hpost
    rcases commitReject_cases (tr.pre.view tr.op.transaction) ((tr.pre.view tr.op.transaction).prepared c) with
      heq | ⟨hmatch, lowest, heq⟩ <;> rw [heq] at hkeep hpost
    · exact .inl (hkeep rfl rfl)
    · refine .inr ⟨hmatch, fun heffect => ?_⟩
      -- a rejection leaves the roles and the active caches alone
      rcases heffect with ⟨ref, hroles⟩ | ⟨i, hcaches⟩
      · rw [hpost] at hroles
        exact absurd rfl hroles
      · rw [hpost, put_transactions] at hcaches
        split_ifs at hcaches with hi
        · exact absurd (by rw [hi]; rfl) hcaches
        · exact absurd rfl hcaches

lemma effective_commit (h : Attempts.Step tr.pre tr.op tr.post) (hcommit : Commits tr c) (heffect : TakesEffect tr) :
    (tr.pre.prepared c).attemptIdentity = (tr.pre.transactions tr.op.transaction).attemptIdentity ∧
      (tr.pre.transactions tr.op.transaction).locallyActive = true ∧
      (tr.post.transactions tr.op.transaction).locallyActive = false ∧
      (tr.post.transactions tr.op.transaction).attemptIdentity =
        (tr.pre.transactions tr.op.transaction).attemptIdentity := by
  rcases commit_cases h hcommit with ⟨htransactions, hlayers⟩ | ⟨hmatch, hends⟩
  · exact absurd heffect (by simp [TakesEffect, htransactions, hlayers])
  · simp only [AttemptTransaction.matchesPrepared, Bool.and_eq_true] at hmatch
    exact ⟨of_decide_eq_true hmatch.1.1.1.2, (hends heffect).2⟩

lemma constant_age (h : Exec Attempts.Step s t s') (hid : ∀ i, Identified (s.view i))
    (hage : age (s'.transactions i) = age (s.transactions i)) (htr : tr ∈ t) :
    Attempts.Step tr.pre tr.op tr.post ∧ (∀ i, Identified (tr.pre.view i)) ∧
      age (tr.pre.transactions i) = age (s.transactions i) ∧ age (tr.post.transactions i) = age (s.transactions i) := by
  obtain ⟨u, v, rfl⟩ := append_of_mem htr
  obtain ⟨hbefore, hstep, hafter⟩ := h.around
  have hpre := run_age hbefore hid
  have hpost := attempts_age hstep fun i => (hpre i).1
  have hlast := (run_age hafter fun i => (hpost i).1) i
  refine ⟨hstep, fun i => (hpre i).1, ?_, ?_⟩
  · exact le_antisymm (((hpost i).2.trans hlast.2).trans hage.le) (hpre i).2
  · exact le_antisymm (hlast.2.trans hage.le) ((hpre i).2.trans (hpost i).2)

/-- The certificate was minted by the transaction itself, was not used since, and is not outdated. -/
structure Current (u : List (Transition Attempts AttemptsOp)) (m : Transition Attempts AttemptsOp)
    (v : List (Transition Attempts AttemptsOp)) (history : List (Transition Attempts AttemptsOp)) (i c : ℕ) : Prop where
  history_eq : history = u ++ m :: v
  mints : Mints m i c
  unused : ∀ tr ∈ v, ¬ Uses tr c ∧ ∀ k, ¬ Mints tr k c
  current : ∀ tr ∈ v, ¬ Outdates tr i

end Run

section Certificates

variable {s₀ s : Attempts} {t : List (Transition Attempts AttemptsOp)}

lemma age_active {t t' : AttemptTransaction} (h : age t = age t') : t.locallyActive = t'.locallyActive := by
  by_contra hne
  exact age_ne (.inr (.inr hne)) h

lemma matching_current (h₀ : s₀.Initial) (h : Exec Attempts.Step s₀ t s) (hcounter : ∀ tr ∈ t, ¬ Saturates tr) {i c : ℕ}
    (hmatch : (s.transactions i).matchesPrepared ((s.view i).prepared c) = true) :
    ∃ u m v, Current u m v t i c ∧
      (((s.view i).prepared c).decision = .accept → ∀ tr ∈ v, ¬ Mutates tr i) := by
  have hfields := hmatch
  simp only [AttemptTransaction.matchesPrepared, Bool.and_eq_true] at hfields
  obtain ⟨u, m, v, j, rfl, hminted, hunused, hsame⟩ := exists_mint h₀ h hfields.1.1.1.1.1.1.1.1
  have howner : j = i := by
    have hmine : ((m.post.view i).prepared c).owner = true := hsame i ▸ hfields.1.1.1.1.1.1.1.2
    exact Option.some.inj (hminted.owner.symm.trans (of_decide_eq_true hmine))
  subst howner
  obtain ⟨hbefore, hstep, hafter⟩ := h.around
  have hid := fun i => (attempts_age hstep (fun i => (run_age hbefore (initial_identified h₀) i).1) i).1
  obtain ⟨decision, outcome, lowest, hcert, hready⟩ := hminted.certificate
  rw [hsame j, hcert] at hmatch
  have hage := matches_age hmatch
  have hsmall : ∀ tr ∈ v, ¬ Saturates tr := fun tr htr => hcounter tr (by simp [htr])
  refine ⟨u, m, v, ⟨rfl, hminted.mints, hunused, fun tr htr hstale => ?_⟩, fun haccept tr htr hmutates => ?_⟩
  · obtain ⟨hstep, hid, hpre, hpost⟩ := constant_age hafter hid hage htr
    exact absurd (outdates_age hstep hid (hsmall tr htr) hstale) (by rw [hpre, hpost]; exact lt_irrefl _)
  · obtain ⟨hstep, hid, hpre, hpost⟩ := constant_age hafter hid hage htr
    -- the attempt was under way all the time
    rw [hsame j, hcert] at haccept
    have hactive : (tr.pre.transactions j).locallyActive = true := (age_active hpre).trans (hready haccept)
    have hstale : Outdates tr j := .inr ⟨hmutates, fun _ _ => .inl ((locallyActive_iff _).mp hactive).1⟩
    exact absurd (outdates_age hstep hid (hsmall tr htr) hstale) (by rw [hpre, hpost]; exact lt_irrefl _)

/-- In every run in which the mutation revision of an attempt does not saturate: a commit that changes
anything was given a certificate that its own transaction minted, that was not used since and is not
outdated; roles and active caches change only by a certificate since whose minting the transaction
was not mutated; and of the certificates of one attempt one takes effect. -/
theorem finish_certificate_one_shot (h₀ : s₀.Initial) (h : Exec Attempts.Step s₀ t s)
    (hcounter : ∀ tr ∈ t, ¬ Saturates tr) : (∀ u tr w c, t = u ++ tr :: w → Commits tr c →
      ((tr.post.transactions ≠ tr.pre.transactions ∨ tr.post.layers ≠ tr.pre.layers) →
        ∃ u₁ m u₂, Current u₁ m u₂ u tr.op.transaction c) ∧
      (TakesEffect tr → ∃ u₁ m u₂, Current u₁ m u₂ u tr.op.transaction c ∧
        ∀ tr' ∈ u₂, ¬ Mutates tr' tr.op.transaction)) ∧
    ∀ u tr v tr' w c c', t = u ++ tr :: v ++ tr' :: w → Commits tr c → Commits tr' c' →
      TakesEffect tr → TakesEffect tr' → tr.op.transaction = tr'.op.transaction →
        (tr.pre.prepared c).attemptIdentity ≠ (tr'.pre.prepared c').attemptIdentity := by
  refine ⟨fun u tr w c hsplit hcommit => ?_, ?_⟩
  · subst hsplit
    obtain ⟨hbefore, hstep, -⟩ := h.around
    have hsmall : ∀ tr ∈ u, ¬ Saturates tr := fun tr htr => hcounter tr (by simp [htr])
    rcases commit_cases hstep hcommit with ⟨htransactions, hlayers⟩ | ⟨hmatch, heffect⟩
    · refine ⟨fun hchanged => ?_, fun heffect => ?_⟩
      · exact absurd hchanged (by simp [htransactions, hlayers])
      · exact absurd heffect (by simp [TakesEffect, htransactions, hlayers])
    · obtain ⟨u₁, m, u₂, hcurrent, haccept⟩ := matching_current h₀ hbefore hsmall hmatch
      exact ⟨fun _ => ⟨u₁, m, u₂, hcurrent⟩, fun hchanges => ⟨u₁, m, u₂, hcurrent, haccept (heffect hchanges).1⟩⟩
  · intro u tr v tr' w c c' hsplit hcommit hcommit' heffect heffect' hsame hidentity
    subst hsplit
    obtain ⟨hmiddle, hstep', -⟩ := h.around
    obtain ⟨hbefore, hstep, hafter⟩ := hmiddle.around
    obtain ⟨hcertificate, -, hended, hkept⟩ := effective_commit hstep hcommit heffect
    obtain ⟨hcertificate', hactive, -⟩ := effective_commit hstep' hcommit' heffect'
    have hid := fun i => (attempts_age hstep (fun i => (run_age hbefore (initial_identified h₀) i).1) i).1
    have hage := (run_age hafter hid tr'.op.transaction).2
    rw [← hsame] at hage hcertificate' hactive
    -- the attempt that the first commit ended is not under way again
    rw [age, age, Prod.Lex.toLex_le_toLex, hended, hactive, hkept, ← hcertificate, ← hcertificate', hidentity] at hage
    rcases hage with hlt | ⟨-, -, -, hle⟩
    · exact lt_irrefl _ hlt
    · exact nomatch hle

end Certificates

lemma revisedAttempts_ready : LocallyReady (revisedAttempts.view 0).transaction (revisedAttempts.view 0).current true {} := by
  rw [← readiness_ok_iff]
  decide

def sampleCertificate : PreparedAttemptFinish := (revisedAttempts.view 0).transaction.certificate .accept {} (-1)

def preparedAttempts : Attempts := revisedAttempts.put 0 ((revisedAttempts.view 0).setPrepared 0 sampleCertificate)

def committedAttempts : Attempts :=
  preparedAttempts.put 0 (Attempt.commit 0 ((preparedAttempts.view 0).commitAccept ((preparedAttempts.view 0).prepared 0))).attempt

/-- The attempt is begun, revised, prepared and accepted. -/
def sampleTransitions : List (Transition Attempts AttemptsOp) :=
  [⟨sampleAttempts, ⟨0, .begin 0⟩, begunAttempts⟩, ⟨begunAttempts, ⟨0, .reviseTrial 0⟩, revisedAttempts⟩,
    ⟨revisedAttempts, ⟨0, .prepare 0 true (.valid sampleComm) {}⟩, preparedAttempts⟩,
    ⟨preparedAttempts, ⟨0, .commitAccept 0⟩, committedAttempts⟩]

lemma sampleTransitions_exec : Exec Attempts.Step sampleAttempts sampleTransitions committedAttempts := by
  have hprepare : Attempts.Step revisedAttempts ⟨0, .prepare 0 true (.valid sampleComm) {}⟩ preparedAttempts :=
    ⟨_, ⟨_, returns_prepare_accepted sampleComm (by decide) revisedAttempts_ready, rfl⟩, rfl⟩
  have hcommit : Attempts.Step preparedAttempts ⟨0, .commitAccept 0⟩ committedAttempts :=
    ⟨_, step_of_done rfl, rfl⟩
  exact (((Exec.single begunAttempts_step).append (Exec.single revisedAttempts_step)).append
    (Exec.single hprepare)).append (Exec.single hcommit)

theorem finish_certificate_one_shot_sample : ∃ u m v,
    Current u m v (sampleTransitions.take 3) 0 0 ∧ ∀ tr ∈ v, ¬ Mutates tr 0 := by
  have hcounter : ∀ tr ∈ sampleTransitions, ¬ Saturates tr := by
    simp only [sampleTransitions, forall_mem_cons, Saturates]
    decide
  have hshot := finish_certificate_one_shot sampleAttempts_initial sampleTransitions_exec hcounter
  have heffect : TakesEffect ⟨preparedAttempts, ⟨0, .commitAccept 0⟩, committedAttempts⟩ :=
    .inl ⟨0, fun hsame => nomatch congrFun hsame .trial⟩
  exact (hshot.1 (sampleTransitions.take 3) _ [] 0 rfl (.inl rfl)).2 heffect

end HundunFlow.Proofs
