import HundunFlow.Proofs.AttemptSteps

/-!
# The effect of one step

`Effect` lists what a step of the attempt machine can be, whichever call it was, and
`CertificatesSound` is the first thing derived from it: what a prepared certificate says
about the attempt it was prepared for.
-/

namespace HundunFlow.Proofs

open Lib Function

/-- The certificate `i` is used up, or nothing happened to the certificates. -/
def Consumed (prepared prepared' : ℕ → PreparedAttemptFinish) : Prop :=
  prepared' = prepared ∨ ∃ i, prepared' =
    Function.update prepared i { prepared i with consumed := true, isValid := false }

/-- The call filled `slot`: an ordinary publication, or one by the writer that claimed it. -/
structure Publication (a : Attempt) (op : AttemptOp) (a' : Attempt) (slot : ℕ)
    (dependencies : List RevisionDependency) (stamp writerIdentity : ℕ) : Prop where
  call : (op = .publish slot dependencies stamp ∧ writerIdentity = 0) ∨
    (op = .publishFinal slot dependencies stamp writerIdentity ∧ writerIdentity ≠ 0)
  published : Published a.transaction slot dependencies stamp writerIdentity a'.transaction

inductive Effect (a : Attempt) (op : AttemptOp) (a' : Attempt) : Prop where
  | opened (ref : ℕ) (hop : op = .begin ref) (h : Opened a ref a')
  /-- `begin` without an identity left. -/
  | refused (status : Status) (hop : ∃ ref, op = .begin ref) (hidle : a.transaction.active = false)
      (hstatus : status.code ≠ .ok)
      (htransaction : a'.transaction = { a.transaction with attemptStatus := status })
      (hlayers : a'.layers = a.layers) (hprepared : a'.prepared = a.prepared)
      (hnext : a.nextIdentity ≤ a'.nextIdentity)
  | within (h : Within a.transaction a'.transaction)
      (hslots : SameSlots a.transaction a'.transaction ∨
        ∃ slot dependencies stamp writerIdentity,
          Publication a op a' slot dependencies stamp writerIdentity)
      (hlayers : ∀ ref, ValidLayers (a.layers ref) → Extends (a.layers ref) (a'.layers ref))
      (hprepared : a'.prepared = a.prepared) (hnext : a.nextIdentity ≤ a'.nextIdentity)
      (hwriter : (∃ failActive, op = .detach failActive) ∨
        a'.transaction.finalFaceFluxWriter = a.transaction.finalFaceFluxWriter)
  | claimed (slot identity : ℕ) (hop : op = .claim slot)
      (hclaim : a'.transaction = (a.transaction.claimFinalFaceFluxWriter slot identity).1)
      (hidle : a.transaction.active = false) (hlayers : a'.layers = a.layers)
      (hprepared : a'.prepared = a.prepared) (hnext : a.nextIdentity ≤ a'.nextIdentity)
  | certified (i : ℕ) (p : PreparedAttemptFinish) (h : a' = a.setPrepared i p)
      (hattempt : p.attemptIdentity = a.transaction.attemptIdentity)
      (hmutation : p.mutationRevision = a.transaction.mutationRevision)
      (hready : p.decision = .accept → ∃ ready localStatus,
        LocallyReady a.transaction a.current ready localStatus)
  | discarded (lowest : ℤ) (hop : (∃ i ready c s, op = .prepare i ready c s) ∨
        (∃ i, op = .commitReject i) ∨ ∃ ready c s, op = .finish ready c s)
      (htransaction : a'.transaction = (discardedState a lowest).transaction)
      (hlayers : a'.layers = a.layers) (hprepared : Consumed a.prepared a'.prepared)
      (hnext : a'.nextIdentity = a.nextIdentity)
  | accepted (hactive : a.transaction.locallyActive = true)
      (hop : (∃ i, op = .commitAccept i ∧ a.transaction.matchesPrepared (a.prepared i) = true ∧
          (a.prepared i).decision = .accept) ∨
        (∃ ready c s, op = .finish ready c s ∧ LocallyReady a.transaction a.current ready s))
      (htransaction : a'.transaction = (acceptedState a).transaction)
      (hlayers : a'.layers = (acceptedState a).layers) (hprepared : Consumed a.prepared a'.prepared)
      (hnext : a'.nextIdentity = a.nextIdentity)

section Steps

variable {a a' : Attempt}

variable {op : AttemptOp} (t : AttemptTransaction) {layers : StateLayers}

lemma step_done {r : AttemptResult} (hrun : op.run a = .done r) (h : Attempt.Step a op a') : a' = r.attempt := by
  obtain ⟨r', hreturns, rfl⟩ := h
  unfold AttemptOp.Returns at hreturns
  rw [hrun, Prog.local_done_iff] at hreturns
  rw [hreturns]

lemma effect_transaction {r : AttemptTransaction × Status}
    (hrun : op.run a = .done (a.withTransaction r)) (hwithin : Within a.transaction r.1)
    (hslots : SameSlots a.transaction r.1 ∨ ∃ slot dependencies stamp writerIdentity,
      Publication a op (a.withTransaction r).attempt slot dependencies stamp writerIdentity)
    (hwriter : (∃ failActive, op = .detach failActive) ∨
      r.1.finalFaceFluxWriter = a.transaction.finalFaceFluxWriter)
    (h : Attempt.Step a op a') : Effect a op a' := by
  rw [step_done hrun h]
  exact .within hwithin hslots (fun _ => Extends.refl) rfl le_rfl hwriter

lemma bindDependency_writer (d : RevisionDependency) :
    (t.bindDependency d).1.finalFaceFluxWriter = t.finalFaceFluxWriter := by
  rcases bindDependency_cases t d with ⟨h, -⟩ | ⟨s, m, catalog, h, -⟩ <;> rw [h]

lemma reviseTrial_writer (layers : StateLayers) (field : ℕ) :
    (t.reviseTrial layers field).1.finalFaceFluxWriter = t.finalFaceFluxWriter := by
  rcases reviseTrial_cases t layers field with ⟨h, -⟩ | ⟨s, m, h, -⟩ | hrevised
  · rw [h]
  · rw [h]
  · obtain ⟨s, m, catalog, h, -⟩ := hrevised.transaction
    rw [h]

lemma publish_writer (slot : ℕ) (dependencies : List RevisionDependency) (stamp writerIdentity : ℕ) :
    (t.publishPendingCacheImpl slot dependencies stamp writerIdentity).1.finalFaceFluxWriter =
      t.finalFaceFluxWriter := by
  rcases publish_cases t slot dependencies stamp writerIdentity with
    ⟨h, -⟩ | ⟨s, m, h, -⟩ | ⟨-, hpubl⟩
  · rw [h]
  · rw [h]
  · obtain ⟨s, m, h, -⟩ := hpubl.transaction
    rw [h]

lemma publishFinal_writer (slot : ℕ) (dependencies : List RevisionDependency) (stamp writerIdentity : ℕ) :
    (t.publishFinalFaceFluxCache slot dependencies stamp writerIdentity).1.finalFaceFluxWriter =
      t.finalFaceFluxWriter := by
  rw [publishFinal_eq]
  split
  · rfl
  · exact publish_writer t slot dependencies stamp writerIdentity

lemma invalidate_writer : t.invalidateFinalFaceFluxWriter.finalFaceFluxWriter = t.finalFaceFluxWriter := by
  rcases invalidate_cases t with h | ⟨s, m, h, -⟩ <;> rw [h]

lemma setLayers_extends (ref : ℕ) (hextends : ValidLayers (a.layers ref) → Extends (a.layers ref) layers) (ref' : ℕ)
    (hv : ValidLayers (a.layers ref')) : Extends (a.layers ref') ((a.setLayers ref layers).layers ref') := by
  change Extends (a.layers ref') (Function.update a.layers ref layers ref')
  by_cases href : ref' = ref
  · subst href
    rw [update_self]
    exact hextends hv
  · rw [update_of_ne href]
    exact .refl hv

lemma setCurrent_extends (hextends : ValidLayers a.current → Extends a.current layers) (ref : ℕ)
    (hv : ValidLayers (a.layers ref)) : Extends (a.layers ref) ((a.setCurrent layers).layers ref) := by
  unfold Attempt.setCurrent
  unfold Attempt.current at hextends
  cases hcurrent : a.transaction.layers with
  | none => exact .refl hv
  | some current =>
    rw [hcurrent] at hextends
    exact setLayers_extends current hextends ref hv

lemma reviseTrial_extends (hv : ValidLayers layers) (field : ℕ) : Extends layers (t.reviseTrial layers field).2.1 := by
  rcases reviseTrial_cases t layers field with ⟨-, h, -⟩ | ⟨s, m, -, -, -, h, -⟩ | hrevised
  · rw [h]
    exact .refl hv
  · rw [h]
    exact .refl hv
  · exact hrevised.drawn.extends hv hrevised.inRange (.inl ⟨hrevised.stateField, rfl⟩)

lemma claim_within_or (slot identity : ℕ) (t : AttemptTransaction) :
    (t.claimFinalFaceFluxWriter slot identity).1 = t ∨ t.active = false := by
  unfold AttemptTransaction.claimFinalFaceFluxWriter
  split
  · exact .inl rfl
  · rename_i h
    simp only [Bool.or_eq_true, not_or] at h
    exact .inr (by simpa using h.1.1.1.1.1)

lemma consumed_update (i : ℕ) : Consumed a.prepared (Function.update a.prepared i
    { a.prepared i with consumed := true, isValid := false }) := .inr ⟨i, rfl⟩

lemma setPrepared_self (i : ℕ) : a.setPrepared i (a.prepared i) = a := by
  unfold Attempt.setPrepared
  rw [update_eq_self]

/-- Every step of the machine is one of the effects. -/
theorem step_effect (h : Attempt.Step a op a') : Effect a op a' := by
  cases op with
  | begin ref =>
    have heq := step_done rfl h
    subst heq
    rcases begin_cases a ref with ⟨-, s, m, heq, hmoved, -⟩ |
      ⟨hidle, s, hlayers, hprepared, hnext, ht, hs⟩ | hopened
    · dsimp only
      rw [heq]
      exact .within (hmoved.within a.transaction.dependencyCatalog a.transaction.revisedFields
        a.transaction.finalFaceFluxWriter) (.inl ⟨rfl, rfl⟩) (fun _ => Extends.refl) rfl le_rfl
        (.inr rfl)
    · exact .refused s ⟨ref, rfl⟩ hidle hs ht hlayers hprepared hnext
    · exact .opened ref rfl hopened
  | reviseTrial field =>
    rw [step_done rfl h]
    have hsame : (a.setCurrent (a.transaction.reviseTrial a.current field).2.1).prepared = a.prepared ∧
        (a.setCurrent (a.transaction.reviseTrial a.current field).2.1).nextIdentity = a.nextIdentity := by
      unfold Attempt.setCurrent
      split <;> exact ⟨rfl, rfl⟩
    refine .within (reviseTrial_within a.transaction a.current field)
      (.inl (reviseTrial_slots a.transaction a.current field)) ?_ hsame.1 hsame.2.ge
      (.inr (reviseTrial_writer a.transaction a.current field))
    exact setCurrent_extends fun hv => reviseTrial_extends a.transaction hv field
  | reviseRuntime ref lifetime field =>
    rw [step_done rfl h]
    exact .within (.refl _) (.inl ⟨rfl, rfl⟩) (setLayers_extends ref fun hv => (reviseRuntime_extends hv lifetime field).1)
      rfl le_rfl (.inr rfl)
  | bindDependency d =>
    exact effect_transaction rfl
      (bindDependency_within a.transaction d) (.inl (bindDependency_slots a.transaction d))
      (.inr (bindDependency_writer a.transaction d)) h
  | publish slot dependencies stamp =>
    exact effect_transaction rfl
      (publish_within a.transaction slot dependencies stamp 0)
      ((publish_slots a.transaction slot dependencies stamp 0).imp_right
        fun hpubl => ⟨slot, dependencies, stamp, 0, .inl ⟨rfl, rfl⟩, hpubl⟩)
      (.inr (publish_writer a.transaction slot dependencies stamp 0)) h
  | publishFinal slot dependencies stamp identity =>
    exact effect_transaction rfl
      (publishFinal_within a.transaction slot dependencies stamp identity)
      ((publishFinal_slots a.transaction slot dependencies stamp identity).imp_right
        fun hpubl => ⟨slot, dependencies, stamp, identity, .inr ⟨rfl, hpubl.1⟩, hpubl.2⟩)
      (.inr (publishFinal_writer a.transaction slot dependencies stamp identity)) h
  | claim slot =>
    rw [step_done rfl h]
    have hnext := issueIdentity_le a.nextIdentity
    rcases claim_within_or slot (issueIdentity a.nextIdentity).1 a.transaction with hsame | hidle
    · have hwithin : Within a.transaction (a.transaction.claimFinalFaceFluxWriter slot
          (issueIdentity a.nextIdentity).1).1 ∧ SameSlots a.transaction
          (a.transaction.claimFinalFaceFluxWriter slot (issueIdentity a.nextIdentity).1).1 := by
        rw [hsame]
        exact ⟨.refl _, rfl, rfl⟩
      exact .within hwithin.1 (.inl hwithin.2) (fun _ => Extends.refl) rfl hnext
        (.inr (congrArg (·.finalFaceFluxWriter) hsame))
    · exact .claimed slot (issueIdentity a.nextIdentity).1 rfl rfl hidle rfl rfl hnext
  | detach failActive =>
    exact effect_transaction rfl
      (detach_within a.transaction failActive) (.inl (detach_slots a.transaction failActive))
      (.inl ⟨failActive, rfl⟩) h
  | invalidate =>
    exact effect_transaction rfl
      (invalidate_within a.transaction) (.inl (invalidate_slots a.transaction))
      (.inr (invalidate_writer a.transaction)) h
  | prepare i ready communicator localStatus =>
    obtain ⟨r, hreturns, rfl⟩ := h
    unfold AttemptOp.Returns AttemptOp.run at hreturns
    rw [Prog.local_bind_iff] at hreturns
    obtain ⟨p, hp, hreturns⟩ := hreturns
    rw [Prog.local_done_iff] at hreturns
    subst hreturns
    rcases prepare_cases hp with ⟨-, hr⟩ | ⟨hready, hr⟩ | ⟨outcome, lowest, hr⟩
    · rw [hr]
      exact .discarded (-1) (.inl ⟨_, _, _, _, rfl⟩) rfl rfl (.inl (update_eq_self i a.prepared)) rfl
    · rw [hr]
      exact .certified i _ rfl rfl rfl fun _ => ⟨ready, localStatus, hready⟩
    · rw [hr]
      exact .certified i _ rfl rfl rfl fun hdec => absurd hdec
        (by simp [AttemptTransaction.certificate])
  | commitAccept i =>
    rw [step_done rfl h]
    rcases commitAccept_cases a (a.prepared i) with heq | ⟨hmatch, hdec, hactive, heq⟩
    · rw [heq]
      have hself : (Attempt.commit i ⟨a, a.prepared i, []⟩).attempt = a := setPrepared_self i
      rw [hself]
      exact .within (.refl _) (.inl ⟨rfl, rfl⟩) (fun _ => Extends.refl) rfl le_rfl (.inr rfl)
    · rw [heq]
      have hframe : (acceptedState a).prepared = a.prepared ∧
          (acceptedState a).nextIdentity = a.nextIdentity := by
        unfold acceptedState Attempt.setCurrent
        split <;> exact ⟨rfl, rfl⟩
      refine .accepted hactive (.inl ⟨i, rfl, hmatch, hdec⟩) rfl rfl ?_ hframe.2
      have hconsumed := consumed_update (a := a) i
      rw [← hframe.1] at hconsumed
      rw [← hframe.1]
      exact hconsumed
  | commitReject i =>
    rw [step_done rfl h]
    rcases commitReject_cases a (a.prepared i) with heq | ⟨-, lowest, heq⟩
    · rw [heq]
      have hself : (Attempt.commit i ⟨a, a.prepared i, []⟩).attempt = a := setPrepared_self i
      rw [hself]
      exact .within (.refl _) (.inl ⟨rfl, rfl⟩) (fun _ => Extends.refl) rfl le_rfl (.inr rfl)
    · rw [heq]
      exact .discarded lowest (.inr (.inl ⟨i, rfl⟩)) rfl rfl (consumed_update i) rfl
  | finish ready communicator localStatus =>
    obtain ⟨r, hreturns, rfl⟩ := h
    rcases finish_cases hreturns with ⟨lowest, heq, -⟩ | ⟨hready, heq, -⟩
    · rw [heq]
      exact .discarded lowest (.inr (.inr ⟨_, _, _, rfl⟩)) rfl rfl (.inl rfl) rfl
    · rw [heq]
      have hframe : (acceptedState a).prepared = a.prepared ∧
          (acceptedState a).nextIdentity = a.nextIdentity := by
        unfold acceptedState Attempt.setCurrent
        split <;> exact ⟨rfl, rfl⟩
      exact .accepted ((locallyActive_iff _).mpr hready.active)
        (.inr ⟨ready, communicator, localStatus, rfl, hready⟩) rfl rfl (.inl hframe.1) hframe.2
  | issueIdentity =>
    rw [step_done rfl h]
    exact .within (.refl _) (.inl ⟨rfl, rfl⟩) (fun _ => Extends.refl) rfl
      (issueIdentity_le a.nextIdentity) (.inr rfl)

end Steps

variable {op : AttemptOp}

lemma Effect.of_accepted {a a' : Attempt} (h : Effect a op a') (haccepted : Attempt.Accepted a a') :
    ((∃ i, op = .commitAccept i ∧ a.transaction.matchesPrepared (a.prepared i) = true ∧
        (a.prepared i).decision = .accept) ∨
      (∃ ready c s, op = .finish ready c s ∧ LocallyReady a.transaction a.current ready s)) ∧
    a.transaction.layers ≠ none ∧ a'.transaction = (acceptedState a).transaction ∧
    a'.layers = (acceptedState a).layers := by
  obtain ⟨hactive, hoff, hcommitted⟩ := haccepted
  cases h with
  | opened ref _ hopened => exact nomatch hopened.idle.symm.trans hactive
  | refused _ _ hidle => exact nomatch hidle.symm.trans hactive
  | within hw => exact nomatch hoff.symm.trans (hw.active.trans hactive)
  | claimed _ _ _ _ hidle => exact nomatch hidle.symm.trans hactive
  | certified i p heq =>
    rw [heq] at hoff
    exact nomatch hoff.symm.trans hactive
  | discarded lowest _ ht =>
    rw [ht] at hcommitted
    exact absurd hcommitted (by simp [discardedState, AttemptTransaction.discardAttempt])
  | accepted hlocal hop ht hlayers => exact ⟨hop, ((locallyActive_iff _).mp hlocal).2, ht, hlayers⟩

/-- The required slots are filled. -/
def RequiredPublished (t : AttemptTransaction) : Prop :=
  ∀ slot, t.requiredPendingCaches.getD slot false = true → t.pendingCaches.getD slot 0 ≠ 0

def DependenciesBound (t : AttemptTransaction) : Prop :=
  ∀ dependencies ∈ t.pendingDependencies, ∀ d ∈ dependencies, d ∈ t.dependencyCatalog

/-- What a certificate says of the attempt it was prepared for. The dependencies are bound as
long as the mutation revision has not moved and the attempt has not failed: at the last
revision a change no longer moves it. -/
structure CertificatesSound (a : Attempt) : Prop where
  identity : a.transaction.attemptIdentity < a.nextIdentity
  older : ∀ i, (a.prepared i).attemptIdentity ≤ a.transaction.attemptIdentity
  mutation : ∀ i, (a.prepared i).attemptIdentity = a.transaction.attemptIdentity →
    (a.prepared i).mutationRevision ≤ a.transaction.mutationRevision
  accept : ∀ i, (a.prepared i).valid = true → (a.prepared i).decision = .accept →
    (a.prepared i).attemptIdentity = a.transaction.attemptIdentity → a.transaction.active = true →
    RequiredPublished a.transaction ∧
      ((a.prepared i).mutationRevision = a.transaction.mutationRevision →
        a.transaction.attemptStatus.code = .ok → DependenciesBound a.transaction)

lemma Consumed.cases {prepared prepared' : ℕ → PreparedAttemptFinish} (h : Consumed prepared prepared')
    (i : ℕ) : prepared' i = prepared i ∨
      prepared' i = { prepared i with consumed := true, isValid := false } := by
  rcases h with rfl | ⟨j, rfl⟩
  · exact .inl rfl
  · by_cases hij : i = j
    · subst hij
      exact .inr (update_self ..)
    · exact .inl (update_of_ne hij ..)

lemma CertificatesSound.ended {a a' : Attempt} (h : CertificatesSound a)
    (hprepared : Consumed a.prepared a'.prepared) (hoff : a'.transaction.active = false)
    (hidentity : a'.transaction.attemptIdentity = a.transaction.attemptIdentity)
    (hmutation : a'.transaction.mutationRevision = a.transaction.mutationRevision)
    (hnext : a.nextIdentity ≤ a'.nextIdentity) : CertificatesSound a' := by
  have hsame : ∀ i, (a'.prepared i).attemptIdentity = (a.prepared i).attemptIdentity ∧
      (a'.prepared i).mutationRevision = (a.prepared i).mutationRevision := by
    intro i
    rcases hprepared.cases i with heq | heq <;>
      · rw [heq]
        exact ⟨rfl, rfl⟩
  refine ⟨hidentity ▸ lt_of_lt_of_le h.identity hnext, ?_, ?_, ?_⟩
  · intro i
    rw [(hsame i).1, hidentity]
    exact h.older i
  · intro i
    rw [(hsame i).1, (hsame i).2, hidentity, hmutation]
    exact h.mutation i
  · intro i _ _ _ hactive
    exact nomatch hoff.symm.trans hactive

theorem Effect.certificatesSound {a a' : Attempt} (h : Effect a op a')
    (hs : CertificatesSound a) : CertificatesSound a' := by
  cases h with
  | opened ref hop hopened =>
    obtain ⟨bound, s, m, catalog, ht, -⟩ := hopened.transaction
    have hidentity : a'.transaction.attemptIdentity = a.nextIdentity := by
      rw [ht]
      rfl
    have hlt : ∀ i, (a'.prepared i).attemptIdentity < a'.transaction.attemptIdentity := by
      intro i
      rw [hopened.prepared, hidentity]
      exact lt_of_le_of_lt (hs.older i) hs.identity
    refine ⟨?_, fun i => (hlt i).le, fun i heq => absurd heq (hlt i).ne,
      fun i _ _ heq => absurd heq (hlt i).ne⟩
    rw [hidentity, hopened.identity.2]
    exact Nat.lt_succ_self _
  | refused status _ hidle _ ht _ hprepared hnext =>
    refine hs.ended (.inl hprepared) ?_ ?_ ?_ hnext <;> rw [ht]
    exact hidle
  | within hwithin _ _ hprepared hnext =>
    refine ⟨?_, ?_, ?_, ?_⟩
    · rw [hwithin.attemptIdentity]
      exact lt_of_lt_of_le hs.identity hnext
    · intro i
      rw [hprepared, hwithin.attemptIdentity]
      exact hs.older i
    · intro i
      rw [hprepared, hwithin.attemptIdentity]
      exact fun heq => (hs.mutation i heq).trans hwithin.monotone
    · intro i
      rw [hprepared, hwithin.attemptIdentity, hwithin.active]
      intro hvalid haccept heq hactive
      obtain ⟨hrequired, hbound⟩ := hs.accept i hvalid haccept heq hactive
      refine ⟨fun slot hslot => ?_, fun hmutation hstatus => ?_⟩
      · rw [hwithin.required] at hslot
        rw [(hwithin.published slot (hrequired slot hslot)).1]
        exact hrequired slot hslot
      · rcases hwithin.moved hactive with hsame | hmoved
        · rw [hsame] at hmutation hstatus ⊢
          exact hbound hmutation hstatus
        · -- the revision did not move, so the change failed the attempt
          have hle := hs.mutation i heq
          have hge := hmoved.monotone
          exact absurd hstatus (hmoved.moved (by omega))
  | claimed slot identity _ hclaim hidle _ hprepared hnext =>
    have hframe : a'.transaction.active = a.transaction.active ∧
        a'.transaction.attemptIdentity = a.transaction.attemptIdentity ∧
        a'.transaction.mutationRevision = a.transaction.mutationRevision := by
      rw [hclaim]
      unfold AttemptTransaction.claimFinalFaceFluxWriter
      split <;> exact ⟨rfl, rfl, rfl⟩
    exact hs.ended (.inl hprepared) (hframe.1.trans hidle) hframe.2.1 hframe.2.2 hnext
  | certified i p heq hattempt hmutation hready =>
    subst heq
    have hcases : ∀ j, (a.setPrepared i p).prepared j = p ∨
        (a.setPrepared i p).prepared j = a.prepared j := by
      intro j
      by_cases hij : j = i
      · subst hij
        exact .inl (update_self ..)
      · exact .inr (update_of_ne hij ..)
    refine ⟨hs.identity, ?_, ?_, ?_⟩
    · intro j
      rcases hcases j with hj | hj
      · rw [hj]
        exact hattempt.le
      · rw [hj]
        exact hs.older j
    · intro j
      rcases hcases j with hj | hj
      · rw [hj]
        exact fun _ => hmutation.le
      · rw [hj]
        exact hs.mutation j
    · intro j
      rcases hcases j with hj | hj
      · rw [hj]
        intro _ haccept _ _
        obtain ⟨ready, localStatus, hlocal⟩ := hready haccept
        exact ⟨hlocal.published, fun _ _ => hlocal.bound⟩
      · rw [hj]
        exact hs.accept j
  | discarded lowest _ ht _ hprepared hnext =>
    refine hs.ended hprepared ?_ ?_ ?_ hnext.ge <;> rw [ht] <;> rfl
  | accepted _ _ ht _ hprepared hnext =>
    refine hs.ended hprepared ?_ ?_ ?_ hnext.ge <;> rw [ht] <;> rfl

lemma step_certificatesSound {a a' : Attempt} (hs : CertificatesSound a)
    (h : Attempt.Step a op a') : CertificatesSound a' :=
  (step_effect h).certificatesSound hs

lemma initial_certificatesSound {a : Attempt} (h : a.Initial) : CertificatesSound a := by
  have hidentity : a.transaction.attemptIdentity = 0 := by
    obtain ⟨fields, slots, sources, hcreate⟩ := h.transaction
    exact (create_ok hcreate).identity
  refine ⟨hidentity ▸ h.nextIdentity, ?_, ?_, ?_⟩
  · intro i
    rw [h.prepared i]
    exact Nat.zero_le _
  · intro i _
    rw [h.prepared i]
    exact Nat.zero_le _
  · intro i hvalid
    rw [h.prepared i] at hvalid
    exact nomatch hvalid

variable {a : Attempt}

variable {localStatus : RawStatus} {ready : Bool} (c : RankComm)

lemma step_of_done {op : AttemptOp} {r : AttemptResult} (hrun : op.run a = .done r) :
    Attempt.Step a op r.attempt := by
  refine ⟨r, ?_, rfl⟩
  unfold AttemptOp.Returns
  rw [hrun]
  exact .done r

lemma prepare_accepting {out : PreparedAttemptFinish} (hout : out.valid = false)
    (h : LocallyReady a.transaction a.current ready localStatus) :
    (a.collectivePrepare ready (.valid c) localStatus out).Local (MpiFaithful c.rank)
      ⟨{}, a.transaction, a.transaction.certificate .accept {} (-1), []⟩ := by
  have hok := (readiness_ok_iff _ _ _ _).mpr h
  have hsome : a.transaction.layers.isNone = false := by
    simpa [Option.isSome_iff_ne_none] using h.active.2
  unfold Attempt.collectivePrepare AttemptTransaction.collectivePrepare
  simp only [hout, Bool.false_eq_true, if_false]
  rw [Prog.local_bind_iff]
  refine ⟨some maxU64, ?_, ?_⟩
  · unfold Mpi.allreduce
    rw [Prog.local_call_iff]
    refine ⟨.value maxU64, ?_, .done _⟩
    rw [hok]
    exact le_rfl
  · simp only [if_true, hsome, Bool.false_eq_true, if_false]
    exact .done _

lemma returns_finish_accepted (h : LocallyReady a.transaction a.current ready localStatus) :
    AttemptOp.Returns a (.finish ready (.valid c) localStatus)
      ⟨acceptedState a, {}, a.transaction.completion true⟩ := by
  unfold AttemptOp.Returns AttemptOp.run Attempt.collectiveFinish
  rw [Prog.local_bind_iff]
  refine ⟨_, prepare_accepting c rfl h, ?_⟩
  rw [Prog.local_done_iff]
  exact (finishPrepared_accept a ((locallyActive_iff _).mpr h.active)).symm

lemma step_finish_accepted (h : LocallyReady a.transaction a.current ready localStatus) :
    Attempt.Step a (.finish ready (.valid c) localStatus) (acceptedState a) :=
  ⟨_, returns_finish_accepted c h, rfl⟩

lemma returns_prepare_accepted {i : ℕ} (hout : (a.prepared i).valid = false)
    (h : LocallyReady a.transaction a.current ready localStatus) :
    AttemptOp.Returns a (.prepare i ready (.valid c) localStatus)
      ⟨a.setPrepared i (a.transaction.certificate .accept {} (-1)), {}, []⟩ := by
  unfold AttemptOp.Returns AttemptOp.run
  rw [Prog.local_bind_iff]
  refine ⟨_, prepare_accepting c hout h, ?_⟩
  rw [Prog.local_done_iff]

end HundunFlow.Proofs
