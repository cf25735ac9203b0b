import HundunFlow.Proofs.AttemptEffects
import HundunFlow.Proofs.FluxLayout

/-!
# The effect of one step on the final flux

A step on writer, storages and views amounts to one step of the attempt machine below it,
and `FluxEffect` lists what it can be for the objects above.
-/

namespace HundunFlow.Proofs

open Lib Option

variable {F : Type}

def attemptOp (w : FluxWorld F) : FluxOp F → AttemptOp
  | .begin ref => .begin ref
  | .reviseTrial field => .reviseTrial field
  | .reviseRuntime ref lifetime field => .reviseRuntime ref lifetime field
  | .bindDependency d => .bindDependency d
  | .publish slot dependencies stamp => .publish slot dependencies stamp
  | .prepare i communicator s => .prepare i w.readyForCollective communicator s
  | .commitAccept i => .commitAccept i
  | .commitReject i => .commitReject i
  | .finish communicator s => .finish w.readyForCollective communicator s
  | .claim _ slot => .claim slot
  | .publishPending dependencies _ => .publishFinal w.writer.cacheSlot dependencies
      w.writer.pendingRevision w.writer.authorityFingerprint
  | .destroyWriter => .detach true
  | .destroyStorage _ | .destroyView _ => .invalidate
  | _ => .issueIdentity

def IsPublic : AttemptOp → Prop
  | .publishFinal .. | .claim _ | .detach _ | .invalidate => False
  | _ => True

/-- The claim on the transaction, which nothing but `claim` and the writer's destructor
changes. -/
structure SameClaim (t t' : AttemptTransaction) : Prop where
  writer : t'.finalFaceFluxWriter = t.finalFaceFluxWriter
  identity : t'.finalFaceFluxWriterIdentity = t.finalFaceFluxWriterIdentity
  required : t'.requiredPendingCaches = t.requiredPendingCaches
  writers : t'.pendingCacheWriterIdentities = t.pendingCacheWriterIdentities

variable (t : AttemptTransaction) {op : AttemptOp} {a : Attempt} {r : AttemptResult}

lemma SameClaim.refl : SameClaim t t := ⟨rfl, rfl, rfl, rfl⟩

/-- What a call other than the writer's keeps when it ends no attempt. -/
structure Carries (t t' : AttemptTransaction) : Prop where
  claim : SameClaim t t'
  active : t.active = true → t'.active = true ∧ t'.attemptIdentity = t.attemptIdentity
  opened : t.active = false → t'.active = true → ∀ slot, t'.pendingCaches.getD slot 0 = 0
  /-- A slot with a writer of its own is not filled. -/
  claimedSlots : t.active = true → ∀ slot, t.pendingCacheWriterIdentities.getD slot 0 ≠ 0 →
    t'.pendingCaches.getD slot 0 = t.pendingCaches.getD slot 0
  latched : t.active = true → t.attemptStatus.code ≠ .ok → t'.attemptStatus.code ≠ .ok

lemma Carries.refl : Carries t t :=
  ⟨.refl t, fun h => ⟨h, rfl⟩, fun h h' => absurd (h.symm.trans h') (by simp), fun _ _ _ => rfl,
    fun _ => id⟩

lemma Within.carries {t t' : AttemptTransaction} (h : Within t t')
    (hwriter : t'.finalFaceFluxWriter = t.finalFaceFluxWriter)
    (hslots : SameSlots t t' ∨ ∃ slot dependencies stamp, Published t slot dependencies stamp 0 t') :
    Carries t t' := by
  refine ⟨⟨hwriter, h.writerIdentity, h.required, h.writers⟩,
    fun hactive => ⟨h.active.trans hactive, h.attemptIdentity⟩, fun hidle hactive => ?_,
    fun _ slot hslot => ?_, fun _ => h.latched⟩
  · exact nomatch hidle.symm.trans (h.active.symm.trans hactive)
  · rcases hslots with hsame | ⟨slot', dependencies, stamp, hpubl⟩
    · rw [hsame.1]
    · obtain ⟨s, m, rfl, -⟩ := hpubl.transaction
      refine getD_set_of_ne _ _ _ _ _ ?_
      rintro rfl
      exact hslot hpubl.writer

structure Ended (t t' : AttemptTransaction) : Prop where
  claim : SameClaim t t'
  idle : t'.active = false

lemma discardedState_ended (a : Attempt) (lowest : ℤ) :
    Ended a.transaction (discardedState a lowest).transaction := ⟨⟨rfl, rfl, rfl, rfl⟩, rfl⟩

lemma acceptedState_ended (a : Attempt) : Ended a.transaction (acceptedState a).transaction :=
  ⟨⟨rfl, rfl, rfl, rfl⟩, rfl⟩

/-- What a call on the transaction does to the attempt and asks of the writer: nothing as
long as the attempt goes on, and its completion when the attempt ends. -/
inductive CallEffect (a : Attempt) (r : AttemptResult) : Prop where
  | carried (h : Carries a.transaction r.attempt.transaction) (hcalls : r.completions = [])
  | ended (committed : Bool) (h : Ended a.transaction r.attempt.transaction)
      (haccepted : committed = true ↔ Attempt.Accepted a r.attempt)
      (hcalls : ∀ b ∈ r.completions, b = committed)
      (hwriter : a.transaction.finalFaceFluxWriter = true ↔ r.completions ≠ [])

lemma discardedState_notAccepted (a : Attempt) (lowest : ℤ) :
    false = true ↔ Attempt.Accepted a (discardedState a lowest) := by
  constructor
  · intro h
    exact nomatch h
  · rintro ⟨-, -, hcommitted⟩
    exact absurd hcommitted (by simp [discardedState, AttemptTransaction.discardAttempt])

lemma completion_calls (committed : Bool) : (∀ b ∈ t.completion committed, b = committed) ∧
      (t.finalFaceFluxWriter = true ↔ t.completion committed ≠ []) := by
  unfold AttemptTransaction.completion
  by_cases h : t.finalFaceFluxWriter = true <;> simp [h]

lemma effect_carries {a' : Attempt} (h : Effect a op a') (hpublic : IsPublic op)
    (hop : ∀ i, op ≠ .commitAccept i ∧ op ≠ .commitReject i)
    (hop' : ∀ i ready c s, op ≠ .prepare i ready c s ∧ op ≠ .finish ready c s) :
    Carries a.transaction a'.transaction := by
  cases h with
  | opened ref _ hopened =>
    obtain ⟨bound, s, m, catalog, ht, -⟩ := hopened.transaction
    rw [ht]
    have hidle := hopened.idle
    refine ⟨⟨rfl, rfl, rfl, rfl⟩, fun hactive => ?_, fun _ _ slot => ?_, fun hactive => ?_,
      fun hactive => ?_⟩
    · exact absurd (hidle.symm.trans hactive) (by simp)
    · exact getD_map_const a.transaction.pendingCaches slot 0
    · exact absurd (hidle.symm.trans hactive) (by simp)
    · exact absurd (hidle.symm.trans hactive) (by simp)
  | refused status _ hidle _ ht =>
    rw [ht]
    exact ⟨⟨rfl, rfl, rfl, rfl⟩, fun hactive => ⟨hactive, rfl⟩,
      fun _ hactive => absurd (hidle.symm.trans hactive) (by simp), fun _ _ _ => rfl,
      fun hactive => absurd (hidle.symm.trans hactive) (by simp)⟩
  | within hw hslots _ _ _ hwriter =>
    rcases hwriter with ⟨failActive, rfl⟩ | hwriter
    · exact absurd hpublic id
    · refine hw.carries hwriter (hslots.imp_right ?_)
      rintro ⟨slot, dependencies, stamp, writerIdentity, hpub⟩
      rcases hpub.call with ⟨-, rfl⟩ | ⟨rfl, -⟩
      · exact ⟨slot, dependencies, stamp, hpub.published⟩
      · exact absurd hpublic id
  | claimed slot identity hclaim =>
    subst hclaim
    exact absurd hpublic id
  | certified i p heq =>
    rw [heq]
    exact .refl a.transaction
  | discarded lowest hdiscard =>
    rcases hdiscard with ⟨i, ready, c, s, rfl⟩ | ⟨i, rfl⟩ | ⟨ready, c, s, rfl⟩
    · exact absurd rfl (hop' i ready c s).1
    · exact absurd rfl (hop i).2
    · exact absurd rfl (hop' 0 ready c s).2
  | accepted _ haccept =>
    rcases haccept with ⟨i, rfl, -⟩ | ⟨ready, c, s, rfl, -⟩
    · exact absurd rfl (hop i).1
    · exact absurd rfl (hop' 0 ready c s).2

lemma callEffect_carries (h : op.Returns a r)
    (hpublic : IsPublic op) (hop : ∀ i, op ≠ .commitAccept i ∧ op ≠ .commitReject i)
    (hop' : ∀ i ready c s, op ≠ .prepare i ready c s ∧ op ≠ .finish ready c s)
    (hcalls : r.completions = []) : CallEffect a r :=
  .carried (effect_carries (step_effect ⟨r, h, rfl⟩) hpublic hop hop') hcalls

lemma returns_done {s : AttemptResult} (hrun : op.run a = .done s) (h : op.Returns a r) : r = s := by
  unfold AttemptOp.Returns at h
  rwa [hrun, Prog.local_done_iff] at h

/-- Every public call has one of the two effects. -/
theorem callEffect (hpublic : IsPublic op) (h : op.Returns a r) : CallEffect a r := by
  cases op with
  | begin ref =>
    have heq := returns_done rfl h
    exact callEffect_carries h hpublic (by simp) (by simp) (by rw [heq])
  | reviseTrial field =>
    have heq := returns_done rfl h
    exact callEffect_carries h hpublic (by simp) (by simp) (by rw [heq])
  | reviseRuntime ref lifetime field =>
    have heq := returns_done rfl h
    exact callEffect_carries h hpublic (by simp) (by simp) (by rw [heq])
  | bindDependency d =>
    have heq := returns_done rfl h
    exact callEffect_carries h hpublic (by simp) (by simp) (by rw [heq]; rfl)
  | publish slot dependencies stamp =>
    have heq := returns_done rfl h
    exact callEffect_carries h hpublic (by simp) (by simp) (by rw [heq]; rfl)
  | issueIdentity =>
    have heq := returns_done rfl h
    exact callEffect_carries h hpublic (by simp) (by simp) (by rw [heq])
  | publishFinal _ _ _ _ => exact absurd hpublic id
  | claim _ => exact absurd hpublic id
  | detach _ => exact absurd hpublic id
  | invalidate => exact absurd hpublic id
  | prepare i ready communicator localStatus =>
    unfold AttemptOp.Returns AttemptOp.run at h
    rw [Prog.local_bind_iff] at h
    obtain ⟨p, hp, h⟩ := h
    rw [Prog.local_done_iff] at h
    subst h
    rcases prepare_cases hp with ⟨-, hr⟩ | ⟨-, hr⟩ | ⟨outcome, lowest, hr⟩
    · obtain ⟨hcalls, hwriter⟩ := completion_calls a.transaction false
      rw [hr]
      exact .ended false (discardedState_ended a (-1)) (discardedState_notAccepted a (-1)) hcalls hwriter
    · rw [hr]
      exact .carried (.refl a.transaction) rfl
    · rw [hr]
      exact .carried (.refl a.transaction) rfl
  | commitAccept i =>
    have heq := returns_done rfl h
    rw [heq]
    rcases commitAccept_cases a (a.prepared i) with heq | ⟨-, -, hactive, heq⟩ <;> rw [heq]
    · exact .carried (.refl a.transaction) rfl
    · obtain ⟨hcalls, hwriter⟩ := completion_calls a.transaction true
      have haccepted : Attempt.Accepted a (acceptedState a) :=
        ⟨((locallyActive_iff _).mp hactive).1, rfl, rfl⟩
      exact .ended true (acceptedState_ended a) (iff_of_true rfl haccepted) hcalls hwriter
  | commitReject i =>
    have heq := returns_done rfl h
    rw [heq]
    rcases commitReject_cases a (a.prepared i) with heq | ⟨-, lowest, heq⟩ <;> rw [heq]
    · exact .carried (.refl a.transaction) rfl
    · obtain ⟨hcalls, hwriter⟩ := completion_calls a.transaction false
      exact .ended false (discardedState_ended a lowest) (discardedState_notAccepted a lowest)
        hcalls hwriter
  | finish ready communicator localStatus =>
    rcases finish_cases h with ⟨lowest, heq, hcalls, hwriter⟩ | ⟨hready, heq, hcalls⟩
    · refine .ended false ?_ ?_ hcalls hwriter <;> rw [heq]
      · exact discardedState_ended a lowest
      · exact discardedState_notAccepted a lowest
    · obtain ⟨hall, hwriter⟩ := completion_calls a.transaction true
      rw [← hcalls] at hall hwriter
      refine .ended true ?_ (iff_of_true rfl ?_) hall hwriter <;> rw [heq]
      · exact acceptedState_ended a
      · exact ⟨hready.active.1, rfl, rfl⟩

section Leases

variable (w : FluxWorld F)

/-- What `begin_pending` asks of the world. -/
structure Leasable (ref view candidate : ℕ) (raw : FaceFluxView) : Prop where
  issued : w.writer.issued = true
  idle : w.writer.pending = false ∧ w.writer.transaction = false ∧ w.writer.storage = none
  authority : w.writer.authorityTransaction = true
  active : w.transaction.active = true
  bound : w.writer.boundStorageIdentity ≠ 0 → FluxWorld.boundTo w.writer (w.storages ref) = true
  replica : w.writer.pendingReplica < kFinalFaceFluxReplicas
  later : w.writer.activeRevision < candidate
  raw : (w.storages ref).viewImpl ref w.writer.pendingReplica candidate = .ok raw
  empty : (w.views view).revision = 0

/-- The world after a successful `begin_pending`. -/
def leasedState (ref view candidate : ℕ) (raw : FaceFluxView) : FluxWorld F :=
  let storage := w.storages ref
  let writer := if w.writer.boundStorageIdentity = 0 then FluxWorld.bind w.writer storage else w.writer
  { w with
    storages := Function.update w.storages ref
      { storage with
        pendingWriterIdentity := w.writer.authorityFingerprint
        pendingAttemptIdentity := w.transaction.attemptIdentity
        pendingWriter := true
        authorityIdentity := w.writer.authorityFingerprint }
    views := Function.update w.views view
      { w.views view with
        x := raw.x
        y := raw.y
        z := raw.z
        revision := candidate
        writerIdentity := w.writer.authorityFingerprint
        attemptIdentity := w.transaction.attemptIdentity
        storage := some ref
        writer := true }
    writer := { writer with
      pendingRevision := candidate
      pendingAttemptIdentity := w.transaction.attemptIdentity
      transaction := true
      storage := some ref
      pendingView := some view
      pending := true
      pendingPublished := false } }

variable {writerIdentity view : ℕ} {failure : Status} {dependencies : List RevisionDependency}
  (t : AttemptTransaction)

lemma pendingView_ok {ref replica revision attemptIdentity : ℕ} {pending : PendingFaceFluxView}
    (h : w.pendingView ref view replica revision writerIdentity attemptIdentity = .ok pending) :
    (w.views view).revision = 0 ∧ ∃ raw, (w.storages ref).viewImpl ref replica revision = .ok raw ∧
      pending = { w.views view with
        x := raw.x
        y := raw.y
        z := raw.z
        revision
        writerIdentity
        attemptIdentity
        storage := some ref } := by
  unfold FluxWorld.pendingView at h
  split at h
  · exact nomatch h
  · rename_i raw hraw
    split at h
    · exact nomatch h
    · rename_i hguard
      have hvalid : (w.views view).valid = false := by
        simp only [Bool.or_eq_true, not_or] at hguard
        simpa using hguard.2
      refine ⟨by simpa [PendingFaceFluxView.valid] using hvalid, raw, hraw, ?_⟩
      exact (Except.ok.inj h).symm

theorem beginPending_cases (ref view : ℕ) : (w.beginPending ref view).1 = w ∨
    ∃ candidate raw, Leasable w ref view candidate raw ∧
      (w.beginPending ref view).1 = leasedState w ref view candidate raw := by
  unfold FluxWorld.beginPending
  dsimp only
  generalize (if w.writer.activeRevision = 0 then 1 else (w.writer.activeRevision + 1) % 2 ^ 64) =
    candidate
  split
  · exact .inl rfl
  · rename_i hguard
    split
    · exact .inl rfl
    · rename_i hcand
      split
      · exact .inl rfl
      · rename_i pending hpending
        obtain ⟨hempty, raw, hraw, rfl⟩ := pendingView_ok w hpending
        refine .inr ⟨candidate, raw, ?_, rfl⟩
        simp only [Bool.or_eq_true, Bool.not_eq_true', decide_eq_true_eq, not_or, Bool.and_eq_true,
          not_and, ne_eq, not_not, Bool.not_eq_false, Bool.not_eq_true, not_le] at hguard hcand
        obtain ⟨⟨⟨⟨⟨⟨⟨⟨⟨⟨⟨⟨⟨hissued, hpending⟩, hauth⟩, hactive⟩, -⟩, -⟩, -⟩, hstorage⟩, htransaction⟩, -⟩,
          hbound⟩, hreplica⟩, -⟩, -⟩ := hguard
        exact ⟨hissued, ⟨hpending, htransaction, by simpa using hstorage⟩, hauth, hactive, hbound,
          hreplica, hcand.2, hraw, hempty⟩

/-- What `validate_pending_lease` finds. -/
structure Leased (view ref : ℕ) : Prop where
  storage : w.writer.storage = some ref
  pending : w.writer.pending = true
  unpublished : w.writer.pendingPublished = false
  transaction : w.writer.transaction = true
  leased : w.writer.pendingView = some view
  shape : validFluxView (w.views view).raw (w.storages ref).cells (w.views view).raw.revision = true

lemma validatePendingLease_none (h : w.validatePendingLease view = none) :
    ∃ ref, Leased w view ref := by
  unfold FluxWorld.validatePendingLease at h
  dsimp only at h
  split at h
  · exact nomatch h
  · rename_i ref hstorage
    split at h
    · exact nomatch h
    · rename_i hguard
      simp only [Bool.or_eq_true, Bool.not_eq_true', decide_eq_true_eq, not_or, ne_eq, not_not,
        Bool.not_eq_false, Bool.not_eq_true] at hguard
      obtain ⟨⟨⟨⟨⟨⟨⟨⟨⟨⟨⟨⟨⟨⟨⟨⟨⟨⟨⟨⟨⟨⟨⟨-, hpending⟩, hpubl⟩, htransaction⟩, -⟩, hview⟩, -⟩, -⟩, -⟩, -⟩,
        -⟩, -⟩, -⟩, -⟩, -⟩, -⟩, -⟩, -⟩, -⟩, -⟩, -⟩, hshape⟩, -⟩, -⟩ := hguard
      exact ⟨ref, hstorage, hpending, hpubl, htransaction, hview, hshape⟩

lemma validatePendingLease_detail (h : w.validatePendingLease view = some failure) : failure.detail = kFaceTransaction := by
  unfold FluxWorld.validatePendingLease at h
  dsimp only at h
  split at h
  · rw [← some.inj h]
  · split at h
    · rw [← some.inj h]
    · exact nomatch h

lemma publishFinal_carries {slot stamp : ℕ}
    (h : SameSlots t (t.publishFinalFaceFluxCache slot dependencies stamp writerIdentity).1) :
    Carries t (t.publishFinalFaceFluxCache slot dependencies stamp writerIdentity).1 :=
  (publishFinal_within t slot dependencies stamp writerIdentity).carries
    (publishFinal_writer t slot dependencies stamp writerIdentity) (.inl h)

lemma publishFinal_refused {slot stamp : ℕ}
    (h : t.preflightFinalFaceFluxCache slot dependencies stamp writerIdentity = some failure) :
    SameSlots t (t.publishFinalFaceFluxCache slot dependencies stamp writerIdentity).1 := by
  unfold AttemptTransaction.preflightFinalFaceFluxCache at h
  rw [publishFinal_eq]
  split
  · exact ⟨rfl, rfl⟩
  · rename_i hidentity
    rw [if_neg hidentity] at h
    unfold AttemptTransaction.publishPendingCacheImpl
    rw [h]
    dsimp only
    split
    · unfold AttemptTransaction.latch AttemptTransaction.advanceMutationRevision
      dsimp only
      split <;> exact ⟨rfl, rfl⟩
    · exact ⟨rfl, rfl⟩

lemma publishFinal_cases (slot : ℕ) (dependencies : List RevisionDependency) (stamp writerIdentity : ℕ) :
    ((t.publishFinalFaceFluxCache slot dependencies stamp writerIdentity).2.isOk = false ∧
      SameSlots t (t.publishFinalFaceFluxCache slot dependencies stamp writerIdentity).1) ∨
    ((t.publishFinalFaceFluxCache slot dependencies stamp writerIdentity).2.isOk = true ∧
      writerIdentity ≠ 0 ∧ Published t slot dependencies stamp writerIdentity
        (t.publishFinalFaceFluxCache slot dependencies stamp writerIdentity).1) := by
  rw [publishFinal_eq]
  split
  · exact .inl ⟨rfl, rfl, rfl⟩
  · rename_i hidentity
    rcases publish_cases t slot dependencies stamp writerIdentity with
      ⟨h, hstatus⟩ | ⟨s, m, h, -, -, hstatus⟩ | ⟨hstatus, hpubl⟩
    · exact .inl ⟨by simpa [Status.isOk] using hstatus, by rw [h]; exact ⟨rfl, rfl⟩⟩
    · exact .inl ⟨by simpa [Status.isOk] using hstatus, by rw [h]; exact ⟨rfl, rfl⟩⟩
    · exact .inr ⟨by rw [hstatus]; rfl, hidentity, hpubl⟩

/-- The world after a successful `publish_pending`. -/
def publishedState (view : ℕ) (t : AttemptTransaction) : FluxWorld F :=
  { w with
    attempt := { w.attempt with transaction := t }
    views := Function.update w.views view (w.views view).clear
    writer := { w.writer with pendingPublished := true, pendingView := none } }

theorem publishPending_cases (dependencies : List RevisionDependency) (view : ℕ) :
    (∃ t, (w.publishPending dependencies view).1 = w.setTransaction t ∧
      (t = w.transaction ∨ t = (w.transaction.publishFinalFaceFluxCache w.writer.cacheSlot dependencies
        w.writer.pendingRevision w.writer.authorityFingerprint).1) ∧ Carries w.transaction t) ∨
    ∃ t, (w.publishPending dependencies view).1 = publishedState w view t ∧
      t = (w.transaction.publishFinalFaceFluxCache w.writer.cacheSlot dependencies
        w.writer.pendingRevision w.writer.authorityFingerprint).1 ∧
      w.validatePendingLease view = none ∧ w.writer.authorityFingerprint ≠ 0 ∧
      Published w.transaction w.writer.cacheSlot dependencies w.writer.pendingRevision
        w.writer.authorityFingerprint t := by
  unfold FluxWorld.publishPending
  cases hpre : w.preflightPublishPending dependencies view with
  | some preflight =>
    dsimp only
    split
    · rename_i hredirect
      simp only [Bool.and_eq_true, decide_eq_true_eq] at hredirect
      unfold FluxWorld.preflightPublishPending at hpre
      split at hpre
      · rename_i lease hlease
        have hdetail := validatePendingLease_detail w hlease
        rw [← some.inj hpre] at hredirect
        exact absurd hdetail hredirect.1
      · exact .inl ⟨_, rfl, .inr rfl, publishFinal_carries _ (publishFinal_refused _ hpre)⟩
    · exact .inl ⟨w.transaction, rfl, .inl rfl, .refl _⟩
  | none =>
    have hlease : w.validatePendingLease view = none := by
      unfold FluxWorld.preflightPublishPending at hpre
      split at hpre
      · exact nomatch hpre
      · assumption
    unfold FluxWorld.publishCache
    dsimp only
    rcases publishFinal_cases w.transaction w.writer.cacheSlot dependencies w.writer.pendingRevision
        w.writer.authorityFingerprint with ⟨hstatus, hsame⟩ | ⟨hstatus, hidentity, hpubl⟩
    · rw [if_neg (by rw [hstatus]; simp)]
      exact .inl ⟨_, rfl, .inr rfl, publishFinal_carries _ hsame⟩
    · rw [if_pos hstatus]
      exact .inr ⟨_, rfl, rfl, hlease, hidentity, hpubl⟩

end Leases

section Writes

variable (w : FluxWorld F)

/-- The addresses a write can reach: memory outside the storages, and what a view in use covers. -/
def Writable (p : Address) : Prop :=
  (∃ id, p.block = .external id) ∨ ∃ view, (w.views view).revision ≠ 0 ∧ Covers (w.views view).raw p

def Wrote (w w' : FluxWorld F) : Prop :=
  (∀ p, w'.memory p = w.memory p ∨ Writable w p) ∧ w' = { w with memory := w'.memory }

lemma Wrote.refl : Wrote w w := ⟨fun _ => .inl rfl, rfl⟩

theorem store_wrote (id offset : ℕ) (value : F) : Wrote w (w.store id offset value) := by
  refine ⟨fun p => ?_, rfl⟩
  by_cases hp : p = ⟨.external id, offset⟩
  · exact .inr (.inl ⟨id, by rw [hp]⟩)
  · exact .inl (Function.update_of_ne hp _ _)

lemma sameCells_eq {left right : Int3} (h : sameCells left right = true) : left = right := by
  rcases left with ⟨lx, ly, lz⟩
  rcases right with ⟨rx, ry, rz⟩
  simp only [sameCells, Bool.and_eq_true, decide_eq_true_eq] at h
  obtain ⟨⟨rfl, rfl⟩, rfl⟩ := h
  rfl

lemma validFluxView_shape {flux : FaceFluxView} {cells : Int3} {revision : ℕ}
    (h : validFluxView flux cells revision = true) : flux.revision ≠ 0 ∧
      flux.x.extents = { cells with x := cells.x + 1 } ∧
      flux.y.extents = { cells with y := cells.y + 1 } ∧
      flux.z.extents = { cells with z := cells.z + 1 } := by
  unfold validFluxView at h
  split at h
  · exact nomatch h
  · simp only [Bool.and_eq_true, validFace, decide_eq_true_eq] at h
    obtain ⟨⟨⟨⟨⟨⟨⟨⟨⟨⟨⟨hrevision, -⟩, ⟨⟨⟨-, hx⟩, -⟩, -⟩⟩, ⟨⟨⟨-, hy⟩, -⟩, -⟩⟩, ⟨⟨⟨-, hz⟩, -⟩, -⟩⟩, -⟩, -⟩, -⟩,
      -⟩, -⟩, -⟩, -⟩ := h
    exact ⟨hrevision, sameCells_eq hx, sameCells_eq hy, sameCells_eq hz⟩

lemma validFluxView_sameShape {source destination : FaceFluxView} {cells : Int3} {r r' : ℕ}
    (h : validFluxView source cells r = true) (h' : validFluxView destination cells r' = true) :
    SameShape source destination := by
  obtain ⟨-, hx, hy, hz⟩ := validFluxView_shape h
  obtain ⟨-, hx', hy', hz'⟩ := validFluxView_shape h'
  exact ⟨hx.trans hx'.symm, hy.trans hy'.symm, hz.trans hz'.symm⟩

variable [FaceValue F]

theorem copyPending_wrote (source : FaceFluxView) (view : ℕ) : Wrote w (w.copyPending source view).1 := by
  unfold FluxWorld.copyPending
  split
  · exact .refl w
  · exact .refl w
  · rename_i ref hlease hstorage
    dsimp only
    split
    · exact .refl w
    · rename_i hsource
      split
      · exact .refl w
      · obtain ⟨ref', hleased⟩ := validatePendingLease_none w hlease
        obtain rfl : ref' = ref := some.inj (hleased.storage.symm.trans hstorage)
        simp only [Bool.or_eq_true, not_or, Bool.not_eq_true', Bool.not_eq_false] at hsource
        have hshape := validFluxView_sameShape hsource.2 hleased.shape
        refine ⟨fun p => ?_, rfl⟩
        by_cases hp : Covers (w.views view).raw p
        · exact .inr (.inr ⟨view, (validFluxView_shape hleased.shape).1, hp⟩)
        · exact .inl (copyFlux_frame _ hshape hp)

omit [FaceValue F] in
theorem writePending_wrote (view : ℕ) (writes : List (FluxWorld.FaceWrite F)) :
    Wrote w (w.writePending view writes).1 := by
  unfold FluxWorld.writePending
  split
  · exact .refl w
  · rename_i hvalid
    simp only [Bool.or_eq_true, not_or, Bool.not_eq_true', Bool.not_eq_false,
      PendingFaceFluxView.valid, decide_eq_true_eq] at hvalid
    refine ⟨fun p => ?_, rfl⟩
    by_cases hp : Covers (w.views view).raw p
    · exact .inr (.inr ⟨view, hvalid.1, hp⟩)
    · exact .inl (storeFaces_frame _ writes hp)

end Writes

section Setup

variable (w : FluxWorld F)

structure Initializes (ref active previous pending activeRevision : ℕ) : Prop where
  guard : w.initializable ref = true
  data : (w.storages ref).data = true ∧ (w.storages ref).identity ≠ 0
  replicas : (active = 0 ∧ previous = 0 ∧ pending = 1) ∨ (active = 1 ∧ previous = 0 ∧ pending = 2)
  revision : activeRevision ≠ 0

def Initialized (ref : ℕ) (w' : FluxWorld F) : Prop :=
  w' = w ∨ ∃ memory active previous pending activeRevision previousRevision,
    Initializes w ref active previous pending activeRevision ∧
      w' = { w with memory }.install ref active previous pending activeRevision previousRevision

variable (ref : ℕ)

variable (source : FaceFluxView)

lemma viewImpl_ok_iff (storage : FaceFluxStorage) (ref replica revision : ℕ) :
    (∃ flux, storage.viewImpl ref replica revision = .ok flux) ↔
      storage.data = true ∧ replica < storage.replicas ∧ revision ≠ 0 ∧ storage.identity ≠ 0 ∧
        storage.revisionDomain ≠ 0 := by
  unfold FaceFluxStorage.viewImpl
  split
  · rename_i hguard
    simp only [Bool.or_eq_true, Bool.not_eq_true', decide_eq_true_eq] at hguard
    constructor
    · rintro ⟨flux, h⟩
      exact nomatch h
    · rintro ⟨hdata, hreplica, hrevision, hidentity, hdomain⟩
      rw [hdata] at hguard
      simp only [Bool.true_eq_false, false_or] at hguard
      omega
  · rename_i hguard
    simp only [Bool.or_eq_true, not_or, Bool.not_eq_true', Bool.not_eq_false, decide_eq_true_eq,
      not_le] at hguard
    exact iff_of_true ⟨_, rfl⟩
      ⟨hguard.1.1.1.1, hguard.1.1.1.2, hguard.1.1.2, hguard.1.2, hguard.2⟩

variable [FaceValue F]

lemma initializeBoth_initialized {revision : ℕ}
    (hguard : w.initializable ref = true) : Initialized w ref (w.initializeBoth ref source revision).1 := by
  unfold FluxWorld.initializeBoth
  split
  · exact .inl rfl
  · split
    · exact .inl rfl
    · rename_i destination hview
      obtain ⟨hdata, -, hrevision, hidentity, -⟩ := (viewImpl_ok_iff _ _ _ _).mp ⟨_, hview⟩
      exact .inr ⟨_, 0, 0, 1, revision, revision,
        ⟨hguard, ⟨hdata, hidentity⟩, .inl ⟨rfl, rfl, rfl⟩, hrevision⟩, rfl⟩

theorem initializeCommitted_initialized : Initialized w ref (w.initializeCommitted ref source).1 := by
  unfold FluxWorld.initializeCommitted
  split
  · exact .inl rfl
  · rename_i hguard
    simp only [Bool.or_eq_true, not_or, Bool.not_eq_true', Bool.not_eq_false] at hguard
    exact initializeBoth_initialized w ref source hguard.1

theorem initializeRestored_initialized : Initialized w ref (w.initializeRestored ref source).1 := by
  unfold FluxWorld.initializeRestored
  split
  · exact .inl rfl
  · rename_i hguard
    simp only [Bool.or_eq_true, not_or, Bool.not_eq_true', Bool.not_eq_false] at hguard
    exact initializeBoth_initialized w ref source hguard.1.1.1

theorem initializeRestoredHistory_initialized (accepted previous : FaceFluxView) :
    Initialized w ref (w.initializeRestoredHistory ref accepted previous).1 := by
  unfold FluxWorld.initializeRestoredHistory
  split
  · exact .inl rfl
  · rename_i hguard
    simp only [Bool.or_eq_true, not_or, Bool.not_eq_true', Bool.not_eq_false, decide_eq_true_eq,
      not_le] at hguard
    obtain ⟨⟨⟨⟨⟨⟨hinit, -⟩, -⟩, haccepted⟩, -⟩, -⟩, -⟩ := hguard
    split
    · exact .inl rfl
    · split
      · exact .inl rfl
      · rename_i destination hview
        obtain ⟨hdata, -, -, hidentity, hdomain⟩ := (viewImpl_ok_iff _ _ _ _).mp ⟨_, hview⟩
        have hrevision := (validFluxView_shape haccepted).1
        dsimp only
        split
        · -- three replicas have a second one
          rename_i status hfailed
          have hthree : (w.storages ref).replicas = kFinalFaceFluxReplicas := by
            unfold FluxWorld.initializable at hinit
            simp only [Bool.and_eq_true, decide_eq_true_eq] at hinit
            exact hinit.1.1.1.1.1.2
          obtain ⟨flux, hsecond⟩ := (viewImpl_ok_iff (w.storages ref) ref 1 accepted.revision).mpr
            ⟨hdata, by rw [hthree]; decide, hrevision, hidentity, hdomain⟩
          rw [hsecond] at hfailed
          exact nomatch hfailed
        · exact .inr ⟨_, 1, 0, 2, accepted.revision, previous.revision,
            ⟨hinit, ⟨hdata, hidentity⟩, .inr ⟨rfl, rfl, rfl⟩, hrevision⟩, rfl⟩

/-- What `allocate_final` builds. -/
structure Allocates (ref : ℕ) (storage : FaceFluxStorage) : Prop where
  empty : (w.storages ref).data = false ∧ (w.storages ref).authorityIdentity = 0
  built : storage.alive = true ∧ storage.data = true ∧ storage.authorityIdentity = 0 ∧
    storage.pendingWriter = false
  layout : LayoutPlaced storage.layout

lemma allocateImpl_cases (cells : Int3) (replicas next : ℕ) (finalStorage memory : Bool)
    (out : FaceFluxStorage) : next ≤ (FaceFluxStorage.allocateImpl cells replicas finalStorage next memory out).2.1 ∧
    ((FaceFluxStorage.allocateImpl cells replicas finalStorage next memory out).2.2.isOk = false ∨
      (out.data = false ∧ out.authorityIdentity = 0 ∧
        ∃ layout identity domain, LayoutPlaced layout ∧
          (FaceFluxStorage.allocateImpl cells replicas finalStorage next memory out).1 =
            { data := true, cells, layout, replicas, identity, revisionDomain := domain, finalStorage })) := by
  unfold FaceFluxStorage.allocateImpl
  split
  · exact ⟨le_rfl, .inl rfl⟩
  · rename_i hempty
    split
    · exact ⟨le_rfl, .inl rfl⟩
    · rename_i layout hlayout
      split
      · exact ⟨le_rfl, .inl rfl⟩
      · have hnext := (issueIdentity_le next).trans (issueIdentity_le (issueIdentity next).2)
        dsimp only
        split
        · exact ⟨hnext, .inl rfl⟩
        · split
          · exact ⟨hnext, .inl rfl⟩
          · simp only [Bool.or_eq_true, decide_eq_true_eq, not_or, Bool.not_eq_true, ne_eq,
              not_not] at hempty
            exact ⟨hnext, .inr ⟨hempty.1, hempty.2, layout, _, _, (faceStorageLayout_placed hlayout).1, rfl⟩⟩

theorem allocateFinal_cases (cells : Int3) (memory : Bool) : ∃ next,
    w.attempt.nextIdentity ≤ next ∧
    ((w.allocateFinal ref cells memory).1 = { w with attempt := { w.attempt with nextIdentity := next } } ∨
      ∃ storage, Allocates w ref storage ∧ (w.allocateFinal ref cells memory).1 =
        { w with
          attempt := { w.attempt with nextIdentity := next }
          storages := Function.update w.storages ref storage
          memory := (w.allocateFinal ref cells memory).1.memory }) := by
  obtain ⟨hnext, hcases⟩ := allocateImpl_cases cells kFinalFaceFluxReplicas w.attempt.nextIdentity true
    memory (w.storages ref)
  unfold FluxWorld.allocateFinal FaceFluxStorage.allocateFinal
  dsimp only
  refine ⟨_, hnext, ?_⟩
  rcases hcases with hfailed | ⟨hdata, hauth, layout, identity, domain, hlayout, heq⟩
  · rw [if_neg (by rw [hfailed]; simp)]
    exact .inl rfl
  · split
    · refine .inr ⟨_, ⟨⟨hdata, hauth⟩, ?_, ?_⟩, rfl⟩ <;> rw [heq]
      · exact ⟨rfl, rfl, rfl, rfl⟩
      · exact hlayout
    · exact .inl rfl

/-- The world after the writer claimed `slot` on the transaction. -/
def claimedState (stage slot identity next : ℕ) : FluxWorld F :=
  { w with
    attempt := { w.attempt with
      nextIdentity := next
      transaction := { w.transaction with
        requiredPendingCaches := w.transaction.requiredPendingCaches.set slot true
        pendingCacheWriterIdentities := w.transaction.pendingCacheWriterIdentities.set slot identity
        finalFaceFluxWriterIdentity := identity
        finalFaceFluxWriter := true } }
    writer := { w.writer with
      stage
      cacheSlot := slot
      authorityFingerprint := identity
      authorityTransaction := true
      issued := true } }

structure Claimable (slot identity : ℕ) : Prop where
  unissued : w.writer.issued = false
  identity : identity ≠ 0
  idle : w.transaction.active = false
  slot_lt : slot < w.transaction.requiredPendingCaches.length
  unclaimed : w.transaction.finalFaceFluxWriterIdentity = 0
  free : w.transaction.finalFaceFluxWriter = false ∧
    w.transaction.pendingCacheWriterIdentities.getD slot 0 = 0

omit [FaceValue F] in
theorem claim_cases (stage slot : ℕ) : ∃ next, w.attempt.nextIdentity ≤ next ∧
    ((w.claim stage slot).1 = { w with attempt := { w.attempt with nextIdentity := next } } ∨
      ∃ identity, Claimable w slot identity ∧
        (w.claim stage slot).1 = claimedState w stage slot identity next) := by
  unfold FluxWorld.claim
  split
  · exact ⟨_, le_rfl, .inl rfl⟩
  · rename_i hissued
    refine ⟨_, issueIdentity_le w.attempt.nextIdentity, ?_⟩
    dsimp only
    split
    · exact .inl rfl
    · rename_i hidentity
      unfold AttemptTransaction.claimFinalFaceFluxWriter FluxWorld.transaction
      dsimp only
      split
      · exact .inl rfl
      · rename_i hclaim
        simp only [Bool.or_eq_true, decide_eq_true_eq, not_or, Bool.not_eq_true, ne_eq, not_not,
          not_le] at hissued hclaim
        exact .inr ⟨_, ⟨hissued.1, hidentity, hclaim.1.1.1.1.1, hclaim.1.1.1.2, hclaim.1.2,
          hclaim.2, hclaim.1.1.2⟩, rfl⟩

end Setup

/-- The calls that give a storage its payload and the writer its first flux. -/
def IsSetup : FluxOp F → Prop
  | .initializeCommitted .. | .initializeRestored .. | .initializeRestoredHistory .. |
      .allocateFinal .. => True
  | _ => False

def completed (w : FluxWorld F) (committed : Bool) : FluxWorld F :=
  if w.transaction.finalFaceFluxWriter then w.completeFromTransaction committed else w

/-- What one step does to transaction, writer, storages, views and memory. -/
inductive FluxEffect (w : FluxWorld F) (op : FluxOp F) (w' : FluxWorld F) : Prop where
  | kept (h : Carries w.transaction w'.transaction) (hframe : w' = { w with attempt := w'.attempt })
  | ended (committed : Bool) (h : Ended w.transaction w'.transaction)
      (haccepted : committed = true ↔ FluxWorld.Accepted w w')
      (hframe : w' = completed { w with attempt := w'.attempt } committed)
  | claimed (stage slot identity next : ℕ) (halive : w.writer.alive = true)
      (h : Claimable w slot identity)
      (hframe : w' = claimedState w stage slot identity next)
  | leased (ref view candidate : ℕ) (raw : FaceFluxView) (hop : op = .beginPending ref view)
      (halive : (w.storages ref).alive = true) (h : Leasable w ref view candidate raw)
      (hframe : w' = leasedState w ref view candidate raw)
  | published (dependencies : List RevisionDependency) (view : ℕ)
      (hop : op = .publishPending dependencies view) (hlease : w.validatePendingLease view = none)
      (hidentity : w.writer.authorityFingerprint ≠ 0)
      (h : Published w.transaction w.writer.cacheSlot dependencies w.writer.pendingRevision
        w.writer.authorityFingerprint w'.transaction)
      (hframe : w' = publishedState w view w'.transaction)
  | wrote (h : Wrote w w')
  | initialized (ref : ℕ) (hop : IsSetup op ∧ op.storage? = some ref)
      (memory : Memory Address F) (active previous pending activeRevision previousRevision : ℕ)
      (h : Initializes w ref active previous pending activeRevision)
      (hframe : w' =
        { w with memory }.install ref active previous pending activeRevision previousRevision)
  | allocated (ref next : ℕ) (storage : FaceFluxStorage) (hop : IsSetup op ∧ op.storage? = some ref)
      (halive : (w.storages ref).alive = true) (h : Allocates w ref storage)
      (hframe : w' =
        { w with
          attempt := { w.attempt with nextIdentity := next }
          storages := Function.update w.storages ref storage
          memory := w'.memory })
  | writerDestroyed (hop : op = .destroyWriter) (halive : w.writer.alive = true)
      (hframe : w' = w.destroyWriter)
  | storageDestroyed (ref : ℕ) (hop : op = .destroyStorage ref) (hframe : w' = w.destroyStorage ref)
  | viewDestroyed (view : ℕ) (hop : op = .destroyView view) (hframe : w' = w.destroyView view)

variable {w w' : FluxWorld F}

variable {op : FluxOp F}

lemma completeFromTransaction_idle (h : w.writer.transaction = false) (committed : Bool) :
    w.completeFromTransaction committed = w := by
  unfold FluxWorld.completeFromTransaction
  simp [h]

lemma completeFromTransaction_transaction (committed : Bool) :
    (w.completeFromTransaction committed).writer.transaction = false := by
  unfold FluxWorld.completeFromTransaction
  by_cases h : w.writer.transaction = true
  · simp [h, FluxWorld.forgetPending]
  · simp [h]

lemma completions_completed {calls : List Bool} {committed : Bool} (hcalls : ∀ b ∈ calls, b = committed)
    (hwriter : w.transaction.finalFaceFluxWriter = true ↔ calls ≠ []) :
    w.completions calls = completed w committed := by
  unfold completed FluxWorld.completions
  cases calls with
  | nil =>
    have hfree : ¬ w.transaction.finalFaceFluxWriter = true := fun h => hwriter.mp h rfl
    rw [if_neg hfree]
    rfl
  | cons b rest =>
    rw [if_pos (hwriter.mpr (by simp)), hcalls b (by simp), List.foldl_cons]
    have hidle := completeFromTransaction_transaction (w := w) committed
    generalize w.completeFromTransaction committed = v at hidle
    clear hcalls hwriter
    induction rest with
    | nil => rfl
    | cons c rest ih =>
      rw [List.foldl_cons, completeFromTransaction_idle hidle]
      exact ih

variable [FaceValue F]

lemma call_effect (h : FluxWorld.Step w op w') (hrun : op.run w = w.call (attemptOp w op))
    (hcommunicator : op.communicator = (attemptOp w op).communicator) (hpublic : IsPublic (attemptOp w op)) :
    Attempt.Step w.attempt (attemptOp w op) w'.attempt ∧ FluxEffect w op w' := by
  obtain ⟨r, ⟨-, hreturns⟩, rfl⟩ := h
  rw [hrun, hcommunicator] at hreturns
  unfold FluxWorld.call at hreturns
  rw [Prog.local_bind_iff] at hreturns
  obtain ⟨s, hs, hreturns⟩ := hreturns
  rw [Prog.local_done_iff] at hreturns
  subst hreturns
  have hattempt : (w.afterCall s).world.attempt = s.attempt := completions_attempt _ _
  refine ⟨⟨s, hs, hattempt.symm⟩, ?_⟩
  cases callEffect hpublic hs with
  | carried hcarries hcalls =>
    refine .kept ?_ ?_
    · unfold FluxWorld.transaction
      rw [hattempt]
      exact hcarries
    · rw [hattempt]
      unfold FluxWorld.afterCall
      rw [hcalls]
      rfl
  | ended committed hended haccepted hcalls hwriter =>
    refine .ended committed ?_ ?_ ?_
    · unfold FluxWorld.transaction
      rw [hattempt]
      exact hended
    · unfold FluxWorld.Accepted
      rw [hattempt]
      exact haccepted
    · rw [hattempt]
      refine completions_completed hcalls ?_
      unfold FluxWorld.transaction
      rw [hended.claim.writer]
      exact hwriter

lemma flux_done {r : FluxResult F} (hrun : op.run w = .done r)
    (h : FluxWorld.Step w op w') : op.Enabled w ∧ w' = r.world := by
  obtain ⟨r', ⟨henabled, hreturns⟩, rfl⟩ := h
  rw [hrun, Prog.local_done_iff] at hreturns
  exact ⟨henabled, by rw [hreturns]⟩

omit [FaceValue F] in
lemma initialized_effect {ref : ℕ} (hop : IsSetup op ∧ op.storage? = some ref)
    (h : Initialized w ref w') : FluxEffect w op w' := by
  rcases h with rfl | ⟨memory, active, previous, pending, activeRevision, previousRevision, h, rfl⟩
  · exact .kept (.refl _) rfl
  · exact .initialized ref hop memory active previous pending activeRevision previousRevision h rfl

/-- Every step is one of the effects. -/
theorem fluxEffect (h : FluxWorld.Step w op w') : FluxEffect w op w' := by
  cases op with
  | begin ref => exact (call_effect h rfl rfl trivial).2
  | reviseTrial field => exact (call_effect h rfl rfl trivial).2
  | reviseRuntime ref lifetime field => exact (call_effect h rfl rfl trivial).2
  | bindDependency d => exact (call_effect h rfl rfl trivial).2
  | publish slot dependencies stamp => exact (call_effect h rfl rfl trivial).2
  | prepare i communicator s => exact (call_effect h rfl rfl trivial).2
  | commitAccept i => exact (call_effect h rfl rfl trivial).2
  | commitReject i => exact (call_effect h rfl rfl trivial).2
  | finish communicator s => exact (call_effect h rfl rfl trivial).2
  | issueIdentity => exact (call_effect h rfl rfl trivial).2
  | claim stage slot =>
    obtain ⟨halive, rfl⟩ := flux_done rfl h
    obtain ⟨next, -, heq | ⟨identity, hclaim, heq⟩⟩ := claim_cases w stage slot
    · exact .kept (by rw [heq]; exact .refl _) (by rw [heq])
    · exact .claimed stage slot identity next halive hclaim heq
  | beginPending storage view =>
    obtain ⟨henabled, rfl⟩ := flux_done rfl h
    rcases beginPending_cases w storage view with heq | ⟨candidate, raw, hleasable, heq⟩
    · exact .kept (by rw [heq]; exact .refl _) (by rw [heq])
    · exact .leased storage view candidate raw rfl henabled.2.1 hleasable heq
  | copyPending source view =>
    obtain ⟨-, rfl⟩ := flux_done rfl h
    exact .wrote (copyPending_wrote w source view)
  | publishPending dependencies view =>
    obtain ⟨-, rfl⟩ := flux_done rfl h
    rcases publishPending_cases w dependencies view with
      ⟨t, heq, -, hcarries⟩ | ⟨t, heq, -, hlease, hidentity, hpubl⟩
    · exact .kept (by rw [heq]; exact hcarries) (by rw [heq]; rfl)
    · exact .published dependencies view rfl hlease hidentity (by rw [heq]; exact hpubl)
        (by rw [heq]; rfl)
  | initializeCommitted storage source =>
    obtain ⟨-, rfl⟩ := flux_done rfl h
    exact initialized_effect ⟨trivial, rfl⟩ (initializeCommitted_initialized w storage source)
  | initializeRestored storage source =>
    obtain ⟨-, rfl⟩ := flux_done rfl h
    exact initialized_effect ⟨trivial, rfl⟩ (initializeRestored_initialized w storage source)
  | initializeRestoredHistory storage accepted previous =>
    obtain ⟨-, rfl⟩ := flux_done rfl h
    exact initialized_effect ⟨trivial, rfl⟩
      (initializeRestoredHistory_initialized w storage accepted previous)
  | writePending view writes =>
    obtain ⟨-, rfl⟩ := flux_done rfl h
    exact .wrote (writePending_wrote w view writes)
  | allocateFinal storage cells memory =>
    obtain ⟨halive, rfl⟩ := flux_done rfl h
    obtain ⟨next, -, heq | ⟨built, hallocates, heq⟩⟩ := allocateFinal_cases w storage cells memory
    · exact .kept (by rw [heq]; exact .refl _) (by rw [heq])
    · exact .allocated storage next built ⟨trivial, rfl⟩ halive hallocates heq
  | store id offset value =>
    obtain ⟨-, rfl⟩ := flux_done rfl h
    exact .wrote (store_wrote w id offset value)
  | destroyWriter =>
    obtain ⟨henabled, rfl⟩ := flux_done rfl h
    exact .writerDestroyed rfl henabled rfl
  | destroyStorage storage =>
    obtain ⟨-, rfl⟩ := flux_done rfl h
    exact .storageDestroyed storage rfl rfl
  | destroyView view =>
    obtain ⟨-, rfl⟩ := flux_done rfl h
    exact .viewDestroyed view rfl rfl

section

omit [FaceValue F]

variable {op : AttemptOp}

lemma effect_same {a : Attempt} {next : ℕ} (hnext : a.nextIdentity ≤ next) :
    Effect a op { a with nextIdentity := next } :=
  .within (.refl _) (.inl ⟨rfl, rfl⟩) (fun _ => Extends.refl) rfl hnext (.inr rfl)

lemma clearStorageLease_attempt (w : FluxWorld F) : w.clearStorageLease.attempt = w.attempt := by
  unfold FluxWorld.clearStorageLease FluxWorld.setStorage
  grind

lemma invalidatePendingView_attempt (w : FluxWorld F) : w.invalidatePendingView.attempt = w.attempt := by
  unfold FluxWorld.invalidatePendingView FluxWorld.setView
  grind

lemma invalidateTransaction_effect (w : FluxWorld F) :
    Effect w.attempt .invalidate w.invalidateTransaction.attempt := by
  unfold FluxWorld.invalidateTransaction
  split
  · exact step_effect (step_of_done
      (r := w.attempt.withTransaction (w.transaction.invalidateFinalFaceFluxWriter, {})) rfl)
  · exact effect_same le_rfl

lemma initialized_attemptEffect {w w' : FluxWorld F} {ref : ℕ}
    (h : Initialized w ref w') : Effect w.attempt op w'.attempt := by
  rcases h with rfl | ⟨memory, active, previous, pending, activeRevision, previousRevision, -, rfl⟩ <;>
    exact effect_same le_rfl

lemma destroyView_effect (w : FluxWorld F) (view : ℕ) :
    Effect w.attempt .invalidate (w.destroyView view).attempt := by
  unfold FluxWorld.destroyView FluxWorld.abandonPendingView
  dsimp only [FluxWorld.setView]
  split
  · split
    · exact effect_same le_rfl
    · rw [clearStorageLease_attempt]
      exact invalidateTransaction_effect w
  · exact effect_same le_rfl

lemma destroyStorage_effect (w : FluxWorld F) (ref : ℕ) :
    Effect w.attempt .invalidate (w.destroyStorage ref).attempt := by
  unfold FluxWorld.destroyStorage FluxWorld.detachFromStorage
  dsimp only [FluxWorld.setStorage]
  split
  · split
    · exact effect_same le_rfl
    · rw [invalidatePendingView_attempt, clearStorageLease_attempt]
      exact invalidateTransaction_effect w
  · exact effect_same le_rfl

lemma detachFromTransaction_attempt (w : FluxWorld F) : w.detachFromTransaction.attempt = w.attempt := by
  unfold FluxWorld.detachFromTransaction
  dsimp only
  split
  · rw [invalidatePendingView_attempt, clearStorageLease_attempt]
  · rfl

lemma destroyWriter_effect (w : FluxWorld F) : Effect w.attempt (.detach true) w.destroyWriter.attempt := by
  unfold FluxWorld.destroyWriter
  dsimp only
  split
  · split
    · unfold FluxWorld.setTransaction
      dsimp only
      rw [detachFromTransaction_attempt]
      exact step_effect (step_of_done
        (r := w.attempt.withTransaction (w.transaction.detachFinalFaceFluxWriter true, {})) rfl)
    · exact effect_same le_rfl
  · rw [invalidatePendingView_attempt, clearStorageLease_attempt]
    exact effect_same le_rfl

end

/-- Every step is one step of the attempt machine. -/
theorem attemptEffect (h : FluxWorld.Step w op w') : Effect w.attempt (attemptOp w op) w'.attempt := by
  cases op with
  | begin ref => exact step_effect (call_effect h rfl rfl trivial).1
  | reviseTrial field => exact step_effect (call_effect h rfl rfl trivial).1
  | reviseRuntime ref lifetime field => exact step_effect (call_effect h rfl rfl trivial).1
  | bindDependency d => exact step_effect (call_effect h rfl rfl trivial).1
  | publish slot dependencies stamp => exact step_effect (call_effect h rfl rfl trivial).1
  | prepare i communicator s => exact step_effect (call_effect h rfl rfl trivial).1
  | commitAccept i => exact step_effect (call_effect h rfl rfl trivial).1
  | commitReject i => exact step_effect (call_effect h rfl rfl trivial).1
  | finish communicator s => exact step_effect (call_effect h rfl rfl trivial).1
  | issueIdentity => exact step_effect (call_effect h rfl rfl trivial).1
  | claim stage slot =>
    obtain ⟨-, rfl⟩ := flux_done rfl h
    obtain ⟨next, hnext, heq | ⟨identity, hclaim, heq⟩⟩ := claim_cases w stage slot <;> rw [heq]
    · exact effect_same hnext
    · refine .claimed slot identity rfl ?_ hclaim.idle rfl rfl hnext
      have hguard : ¬ (w.transaction.active || decide (identity = 0) ||
          decide (w.transaction.requiredPendingCaches.length ≤ slot) ||
          decide (w.transaction.pendingCacheWriterIdentities.getD slot 0 ≠ 0) ||
          decide (w.transaction.finalFaceFluxWriterIdentity ≠ 0) ||
          w.transaction.finalFaceFluxWriter) = true := by
        simp only [hclaim.idle, hclaim.identity, hclaim.unclaimed, hclaim.free, not_le.mpr hclaim.slot_lt]
        simp
      unfold FluxWorld.transaction at hguard
      unfold AttemptTransaction.claimFinalFaceFluxWriter
      rw [if_neg hguard]
      rfl
  | beginPending storage view =>
    obtain ⟨-, rfl⟩ := flux_done rfl h
    rcases beginPending_cases w storage view with heq | ⟨candidate, raw, -, heq⟩ <;> rw [heq] <;>
      exact effect_same le_rfl
  | copyPending source view =>
    obtain ⟨-, rfl⟩ := flux_done rfl h
    rw [(copyPending_wrote w source view).2]
    exact effect_same le_rfl
  | publishPending dependencies view =>
    obtain ⟨-, rfl⟩ := flux_done rfl h
    have hpublish : Effect w.attempt (.publishFinal w.writer.cacheSlot dependencies
        w.writer.pendingRevision w.writer.authorityFingerprint)
        (w.attempt.withTransaction (w.transaction.publishFinalFaceFluxCache w.writer.cacheSlot
          dependencies w.writer.pendingRevision w.writer.authorityFingerprint)).attempt :=
      step_effect (step_of_done rfl)
    rcases publishPending_cases w dependencies view with ⟨t, heq, rfl | rfl, -⟩ | ⟨t, heq, rfl, -⟩ <;> rw [heq]
    · exact effect_same le_rfl
    · exact hpublish
    · exact hpublish
  | initializeCommitted storage source =>
    obtain ⟨-, rfl⟩ := flux_done rfl h
    exact initialized_attemptEffect (initializeCommitted_initialized w storage source)
  | initializeRestored storage source =>
    obtain ⟨-, rfl⟩ := flux_done rfl h
    exact initialized_attemptEffect (initializeRestored_initialized w storage source)
  | initializeRestoredHistory storage accepted previous =>
    obtain ⟨-, rfl⟩ := flux_done rfl h
    exact initialized_attemptEffect
      (initializeRestoredHistory_initialized w storage accepted previous)
  | writePending view writes =>
    obtain ⟨-, rfl⟩ := flux_done rfl h
    rw [(writePending_wrote w view writes).2]
    exact effect_same le_rfl
  | allocateFinal storage cells memory =>
    obtain ⟨-, rfl⟩ := flux_done rfl h
    obtain ⟨next, hnext, heq | ⟨built, -, heq⟩⟩ := allocateFinal_cases w storage cells memory <;>
      rw [heq] <;> exact effect_same hnext
  | store id offset value =>
    obtain ⟨-, rfl⟩ := flux_done rfl h
    exact effect_same le_rfl
  | destroyWriter =>
    obtain ⟨-, rfl⟩ := flux_done rfl h
    exact destroyWriter_effect w
  | destroyStorage storage =>
    obtain ⟨-, rfl⟩ := flux_done rfl h
    exact destroyStorage_effect w storage
  | destroyView view =>
    obtain ⟨-, rfl⟩ := flux_done rfl h
    exact destroyView_effect w view

end HundunFlow.Proofs
