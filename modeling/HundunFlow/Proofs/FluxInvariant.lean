import HundunFlow.Proofs.FluxEffects

/-!
# The invariant of the final flux

Transaction, writer, storage and pending view tell the same story: who claimed the slot,
which replica is leased through which view, and that a filled slot means a published lease.
-/

namespace HundunFlow.Proofs

open Lib Function Option

variable {F : Type}

structure Tracked (w : FluxWorld F) : Prop where
  leases : ∀ ref, (w.storages ref).pendingWriter = true → w.writer.storage = some ref
  views : ∀ view, w.writer.pendingView ≠ some view → w.views view = { alive := (w.views view).alive }

def Released (storage storage' : FaceFluxStorage) : Prop :=
  ∃ writerIdentity attemptIdentity, storage' =
    { storage with
      pendingWriterIdentity := writerIdentity
      pendingAttemptIdentity := attemptIdentity
      pendingWriter := false }

/-- No lease and no view is left, and nothing else changed below the writer. -/
structure Freed (w w' : FluxWorld F) : Prop where
  storages : ∀ ref, Released (w.storages ref) (w'.storages ref)
  views : ∀ view, w'.views view = { alive := (w.views view).alive }
  memory : w'.memory = w.memory

variable {w : FluxWorld F} {op : FluxOp F} {s₀ : ℕ}

variable {w' : FluxWorld F}

lemma released_self {storage : FaceFluxStorage} (h : storage.pendingWriter = false) : Released storage storage := by
  refine ⟨storage.pendingWriterIdentity, storage.pendingAttemptIdentity, ?_⟩
  rw [← h]

lemma clearStorageLease_released (w : FluxWorld F) (h : Tracked w) :
    (∀ ref, Released (w.storages ref) (w.clearStorageLease.storages ref)) ∧
      w.clearStorageLease.writer = w.writer ∧ w.clearStorageLease.views = w.views ∧
      w.clearStorageLease.memory = w.memory := by
  have hself : ∀ ref, w.writer.storage ≠ some ref → Released (w.storages ref) (w.storages ref) := by
    intro ref href
    apply released_self
    by_contra hlease
    exact href (h.leases ref (by simpa using hlease))
  unfold FluxWorld.clearStorageLease
  cases hstorage : w.writer.storage with
  | none => exact ⟨fun ref => hself ref (by simp [hstorage]), rfl, rfl, rfl⟩
  | some current =>
    dsimp only
    split
    · refine ⟨fun ref => ?_, rfl, rfl, rfl⟩
      unfold FluxWorld.setStorage
      dsimp only
      by_cases href : ref = current
      · subst href
        rw [update_self]
        exact ⟨0, 0, rfl⟩
      · rw [update_of_ne href]
        apply hself
        rw [hstorage]
        exact fun heq => href (some.inj heq).symm
    · rename_i hfree
      refine ⟨fun ref => ?_, rfl, rfl, rfl⟩
      by_cases href : ref = current
      · subst href
        exact released_self (by simpa using hfree)
      · apply hself
        rw [hstorage]
        exact fun heq => href (some.inj heq).symm

lemma clear_alive (pending : PendingFaceFluxView) : pending.clear = { alive := pending.alive } := rfl

lemma invalidatePendingView_views (w : FluxWorld F)
    (h : ∀ view, w.writer.pendingView ≠ some view → w.views view = { alive := (w.views view).alive }) :
    (∀ view, w.invalidatePendingView.views view = { alive := (w.views view).alive }) ∧
      w.invalidatePendingView.writer = { w.writer with pendingView := none } ∧
      w.invalidatePendingView.storages = w.storages ∧ w.invalidatePendingView.memory = w.memory := by
  unfold FluxWorld.invalidatePendingView
  cases hview : w.writer.pendingView with
  | none =>
    refine ⟨fun view => h view (by simp [hview]), ?_, rfl, rfl⟩
    dsimp only
    rw [← hview]
  | some current =>
    refine ⟨fun view => ?_, rfl, rfl, rfl⟩
    unfold FluxWorld.setView
    dsimp only
    by_cases heq : view = current
    · subst heq
      rw [update_self, clear_alive]
    · rw [update_of_ne heq]
      apply h
      rw [hview]
      exact fun hsome => heq (some.inj hsome).symm

lemma endLease (w : FluxWorld F) (h : Tracked w) : Freed w w.clearStorageLease.invalidatePendingView ∧
      w.clearStorageLease.invalidatePendingView.writer = { w.writer with pendingView := none } ∧
      w.clearStorageLease.invalidatePendingView.attempt = w.attempt := by
  obtain ⟨hreleased, hwriter, hviews, hmemory⟩ := clearStorageLease_released w h
  obtain ⟨hcleared, hwriter', hstores, hmemory'⟩ := invalidatePendingView_views w.clearStorageLease
    (by rw [hwriter, hviews]; exact h.views)
  refine ⟨⟨fun ref => ?_, fun view => ?_, ?_⟩, ?_, ?_⟩
  · rw [hstores]
    exact hreleased ref
  · rw [hcleared, hviews]
  · rw [hmemory', hmemory]
  · rw [hwriter', hwriter]
  · rw [invalidatePendingView_attempt, clearStorageLease_attempt]

/-- The writer's state after an accepted attempt, before it forgets the attempt. -/
def rotatedWriter (writer : FinalFaceFluxWriter) : FinalFaceFluxWriter :=
  { writer with
    previousReplica := writer.activeReplica
    previousRevision := writer.activeRevision
    activeReplica := writer.pendingReplica
    activeRevision := writer.pendingRevision
    pendingReplica := FluxWorld.nextPendingReplica writer.pendingReplica writer.activeReplica
      writer.pendingReplica }

def completedWriter (writer : FinalFaceFluxWriter) (committed : Bool) : FinalFaceFluxWriter :=
  FluxWorld.forgetPending
    { (if writer.pending && committed then rotatedWriter writer else writer) with pendingView := none }

theorem completeFromTransaction_freed (w : FluxWorld F) (h : Tracked w) (htransaction : w.writer.transaction = true)
    (committed : Bool) : Freed w (w.completeFromTransaction committed) ∧
      (w.completeFromTransaction committed).writer = completedWriter w.writer committed := by
  unfold FluxWorld.completeFromTransaction completedWriter
  rw [if_neg (by simp [htransaction])]
  dsimp only
  have hboth : ∀ writer : FinalFaceFluxWriter, writer.storage = w.writer.storage →
      writer.pendingView = w.writer.pendingView →
      Freed w ({ w with writer } : FluxWorld F).clearStorageLease.invalidatePendingView ∧
        ({ w with writer } : FluxWorld F).clearStorageLease.invalidatePendingView.writer =
          { writer with pendingView := none } := by
    intro writer hstorage hview
    obtain ⟨hfreed, hwriter, -⟩ := endLease { w with writer }
      ⟨by rw [hstorage]; exact h.leases, by rw [hview]; exact h.views⟩
    exact ⟨⟨hfreed.storages, hfreed.views, hfreed.memory⟩, hwriter⟩
  split
  · obtain ⟨hfreed, hwriter⟩ := hboth (rotatedWriter w.writer) rfl rfl
    exact ⟨⟨hfreed.storages, hfreed.views, hfreed.memory⟩, congrArg FluxWorld.forgetPending hwriter⟩
  · obtain ⟨hfreed, hwriter⟩ := hboth w.writer rfl rfl
    exact ⟨⟨hfreed.storages, hfreed.views, hfreed.memory⟩, congrArg FluxWorld.forgetPending hwriter⟩

structure ClaimInv (w : FluxWorld F) : Prop where
  aligned : w.transaction.pendingCacheWriterIdentities.length = w.transaction.requiredPendingCaches.length
  attached : w.transaction.finalFaceFluxWriter = w.writer.authorityTransaction
  authority : w.writer.authorityTransaction = (w.writer.issued && w.writer.alive)
  identity : w.transaction.finalFaceFluxWriterIdentity ≠ 0 ↔ w.writer.issued = true
  unissued : w.writer.issued = false →
    ∀ slot, w.transaction.pendingCacheWriterIdentities.getD slot 0 = 0
  issued : w.writer.issued = true → w.writer.authorityFingerprint ≠ 0 ∧
    w.transaction.requiredPendingCaches.getD w.writer.cacheSlot false = true ∧
    w.transaction.pendingCacheWriterIdentities.getD w.writer.cacheSlot 0 = w.writer.authorityFingerprint

structure Unleased (writer : FinalFaceFluxWriter) : Prop where
  pending : writer.pending = false
  published : writer.pendingPublished = false
  storage : writer.storage = none
  view : writer.pendingView = none

structure LeaseInv (s₀ : ℕ) (w : FluxWorld F) : Prop where
  tracked : Tracked w
  transaction : w.writer.transaction = true →
    w.transaction.active = true ∧ w.writer.authorityTransaction = true
  idle : w.writer.pending = false → Unleased w.writer
  pending : w.writer.pending = true → w.writer.transaction = true ∧ w.writer.storage = some s₀ ∧
    (w.storages s₀).pendingWriter = true ∧ (w.storages s₀).alive = true ∧
    (w.storages s₀).data = true ∧ w.writer.activeRevision < w.writer.pendingRevision ∧ w.writer.boundStorageIdentity ≠ 0
  published : w.writer.pendingPublished = true → w.writer.pendingView = none
  view : ∀ view, w.writer.pendingView = some view → (w.views view).writer = true ∧
    ∃ revision raw, (w.storages s₀).viewImpl s₀ w.writer.pendingReplica revision = .ok raw ∧
      (w.views view).x = raw.x ∧ (w.views view).y = raw.y ∧ (w.views view).z = raw.z

structure HistoryInv (s₀ : ℕ) (w : FluxWorld F) : Prop where
  replicas : w.writer.activeReplica < kFinalFaceFluxReplicas ∧
    w.writer.previousReplica < kFinalFaceFluxReplicas ∧ w.writer.pendingReplica < kFinalFaceFluxReplicas
  disjoint : w.writer.pendingReplica ≠ w.writer.activeReplica ∧
    w.writer.pendingReplica ≠ w.writer.previousReplica
  previous : w.writer.previousRevision ≠ 0 → w.writer.activeRevision ≠ 0
  bound : w.writer.activeRevision ≠ 0 → w.writer.boundStorageIdentity ≠ 0
  issued : w.writer.activeRevision ≠ 0 → w.writer.issued = true
  layout : (w.storages s₀).data = true → LayoutPlaced (w.storages s₀).layout

/-- A filled slot means a published lease, unless the attempt has failed for the loss of
writer or storage. -/
def MandatoryInv (s₀ : ℕ) (w : FluxWorld F) : Prop :=
  w.transaction.active = true → w.writer.issued = true →
    w.transaction.pendingCaches.getD w.writer.cacheSlot 0 ≠ 0 → w.writer.pendingPublished = true ∨
      (w.transaction.attemptStatus.code ≠ .ok ∧
        (w.writer.alive = false ∨ (w.storages s₀).alive = false))

structure FluxInv (s₀ : ℕ) (w : FluxWorld F) : Prop where
  claim : ClaimInv w
  lease : LeaseInv s₀ w
  history : HistoryInv s₀ w
  mandatory : MandatoryInv s₀ w

section Preservation

variable {s₀ : ℕ} {w w' : FluxWorld F}

variable (writer : FinalFaceFluxWriter)

lemma ClaimInv.congr (h : ClaimInv w) (ht : SameClaim w.transaction w'.transaction)
    (halive : w'.writer.alive = w.writer.alive) (hissued : w'.writer.issued = w.writer.issued)
    (hauth : w'.writer.authorityTransaction = w.writer.authorityTransaction)
    (hidentity : w'.writer.authorityFingerprint = w.writer.authorityFingerprint)
    (hslot : w'.writer.cacheSlot = w.writer.cacheSlot) : ClaimInv w' := by
  refine ⟨?_, ?_, ?_, ?_, ?_, ?_⟩
  · rw [ht.writers, ht.required]
    exact h.aligned
  · rw [ht.writer, hauth]
    exact h.attached
  · rw [hauth, hissued, halive]
    exact h.authority
  · rw [ht.identity, hissued]
    exact h.identity
  · rw [hissued, ht.writers]
    exact h.unissued
  · rw [hissued, hidentity, hslot, ht.required, ht.writers]
    exact h.issued

lemma LeaseInv.unleased (hleases : ∀ ref, (w.storages ref).pendingWriter = false)
    (hviews : ∀ view, w.views view = { alive := (w.views view).alive }) (hunleased : Unleased w.writer)
    (htransaction : w.writer.transaction = true →
      w.transaction.active = true ∧ w.writer.authorityTransaction = true) : LeaseInv s₀ w := by
  refine ⟨⟨fun ref hlease => ?_, fun view _ => hviews view⟩, htransaction, fun _ => hunleased, ?_, ?_, ?_⟩
  · exact nomatch (hleases ref).symm.trans hlease
  · intro hpending
    exact nomatch hunleased.pending.symm.trans hpending
  · exact fun _ => hunleased.view
  · intro view hview
    exact nomatch hunleased.view.symm.trans hview

lemma LeaseInv.freed (hfreed : Freed w w') (hunleased : Unleased w'.writer)
    (htransaction : w'.writer.transaction = true →
      w'.transaction.active = true ∧ w'.writer.authorityTransaction = true) : LeaseInv s₀ w' := by
  apply LeaseInv.unleased
  · intro ref
    obtain ⟨i, j, heq⟩ := hfreed.storages ref
    rw [heq]
  · intro view
    rw [hfreed.views view]
  · exact hunleased
  · exact htransaction

lemma LeaseInv.free (h : LeaseInv s₀ w) (hpending : w.writer.pending = false) :
    (∀ ref, (w.storages ref).pendingWriter = false) ∧
      ∀ view, w.views view = { alive := (w.views view).alive } := by
  have hidle := h.idle hpending
  refine ⟨fun ref => ?_, fun view => h.tracked.views view (by rw [hidle.view]; simp)⟩
  by_contra hlease
  have hstorage := h.tracked.leases ref (by simpa using hlease)
  exact nomatch hidle.storage.symm.trans hstorage

lemma LeaseInv.freed_self (h : LeaseInv s₀ w) (hpending : w.writer.pending = false) : Freed w w :=
  ⟨fun ref => released_self ((h.free hpending).1 ref), (h.free hpending).2, rfl⟩

lemma HistoryInv.congr (h : HistoryInv s₀ w)
    (hactive : w'.writer.activeReplica = w.writer.activeReplica ∧
      w'.writer.activeRevision = w.writer.activeRevision)
    (hprev : w'.writer.previousReplica = w.writer.previousReplica ∧
      w'.writer.previousRevision = w.writer.previousRevision)
    (hpending : w'.writer.pendingReplica = w.writer.pendingReplica)
    (hissued : w.writer.issued = true → w'.writer.issued = true)
    (hbound : w.writer.boundStorageIdentity ≠ 0 → w'.writer.boundStorageIdentity ≠ 0)
    (hlayout : (w'.storages s₀).data = true → LayoutPlaced (w'.storages s₀).layout) :
    HistoryInv s₀ w' := by
  refine ⟨?_, ?_, ?_, ?_, ?_, hlayout⟩
  · rw [hactive.1, hprev.1, hpending]
    exact h.replicas
  · rw [hactive.1, hprev.1, hpending]
    exact h.disjoint
  · rw [hprev.2, hactive.2]
    exact h.previous
  · rw [hactive.2]
    exact fun hrevision => hbound (h.bound hrevision)
  · rw [hactive.2]
    exact fun hrevision => hissued (h.issued hrevision)

lemma FluxInv.attempt (h : FluxInv s₀ w) (hc : SameClaim w.transaction w'.transaction)
    (hframe : w' = { w with attempt := w'.attempt })
    (hactive : w.writer.transaction = true → w'.transaction.active = true)
    (hmand : MandatoryInv s₀ w') : FluxInv s₀ w' := by
  have hwriter : w'.writer = w.writer := by rw [hframe]
  have hstores : w'.storages = w.storages := by rw [hframe]
  have hviews : w'.views = w.views := by rw [hframe]
  refine ⟨?_, ?_, ?_, hmand⟩
  · apply h.claim.congr hc <;> rw [hwriter]
  · have hl := h.lease
    refine ⟨?_, ?_, ?_, ?_, ?_, ?_⟩
    · constructor
      · rw [hstores, hwriter]
        exact hl.tracked.leases
      · rw [hviews, hwriter]
        exact hl.tracked.views
    · rw [hwriter]
      exact fun htransaction => ⟨hactive htransaction, (hl.transaction htransaction).2⟩
    · rw [hwriter]
      exact hl.idle
    · rw [hwriter, hstores]
      exact hl.pending
    · rw [hwriter]
      exact hl.published
    · rw [hwriter, hviews, hstores]
      exact hl.view
  · apply h.history.congr
    · rw [hwriter]
      exact ⟨rfl, rfl⟩
    · rw [hwriter]
      exact ⟨rfl, rfl⟩
    · rw [hwriter]
    · rw [hwriter]
      exact id
    · rw [hwriter]
      exact id
    · rw [hstores]
      exact h.history.layout

lemma FluxInv.kept (h : FluxInv s₀ w) (hc : Carries w.transaction w'.transaction)
    (hframe : w' = { w with attempt := w'.attempt }) : FluxInv s₀ w' := by
  apply h.attempt hc.claim hframe
  · exact fun htransaction => (hc.active (h.lease.transaction htransaction).1).1
  · unfold MandatoryInv
    have hwriter : w'.writer = w.writer := by rw [hframe]
    have hstores : w'.storages = w.storages := by rw [hframe]
    rw [hwriter, hstores]
    intro hactive' hissued hfilled
    by_cases hactive : w.transaction.active = true
    · have hidentity := h.claim.issued hissued
      have hclaimed : w.transaction.pendingCacheWriterIdentities.getD w.writer.cacheSlot 0 ≠ 0 := by
        rw [hidentity.2.2]
        exact hidentity.1
      rw [hc.claimedSlots hactive _ hclaimed] at hfilled
      rcases h.mandatory hactive hissued hfilled with hpubl | ⟨hfailed, hlost⟩
      · exact .inl hpubl
      · exact .inr ⟨hc.latched hactive hfailed, hlost⟩
    · exact absurd (hc.opened (by simpa using hactive) hactive' _) hfilled

lemma FluxInv.wrote (h : FluxInv s₀ w) (hw : Wrote w w') : FluxInv s₀ w' := by
  rw [hw.2]
  exact ⟨⟨h.claim.aligned, h.claim.attached, h.claim.authority, h.claim.identity, h.claim.unissued,
      h.claim.issued⟩,
    ⟨⟨h.lease.tracked.leases, h.lease.tracked.views⟩, h.lease.transaction, h.lease.idle, h.lease.pending,
      h.lease.published, h.lease.view⟩,
    ⟨h.history.replicas, h.history.disjoint, h.history.previous, h.history.bound, h.history.issued,
      h.history.layout⟩, h.mandatory⟩

lemma released_layout {storage storage' : FaceFluxStorage} (h : Released storage storage') :
    storage'.data = storage.data ∧ storage'.layout = storage.layout ∧ storage'.alive = storage.alive := by
  obtain ⟨i, j, rfl⟩ := h
  exact ⟨rfl, rfl, rfl⟩

lemma nextPendingReplica_spec {active previous : ℕ} (pending : ℕ) (ha : active < kFinalFaceFluxReplicas)
    (hp : previous < kFinalFaceFluxReplicas) :
    FluxWorld.nextPendingReplica active previous pending < kFinalFaceFluxReplicas ∧
      FluxWorld.nextPendingReplica active previous pending ≠ active ∧
      FluxWorld.nextPendingReplica active previous pending ≠ previous := by
  have hfind : ∀ a < kFinalFaceFluxReplicas, ∀ p < kFinalFaceFluxReplicas,
      ∃ r < kFinalFaceFluxReplicas, (List.range kFinalFaceFluxReplicas).find?
        (fun r => r ≠ a && r ≠ p) = some r ∧ r ≠ a ∧ r ≠ p := by
    decide
  obtain ⟨r, hr, heq, hactive, hprev⟩ := hfind active ha previous hp
  unfold FluxWorld.nextPendingReplica
  rw [heq]
  exact ⟨hr, hactive, hprev⟩

lemma HistoryInv.completed (h : HistoryInv s₀ w) (hl : LeaseInv s₀ w) (hc : ClaimInv w) (committed : Bool)
    (hwriter : w'.writer = completedWriter w.writer committed)
    (hlayout : (w'.storages s₀).data = true → LayoutPlaced (w'.storages s₀).layout) : HistoryInv s₀ w' := by
  unfold completedWriter at hwriter
  by_cases hrotate : (w.writer.pending && committed) = true
  · rw [if_pos hrotate] at hwriter
    obtain ⟨htransaction, -, -, -, -, hlater, hbound⟩ := hl.pending (by simp_all)
    have hauth := (hl.transaction htransaction).2
    rw [hc.authority] at hauth
    obtain ⟨hreplica, hactive, hprev⟩ :=
      nextPendingReplica_spec w.writer.pendingReplica h.replicas.2.2 h.replicas.1
    refine ⟨?_, ?_, ?_, ?_, ?_, hlayout⟩ <;> rw [hwriter]
    · exact ⟨h.replicas.2.2, h.replicas.1, hreplica⟩
    · exact ⟨hactive, hprev⟩
    · intro _
      exact (Nat.zero_le _).trans_lt hlater |>.ne'
    · exact fun _ => hbound
    · intro _
      simp_all [FluxWorld.forgetPending, rotatedWriter]
  · rw [if_neg hrotate] at hwriter
    apply h.congr <;> try rw [hwriter]
    · exact ⟨rfl, rfl⟩
    · exact ⟨rfl, rfl⟩
    · rfl
    · exact id
    · exact id
    · exact hlayout

lemma completedWriter_claim (committed : Bool) : (completedWriter writer committed).alive = writer.alive ∧
      (completedWriter writer committed).issued = writer.issued ∧
      (completedWriter writer committed).authorityTransaction = writer.authorityTransaction ∧
      (completedWriter writer committed).authorityFingerprint = writer.authorityFingerprint ∧
      (completedWriter writer committed).cacheSlot = writer.cacheSlot := by
  unfold completedWriter
  split <;> exact ⟨rfl, rfl, rfl, rfl, rfl⟩

lemma FluxInv.completed_cases (h : FluxInv s₀ w) {committed : Bool} (he : Ended w.transaction w'.transaction)
    (hframe : w' = completed { w with attempt := w'.attempt } committed) :
    (w.writer.transaction = true ∧ Freed w w' ∧ w'.writer = completedWriter w.writer committed) ∨
      (w.writer.transaction = false ∧ w' = { w with attempt := w'.attempt }) := by
  unfold completed at hframe
  by_cases hmember : w.writer.transaction = true
  · have hclaimed : w'.transaction.finalFaceFluxWriter = true := by
      rw [he.claim.writer, h.claim.attached]
      exact (h.lease.transaction hmember).2
    rw [if_pos (by exact hclaimed)] at hframe
    obtain ⟨hfreed, hwriter⟩ := completeFromTransaction_freed { w with attempt := w'.attempt }
      ⟨h.lease.tracked.leases, h.lease.tracked.views⟩ hmember committed
    rw [← hframe] at hfreed hwriter
    exact .inl ⟨hmember, ⟨hfreed.storages, hfreed.views, hfreed.memory⟩, hwriter⟩
  · refine .inr ⟨by simpa using hmember, ?_⟩
    rw [completeFromTransaction_idle (by simpa using hmember), ite_self] at hframe
    exact hframe

lemma FluxInv.ended (h : FluxInv s₀ w) (committed : Bool) (he : Ended w.transaction w'.transaction)
    (hframe : w' = completed { w with attempt := w'.attempt } committed) : FluxInv s₀ w' := by
  rcases h.completed_cases he hframe with ⟨-, hfreed, hwriter⟩ | ⟨hmember, hsame⟩
  · obtain ⟨halive, hissued, hauth, hidentity, hslot⟩ := completedWriter_claim w.writer committed
    refine ⟨?_, ?_, ?_, ?_⟩
    · apply h.claim.congr he.claim <;> rw [hwriter]
      · exact halive
      · exact hissued
      · exact hauth
      · exact hidentity
      · exact hslot
    · refine .freed hfreed ?_ ?_ <;> rw [hwriter]
      · exact ⟨rfl, rfl, rfl, by unfold completedWriter FluxWorld.forgetPending; rfl⟩
      · intro hagain
        exact absurd hagain (by simp [completedWriter, FluxWorld.forgetPending])
    · obtain ⟨hdata, hlayout, -⟩ := released_layout (hfreed.storages s₀)
      apply h.history.completed h.lease h.claim committed hwriter
      rw [hdata, hlayout]
      exact h.history.layout
    · intro hactive
      cases he.idle.symm.trans hactive
  · apply h.attempt he.claim hsame
    · exact fun htransaction => by cases hmember.symm.trans htransaction
    · intro hactive
      cases he.idle.symm.trans hactive

lemma FluxInv.claimed (h : FluxInv s₀ w) {stage slot identity next : ℕ} (halive : w.writer.alive = true)
    (hc : Claimable w slot identity) : FluxInv s₀ (claimedState w stage slot identity next) := by
  have hwriters : slot < w.transaction.pendingCacheWriterIdentities.length :=
    h.claim.aligned ▸ hc.slot_lt
  refine ⟨⟨?_, rfl, ?_, ?_, ?_, ?_⟩, ?_, ?_, ?_⟩
  · simpa [claimedState, FluxWorld.transaction] using h.claim.aligned
  · simp [claimedState, halive]
  · exact iff_of_true hc.identity rfl
  · exact fun hissued => absurd hissued (by simp [claimedState])
  · intro _
    exact ⟨hc.identity, getD_set_self _ _ _ _ hc.slot_lt, getD_set_self _ _ _ _ hwriters⟩
  · have hl := h.lease
    refine ⟨⟨hl.tracked.leases, hl.tracked.views⟩, ?_, ?_, hl.pending, hl.published, hl.view⟩
    · exact fun htransaction => ⟨(hl.transaction htransaction).1, rfl⟩
    · exact fun hpending => ⟨(hl.idle hpending).pending, (hl.idle hpending).published,
        (hl.idle hpending).storage, (hl.idle hpending).view⟩
  · have hh := h.history
    exact ⟨hh.replicas, hh.disjoint, hh.previous, hh.bound, fun _ => rfl, hh.layout⟩
  · intro hactive
    exact nomatch hc.idle.symm.trans hactive

lemma leasedState_writer (w : FluxWorld F) (ref view candidate : ℕ) (raw : FaceFluxView) :
    ∃ identity domain cells, (leasedState w ref view candidate raw).writer =
      { w.writer with
        boundStorageIdentity := identity
        boundRevisionDomain := domain
        boundCells := cells
        pendingRevision := candidate
        pendingAttemptIdentity := w.transaction.attemptIdentity
        transaction := true
        storage := some ref
        pendingView := some view
        pending := true
        pendingPublished := false } ∧
      ((w.writer.boundStorageIdentity = 0 ∧ identity = (w.storages ref).identity) ∨
        (w.writer.boundStorageIdentity ≠ 0 ∧ identity = w.writer.boundStorageIdentity ∧
          domain = w.writer.boundRevisionDomain ∧ cells = w.writer.boundCells)) := by
  unfold leasedState
  by_cases hbound : w.writer.boundStorageIdentity = 0
  · refine ⟨(w.storages ref).identity, (w.storages ref).revisionDomain, (w.storages ref).cells, ?_,
      .inl ⟨hbound, rfl⟩⟩
    dsimp only
    rw [if_pos hbound]
    rfl
  · refine ⟨w.writer.boundStorageIdentity, w.writer.boundRevisionDomain, w.writer.boundCells, ?_,
      .inr ⟨hbound, rfl, rfl, rfl⟩⟩
    dsimp only
    rw [if_neg hbound]

lemma FluxInv.leased (h : FluxInv s₀ w) {view candidate : ℕ} {raw : FaceFluxView}
    (halive : (w.storages s₀).alive = true) (hl : Leasable w s₀ view candidate raw) :
    FluxInv s₀ (leasedState w s₀ view candidate raw) := by
  obtain ⟨identity, domain, cells, hwriter, hidentity⟩ := leasedState_writer w s₀ view candidate raw
  obtain ⟨hdata, -, -, hstorage, -⟩ := (viewImpl_ok_iff _ _ _ _).mp ⟨raw, hl.raw⟩
  have hbound : identity ≠ 0 := by
    rcases hidentity with ⟨-, heq⟩ | ⟨hne, heq, -⟩
    · rw [heq]
      exact hstorage
    · rw [heq]
      exact hne
  have hidle := h.lease.idle hl.idle.1
  have hstores : ∀ ref, ref ≠ s₀ →
      (leasedState w s₀ view candidate raw).storages ref = w.storages ref :=
    fun ref href => update_of_ne href _ _
  have hs₀ : (leasedState w s₀ view candidate raw).storages s₀ =
      { w.storages s₀ with
        pendingWriterIdentity := w.writer.authorityFingerprint
        pendingAttemptIdentity := w.transaction.attemptIdentity
        pendingWriter := true
        authorityIdentity := w.writer.authorityFingerprint } := update_self ..
  refine ⟨?_, ⟨⟨?_, ?_⟩, ?_, ?_, ?_, ?_, ?_⟩, ?_, ?_⟩
  · have hclaim : SameClaim w.transaction (leasedState w s₀ view candidate raw).transaction :=
      .refl w.transaction
    apply h.claim.congr hclaim <;> rw [hwriter]
  · rw [hwriter]
    intro ref hlease
    by_cases href : ref = s₀
    · rw [href]
    · rw [hstores ref href] at hlease
      exact nomatch hidle.storage.symm.trans (h.lease.tracked.leases ref hlease)
  · rw [hwriter]
    intro view' hview'
    have hne : view' ≠ view := fun heq => hview' (congrArg some heq.symm)
    have hsame : (leasedState w s₀ view candidate raw).views view' = w.views view' :=
      update_of_ne hne _ _
    rw [hsame]
    exact h.lease.tracked.views view' (by rw [hidle.view]; simp)
  · rw [hwriter]
    exact fun _ => ⟨hl.active, hl.authority⟩
  · rw [hwriter]
    exact nofun
  · rw [hwriter, hs₀]
    exact fun _ => ⟨rfl, rfl, rfl, halive, hdata, hl.later, hbound⟩
  · rw [hwriter]
    exact nofun
  · rw [hwriter, hs₀]
    intro view' hview'
    obtain rfl : view = view' := by simpa using hview'
    have hleased : (leasedState w s₀ view candidate raw).views view =
        { w.views view with
          x := raw.x
          y := raw.y
          z := raw.z
          revision := candidate
          writerIdentity := w.writer.authorityFingerprint
          attemptIdentity := w.transaction.attemptIdentity
          storage := some s₀
          writer := true } := update_self ..
    rw [hleased]
    exact ⟨rfl, candidate, raw, hl.raw, rfl, rfl, rfl⟩
  · apply h.history.congr
    · rw [hwriter]
      exact ⟨rfl, rfl⟩
    · rw [hwriter]
      exact ⟨rfl, rfl⟩
    · rw [hwriter]
    · rw [hwriter]
      exact id
    · rw [hwriter]
      exact fun _ => hbound
    · rw [hs₀]
      exact h.history.layout
  · unfold MandatoryInv
    rw [hwriter, hs₀]
    intro hactive hissued hfilled
    rcases h.mandatory hactive hissued hfilled with hpubl | hlost
    · exact nomatch hidle.published.symm.trans hpubl
    · exact .inr hlost

lemma FluxInv.published (h : FluxInv s₀ w) {dependencies : List RevisionDependency} {view : ℕ}
    (hlease : w.validatePendingLease view = none)
    (hp : Published w.transaction w.writer.cacheSlot dependencies w.writer.pendingRevision
      w.writer.authorityFingerprint w'.transaction)
    (hframe : w' = publishedState w view w'.transaction) : FluxInv s₀ w' := by
  obtain ⟨ref, hleased⟩ := validatePendingLease_none w hlease
  obtain ⟨s, m, ht, -⟩ := hp.transaction
  have hwriter : w'.writer = { w.writer with pendingPublished := true, pendingView := none } := by
    rw [hframe]
    rfl
  have hstores : w'.storages = w.storages := by
    rw [hframe]
    rfl
  have hviews : w'.views = Function.update w.views view (w.views view).clear := by
    rw [hframe]
    rfl
  have hclaim : SameClaim w.transaction w'.transaction := by
    rw [ht]
    exact ⟨rfl, rfl, rfl, rfl⟩
  refine ⟨?_, ⟨⟨?_, ?_⟩, ?_, ?_, ?_, ?_, ?_⟩, ?_, ?_⟩
  · apply h.claim.congr hclaim <;> rw [hwriter]
  · rw [hstores, hwriter]
    exact h.lease.tracked.leases
  · rw [hviews, hwriter]
    intro view' _
    by_cases heq : view' = view
    · subst heq
      rw [update_self, clear_alive]
    · rw [update_of_ne heq]
      apply h.lease.tracked.views
      rw [hleased.leased]
      exact fun hsome => heq (some.inj hsome).symm
  · rw [hwriter, ht]
    exact h.lease.transaction
  · rw [hwriter]
    exact fun hpending => nomatch hpending.symm.trans hleased.pending
  · rw [hwriter, hstores]
    exact h.lease.pending
  · rw [hwriter]
    exact fun _ => rfl
  · rw [hwriter]
    exact fun view' hview' => nomatch hview'
  · apply h.history.congr
    · rw [hwriter]
      exact ⟨rfl, rfl⟩
    · rw [hwriter]
      exact ⟨rfl, rfl⟩
    · rw [hwriter]
    · rw [hwriter]
      exact id
    · rw [hwriter]
      exact id
    · rw [hstores]
      exact h.history.layout
  · unfold MandatoryInv
    rw [hwriter]
    exact fun _ _ _ => .inl rfl

lemma FluxInv.initialized (h : FluxInv s₀ w) {memory : Memory Address F}
    {active previous pending activeRevision previousRevision : ℕ}
    (hi : Initializes w s₀ active previous pending activeRevision) :
    FluxInv s₀ (({ w with memory } : FluxWorld F).install s₀ active previous pending activeRevision
      previousRevision) := by
  have hguard := hi.guard
  unfold FluxWorld.initializable at hguard
  simp only [Bool.and_eq_true, decide_eq_true_eq, Bool.not_eq_true'] at hguard
  obtain ⟨⟨⟨⟨⟨⟨⟨⟨⟨⟨⟨hissued, -⟩, -⟩, hpending⟩, -⟩, hactive⟩, -⟩, -⟩, -⟩, -⟩, -⟩, htransaction⟩ := hguard
  obtain ⟨hleases, hviews⟩ := h.lease.free hpending
  have hidle := h.lease.idle hpending
  have hs₀ : (({ w with memory } : FluxWorld F).install s₀ active previous pending activeRevision
      previousRevision).storages s₀ =
        { w.storages s₀ with authorityIdentity := w.writer.authorityFingerprint } :=
    update_self ..
  refine ⟨?_, ?_, ?_, ?_⟩
  · exact ⟨h.claim.aligned, h.claim.attached, h.claim.authority, h.claim.identity, h.claim.unissued,
      h.claim.issued⟩
  · apply LeaseInv.unleased
    · intro ref
      by_cases href : ref = s₀
      · rw [href, hs₀]
        exact hleases s₀
      · have hother : (({ w with memory } : FluxWorld F).install s₀ active previous pending activeRevision
            previousRevision).storages ref = w.storages ref := update_of_ne href _ _
        rw [hother]
        exact hleases ref
    · exact hviews
    · exact ⟨hidle.pending, hidle.published, hidle.storage, hidle.view⟩
    · intro hmember
      exact nomatch htransaction.symm.trans hmember
  · refine ⟨?_, ?_, fun _ => hi.revision, fun _ => hi.data.2, fun _ => hissued, ?_⟩
    · change active < 3 ∧ previous < 3 ∧ pending < 3
      have hrep := hi.replicas
      omega
    · change pending ≠ active ∧ pending ≠ previous
      have hrep := hi.replicas
      omega
    · rw [hs₀]
      exact h.history.layout
  · intro hattempt
    exact nomatch hactive.symm.trans hattempt

lemma FluxInv.allocated (h : FluxInv s₀ w) {next : ℕ} {storage : FaceFluxStorage}
    (halive : (w.storages s₀).alive = true) (ha : Allocates w s₀ storage)
    (hframe : w' = { w with
      attempt := { w.attempt with nextIdentity := next }
      storages := Function.update w.storages s₀ storage
      memory := w'.memory }) : FluxInv s₀ w' := by
  have hpending : w.writer.pending = false := by
    by_contra hpending
    have hdata := (h.lease.pending (by simpa using hpending)).2.2.2.2.1
    exact nomatch ha.empty.1.symm.trans hdata
  obtain ⟨hleases, hviews⟩ := h.lease.free hpending
  have hs₀ : w'.storages s₀ = storage := by
    rw [hframe]
    exact update_self ..
  have hwriter : w'.writer = w.writer := by rw [hframe]
  have ht : w'.transaction = w.transaction := by
    rw [hframe]
    rfl
  refine ⟨?_, ?_, ?_, ?_⟩
  · have hclaim : SameClaim w.transaction w'.transaction := by
      rw [ht]
      exact .refl _
    apply h.claim.congr hclaim <;> rw [hwriter]
  · apply LeaseInv.unleased
    · intro ref
      by_cases href : ref = s₀
      · rw [href, hs₀]
        exact ha.built.2.2.2
      · have hother : w'.storages ref = w.storages ref := by
          rw [hframe]
          exact update_of_ne href _ _
        rw [hother]
        exact hleases ref
    · intro view
      rw [hframe]
      exact hviews view
    · rw [hwriter]
      exact h.lease.idle hpending
    · rw [hwriter, ht]
      exact h.lease.transaction
  · apply h.history.congr
    · rw [hwriter]
      exact ⟨rfl, rfl⟩
    · rw [hwriter]
      exact ⟨rfl, rfl⟩
    · rw [hwriter]
    · rw [hwriter]
      exact id
    · rw [hwriter]
      exact id
    · rw [hs₀]
      exact fun _ => ha.layout
  · unfold MandatoryInv
    rw [hwriter, ht, hs₀]
    intro hactive hissued hfilled
    rcases h.mandatory hactive hissued hfilled with hpubl | ⟨hfailed, hlost⟩
    · exact .inl hpubl
    · exact .inr ⟨hfailed, hlost.imp_right fun hdead => absurd (halive.symm.trans hdead) (by simp)⟩

omit w w' in
lemma Within.sameClaim {t t' : AttemptTransaction} (h : Within t t')
    (hwriter : t'.finalFaceFluxWriter = t.finalFaceFluxWriter) : SameClaim t t' :=
  ⟨hwriter, h.writerIdentity, h.required, h.writers⟩

lemma invalidateTransaction_spec (w : FluxWorld F) :
    w.invalidateTransaction = { w with attempt := w.invalidateTransaction.attempt } ∧
      Within w.transaction w.invalidateTransaction.transaction ∧
      SameSlots w.transaction w.invalidateTransaction.transaction ∧
      SameClaim w.transaction w.invalidateTransaction.transaction ∧
      (w.writer.transaction = true → w.transaction.finalFaceFluxWriter = true →
        w.transaction.active = true → w.invalidateTransaction.transaction.attemptStatus.code ≠ .ok) := by
  unfold FluxWorld.invalidateTransaction
  split
  · have hwithin := invalidate_within w.transaction
    exact ⟨rfl, hwithin, invalidate_slots w.transaction,
      hwithin.sameClaim (invalidate_writer w.transaction), fun _ => invalidate_fails⟩
  · rename_i hmember
    exact ⟨rfl, .refl _, ⟨rfl, rfl⟩, .refl _, fun htransaction => absurd htransaction hmember⟩

lemma LeaseInv.leasing (h : LeaseInv s₀ w) {ref : ℕ} (hlease : w.writer.storage = some ref) :
    w.writer.pending = true ∧ w.writer.transaction = true ∧ w.transaction.active = true ∧
      w.writer.authorityTransaction = true ∧ ref = s₀ := by
  have hpending : w.writer.pending = true := by
    by_contra hidle
    have hunleased := h.idle (by simpa using hidle)
    exact nomatch hunleased.storage.symm.trans hlease
  obtain ⟨htransaction, hstorage, -⟩ := h.pending hpending
  obtain ⟨hactive, hauth⟩ := h.transaction htransaction
  exact ⟨hpending, htransaction, hactive, hauth, some.inj (hlease.symm.trans hstorage)⟩

/-- What a writer keeps when it gives up a lease: its claim, its storage and the committed
history. -/
structure KeepsHistory (writer writer' : FinalFaceFluxWriter) : Prop where
  issued : writer'.issued = writer.issued
  authority : writer'.authorityFingerprint = writer.authorityFingerprint
  slot : writer'.cacheSlot = writer.cacheSlot
  bound : writer'.boundStorageIdentity = writer.boundStorageIdentity ∧
    writer'.boundRevisionDomain = writer.boundRevisionDomain ∧ writer'.boundCells = writer.boundCells
  active : writer'.activeReplica = writer.activeReplica ∧ writer'.activeRevision = writer.activeRevision
  previous : writer'.previousReplica = writer.previousReplica ∧
    writer'.previousRevision = writer.previousRevision
  pending : writer'.pendingReplica = writer.pendingReplica

omit w w' in
lemma KeepsHistory.refl : KeepsHistory writer writer :=
  ⟨rfl, rfl, rfl, ⟨rfl, rfl, rfl⟩, ⟨rfl, rfl⟩, ⟨rfl, rfl⟩, rfl⟩

lemma FluxInv.withdrawn (h : FluxInv s₀ w) (hk : KeepsHistory w.writer w'.writer)
    (hleases : ∀ ref, (w'.storages ref).pendingWriter = false)
    (hviews : ∀ view, w'.views view = { alive := (w'.views view).alive })
    (hunleased : Unleased w'.writer) (hmember : w'.writer.transaction = true →
      w'.transaction.active = true ∧ w'.writer.authorityTransaction = true)
    (hclaim : ClaimInv w') (hlayout : (w'.storages s₀).data = true → LayoutPlaced (w'.storages s₀).layout)
    (hmand : MandatoryInv s₀ w') : FluxInv s₀ w' := by
  refine ⟨hclaim, .unleased hleases hviews hunleased hmember, ?_, hmand⟩
  apply h.history.congr hk.active hk.previous hk.pending
  · rw [hk.issued]
    exact id
  · rw [hk.bound.1]
    exact id
  · exact hlayout

lemma detachFromTransaction_spec (h : LeaseInv s₀ w) :
    ∃ v : FluxWorld F, w.detachFromTransaction =
        { v with writer := { v.writer with authorityTransaction := false } } ∧
      Freed w v ∧ Unleased v.writer ∧ v.writer.transaction = false ∧ KeepsHistory w.writer v.writer := by
  unfold FluxWorld.detachFromTransaction
  by_cases hmember : w.writer.transaction = true
  · rw [if_pos hmember]
    obtain ⟨hfreed, hwriter, -⟩ := endLease w h.tracked
    refine ⟨{ w.clearStorageLease.invalidatePendingView with
      writer := FluxWorld.forgetPending { w.writer with pendingView := none } }, ?_,
      ⟨hfreed.storages, hfreed.views, hfreed.memory⟩, ⟨rfl, rfl, rfl, rfl⟩, rfl,
      ⟨rfl, rfl, rfl, ⟨rfl, rfl, rfl⟩, ⟨rfl, rfl⟩, ⟨rfl, rfl⟩, rfl⟩⟩
    dsimp only
    rw [hwriter]
  · rw [if_neg hmember]
    have hpending : w.writer.pending = false := by
      by_contra hleased
      exact hmember (h.pending (by simpa using hleased)).1
    exact ⟨w, rfl, h.freed_self hpending, h.idle hpending, by simpa using hmember, .refl w.writer⟩

lemma Freed.leases (h : Freed w w') (ref : ℕ) : (w'.storages ref).pendingWriter = false := by
  obtain ⟨i, j, heq⟩ := h.storages ref
  rw [heq]

lemma Freed.cleared (h : Freed w w') (view : ℕ) : w'.views view = { alive := (w'.views view).alive } := by
  rw [h.views view]

lemma Freed.placed (h : Freed w w') (hh : HistoryInv s₀ w) (hdata : (w'.storages s₀).data = true) :
    LayoutPlaced (w'.storages s₀).layout := by
  obtain ⟨hdata', hlayout, -⟩ := released_layout (h.storages s₀)
  rw [hlayout]
  exact hh.layout (hdata'.symm.trans hdata)

lemma FluxInv.writerDestroyed (h : FluxInv s₀ w) (halive : w.writer.alive = true) : FluxInv s₀ w.destroyWriter := by
  have hissued := h.claim.authority
  rw [halive, Bool.and_true] at hissued
  by_cases hauth : w.writer.authorityTransaction = true
  · have hclaimed : w.transaction.finalFaceFluxWriter = true := h.claim.attached.trans hauth
    obtain ⟨v, hdetach, hfreed, hunleased, hmember, hkeeps⟩ := detachFromTransaction_spec h.lease
    have hworld : w.destroyWriter =
        { v with
          attempt := { w.attempt with transaction := w.transaction.detachFinalFaceFluxWriter true }
          writer := { v.writer with authorityTransaction := false, alive := false } } := by
      have hattempt : w.detachFromTransaction.attempt = w.attempt := detachFromTransaction_attempt w
      unfold FluxWorld.destroyWriter FluxWorld.setTransaction
      rw [if_pos hauth, if_pos hclaimed]
      dsimp only
      rw [hattempt, hdetach]
    have hwithin := detach_within w.transaction true
    rw [hworld]
    apply h.withdrawn
    · exact ⟨hkeeps.issued, hkeeps.authority, hkeeps.slot, hkeeps.bound, hkeeps.active, hkeeps.previous,
        hkeeps.pending⟩
    · exact hfreed.leases
    · exact hfreed.cleared
    · exact ⟨hunleased.pending, hunleased.published, hunleased.storage, hunleased.view⟩
    · intro hagain
      exact nomatch hmember.symm.trans hagain
    · refine ⟨?_, ?_, ?_, ?_, ?_, ?_⟩
      · exact (congrArg List.length hwithin.writers).trans
          (h.claim.aligned.trans (congrArg List.length hwithin.required).symm)
      · exact detach_flag w.transaction true
      · exact (Bool.and_false _).symm
      · exact hwithin.writerIdentity ▸ hkeeps.issued ▸ h.claim.identity
      · intro hunissued
        exact absurd (hkeeps.issued.symm.trans hunissued) (by rw [← hissued, hauth]; simp)
      · intro _
        have hold := h.claim.issued (hissued.symm.trans hauth)
        dsimp only
        rw [hkeeps.authority, hkeeps.slot]
        refine ⟨hold.1, ?_, ?_⟩
        · exact (congrArg (fun l => l.getD w.writer.cacheSlot false) hwithin.required).trans hold.2.1
        · exact (congrArg (fun l => l.getD w.writer.cacheSlot 0) hwithin.writers).trans hold.2.2
    · exact hfreed.placed h.history
    · intro hactive _ _
      exact .inr ⟨detach_fails hclaimed (hwithin.active.symm.trans hactive), .inl rfl⟩
  · -- never claimed
    have hpending : w.writer.pending = false := by
      by_contra hleased
      exact hauth (h.lease.transaction (h.lease.pending (by simpa using hleased)).1).2
    obtain ⟨hfreed, hwriter, hattempt⟩ := endLease w h.lease.tracked
    have hworld : w.destroyWriter =
        { w.clearStorageLease.invalidatePendingView with
          attempt := w.attempt
          writer := { w.writer with
            pendingView := none, transaction := false, storage := none, pending := false
            pendingPublished := false, alive := false } } := by
      unfold FluxWorld.destroyWriter
      rw [if_neg hauth]
      dsimp only
      rw [hwriter, ← hattempt]
    have hfree : w.writer.issued = false := by
      by_contra hclaimed
      exact hauth (hissued.trans (by simpa using hclaimed))
    rw [hworld]
    apply h.withdrawn
    · exact ⟨rfl, rfl, rfl, ⟨rfl, rfl, rfl⟩, ⟨rfl, rfl⟩, ⟨rfl, rfl⟩, rfl⟩
    · exact hfreed.leases
    · exact hfreed.cleared
    · exact ⟨rfl, rfl, rfl, rfl⟩
    · exact nofun
    · exact ⟨h.claim.aligned, h.claim.attached, by simpa using hauth, h.claim.identity,
        h.claim.unissued, fun hclaimed => nomatch hfree.symm.trans hclaimed⟩
    · exact hfreed.placed h.history
    · exact fun _ hclaimed => nomatch hfree.symm.trans hclaimed

lemma FluxInv.storageDestroyed (h : FluxInv s₀ w) : FluxInv s₀ (w.destroyStorage s₀) := by
  have hdestroyed : ∀ storages : ℕ → FaceFluxStorage,
      (∀ ref, (storages ref).pendingWriter = false) →
      ∀ ref, (Function.update storages s₀ { alive := false } ref).pendingWriter = false := by
    intro storages hleases ref
    by_cases href : ref = s₀
    · rw [href, update_self]
    · rw [update_of_ne href]
      exact hleases ref
  by_cases hlease : (w.storages s₀).pendingWriter = true
  · have hstorage := h.lease.tracked.leases s₀ hlease
    obtain ⟨hpending, hmember, hactive, hauth, -⟩ := h.lease.leasing hstorage
    have hclaimed : w.transaction.finalFaceFluxWriter = true := h.claim.attached.trans hauth
    obtain ⟨hframe, hwithin, -, hclaim, hfails⟩ := invalidateTransaction_spec w
    obtain ⟨hfreed, hwriter, hattempt⟩ := endLease w.invalidateTransaction
      (by rw [hframe]; exact ⟨h.lease.tracked.leases, h.lease.tracked.views⟩)
    have hsame : w.invalidateTransaction.writer = w.writer := by rw [hframe]
    have hworld : w.destroyStorage s₀ =
        { w.invalidateTransaction.clearStorageLease.invalidatePendingView with
          attempt := w.invalidateTransaction.attempt
          writer := { FluxWorld.forgetPending { w.writer with pendingView := none } with
            transaction := w.writer.transaction }
          storages := Function.update
            w.invalidateTransaction.clearStorageLease.invalidatePendingView.storages s₀
            { alive := false } } := by
      unfold FluxWorld.destroyStorage FluxWorld.detachFromStorage FluxWorld.setStorage
      rw [if_pos hlease, if_neg (by simpa using hstorage)]
      dsimp only
      rw [hwriter, hsame, ← hattempt]
    rw [hworld]
    apply h.withdrawn
    · exact ⟨rfl, rfl, rfl, ⟨rfl, rfl, rfl⟩, ⟨rfl, rfl⟩, ⟨rfl, rfl⟩, rfl⟩
    · exact hdestroyed _ hfreed.leases
    · exact hfreed.cleared
    · exact ⟨rfl, rfl, rfl, rfl⟩
    · exact fun _ => ⟨hwithin.active.trans hactive, hauth⟩
    · exact h.claim.congr hclaim rfl rfl rfl rfl rfl
    · intro hdata
      dsimp only at hdata
      rw [update_self] at hdata
      exact nomatch hdata
    · intro _ _ _
      refine .inr ⟨hfails hmember hclaimed hactive, .inr ?_⟩
      dsimp only
      rw [update_self]
  · have hpending : w.writer.pending = false := by
      by_contra hleased
      exact hlease (h.lease.pending (by simpa using hleased)).2.2.1
    obtain ⟨hleases, hviews⟩ := h.lease.free hpending
    have hworld : w.destroyStorage s₀ =
        { w with storages := Function.update w.storages s₀ { alive := false } } := by
      unfold FluxWorld.destroyStorage FluxWorld.setStorage
      rw [if_neg hlease]
    rw [hworld]
    apply h.withdrawn
    · exact .refl w.writer
    · exact hdestroyed _ hleases
    · exact hviews
    · exact h.lease.idle hpending
    · exact h.lease.transaction
    · exact h.claim.congr (.refl w.transaction) rfl rfl rfl rfl rfl
    · intro hdata
      dsimp only at hdata
      rw [update_self] at hdata
      exact nomatch hdata
    · intro hactive hissued hfilled
      rcases h.mandatory hactive hissued hfilled with hpubl | ⟨hfailed, -⟩
      · exact nomatch (h.lease.idle hpending).published.symm.trans hpubl
      · refine .inr ⟨hfailed, .inr ?_⟩
        dsimp only
        rw [update_self]

lemma FluxInv.viewDestroyed (h : FluxInv s₀ w) (view : ℕ) : FluxInv s₀ (w.destroyView view) := by
  by_cases huse : (w.views view).writer = true
  · have hview : w.writer.pendingView = some view := by
      by_contra hne
      have hclear := h.lease.tracked.views view hne
      rw [hclear] at huse
      cases huse
    have hpending : w.writer.pending = true := by
      by_contra hidle
      cases (h.lease.idle (by simpa using hidle)).view.symm.trans hview
    have hunpub : w.writer.pendingPublished = false := by
      by_contra hpubl
      cases (h.lease.published (by simpa using hpubl)).symm.trans hview
    obtain ⟨hframe, hwithin, hslots, hclaim, -⟩ := invalidateTransaction_spec w
    have hsame : w.invalidateTransaction.writer = w.writer ∧
        w.invalidateTransaction.views = w.views ∧ w.invalidateTransaction.storages = w.storages := by
      rw [hframe]
      exact ⟨rfl, rfl, rfl⟩
    obtain ⟨hreleased, hwriter, hviews, -⟩ := clearStorageLease_released w.invalidateTransaction
      (by rw [hframe]; exact ⟨h.lease.tracked.leases, h.lease.tracked.views⟩)
    have hattempt := clearStorageLease_attempt w.invalidateTransaction
    have hworld : w.destroyView view =
        { w.invalidateTransaction.clearStorageLease with
          attempt := w.invalidateTransaction.attempt
          writer := { FluxWorld.forgetPending w.writer with pendingView := none }
          views := Function.update w.views view { alive := false } } := by
      unfold FluxWorld.destroyView FluxWorld.abandonPendingView FluxWorld.setView
      rw [if_pos huse, if_neg (by simpa using hview)]
      dsimp only
      rw [hwriter, hviews, hsame.1, hsame.2.1, ← hattempt, update_self, update_idem]
      rfl
    have hstores : ∀ ref, Released (w.storages ref)
        (w.invalidateTransaction.clearStorageLease.storages ref) := by
      rw [← hsame.2.2]
      exact hreleased
    rw [hworld]
    apply h.withdrawn
    · exact ⟨rfl, rfl, rfl, ⟨rfl, rfl, rfl⟩, ⟨rfl, rfl⟩, ⟨rfl, rfl⟩, rfl⟩
    · intro ref
      obtain ⟨i, j, heq⟩ := hstores ref
      dsimp only
      rw [heq]
    · intro view'
      dsimp only
      by_cases heq : view' = view
      · rw [heq, update_self]
      · rw [update_of_ne heq]
        apply h.lease.tracked.views
        rw [hview]
        exact fun hsome => heq (some.inj hsome).symm
    · exact ⟨rfl, rfl, rfl, rfl⟩
    · exact fun hmember => absurd hmember (by simp [FluxWorld.forgetPending])
    · exact h.claim.congr hclaim rfl rfl rfl rfl rfl
    · obtain ⟨hdata, hlayout, -⟩ := released_layout (hstores s₀)
      dsimp only
      rw [hdata, hlayout]
      exact h.history.layout
    · intro hactive hissued hfilled
      obtain ⟨-, -, halive⟩ := released_layout (hstores s₀)
      have hfilled' : w.transaction.pendingCaches.getD w.writer.cacheSlot 0 ≠ 0 := by
        rw [← hslots.1]
        exact hfilled
      rcases h.mandatory (hwithin.active.symm.trans hactive) hissued hfilled' with
        hpubl | ⟨hfailed, hlost⟩
      · cases hunpub.symm.trans hpubl
      · refine .inr ⟨hwithin.latched hfailed, hlost.imp_right fun hdead => ?_⟩
        exact halive.trans hdead
  · have hworld : w.destroyView view =
        { w with views := Function.update w.views view { w.views view with alive := false } } := by
      unfold FluxWorld.destroyView FluxWorld.setView
      rw [if_neg huse]
    have hother : w.writer.pendingView ≠ some view := by
      intro hview
      exact huse (h.lease.view view hview).1
    have hviews : ∀ view', view' ≠ view →
        Function.update w.views view { w.views view with alive := false } view' = w.views view' :=
      fun view' heq => update_of_ne heq _ _
    rw [hworld]
    have hl := h.lease
    refine ⟨h.claim.congr (.refl w.transaction) rfl rfl rfl rfl rfl,
      ⟨⟨hl.tracked.leases, ?_⟩, hl.transaction, hl.idle, hl.pending, hl.published, ?_⟩,
      h.history.congr ⟨rfl, rfl⟩ ⟨rfl, rfl⟩ rfl id id h.history.layout, h.mandatory⟩
    · intro view' hview'
      dsimp only
      by_cases heq : view' = view
      · rw [heq, update_self, hl.tracked.views view hother]
      · rw [hviews view' heq]
        exact hl.tracked.views view' hview'
    · intro view' hview'
      dsimp only at hview' ⊢
      have heq : view' ≠ view := by
        rintro rfl
        exact hother hview'
      rw [hviews view' heq]
      exact hl.view view' hview'

end Preservation

theorem initial_fluxInv (h : w.Initial) (s₀ : ℕ) : FluxInv s₀ w := by
  obtain ⟨fields, slots, sources, hcreate⟩ := h.attempt.transaction
  have hcreated := create_ok hcreate
  have hactive : w.transaction.active = false := hcreated.idle
  refine ⟨?_, .unleased ?_ ?_ ?_ ?_, ?_, ?_⟩
  · refine ⟨hcreated.writers, ?_, ?_, ?_, fun _ => hcreated.unclaimed, ?_⟩ <;> rw [h.writer]
    · exact hcreated.free.1
    · rfl
    · exact iff_of_false (fun hne => hne hcreated.free.2) (by simp)
    · exact nofun
  · intro ref
    rw [h.storages ref]
  · intro view
    rw [h.views view]
  · rw [h.writer]
    exact ⟨rfl, rfl, rfl, rfl⟩
  · rw [h.writer]
    exact nofun
  · refine ⟨?_, ?_, ?_, ?_, ?_, ?_⟩ <;> (try rw [h.writer])
    · decide
    · decide
    · exact fun hrevision => absurd rfl hrevision
    · exact fun hrevision => absurd rfl hrevision
    · exact fun hrevision => absurd rfl hrevision
    · rw [h.storages s₀]
      exact nofun
  · exact fun hattempt => nomatch hactive.symm.trans hattempt

/-- Every call on the one storage keeps the invariant. -/
theorem FluxEffect.fluxInv (h : FluxEffect w op w') (hop : op.OnStorage s₀) (hi : FluxInv s₀ w) : FluxInv s₀ w' := by
  cases h with
  | kept hcarries hframe => exact hi.kept hcarries hframe
  | ended committed hended _ hframe => exact hi.ended committed hended hframe
  | claimed stage slot identity next halive hclaim hframe =>
    rw [hframe]
    exact hi.claimed halive hclaim
  | leased ref view candidate raw hcall halive hleasable hframe =>
    subst hcall
    obtain rfl := hop ref rfl
    rw [hframe]
    exact hi.leased halive hleasable
  | published dependencies view _ hlease _ hpubl hframe => exact hi.published hlease hpubl hframe
  | wrote hwrote => exact hi.wrote hwrote
  | initialized ref hcall memory active previous pending activeRevision previousRevision hinit hframe =>
    obtain rfl := hop ref hcall.2
    rw [hframe]
    exact hi.initialized hinit
  | allocated ref next storage hcall halive hallocates hframe =>
    obtain rfl := hop ref hcall.2
    exact hi.allocated halive hallocates hframe
  | writerDestroyed _ halive hframe =>
    rw [hframe]
    exact hi.writerDestroyed halive
  | storageDestroyed ref hcall hframe =>
    subst hcall
    obtain rfl := hop ref rfl
    rw [hframe]
    exact hi.storageDestroyed
  | viewDestroyed view _ hframe =>
    rw [hframe]
    exact hi.viewDestroyed view

variable [FaceValue F]

/-- What holds after every run on one storage. -/
structure FluxSound (s₀ : ℕ) (w : FluxWorld F) : Prop where
  invariant : FluxInv s₀ w
  certificates : CertificatesSound w.attempt

theorem FluxSound.step (h : FluxSound s₀ w) (hop : op.OnStorage s₀) (hs : FluxWorld.Step w op w') : FluxSound s₀ w' :=
  ⟨(fluxEffect hs).fluxInv hop h.invariant, (attemptEffect hs).certificatesSound h.certificates⟩

omit [FaceValue F] in
theorem initial_fluxSound (h : w.Initial) (s₀ : ℕ) : FluxSound s₀ w :=
  ⟨initial_fluxInv h s₀, initial_certificatesSound h.attempt⟩

theorem exec_fluxSound {t : List (Transition (FluxWorld F) (FluxOp F))} (h : FluxSound s₀ w)
    (hexec : Exec FluxWorld.Step w t w') (ht : ∀ tr ∈ t, tr.op.OnStorage s₀) : FluxSound s₀ w' :=
  hexec.history (P := fun tr => tr.op.OnStorage s₀) (I := fun _ w => FluxSound s₀ w) ht h
    fun _ _ _ _ _ hi hs hop => hi.step hop hs

def FluxAccepted (w w' : FluxWorld F) : Prop := FluxWorld.Accepted w w' ∧ w.writer.issued = true

/-- An accepted attempt has filled the claimed slot. -/
theorem FluxSound.accepted_filled (h : FluxSound s₀ w) (hs : FluxWorld.Step w op w')
    (haccepted : FluxAccepted w w') : w.transaction.pendingCaches.getD w.writer.cacheSlot 0 ≠ 0 := by
  obtain ⟨hop, -⟩ := (attemptEffect hs).of_accepted haccepted.1
  have hrequired := (h.invariant.claim.issued haccepted.2).2.1
  rcases hop with ⟨i, -, hmatch, hdec⟩ | ⟨ready, c, s, -, hready⟩
  · unfold AttemptTransaction.matchesPrepared at hmatch
    simp only [Bool.and_eq_true, decide_eq_true_eq] at hmatch
    obtain ⟨⟨⟨⟨⟨⟨⟨⟨hvalid, -⟩, -⟩, -⟩, -⟩, hidentity⟩, -⟩, -⟩, -⟩ := hmatch
    exact (h.certificates.accept i hvalid hdec hidentity haccepted.1.1).1 _ hrequired
  · exact hready.published _ hrequired

end HundunFlow.Proofs
