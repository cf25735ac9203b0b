import HundunFlow.Proofs.FluxInvariant
import HundunFlow.Proofs.StateLayerInvariant

/-!
# The history of the final flux

Of its three replicas the storage keeps two time levels and leases the third one.
-/

namespace HundunFlow.Proofs

open Lib Function

variable {F : Type}

/-- The calls that destroy neither writer nor storage. -/
def Retains (s₀ : ℕ) (op : FluxOp F) : Prop :=
  op.OnStorage s₀ ∧ op ≠ .destroyStorage s₀ ∧ op ≠ .destroyWriter

structure SameStorage (storage storage' : FaceFluxStorage) : Prop where
  alive : storage'.alive = storage.alive
  payload : storage'.data = storage.data ∧ storage'.layout = storage.layout ∧
    storage'.replicas = storage.replicas ∧ storage'.finalStorage = storage.finalStorage
  identity : storage'.identity = storage.identity ∧
    storage'.revisionDomain = storage.revisionDomain ∧ storage'.cells = storage.cells

/-- Active and previous flux are what they were: bytes, revisions and certificates. -/
structure HistoryKept (s₀ : ℕ) (w w' : FluxWorld F) : Prop where
  active : w'.writer.activeReplica = w.writer.activeReplica ∧
    w'.writer.activeRevision = w.writer.activeRevision
  previous : w'.writer.previousReplica = w.writer.previousReplica ∧
    w'.writer.previousRevision = w.writer.previousRevision
  certificates : w'.committed s₀ = w.committed s₀ ∧ w'.committedPrevious s₀ = w.committedPrevious s₀
  layout : (w'.storages s₀).layout = (w.storages s₀).layout
  bytes : ∀ p, InReplica (w.storages s₀) s₀ w.writer.activeReplica p ∨
    InReplica (w.storages s₀) s₀ w.writer.previousReplica p → w'.memory p = w.memory p

structure FluxRotated (s₀ : ℕ) (w w' : FluxWorld F) : Prop where
  published : w.writer.pendingPublished = true
  previous : w'.writer.previousReplica = w.writer.activeReplica ∧
    w'.writer.previousRevision = w.writer.activeRevision ∧ w'.committedPrevious s₀ = w.committed s₀
  active : w'.writer.activeReplica = w.writer.pendingReplica ∧
    w'.writer.activeRevision = w.writer.pendingRevision ∧
    w'.committed s₀ = w.certifiedView s₀ w.writer.pendingReplica w.writer.pendingRevision
  increases : w.writer.activeRevision < w'.writer.activeRevision
  layout : (w'.storages s₀).layout = (w.storages s₀).layout
  bytes : w'.memory = w.memory

/-- What one step does to the history. A setup call is one that may give the writer its first
flux; it counts when there is a flux or a lease already. -/
structure HistoryStep (s₀ : ℕ) (tr : Transition (FluxWorld F) (FluxOp F)) : Prop where
  apart : tr.pre.writer.pendingReplica ≠ tr.pre.writer.activeReplica ∧
    (tr.pre.writer.previousRevision ≠ 0 →
      tr.pre.writer.pendingReplica ≠ tr.pre.writer.previousReplica)
  accepted : FluxAccepted tr.pre tr.post → FluxRotated s₀ tr.pre tr.post
  kept : ¬ FluxAccepted tr.pre tr.post →
    (IsSetup tr.op → tr.pre.writer.activeRevision ≠ 0 ∨ tr.pre.writer.pending = true) →
      HistoryKept s₀ tr.pre tr.post
  /-- Once published, the pending flux is not written any more. -/
  publication : tr.pre.writer.pendingPublished = true → ∀ p, p.block = .storage s₀ →
    tr.post.memory p = tr.pre.memory p

lemma SameStorage.refl (storage : FaceFluxStorage) : SameStorage storage storage :=
  ⟨rfl, ⟨rfl, rfl, rfl, rfl⟩, rfl, rfl, rfl⟩

lemma Released.same {storage storage' : FaceFluxStorage} (h : Released storage storage') :
    SameStorage storage storage' := by
  obtain ⟨i, j, rfl⟩ := h
  exact ⟨rfl, ⟨rfl, rfl, rfl, rfl⟩, rfl, rfl, rfl⟩

lemma SameStorage.view {storage storage' : FaceFluxStorage} (h : SameStorage storage storage')
    (ref replica revision : ℕ) :
    storage'.viewImpl ref replica revision = storage.viewImpl ref replica revision := by
  obtain ⟨hdata, hlayout, hrep, -⟩ := h.payload
  obtain ⟨hidentity, hdomain, -⟩ := h.identity
  unfold FaceFluxStorage.viewImpl FaceFluxStorage.axisView
  rw [hdata, hlayout, hrep, hidentity, hdomain]

section Certificates

variable {s₀ : ℕ} {w w' : FluxWorld F}

lemma certifiedView_congr (hs : SameStorage (w.storages s₀) (w'.storages s₀))
    (hissued : w'.writer.issued = w.writer.issued)
    (hauth : w'.writer.authorityFingerprint = w.writer.authorityFingerprint)
    (hbound : w'.writer.boundStorageIdentity = w.writer.boundStorageIdentity ∧
      w'.writer.boundRevisionDomain = w.writer.boundRevisionDomain ∧
      w'.writer.boundCells = w.writer.boundCells) (replica revision : ℕ) :
    w'.certifiedView s₀ replica revision = w.certifiedView s₀ replica revision := by
  obtain ⟨hdata, hlayout, hrep, hfinal⟩ := hs.payload
  obtain ⟨hidentity, hdomain, hcells⟩ := hs.identity
  unfold FluxWorld.certifiedView FluxWorld.boundTo
  dsimp only
  rw [hs.view, hissued, hauth, hbound.1, hbound.2.1, hbound.2.2, hidentity, hdomain, hcells,
    hrep, hfinal]

lemma certifiedView_zero (w : FluxWorld F) (replica : ℕ) :
    w.certifiedView s₀ replica 0 = .error ⟨.invalidPlan, kFaceAuthority⟩ := by
  unfold FluxWorld.certifiedView
  simp

lemma HistoryInv.kept (h : HistoryInv s₀ w) (hs : SameStorage (w.storages s₀) (w'.storages s₀))
    (hactive : w'.writer.activeReplica = w.writer.activeReplica ∧
      w'.writer.activeRevision = w.writer.activeRevision)
    (hprev : w'.writer.previousReplica = w.writer.previousReplica ∧
      w'.writer.previousRevision = w.writer.previousRevision)
    (hcert : w.writer.activeRevision ≠ 0 → ∀ replica revision,
      w'.certifiedView s₀ replica revision = w.certifiedView s₀ replica revision)
    (hbytes : ∀ p, InReplica (w.storages s₀) s₀ w.writer.activeReplica p ∨
      InReplica (w.storages s₀) s₀ w.writer.previousReplica p → w'.memory p = w.memory p) :
    HistoryKept s₀ w w' := by
  refine ⟨hactive, hprev, ?_, hs.payload.2.1, hbytes⟩
  unfold FluxWorld.committed FluxWorld.committedPrevious
  rw [hactive.1, hactive.2, hprev.1, hprev.2]
  by_cases hrevision : w.writer.activeRevision = 0
  · have hnone : w.writer.previousRevision = 0 := by
      by_contra hsome
      exact h.previous hsome hrevision
    rw [hrevision, hnone]
    simp only [certifiedView_zero, and_self]
  · exact ⟨hcert hrevision _ _, hcert hrevision _ _⟩

end Certificates

section Bytes

variable {s₀ : ℕ} {w w' : FluxWorld F}

variable {p : Address}

lemma FluxInv.writable (h : FluxInv s₀ w) (hp : Writable w p)
    (hblock : p.block = .storage s₀) : w.writer.pendingView ≠ none ∧
      InReplica (w.storages s₀) s₀ w.writer.pendingReplica p := by
  rcases hp with ⟨id, hid⟩ | ⟨view, hview, hcovers⟩
  · exact nomatch hblock.symm.trans hid
  · have hleased : w.writer.pendingView = some view := by
      by_contra hne
      rw [h.lease.tracked.views view hne] at hview
      exact hview rfl
    obtain ⟨-, revision, raw, hraw, hx, hy, hz⟩ := h.lease.view view hleased
    have hdata := ((viewImpl_ok_iff _ _ _ _).mp ⟨raw, hraw⟩).1
    refine ⟨by rw [hleased]; simp, viewImpl_inReplica (h.history.layout hdata) hraw ?_⟩
    have hfaces : (w.views view).raw.faces = raw.faces := by
      unfold PendingFaceFluxView.raw FaceFluxView.faces
      rw [hx, hy, hz]
    unfold Covers at hcovers ⊢
    rwa [hfaces] at hcovers

lemma InReplica.unique {storage : FaceFluxStorage} {ref r r' : ℕ} (h : InReplica storage ref r p)
    (h' : InReplica storage ref r' p) : r = r' :=
  h.2.symm.trans h'.2

lemma FluxInv.wrote_history (h : FluxInv s₀ w) (hw : Wrote w w') (p : Address)
    (hp : InReplica (w.storages s₀) s₀ w.writer.activeReplica p ∨
      InReplica (w.storages s₀) s₀ w.writer.previousReplica p) : w'.memory p = w.memory p := by
  rcases hw.1 p with hsame | hwrite
  · exact hsame
  · have hblock : p.block = .storage s₀ := hp.elim And.left And.left
    obtain ⟨-, hpending⟩ := h.writable hwrite hblock
    rcases hp with hactive | hprev
    · exact absurd (hpending.unique hactive) h.history.disjoint.1
    · exact absurd (hpending.unique hprev) h.history.disjoint.2

lemma FluxInv.wrote_published (h : FluxInv s₀ w) (hw : Wrote w w') (hpubl : w.writer.pendingPublished = true)
    (hblock : p.block = .storage s₀) : w'.memory p = w.memory p := by
  rcases hw.1 p with hsame | hwrite
  · exact hsame
  · exact absurd (h.lease.published hpubl) (h.writable hwrite hblock).1

end Bytes

section Steps

variable {s₀ : ℕ} {w w' : FluxWorld F}

structure Standing (s₀ : ℕ) (w : FluxWorld F) : Prop where
  writer : w.writer.alive = true
  storage : (w.storages s₀).alive = true
  bound : w.writer.boundStorageIdentity ≠ 0 → (w.storages s₀).data = true

lemma FluxInv.unbound (h : FluxInv s₀ w) (hbound : w.writer.boundStorageIdentity = 0) :
    w.writer.activeRevision = 0 := by
  by_contra hrevision
  exact h.history.bound hrevision hbound

lemma FluxInv.leasing_published (h : FluxInv s₀ w) (hpubl : w.writer.pendingPublished = true) :
    w.writer.pending = true := by
  by_contra hidle
  exact nomatch (h.lease.idle (by simpa using hidle)).published.symm.trans hpubl

lemma FluxInv.ended_spec (h : FluxInv s₀ w) {committed : Bool} (he : Ended w.transaction w'.transaction)
    (hframe : w' = completed { w with attempt := w'.attempt } committed) :
    (∀ ref, SameStorage (w.storages ref) (w'.storages ref)) ∧ w'.memory = w.memory ∧
      (w'.writer = completedWriter w.writer committed ∨
        (w'.writer = w.writer ∧ w.writer.pending = false)) := by
  rcases h.completed_cases he hframe with ⟨-, hfreed, hwriter⟩ | ⟨hmember, hsame⟩
  · exact ⟨fun ref => (hfreed.storages ref).same, hfreed.memory, .inl hwriter⟩
  · have hpending : w.writer.pending = false := by
      by_contra hleased
      have htransaction := (h.lease.pending (by simpa using hleased)).1
      exact nomatch hmember.symm.trans htransaction
    rw [hsame]
    exact ⟨fun _ => .refl _, rfl, .inr ⟨rfl, hpending⟩⟩

variable [FaceValue F] {op : FluxOp F}

lemma step_accepted (hs : FluxWorld.Step w op w') (haccepted : FluxWorld.Accepted w w') :
    Ended w.transaction w'.transaction ∧ w' = completed { w with attempt := w'.attempt } true := by
  obtain ⟨hcall, -⟩ := (attemptEffect hs).of_accepted haccepted
  have hactive : w.transaction.active = true := haccepted.1
  have hoff : w'.transaction.active = false := haccepted.2.1
  have hlasting : w'.transaction.active ≠ w.transaction.active := by
    rw [hactive, hoff]
    simp
  cases fluxEffect hs with
  | kept hcarries => exact absurd (hcarries.active hactive).1 (by simpa using hoff)
  | ended committed hended hiff hframe =>
    obtain rfl : committed = true := hiff.mpr haccepted
    exact ⟨hended, hframe⟩
  | claimed stage slot identity next _ hclaim => exact nomatch hclaim.idle.symm.trans hactive
  | leased ref view candidate raw _ _ _ hframe => exact absurd (by rw [hframe]; rfl) hlasting
  | published dependencies view _ _ _ hpubl =>
    obtain ⟨s, m, ht, -⟩ := hpubl.transaction
    exact absurd (congrArg AttemptTransaction.active ht) hlasting
  | wrote hwrote => exact absurd (by rw [hwrote.2]; rfl) hlasting
  | initialized ref _ _ _ _ _ _ _ _ hframe => exact absurd (by rw [hframe]; rfl) hlasting
  | allocated ref next storage _ _ _ hframe => exact absurd (by rw [hframe]; rfl) hlasting
  | writerDestroyed hop =>
    subst hop
    exact absurd hcall (by simp [attemptOp])
  | storageDestroyed ref hop =>
    subst hop
    exact absurd hcall (by simp [attemptOp])
  | viewDestroyed view hop =>
    subst hop
    exact absurd hcall (by simp [attemptOp])

/-- An attempt can only be accepted with a published flux, and the replicas rotate. -/
theorem step_rotated (h : FluxSound s₀ w) (hstand : Standing s₀ w) (hs : FluxWorld.Step w op w')
    (haccepted : FluxAccepted w w') : FluxRotated s₀ w w' := by
  have hi := h.invariant
  have hpubl : w.writer.pendingPublished = true := by
    rcases hi.mandatory haccepted.1.1 haccepted.2 (h.accepted_filled hs haccepted) with
      hpubl | ⟨-, hdead | hdead⟩
    · exact hpubl
    · exact nomatch hdead.symm.trans hstand.writer
    · exact nomatch hdead.symm.trans hstand.storage
  have hpending := hi.leasing_published hpubl
  obtain ⟨hended, hframe⟩ := step_accepted hs haccepted.1
  obtain ⟨hstores, hmemory, hwriter⟩ := hi.ended_spec hended hframe
  have hrotated : w'.writer = FluxWorld.forgetPending { rotatedWriter w.writer with pendingView := none } := by
    rcases hwriter with heq | ⟨-, hidle⟩
    · rw [heq]
      unfold completedWriter
      rw [if_pos (by simp [hpending])]
    · exact nomatch hidle.symm.trans hpending
  have hcert : ∀ replica revision,
      w'.certifiedView s₀ replica revision = w.certifiedView s₀ replica revision := by
    apply certifiedView_congr (hstores s₀) <;> rw [hrotated]
    · rfl
    · rfl
    · exact ⟨rfl, rfl, rfl⟩
  refine ⟨hpubl, ⟨by rw [hrotated]; rfl, by rw [hrotated]; rfl, ?_⟩,
    ⟨by rw [hrotated]; rfl, by rw [hrotated]; rfl, ?_⟩, ?_, (hstores s₀).payload.2.1, hmemory⟩
  · unfold FluxWorld.committedPrevious FluxWorld.committed
    rw [hcert, hrotated]
    rfl
  · unfold FluxWorld.committed
    rw [hcert, hrotated]
    rfl
  · rw [hrotated]
    exact (hi.lease.pending hpending).2.2.2.2.2.1

section

omit [FaceValue F]

lemma clearStorageLease_same (w : FluxWorld F) :
    (∀ ref, SameStorage (w.storages ref) (w.clearStorageLease.storages ref)) ∧
      w.clearStorageLease.writer = w.writer ∧ w.clearStorageLease.memory = w.memory := by
  unfold FluxWorld.clearStorageLease FluxWorld.setStorage
  split
  · exact ⟨fun _ => .refl _, rfl, rfl⟩
  · rename_i current _
    split
    · refine ⟨fun ref => ?_, rfl, rfl⟩
      by_cases href : ref = current
      · subst href
        dsimp only
        rw [update_self]
        exact ⟨rfl, ⟨rfl, rfl, rfl, rfl⟩, rfl, rfl, rfl⟩
      · dsimp only
        rw [update_of_ne href]
        exact .refl _
    · exact ⟨fun _ => .refl _, rfl, rfl⟩

lemma destroyView_spec (w : FluxWorld F) (view : ℕ) :
    (∀ ref, SameStorage (w.storages ref) ((w.destroyView view).storages ref)) ∧
      KeepsHistory w.writer (w.destroyView view).writer ∧
      (w.destroyView view).writer.alive = w.writer.alive ∧ (w.destroyView view).memory = w.memory := by
  obtain ⟨hframe, -⟩ := invalidateTransaction_spec w
  have hsame : w.invalidateTransaction.writer = w.writer ∧
      w.invalidateTransaction.storages = w.storages ∧ w.invalidateTransaction.memory = w.memory := by
    rw [hframe]
    exact ⟨rfl, rfl, rfl⟩
  obtain ⟨hstores, hwriter, hmemory⟩ := clearStorageLease_same w.invalidateTransaction
  rw [hsame.2.1] at hstores
  rw [hsame.1] at hwriter
  rw [hsame.2.2] at hmemory
  have hkept : (∀ ref, SameStorage (w.storages ref) (w.storages ref)) ∧ KeepsHistory w.writer w.writer ∧
      w.writer.alive = w.writer.alive ∧ w.memory = w.memory := ⟨fun _ => .refl _, .refl _, rfl, rfl⟩
  unfold FluxWorld.destroyView FluxWorld.abandonPendingView FluxWorld.setView
  by_cases huse : (w.views view).writer = true
  · rw [if_pos huse]
    by_cases hview : w.writer.pendingView = some view
    · rw [if_neg (by simpa using hview)]
      refine ⟨hstores, ?_, ?_, hmemory⟩ <;> dsimp only <;> rw [hwriter]
      · exact ⟨rfl, rfl, rfl, ⟨rfl, rfl, rfl⟩, ⟨rfl, rfl⟩, ⟨rfl, rfl⟩, rfl⟩
      · rfl
    · rw [if_pos (by simpa using hview)]
      exact hkept
  · rw [if_neg huse]
    exact hkept

lemma HistoryInv.kept_of (h : HistoryInv s₀ w) (hs : SameStorage (w.storages s₀) (w'.storages s₀))
    (hk : KeepsHistory w.writer w'.writer)
    (hbytes : ∀ p, InReplica (w.storages s₀) s₀ w.writer.activeReplica p ∨
      InReplica (w.storages s₀) s₀ w.writer.previousReplica p → w'.memory p = w.memory p) :
    HistoryKept s₀ w w' :=
  h.kept hs hk.active hk.previous
    (fun _ => certifiedView_congr hs hk.issued hk.authority hk.bound) hbytes

end

/-- Every other step leaves the history alone. -/
theorem step_kept (h : FluxSound s₀ w) (hstand : Standing s₀ w) (hr : Retains s₀ op) (hs : FluxWorld.Step w op w')
    (hrej : ¬ FluxAccepted w w') (hsetup : IsSetup op → w.writer.activeRevision ≠ 0 ∨ w.writer.pending = true) :
    HistoryKept s₀ w w' := by
  have hi := h.invariant
  have hh := hi.history
  cases fluxEffect hs with
  | kept _ hframe =>
    rw [hframe]
    exact hh.kept_of (.refl _) (.refl _) fun _ _ => rfl
  | ended committed hended hiff hframe =>
    obtain ⟨hstores, hmemory, hwriter⟩ := hi.ended_spec hended hframe
    refine hh.kept_of (hstores s₀) ?_ fun p _ => congrFun hmemory p
    rcases hwriter with heq | ⟨heq, -⟩
    · rw [heq]
      unfold completedWriter
      by_cases hrotate : (w.writer.pending && committed) = true
      · -- a committed lease is an accepted attempt
        simp only [Bool.and_eq_true] at hrotate
        obtain ⟨hmember, -⟩ := hi.lease.pending hrotate.1
        have hissued := (hi.lease.transaction hmember).2
        rw [hi.claim.authority, Bool.and_eq_true] at hissued
        exact absurd ⟨hiff.mp hrotate.2, hissued.1⟩ hrej
      · rw [if_neg hrotate]
        exact ⟨rfl, rfl, rfl, ⟨rfl, rfl, rfl⟩, ⟨rfl, rfl⟩, ⟨rfl, rfl⟩, rfl⟩
    · rw [heq]
      exact .refl _
  | claimed stage slot identity next _ hclaim hframe =>
    rw [hframe]
    refine hh.kept (.refl _) ⟨rfl, rfl⟩ ⟨rfl, rfl⟩ (fun hrevision => ?_) fun _ _ => rfl
    exact nomatch hclaim.unissued.symm.trans (hh.issued hrevision)
  | leased ref view candidate raw hop halive hleasable hframe =>
    subst hop
    obtain rfl := hr.1 ref rfl
    obtain ⟨identity, domain, cells, hwriter, hbound⟩ := leasedState_writer w ref view candidate raw
    have hstorage : SameStorage (w.storages ref) ((leasedState w ref view candidate raw).storages ref) := by
      unfold leasedState
      dsimp only
      rw [update_self]
      exact ⟨rfl, ⟨rfl, rfl, rfl, rfl⟩, rfl, rfl, rfl⟩
    rw [hframe]
    apply hh.kept hstorage
    · rw [hwriter]
      exact ⟨rfl, rfl⟩
    · rw [hwriter]
      exact ⟨rfl, rfl⟩
    · intro hrevision
      rcases hbound with ⟨hunbound, -⟩ | ⟨-, rfl, rfl, rfl⟩
      · exact absurd (hi.unbound hunbound) hrevision
      · apply certifiedView_congr hstorage <;> rw [hwriter]
        exact ⟨rfl, rfl, rfl⟩
    · exact fun _ _ => rfl
  | published dependencies view _ _ _ _ hframe =>
    rw [hframe]
    exact hh.kept_of (.refl _) ⟨rfl, rfl, rfl, ⟨rfl, rfl, rfl⟩, ⟨rfl, rfl⟩, ⟨rfl, rfl⟩, rfl⟩ fun _ _ => rfl
  | wrote hwrote =>
    have hbytes := hi.wrote_history hwrote
    rw [hwrote.2] at hbytes ⊢
    exact hh.kept_of (.refl _) (.refl _) hbytes
  | initialized ref hop memory active previous pending activeRevision previousRevision hinit hframe =>
    have hguard := hinit.guard
    unfold FluxWorld.initializable at hguard
    simp only [Bool.and_eq_true, decide_eq_true_eq, Bool.not_eq_true'] at hguard
    obtain ⟨⟨⟨⟨⟨⟨⟨⟨⟨⟨⟨-, hnone⟩, -⟩, hidle⟩, -⟩, -⟩, -⟩, -⟩, -⟩, -⟩, -⟩, -⟩ := hguard
    rcases hsetup hop.1 with hrevision | hpending
    · exact absurd hnone hrevision
    · exact nomatch hidle.symm.trans hpending
  | allocated ref next storage hop _ hallocates hframe =>
    obtain rfl := hr.1 ref hop.2
    have hdata : (w.storages ref).data = true := by
      rcases hsetup hop.1 with hrevision | hpending
      · exact hstand.bound (hh.bound hrevision)
      · exact (hi.lease.pending hpending).2.2.2.2.1
    exact nomatch hallocates.empty.1.symm.trans hdata
  | writerDestroyed hop => exact absurd hop hr.2.2
  | storageDestroyed ref hop =>
    subst hop
    obtain rfl := hr.1 ref rfl
    exact absurd rfl hr.2.1
  | viewDestroyed view _ hframe =>
    obtain ⟨hstores, hkeeps, -, hmemory⟩ := destroyView_spec w view
    rw [hframe]
    exact hh.kept_of (hstores s₀) hkeeps fun p _ => congrFun hmemory p

/-- After its publication nobody writes to the leased replica. -/
theorem step_publication (h : FluxSound s₀ w) (hr : Retains s₀ op) (hs : FluxWorld.Step w op w')
    (hpubl : w.writer.pendingPublished = true) {p : Address} (hp : p.block = .storage s₀) :
    w'.memory p = w.memory p := by
  have hi := h.invariant
  have hpending := hi.leasing_published hpubl
  cases fluxEffect hs with
  | kept _ hframe => rw [hframe]
  | ended committed hended _ hframe => rw [(hi.ended_spec hended hframe).2.1]
  | claimed stage slot identity next _ _ hframe =>
    rw [hframe]
    rfl
  | leased ref view candidate raw _ _ _ hframe =>
    rw [hframe]
    rfl
  | published dependencies view _ _ _ _ hframe =>
    rw [hframe]
    rfl
  | wrote hwrote => exact hi.wrote_published hwrote hpubl hp
  | initialized ref _ _ _ _ _ _ _ hinit =>
    have hguard := hinit.guard
    unfold FluxWorld.initializable at hguard
    simp [hpending] at hguard
  | allocated ref next storage hop _ hallocates =>
    obtain rfl := hr.1 ref hop.2
    have hdata := (hi.lease.pending hpending).2.2.2.2.1
    exact nomatch hallocates.empty.1.symm.trans hdata
  | writerDestroyed hop => exact absurd hop hr.2.2
  | storageDestroyed ref hop =>
    subst hop
    obtain rfl := hr.1 ref rfl
    exact absurd rfl hr.2.1
  | viewDestroyed view _ hframe => rw [hframe, (destroyView_spec w view).2.2.2]

omit [FaceValue F] in
lemma completedWriter_bound (writer : FinalFaceFluxWriter) (committed : Bool) :
    (completedWriter writer committed).boundStorageIdentity = writer.boundStorageIdentity := by
  unfold completedWriter
  split <;> rfl

omit [FaceValue F] in
lemma Standing.congr (h : Standing s₀ w) (hwriter : w'.writer.alive = w.writer.alive)
    (hs : SameStorage (w.storages s₀) (w'.storages s₀))
    (hbound : w'.writer.boundStorageIdentity = w.writer.boundStorageIdentity) : Standing s₀ w' := by
  refine ⟨hwriter.trans h.writer, hs.alive.trans h.storage, ?_⟩
  rw [hbound, hs.payload.1]
  exact h.bound

theorem step_standing (hi : FluxInv s₀ w) (h : Standing s₀ w) (hr : Retains s₀ op)
    (hs : FluxWorld.Step w op w') : Standing s₀ w' := by
  cases fluxEffect hs with
  | kept _ hframe =>
    rw [hframe]
    exact h.congr rfl (.refl _) rfl
  | ended committed hended _ hframe =>
    obtain ⟨hstores, -, hwriter⟩ := hi.ended_spec hended hframe
    apply h.congr _ (hstores s₀)
    · rcases hwriter with heq | ⟨heq, -⟩ <;> rw [heq]
      exact completedWriter_bound w.writer committed
    · rcases hwriter with heq | ⟨heq, -⟩ <;> rw [heq]
      exact (completedWriter_claim w.writer committed).1
  | claimed stage slot identity next _ _ hframe =>
    rw [hframe]
    exact h.congr rfl (.refl _) rfl
  | leased ref view candidate raw hop halive hleasable hframe =>
    subst hop
    obtain rfl := hr.1 ref rfl
    obtain ⟨identity, domain, cells, hwriter, -⟩ := leasedState_writer w ref view candidate raw
    obtain ⟨hdata, -⟩ := (viewImpl_ok_iff _ _ _ _).mp ⟨raw, hleasable.raw⟩
    have hstorage : (leasedState w ref view candidate raw).storages ref =
        { w.storages ref with
          pendingWriterIdentity := w.writer.authorityFingerprint
          pendingAttemptIdentity := w.transaction.attemptIdentity
          pendingWriter := true
          authorityIdentity := w.writer.authorityFingerprint } := update_self ..
    rw [hframe]
    refine ⟨?_, ?_, ?_⟩
    · rw [hwriter]
      exact h.writer
    · rw [hstorage]
      exact halive
    · rw [hstorage]
      exact fun _ => hdata
  | published dependencies view _ _ _ _ hframe =>
    rw [hframe]
    exact h.congr rfl (.refl _) rfl
  | wrote hwrote =>
    rw [hwrote.2]
    exact h.congr rfl (.refl _) rfl
  | initialized ref hop memory active previous pending activeRevision previousRevision hinit hframe =>
    obtain rfl := hr.1 ref hop.2
    have hstorage : w'.storages ref =
        { w.storages ref with authorityIdentity := w.writer.authorityFingerprint } := by
      rw [hframe]
      exact update_self ..
    refine ⟨?_, ?_, ?_⟩
    · rw [hframe]
      exact h.writer
    · rw [hstorage]
      exact h.storage
    · rw [hstorage]
      exact fun _ => hinit.data.1
  | allocated ref next storage hop _ hallocates hframe =>
    obtain rfl := hr.1 ref hop.2
    have hstorage : w'.storages ref = storage := by
      rw [hframe]
      exact update_self ..
    refine ⟨?_, ?_, ?_⟩
    · rw [hframe]
      exact h.writer
    · rw [hstorage]
      exact hallocates.built.1
    · rw [hstorage]
      exact fun _ => hallocates.built.2.1
  | writerDestroyed hop => exact absurd hop hr.2.2
  | storageDestroyed ref hop =>
    subst hop
    obtain rfl := hr.1 ref rfl
    exact absurd rfl hr.2.1
  | viewDestroyed view _ hframe =>
    obtain ⟨hstores, hkeeps, halive, -⟩ := destroyView_spec w view
    rw [hframe]
    exact h.congr halive (hstores s₀) hkeeps.bound.1

end Steps

section Runs

variable [FaceValue F] {s₀ : ℕ}

variable {t : List (Transition (FluxWorld F) (FluxOp F))}

lemma exec_retained {w w' : FluxWorld F} (h : FluxSound s₀ w ∧ Standing s₀ w) (ht : Exec FluxWorld.Step w t w')
    (hr : ∀ tr ∈ t, Retains s₀ tr.op) : FluxSound s₀ w' ∧ Standing s₀ w' :=
  ht.history (P := fun tr => Retains s₀ tr.op) (I := fun _ w => FluxSound s₀ w ∧ Standing s₀ w) hr h
    fun _ _ _ _ _ hi hs hop => ⟨hi.1.step hop.1 hs, step_standing hi.1.invariant hi.2 hop hs⟩

theorem exec_standing {w₀ w : FluxWorld F} (h₀ : w₀.Initial) (h : Exec FluxWorld.Step w₀ t w)
    (ht : ∀ tr ∈ t, Retains s₀ tr.op) : FluxSound s₀ w ∧ Standing s₀ w := by
  refine exec_retained ⟨initial_fluxSound h₀ s₀, ?_, ?_, ?_⟩ h ht
  · rw [h₀.writer]
  · rw [h₀.storages s₀]
  · rw [h₀.writer]
    exact fun hbound => absurd rfl hbound

theorem historyStep {w w' : FluxWorld F} {op : FluxOp F} (h : FluxSound s₀ w) (hstand : Standing s₀ w)
    (hr : Retains s₀ op) (hs : FluxWorld.Step w op w') : HistoryStep s₀ ⟨w, op, w'⟩ where
  apart := ⟨h.invariant.history.disjoint.1, fun _ => h.invariant.history.disjoint.2⟩
  accepted := step_rotated h hstand hs
  kept := step_kept h hstand hr hs
  publication := fun hpubl _ hp => step_publication h hr hs hpubl hp

omit [FaceValue F] in
lemma HistoryKept.refl (w : FluxWorld F) : HistoryKept s₀ w w :=
  ⟨⟨rfl, rfl⟩, ⟨rfl, rfl⟩, ⟨rfl, rfl⟩, rfl, fun _ _ => rfl⟩

omit [FaceValue F] in
lemma HistoryKept.trans {w w' w'' : FluxWorld F} (h : HistoryKept s₀ w w') (h' : HistoryKept s₀ w' w'') :
    HistoryKept s₀ w w'' := by
  refine ⟨⟨h'.active.1.trans h.active.1, h'.active.2.trans h.active.2⟩,
    ⟨h'.previous.1.trans h.previous.1, h'.previous.2.trans h.previous.2⟩,
    ⟨h'.certificates.1.trans h.certificates.1, h'.certificates.2.trans h.certificates.2⟩,
    h'.layout.trans h.layout, fun p hp => ?_⟩
  have hsecond := h'.bytes p
  unfold InReplica at hsecond hp
  rw [h.layout, h.active.1, h.previous.1] at hsecond
  exact (hsecond hp).trans (h.bytes p hp)

/-- Without an acceptance nothing happens to the history. -/
theorem exec_kept {w w' : FluxWorld F} (h : FluxSound s₀ w ∧ Standing s₀ w) (ht : Exec FluxWorld.Step w t w')
    (hr : ∀ tr ∈ t, Retains s₀ tr.op) (hrej : ∀ tr ∈ t, ¬ FluxAccepted tr.pre tr.post)
    (hsetup : w.writer.activeRevision ≠ 0 ∨ ∀ tr ∈ t, ¬ IsSetup tr.op) : HistoryKept s₀ w w' := by
  induction ht with
  | nil => exact .refl w
  | snoc t m op m' hexec hs ih =>
    have hprefix : ∀ tr ∈ t, Retains s₀ tr.op := fun tr htr => hr tr (by simp [htr])
    have hkept := ih hprefix (fun tr htr => hrej tr (by simp [htr]))
      (hsetup.imp_right fun hnone tr htr => hnone tr (by simp [htr]))
    obtain ⟨hsound, hstand⟩ := exec_retained h hexec hprefix
    refine hkept.trans (step_kept hsound hstand (hr ⟨m, op, m'⟩ (by simp)) hs
      (hrej ⟨m, op, m'⟩ (by simp)) fun hop => ?_)
    rcases hsetup with hrevision | hnone
    · rw [hkept.active.2]
      exact .inl hrevision
    · exact absurd hop (hnone ⟨m, op, m'⟩ (by simp))

/-- The active revision never goes back. -/
theorem exec_monotone {w w' : FluxWorld F} (h : FluxSound s₀ w ∧ Standing s₀ w) (ht : Exec FluxWorld.Step w t w')
    (hr : ∀ tr ∈ t, Retains s₀ tr.op) : w.writer.activeRevision ≤ w'.writer.activeRevision := by
  induction ht with
  | nil => exact le_rfl
  | snoc t m op m' hexec hs ih =>
    have hprefix : ∀ tr ∈ t, Retains s₀ tr.op := fun tr htr => hr tr (by simp [htr])
    obtain ⟨hsound, hstand⟩ := exec_retained h hexec hprefix
    refine (ih hprefix).trans ?_
    by_cases haccepted : FluxAccepted m m'
    · exact (step_rotated hsound hstand hs haccepted).increases.le
    · by_cases hrevision : m.writer.activeRevision = 0
      · rw [hrevision]
        exact Nat.zero_le _
      · exact (step_kept hsound hstand (hr ⟨m, op, m'⟩ (by simp)) hs haccepted
          fun _ => .inl hrevision).active.2.ge

/-- In every run the leased replica is none of the committed ones, acceptances rotate the
replicas and raise the active revision, and everything in between, be it rejected, failed or
abandoned, leaves the committed history as it was. -/
theorem final_flux_history (s₀ : ℕ) (w₀ w : FluxWorld F) (t : List (Transition (FluxWorld F) (FluxOp F)))
    (h₀ : w₀.Initial) (h : Exec FluxWorld.Step w₀ t w) (ht : ∀ tr ∈ t, Retains s₀ tr.op) :
    (∀ tr ∈ t, HistoryStep s₀ tr) ∧
    (∀ u v x a b, t = u ++ a :: v ++ b :: x → FluxAccepted a.pre a.post → FluxAccepted b.pre b.post →
      a.post.writer.activeRevision < b.post.writer.activeRevision) ∧
    ∀ u v x m m', t = u ++ v ++ x → Exec FluxWorld.Step w₀ u m → Exec FluxWorld.Step m v m' →
      (∀ tr ∈ v, ¬ FluxAccepted tr.pre tr.post) →
      (m.writer.activeRevision ≠ 0 ∨ ∀ tr ∈ v, ¬ IsSetup tr.op) → HistoryKept s₀ m m' := by
  have hinitial : FluxSound s₀ w₀ ∧ Standing s₀ w₀ := exec_standing h₀ .nil (by simp)
  refine ⟨fun tr htr => ?_, ?_, ?_⟩
  · obtain ⟨⟨u, v, rfl, hu⟩, hs⟩ := h.transition htr
    obtain ⟨hsound, hstanding⟩ := exec_standing h₀ hu fun x hx => ht x (by simp [hx])
    exact historyStep hsound hstanding (ht tr htr) hs
  · rintro u v x a b rfl ha hb
    rw [List.append_assoc, List.cons_append] at h
    obtain ⟨m, hu, hrest⟩ := h.split
    obtain ⟨rfl, hsa, hrest⟩ := hrest.cons_inv
    obtain ⟨m, hv, hrest⟩ := hrest.split
    obtain ⟨rfl, hsb, -⟩ := hrest.cons_inv
    have hpre := exec_retained hinitial hu fun y hy => ht y (by simp [hy])
    have hpost := exec_retained hpre (.single hsa) (by simpa using ht a (by simp))
    have hbefore := exec_retained hpost hv fun y hy => ht y (by simp [hy])
    calc a.post.writer.activeRevision
        ≤ b.pre.writer.activeRevision := exec_monotone hpost hv fun y hy => ht y (by simp [hy])
      _ < b.post.writer.activeRevision := (step_rotated hbefore.1 hbefore.2 hsb hb).increases
  · rintro u v x m m' rfl hu hv hrejected hsetup
    have hm := exec_retained hinitial hu fun y hy => ht y (by simp [hy])
    exact exec_kept hm hv (fun y hy => ht y (by simp [hy])) hrejected hsetup

end Runs

section Taking

variable [FaceValue F] {w : FluxWorld F}

variable {localStatus : RawStatus}

lemma flux_step_of_done {op : FluxOp F} {r : FluxResult F} (hrun : op.run w = .done r)
    (henabled : op.Enabled w) : FluxWorld.Step w op r.world := by
  refine ⟨r, ⟨henabled, ?_⟩, rfl⟩
  rw [hrun]
  exact .done r

lemma flux_step_finish_accepted (c : RankComm)
    (h : LocallyReady w.transaction w.attempt.current w.readyForCollective localStatus) :
    FluxWorld.Step w (.finish (.valid c) localStatus)
      (w.afterCall ⟨acceptedState w.attempt, {}, w.transaction.completion true⟩).world := by
  refine ⟨_, ⟨trivial, ?_⟩, rfl⟩
  unfold FluxOp.run FluxWorld.collectiveFinish FluxWorld.call
  rw [Prog.local_bind_iff]
  exact ⟨_, returns_finish_accepted c h, .done _⟩

lemma flux_step_prepare_accepted {i : ℕ} (c : RankComm) (hout : (w.attempt.prepared i).valid = false)
    (h : LocallyReady w.transaction w.attempt.current w.readyForCollective localStatus) :
    FluxWorld.Step w (.prepare i (.valid c) localStatus)
      { w with attempt := w.attempt.setPrepared i (w.transaction.certificate .accept {} (-1)) } := by
  refine ⟨⟨_, {}⟩, ⟨trivial, ?_⟩, rfl⟩
  unfold FluxOp.run FluxWorld.call
  rw [Prog.local_bind_iff]
  exact ⟨_, returns_prepare_accepted c hout h, .done _⟩

end Taking

/-- Values are integers, or not finite. -/
instance : FaceValue (Option ℤ) := ⟨some 0, Option.isSome⟩

/-- A face flux of one cell outside of any storage. -/
def sampleSource : FaceFluxView where
  x := ⟨some ⟨.external 0, 0⟩, ⟨2, 1, 1⟩, 8, 8, .x, 9, 8⟩
  y := ⟨some ⟨.external 0, 8⟩, ⟨1, 2, 1⟩, 8, 16, .y, 9, 8⟩
  z := ⟨some ⟨.external 0, 24⟩, ⟨1, 1, 2⟩, 8, 8, .z, 9, 8⟩
  revision := 1

def sampleFlux : FluxWorld (Option ℤ) := { attempt := sampleAttempt, memory := fun _ => some 5 }

def sampleAllocated : FluxWorld (Option ℤ) := (sampleFlux.allocateFinal 0 ⟨1, 1, 1⟩ true).1

def sampleClaimed : FluxWorld (Option ℤ) := (sampleAllocated.claim 1 0).1

def sampleInitialized : FluxWorld (Option ℤ) := (sampleClaimed.initializeCommitted 0 sampleSource).1

def sampleOpened : FluxWorld (Option ℤ) :=
  { sampleInitialized with attempt := (sampleInitialized.attempt.begin 0).1 }

def sampleProduced : FluxWorld (Option ℤ) :=
  { sampleOpened with attempt := (sampleOpened.attempt.reviseTrial 0).1 }

def sampleLeased : FluxWorld (Option ℤ) := (sampleProduced.beginPending 0 0).1

def sampleFilled : FluxWorld (Option ℤ) := (sampleLeased.publishPending [⟨1, 6⟩] 0).1

def sampleRotated : FluxWorld (Option ℤ) :=
  (sampleFilled.afterCall ⟨acceptedState sampleFilled.attempt, {},
    sampleFilled.transaction.completion true⟩).world

lemma sampleFlux_initial : sampleFlux.Initial :=
  ⟨sampleAttempt_initial, rfl, fun _ => rfl, fun _ => rfl⟩

lemma sampleFilled_ready : LocallyReady sampleFilled.transaction sampleFilled.attempt.current
    sampleFilled.readyForCollective {} := by
  rw [← readiness_ok_iff]
  decide

def sampleLease : List (Transition (FluxWorld (Option ℤ)) (FluxOp (Option ℤ))) :=
  [⟨sampleFlux, .allocateFinal 0 ⟨1, 1, 1⟩ true, sampleAllocated⟩,
    ⟨sampleAllocated, .claim 1 0, sampleClaimed⟩,
    ⟨sampleClaimed, .initializeCommitted 0 sampleSource, sampleInitialized⟩,
    ⟨sampleInitialized, .begin 0, sampleOpened⟩,
    ⟨sampleOpened, .reviseTrial 0, sampleProduced⟩,
    ⟨sampleProduced, .beginPending 0 0, sampleLeased⟩,
    ⟨sampleLeased, .publishPending [⟨1, 6⟩] 0, sampleFilled⟩]

lemma sampleLease_exec : Exec FluxWorld.Step sampleFlux sampleLease sampleFilled := by
  have halloc : FluxWorld.Step sampleFlux (.allocateFinal 0 ⟨1, 1, 1⟩ true) sampleAllocated :=
    flux_step_of_done (r := ⟨_, (sampleFlux.allocateFinal 0 ⟨1, 1, 1⟩ true).2⟩) rfl rfl
  have hclaim : FluxWorld.Step sampleAllocated (.claim 1 0) sampleClaimed :=
    flux_step_of_done (r := ⟨_, (sampleAllocated.claim 1 0).2⟩) rfl
      (show sampleAllocated.writer.alive = true by decide)
  have hinitialize : FluxWorld.Step sampleClaimed (.initializeCommitted 0 sampleSource) sampleInitialized :=
    flux_step_of_done (r := ⟨_, (sampleClaimed.initializeCommitted 0 sampleSource).2⟩) rfl
      ⟨by decide, by decide⟩
  have hbegin : FluxWorld.Step sampleInitialized (.begin 0) sampleOpened :=
    flux_step_of_done (r := ⟨_, (sampleInitialized.attempt.begin 0).2⟩) rfl trivial
  have hrevise : FluxWorld.Step sampleOpened (.reviseTrial 0) sampleProduced :=
    flux_step_of_done (r := ⟨_, (sampleOpened.attempt.reviseTrial 0).2⟩) rfl trivial
  have hlease : FluxWorld.Step sampleProduced (.beginPending 0 0) sampleLeased :=
    flux_step_of_done (r := ⟨_, (sampleProduced.beginPending 0 0).2⟩) rfl
      ⟨by decide, by decide, by decide⟩
  have hpublish : FluxWorld.Step sampleLeased (.publishPending [⟨1, 6⟩] 0) sampleFilled :=
    flux_step_of_done (r := ⟨_, (sampleLeased.publishPending [⟨1, 6⟩] 0).2⟩) rfl
      ⟨by decide, by decide⟩
  exact (((((Exec.single halloc).append (.single hclaim)).append (.single hinitialize)).append
    (.single hbegin)).append (.single hrevise)).append ((Exec.single hlease).append (.single hpublish))

theorem final_flux_history_sample :
    FluxRotated 0 sampleFilled sampleRotated ∧ sampleRotated.writer.activeRevision = 2 := by
  have hfinish : FluxWorld.Step sampleFilled (.finish (.valid sampleComm) {}) sampleRotated :=
    flux_step_finish_accepted sampleComm sampleFilled_ready
  have hexec := sampleLease_exec.append (Exec.single hfinish)
  have hretains : ∀ tr ∈ sampleLease ++
      [⟨sampleFilled, .finish (.valid sampleComm) {}, sampleRotated⟩], Retains 0 tr.op := by
    simp [sampleLease, Retains, FluxOp.OnStorage, FluxOp.storage?]
  have haccepted : FluxAccepted sampleFilled sampleRotated :=
    ⟨⟨by decide, by decide, by decide⟩, by decide⟩
  have h := final_flux_history 0 sampleFlux sampleRotated _ sampleFlux_initial hexec hretains
  exact ⟨(h.1 ⟨sampleFilled, .finish (.valid sampleComm) {}, sampleRotated⟩ (by simp)).accepted haccepted,
    by decide⟩

end HundunFlow.Proofs
