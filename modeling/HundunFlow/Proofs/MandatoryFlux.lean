import HundunFlow.Proofs.FluxHistory

/-!
# The final flux is mandatory

Once a writer has claimed its slot, every accepted attempt carries a flux that this writer
published in that attempt, and writer and storage still exist when it is accepted.
-/

namespace HundunFlow.Proofs

open Lib List Function

variable {F : Type}

/-- No commit by a certificate that still matches although the attempt has failed since,
which is possible at the last mutation revision only. -/
def CommitsInGoodStanding (tr : Transition (FluxWorld F) (FluxOp F)) : Prop :=
  ∀ i, tr.op = .commitAccept i → tr.pre.transaction.matchesPrepared (tr.pre.attempt.prepared i) = true →
    tr.pre.transaction.attemptStatus.code = .ok

section Destructors

variable (w : FluxWorld F)

lemma endLease_same : (∀ ref, SameStorage (w.storages ref)
      (w.clearStorageLease.invalidatePendingView.storages ref)) ∧
    KeepsHistory w.writer w.clearStorageLease.invalidatePendingView.writer ∧
    w.clearStorageLease.invalidatePendingView.writer.alive = w.writer.alive := by
  obtain ⟨hstores, hwriter, -⟩ := clearStorageLease_same w
  unfold FluxWorld.invalidatePendingView FluxWorld.setView
  split
  · rw [hwriter]
    exact ⟨hstores, .refl _, rfl⟩
  · dsimp only
    rw [hwriter]
    exact ⟨hstores, ⟨rfl, rfl, rfl, ⟨rfl, rfl, rfl⟩, ⟨rfl, rfl⟩, ⟨rfl, rfl⟩, rfl⟩, rfl⟩

lemma destroyWriter_spec : (∀ ref, SameStorage (w.storages ref) (w.destroyWriter.storages ref)) ∧
    KeepsHistory w.writer w.destroyWriter.writer ∧ w.destroyWriter.writer.alive = false := by
  obtain ⟨hstores, hk, -⟩ := endLease_same w
  unfold FluxWorld.destroyWriter FluxWorld.detachFromTransaction FluxWorld.setTransaction
  split_ifs
  all_goals dsimp only
  · exact ⟨hstores, ⟨hk.issued, hk.authority, hk.slot, hk.bound, hk.active, hk.previous, hk.pending⟩, rfl⟩
  · exact ⟨fun _ => .refl _, ⟨rfl, rfl, rfl, ⟨rfl, rfl, rfl⟩, ⟨rfl, rfl⟩, ⟨rfl, rfl⟩, rfl⟩, rfl⟩
  · exact ⟨fun _ => .refl _, ⟨rfl, rfl, rfl, ⟨rfl, rfl, rfl⟩, ⟨rfl, rfl⟩, ⟨rfl, rfl⟩, rfl⟩, rfl⟩
  · exact ⟨hstores, ⟨hk.issued, hk.authority, hk.slot, hk.bound, hk.active, hk.previous, hk.pending⟩, rfl⟩

lemma destroyStorage_spec (ref : ℕ) : KeepsHistory w.writer (w.destroyStorage ref).writer ∧
    (w.destroyStorage ref).writer.alive = w.writer.alive ∧
    ((w.destroyStorage ref).storages ref).alive = false := by
  obtain ⟨hframe, -⟩ := invalidateTransaction_spec w
  have hsame : w.invalidateTransaction.writer = w.writer := by rw [hframe]
  obtain ⟨-, hk, halive⟩ := endLease_same w.invalidateTransaction
  rw [hsame] at hk halive
  unfold FluxWorld.destroyStorage FluxWorld.detachFromStorage FluxWorld.setStorage
  split_ifs
  all_goals dsimp only
  · exact ⟨.refl _, rfl, by rw [update_self]⟩
  · refine ⟨⟨hk.issued, hk.authority, hk.slot, hk.bound, hk.active, hk.previous, hk.pending⟩, halive, ?_⟩
    rw [update_self]
  · exact ⟨.refl _, rfl, by rw [update_self]⟩

end Destructors

section Steps

variable [FaceValue F] {s₀ : ℕ} {w w' : FluxWorld F} {op : FluxOp F}

lemma step_claimKept (hi : FluxInv s₀ w) (hs : FluxWorld.Step w op w') (hissued : w.writer.issued = true) :
    w'.writer.issued = true ∧ w'.writer.cacheSlot = w.writer.cacheSlot := by
  cases fluxEffect hs with
  | kept _ hframe =>
    rw [hframe]
    exact ⟨hissued, rfl⟩
  | ended committed hended _ hframe =>
    rcases (hi.ended_spec hended hframe).2.2 with heq | ⟨heq, -⟩ <;> rw [heq]
    · obtain ⟨-, hkept, -, -, hslot⟩ := completedWriter_claim w.writer committed
      exact ⟨hkept.trans hissued, hslot⟩
    · exact ⟨hissued, rfl⟩
  | claimed stage slot identity next _ hclaim =>
    exact nomatch hclaim.unissued.symm.trans hissued
  | leased ref view candidate raw _ _ _ hframe =>
    obtain ⟨identity, domain, cells, hwriter, -⟩ := leasedState_writer w ref view candidate raw
    rw [hframe, hwriter]
    exact ⟨hissued, rfl⟩
  | published dependencies view _ _ _ _ hframe =>
    rw [hframe]
    exact ⟨hissued, rfl⟩
  | wrote hwrote =>
    rw [hwrote.2]
    exact ⟨hissued, rfl⟩
  | initialized ref _ _ _ _ _ _ _ _ hframe =>
    rw [hframe]
    exact ⟨hissued, rfl⟩
  | allocated ref next storage _ _ _ hframe =>
    rw [hframe]
    exact ⟨hissued, rfl⟩
  | writerDestroyed _ _ hframe =>
    obtain ⟨-, hk, -⟩ := destroyWriter_spec w
    rw [hframe]
    exact ⟨hk.issued.trans hissued, hk.slot⟩
  | storageDestroyed ref _ hframe =>
    obtain ⟨hk, -⟩ := destroyStorage_spec w ref
    rw [hframe]
    exact ⟨hk.issued.trans hissued, hk.slot⟩
  | viewDestroyed view _ hframe =>
    obtain ⟨-, hk, -⟩ := destroyView_spec w view
    rw [hframe]
    exact ⟨hk.issued.trans hissued, hk.slot⟩

def Exists (s₀ : ℕ) (w : FluxWorld F) : Prop :=
  w.writer.alive = true ∧ (w.storages s₀).alive = true

omit [FaceValue F] in
lemma Exists.of_same (h : Exists s₀ w') (hwriter : w'.writer.alive = w.writer.alive)
    (hs : SameStorage (w.storages s₀) (w'.storages s₀)) : Exists s₀ w :=
  ⟨hwriter.symm.trans h.1, hs.alive.symm.trans h.2⟩

lemma step_exists (hi : FluxInv s₀ w) (hop : op.OnStorage s₀) (hs : FluxWorld.Step w op w')
    (h : Exists s₀ w') : Exists s₀ w ∧ Retains s₀ op := by
  have hretains : op ≠ .destroyStorage s₀ ∧ op ≠ .destroyWriter := by
    refine ⟨?_, ?_⟩ <;> rintro rfl
    · obtain ⟨-, rfl⟩ := flux_done (r := ⟨w.destroyStorage s₀, {}⟩) rfl hs
      exact nomatch (destroyStorage_spec w s₀).2.2.symm.trans h.2
    · obtain ⟨-, rfl⟩ := flux_done (r := ⟨w.destroyWriter, {}⟩) rfl hs
      exact nomatch (destroyWriter_spec w).2.2.symm.trans h.1
  refine ⟨?_, hop, hretains⟩
  cases fluxEffect hs with
  | kept _ hframe => exact h.of_same (by rw [hframe]) (by rw [hframe]; exact .refl _)
  | ended committed hended _ hframe =>
    obtain ⟨hstores, -, hwriter⟩ := hi.ended_spec hended hframe
    refine h.of_same ?_ (hstores s₀)
    rcases hwriter with heq | ⟨heq, -⟩ <;> rw [heq]
    exact (completedWriter_claim w.writer committed).1
  | claimed stage slot identity next _ _ hframe =>
    exact h.of_same (by rw [hframe]; rfl) (by rw [hframe]; exact .refl _)
  | leased ref view candidate raw hcall halive _ hframe =>
    subst hcall
    obtain rfl := hop ref rfl
    obtain ⟨identity, domain, cells, hwriter, -⟩ := leasedState_writer w ref view candidate raw
    have hwriter' := h.1
    rw [hframe, hwriter] at hwriter'
    exact ⟨hwriter', halive⟩
  | published dependencies view _ _ _ _ hframe =>
    exact h.of_same (by rw [hframe]; rfl) (by rw [hframe]; exact .refl _)
  | wrote hwrote => exact h.of_same (by rw [hwrote.2]) (by rw [hwrote.2]; exact .refl _)
  | initialized ref hcall memory _ _ _ _ _ _ hframe =>
    obtain rfl := hop ref hcall.2
    refine h.of_same (by rw [hframe]; rfl) ?_
    have hstorage : w'.storages ref =
        { w.storages ref with authorityIdentity := w.writer.authorityFingerprint } := by
      rw [hframe]
      exact update_self ..
    rw [hstorage]
    exact ⟨rfl, ⟨rfl, rfl, rfl, rfl⟩, rfl, rfl, rfl⟩
  | allocated ref next storage hcall halive _ hframe =>
    obtain rfl := hop ref hcall.2
    have hwriter := h.1
    rw [hframe] at hwriter
    exact ⟨hwriter, halive⟩
  | writerDestroyed hcall => exact absurd hcall hretains.2
  | storageDestroyed ref hcall =>
    subst hcall
    obtain rfl := hop ref rfl
    exact absurd rfl hretains.1
  | viewDestroyed view _ hframe =>
    obtain ⟨hstores, -, halive, -⟩ := destroyView_spec w view
    rw [hframe] at h
    exact h.of_same halive (hstores s₀)

lemma exec_exists {t : List (Transition (FluxWorld F) (FluxOp F))} (hi : FluxSound s₀ w)
    (h : Exec FluxWorld.Step w t w') (ht : ∀ tr ∈ t, tr.op.OnStorage s₀) (hexists : Exists s₀ w') :
    ∀ tr ∈ t, Retains s₀ tr.op := by
  induction h with
  | nil => simp
  | snoc t m op m' hexec hs ih =>
    have hprefix : ∀ tr ∈ t, tr.op.OnStorage s₀ := fun tr htr => ht tr (by simp [htr])
    have hm := exec_fluxSound hi hexec hprefix
    obtain ⟨hbefore, hretains⟩ := step_exists hm.invariant (ht ⟨m, op, m'⟩ (by simp)) hs hexists
    intro tr htr
    rcases mem_append.mp htr with hold | hnew
    · exact ih hprefix hbefore tr hold
    · rw [mem_singleton.mp hnew]
      exact hretains

end Steps

structure WriterPublication (p : Transition (FluxWorld F) (FluxOp F)) (slot : ℕ) : Prop where
  call : ∃ dependencies view, p.op = .publishPending dependencies view
  claimed : p.pre.writer.issued = true ∧ p.pre.writer.cacheSlot = slot
  pending : p.pre.writer.pending = true ∧ p.pre.writer.pendingPublished = false
  empty : p.pre.transaction.pendingCaches.getD slot 0 = 0
  filled : p.post.transaction.pendingCaches.getD slot 0 = p.pre.writer.pendingRevision ∧
    p.pre.writer.pendingRevision ≠ 0

/-- In the attempt under way at the end of `t` the claimed writer has published, and nothing
but steps of that attempt came after. -/
def PublishedByWriter (t : List (Transition (FluxWorld F) (FluxOp F))) (slot : ℕ) : Prop :=
  ∃ u p v, t = u ++ p :: v ∧ (∀ q ∈ p :: v, q.pre.transaction.active = true) ∧ WriterPublication p slot

/-- While an attempt is under way, a filled slot of the writer was filled by the writer. -/
def WriterPublished (t : List (Transition (FluxWorld F) (FluxOp F))) (w : FluxWorld F) : Prop :=
  w.transaction.active = true → w.writer.issued = true →
    w.transaction.pendingCaches.getD w.writer.cacheSlot 0 ≠ 0 → PublishedByWriter t w.writer.cacheSlot

lemma PublishedByWriter.snoc {t : List (Transition (FluxWorld F) (FluxOp F))} {slot : ℕ}
    (h : PublishedByWriter t slot) {tr : Transition (FluxWorld F) (FluxOp F)}
    (htr : tr.pre.transaction.active = true) : PublishedByWriter (t ++ [tr]) slot := by
  obtain ⟨u, p, v, rfl, hlasts, hpub⟩ := h
  refine ⟨u, p, v ++ [tr], by simp, fun q hq => ?_, hpub⟩
  rcases mem_append.mp (cons_append ▸ hq) with hold | hnew
  · exact hlasts q hold
  · rw [mem_singleton.mp hnew]
    exact htr

section Publications

variable [FaceValue F] {s₀ : ℕ} {w w' : FluxWorld F} {op : FluxOp F}
  {t : List (Transition (FluxWorld F) (FluxOp F))}

omit [FaceValue F] in
lemma WriterPublished.snoc (h : WriterPublished t w) (hactive : w.transaction.active = true)
    (hissued : w.writer.issued = true) (hslot : w'.writer.cacheSlot = w.writer.cacheSlot)
    (hcaches : w'.transaction.pendingCaches.getD w.writer.cacheSlot 0 =
      w.transaction.pendingCaches.getD w.writer.cacheSlot 0)
    (hfilled : w'.transaction.pendingCaches.getD w'.writer.cacheSlot 0 ≠ 0) :
    PublishedByWriter (t ++ [⟨w, op, w'⟩]) w'.writer.cacheSlot := by
  rw [hslot, hcaches] at hfilled
  rw [hslot]
  exact (h hactive hissued hfilled).snoc hactive

lemma destructor_slots (hs : FluxWorld.Step w op w')
    (hop : attemptOp w op = .detach true ∨ attemptOp w op = .invalidate) :
    w'.transaction.active = w.transaction.active ∧
      w'.transaction.pendingCaches = w.transaction.pendingCaches := by
  have heffect := attemptEffect hs
  cases heffect with
  | opened ref hcall => rcases hop with h | h <;> exact nomatch h.symm.trans hcall
  | refused _ hcall =>
    obtain ⟨ref, hcall⟩ := hcall
    rcases hop with h | h <;> exact nomatch h.symm.trans hcall
  | within hw hslots =>
    refine ⟨hw.active, ?_⟩
    rcases hslots with hsame | ⟨slot, dependencies, stamp, identity, hpub⟩
    · exact hsame.1
    · rcases hpub.call with ⟨hcall, -⟩ | ⟨hcall, -⟩ <;>
        rcases hop with h | h <;> exact nomatch h.symm.trans hcall
  | claimed _ _ hcall => rcases hop with h | h <;> exact nomatch h.symm.trans hcall
  | certified i p heq => exact ⟨congrArg (·.transaction.active) heq, congrArg (·.transaction.pendingCaches) heq⟩
  | discarded _ hcall =>
    rcases hcall with ⟨i, ready, c, s, hcall⟩ | ⟨i, hcall⟩ | ⟨ready, c, s, hcall⟩ <;>
      rcases hop with h | h <;> exact nomatch h.symm.trans hcall
  | accepted _ hcall =>
    rcases hcall with ⟨i, hcall, -⟩ | ⟨ready, c, s, hcall, -⟩ <;>
      rcases hop with h | h <;> exact nomatch h.symm.trans hcall

theorem step_writerPublished (h : WriterPublished t w) (hi : FluxInv s₀ w)
    (hs : FluxWorld.Step w op w') : WriterPublished (t ++ [⟨w, op, w'⟩]) w' := by
  intro hactive' hissued' hfilled
  cases fluxEffect hs with
  | kept hcarries hframe =>
    have hwriter : w'.writer = w.writer := by rw [hframe]
    rw [hwriter] at hissued' hfilled
    by_cases hactive : w.transaction.active = true
    · have hidentity := hi.claim.issued hissued'
      have hclaimed : w.transaction.pendingCacheWriterIdentities.getD w.writer.cacheSlot 0 ≠ 0 := by
        rw [hidentity.2.2]
        exact hidentity.1
      rw [hwriter]
      rw [hcarries.claimedSlots hactive _ hclaimed] at hfilled
      exact (h hactive hissued' hfilled).snoc hactive
    · exact absurd (hcarries.opened (by simpa using hactive) hactive' _) hfilled
  | ended committed hended => exact nomatch hended.idle.symm.trans hactive'
  | claimed stage slot identity next _ hclaim hframe =>
    rw [hframe] at hactive'
    exact nomatch hclaim.idle.symm.trans hactive'
  | leased ref view candidate raw _ _ hleasable hframe =>
    obtain ⟨identity, domain, cells, hwriter, -⟩ := leasedState_writer w ref view candidate raw
    refine h.snoc hleasable.active hleasable.issued ?_ ?_ hfilled
    · rw [hframe, hwriter]
    · rw [hframe]
      rfl
  | published dependencies view hop hlease _ hpubl hframe =>
    obtain ⟨ref, hleased⟩ := validatePendingLease_none w hlease
    obtain ⟨s, m, ht, -⟩ := hpubl.transaction
    have hissued : w.writer.issued = true := by
      rw [hframe] at hissued'
      exact hissued'
    have hslot : w'.writer.cacheSlot = w.writer.cacheSlot := by
      rw [hframe]
      rfl
    rw [hslot]
    refine ⟨t, _, [], rfl, ?_, ⟨dependencies, view, hop⟩, ⟨hissued, rfl⟩,
      ⟨hleased.pending, hleased.unpublished⟩, hpubl.empty, ?_, hpubl.stamp_ne⟩
    · intro q hq
      rw [mem_singleton.mp hq]
      exact ((locallyActive_iff _).mp hpubl.active).1
    · dsimp only
      rw [ht]
      exact getD_set_self _ _ _ _ hpubl.slot_lt
  | wrote hwrote =>
    rw [hwrote.2] at hactive' hissued'
    exact h.snoc hactive' hissued' (by rw [hwrote.2]) (by rw [hwrote.2]; rfl) hfilled
  | initialized ref _ memory _ _ _ _ _ _ hframe =>
    rw [hframe] at hactive' hissued'
    exact h.snoc hactive' hissued' (by rw [hframe]; rfl) (by rw [hframe]; rfl) hfilled
  | allocated ref next storage _ _ _ hframe =>
    rw [hframe] at hactive' hissued'
    exact h.snoc hactive' hissued' (by rw [hframe]) (by rw [hframe]; rfl) hfilled
  | writerDestroyed hop _ hframe =>
    obtain ⟨hactive, hcaches⟩ := destructor_slots hs (.inl (by rw [hop]; rfl))
    obtain ⟨-, hk, -⟩ := destroyWriter_spec w
    rw [← hframe] at hk
    exact h.snoc (hactive.symm.trans hactive') (hk.issued.symm.trans hissued') hk.slot
      (by rw [hcaches]) hfilled
  | storageDestroyed ref hop hframe =>
    obtain ⟨hactive, hcaches⟩ := destructor_slots hs (.inr (by rw [hop]; rfl))
    obtain ⟨hk, -⟩ := destroyStorage_spec w ref
    rw [← hframe] at hk
    exact h.snoc (hactive.symm.trans hactive') (hk.issued.symm.trans hissued') hk.slot
      (by rw [hcaches]) hfilled
  | viewDestroyed view hop hframe =>
    obtain ⟨hactive, hcaches⟩ := destructor_slots hs (.inr (by rw [hop]; rfl))
    obtain ⟨-, hk, -⟩ := destroyView_spec w view
    rw [← hframe] at hk
    exact h.snoc (hactive.symm.trans hactive') (hk.issued.symm.trans hissued') hk.slot
      (by rw [hcaches]) hfilled

lemma exec_writerPublished {w₀ : FluxWorld F} (h₀ : w₀.Initial) (h : Exec FluxWorld.Step w₀ t w)
    (ht : ∀ tr ∈ t, tr.op.OnStorage s₀) : WriterPublished t w ∧ FluxSound s₀ w := by
  refine h.history (P := fun tr => tr.op.OnStorage s₀)
    (I := fun t w => WriterPublished t w ∧ FluxSound s₀ w) ht ⟨?_, initial_fluxSound h₀ s₀⟩ ?_
  · intro _ hissued
    rw [h₀.writer] at hissued
    exact nomatch hissued
  · intro t w op w' _ hi hs hop
    exact ⟨step_writerPublished hi.1 hi.2.invariant hs, hi.2.step hop hs⟩

lemma exec_claimKept (hi : FluxSound s₀ w) (h : Exec FluxWorld.Step w t w') (ht : ∀ tr ∈ t, tr.op.OnStorage s₀)
    (hissued : w.writer.issued = true) : w'.writer.issued = true ∧ w'.writer.cacheSlot = w.writer.cacheSlot := by
  induction h with
  | nil => exact ⟨hissued, rfl⟩
  | snoc t m op m' hexec hs ih =>
    have hprefix : ∀ tr ∈ t, tr.op.OnStorage s₀ := fun tr htr => ht tr (by simp [htr])
    obtain ⟨hm, hslot⟩ := ih hprefix
    obtain ⟨hm', hslot'⟩ := step_claimKept (exec_fluxSound hi hexec hprefix).invariant hs hm
    exact ⟨hm', hslot'.trans hslot⟩

lemma accepted_exists (h : FluxSound s₀ w) (hs : FluxWorld.Step w op w')
    (hgood : CommitsInGoodStanding ⟨w, op, w'⟩) (haccepted : FluxAccepted w w') : Exists s₀ w := by
  have hstatus : w.transaction.attemptStatus.code = .ok := by
    obtain ⟨hop, -⟩ := (attemptEffect hs).of_accepted haccepted.1
    rcases hop with ⟨i, hcall, hmatch, -⟩ | ⟨ready, c, s, -, hready⟩
    · refine hgood i ?_ hmatch
      cases op <;> simp_all [attemptOp]
    · exact hready.attempt
  have hi := h.invariant
  rcases hi.mandatory haccepted.1.1 haccepted.2 (h.accepted_filled hs haccepted) with
    hpubl | ⟨hfailed, -⟩
  · obtain ⟨hmember, -, -, halive, -⟩ := hi.lease.pending (hi.leasing_published hpubl)
    have hauth := (hi.lease.transaction hmember).2
    rw [hi.claim.authority, Bool.and_eq_true] at hauth
    exact ⟨hauth.2, halive⟩
  · exact absurd hstatus hfailed

end Publications

/-- The catalog bound over and over again, up to the last mutation revision. -/
def sampleBound (revision : ℕ) : FluxWorld (Option ℤ) :=
  sampleFilled.setTransaction
    { sampleFilled.transaction with
      dependencyCatalog := [⟨1, 6⟩, ⟨2, 1⟩]
      mutationRevision := revision }

lemma sampleBound_step {revision : ℕ} (h : revision < maxU64) :
    FluxWorld.Step (sampleBound revision) (.bindDependency ⟨2, 1⟩) (sampleBound (revision + 1)) := by
  have hbind : (sampleBound revision).transaction.bindDependency ⟨2, 1⟩ =
      ((sampleBound revision).transaction.advanceMutationRevision, {}) := rfl
  have hadvance : (sampleBound revision).transaction.advanceMutationRevision =
      (sampleBound (revision + 1)).transaction := by
    unfold AttemptTransaction.advanceMutationRevision
    exact if_neg h.ne
  have hstep : FluxWorld.Step (sampleBound revision) (.bindDependency ⟨2, 1⟩)
      ((sampleBound revision).afterCall ((sampleBound revision).attempt.withTransaction
        ((sampleBound revision).transaction.bindDependency ⟨2, 1⟩))).world :=
    flux_step_of_done (r := (sampleBound revision).afterCall ((sampleBound revision).attempt.withTransaction
      ((sampleBound revision).transaction.bindDependency ⟨2, 1⟩))) rfl trivial
  rw [hbind, hadvance] at hstep
  exact hstep

lemma sampleBound_exec (n : ℕ) (h : 5 + n ≤ maxU64) :
    ∃ t, Exec FluxWorld.Step sampleFilled t (sampleBound (5 + n)) ∧
      ∀ y ∈ t, y.op = .bindDependency ⟨2, 1⟩ := by
  induction n with
  | zero =>
    have hfirst : FluxWorld.Step sampleFilled (.bindDependency ⟨2, 1⟩) (sampleBound 5) :=
      flux_step_of_done (r := sampleFilled.afterCall (sampleFilled.attempt.withTransaction
        (sampleFilled.transaction.bindDependency ⟨2, 1⟩))) rfl trivial
    exact ⟨_, .single hfirst, by simp⟩
  | succ n ih =>
    obtain ⟨t, ht, hop⟩ := ih (by omega)
    refine ⟨_, ht.append (.single (sampleBound_step (by omega))), fun y hy => ?_⟩
    rcases mem_append.mp hy with hold | hnew
    · exact hop y hold
    · rw [mem_singleton.mp hnew]

def sampleExhausted : FluxWorld (Option ℤ) := sampleBound maxU64

lemma sampleExhausted_ready : LocallyReady sampleExhausted.transaction sampleExhausted.attempt.current
    sampleExhausted.readyForCollective {} := by
  rw [← readiness_ok_iff]
  decide

def sampleCertified : FluxWorld (Option ℤ) :=
  { sampleExhausted with
    attempt := sampleExhausted.attempt.setPrepared 0
      (sampleExhausted.transaction.certificate .accept {} (-1)) }

def sampleOrphaned : FluxWorld (Option ℤ) := sampleCertified.destroyStorage 0

def sampleForced : FluxWorld (Option ℤ) :=
  (sampleOrphaned.afterCall
    (Attempt.commit 0 (sampleOrphaned.attempt.commitAccept (sampleOrphaned.attempt.prepared 0)))).world

end HundunFlow.Proofs
