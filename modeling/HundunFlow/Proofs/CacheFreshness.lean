import HundunFlow.Proofs.StateLayerInvariant

/-!
# Accepted caches are fresh

A publication is checked against the dependency catalog twice, when it is made and when the
attempt is prepared.
-/

namespace HundunFlow.Proofs

open Lib List Function

/-- The two ways around the catalog, excluded: a caller binds a state field to a revision
other than its trial revision, or accepts by a certificate that still matches although the
attempt has failed since, which is possible at the last mutation revision only. -/
def RespectsTrial (tr : Transition Attempt AttemptOp) : Prop :=
  match tr.op with
  | .bindDependency d => tr.pre.transaction.locallyActive = true →
      tr.pre.transaction.attemptStatus.code = .ok → ∀ f, tr.pre.current.isStateField f = true →
        d.source = fieldRevisionSource f → d.revision = tr.pre.current.revision .trial f
  | .commitAccept i => tr.pre.transaction.matchesPrepared (tr.pre.prepared i) = true →
      tr.pre.transaction.attemptStatus.code = .ok
  | _ => True

def AttemptFresh (a : Attempt) : Prop :=
  a.transaction.active = true → a.transaction.attemptStatus.code = .ok →
    CatalogFresh a.transaction.dependencyCatalog a.current

section Catalog

variable {a a' : Attempt}

variable (t : AttemptTransaction)

lemma AttemptFresh.idle (h : a.transaction.active = false) : AttemptFresh a :=
  fun hactive => nomatch h.symm.trans hactive

lemma AttemptFresh.failed (h : a.transaction.attemptStatus.code ≠ .ok) : AttemptFresh a :=
  fun _ hstatus => absurd hstatus h

lemma current_congr (htransaction : a'.transaction.layers = a.transaction.layers)
    (hlayers : a'.layers = a.layers) : a'.current = a.current := by
  unfold Attempt.current
  rw [htransaction, hlayers]

lemma AttemptFresh.within (hf : AttemptFresh a) (hw : Within a.transaction a'.transaction)
    (hcatalog : a'.transaction.dependencyCatalog = a.transaction.dependencyCatalog)
    (hlayers : a'.layers = a.layers) : AttemptFresh a' := by
  intro hactive hstatus
  rw [hcatalog, current_congr hw.layers hlayers]
  refine hf (hw.active ▸ hactive) ?_
  by_contra hfailed
  exact hw.latched hfailed hstatus

lemma publish_catalog (slot : ℕ) (dependencies : List RevisionDependency) (stamp writerIdentity : ℕ) :
    (t.publishPendingCacheImpl slot dependencies stamp writerIdentity).1.dependencyCatalog =
      t.dependencyCatalog := by
  rcases publish_cases t slot dependencies stamp writerIdentity with
    ⟨h, -⟩ | ⟨s, m, h, -⟩ | ⟨-, hpubl⟩
  · rw [h]
  · rw [h]
  · obtain ⟨s, m, h, -⟩ := hpubl.transaction
    rw [h]

lemma publishFinal_catalog (slot : ℕ) (dependencies : List RevisionDependency) (stamp writerIdentity : ℕ) :
    (t.publishFinalFaceFluxCache slot dependencies stamp writerIdentity).1.dependencyCatalog =
      t.dependencyCatalog := by
  rw [publishFinal_eq]
  split
  · rfl
  · exact publish_catalog t slot dependencies stamp writerIdentity

lemma detach_catalog (failActive : Bool) :
    (t.detachFinalFaceFluxWriter failActive).dependencyCatalog = t.dependencyCatalog := by
  rcases detach_cases t failActive with ⟨-, h⟩ | ⟨-, h⟩ | ⟨-, s, m, h, -⟩ <;> rw [h]

lemma invalidate_catalog : t.invalidateFinalFaceFluxWriter.dependencyCatalog = t.dependencyCatalog := by
  rcases invalidate_cases t with h | ⟨s, m, h, -⟩ <;> rw [h]

lemma AttemptFresh.bound (hf : AttemptFresh a) {d : RevisionDependency}
    (hd : a.transaction.locallyActive = true → a.transaction.attemptStatus.code = .ok →
      ∀ f, a.current.isStateField f = true → d.source = fieldRevisionSource f →
        d.revision = a.current.revision .trial f) :
    AttemptFresh (a.withTransaction (a.transaction.bindDependency d)).attempt := by
  change AttemptFresh { a with transaction := (a.transaction.bindDependency d).1 }
  rcases bindDependency_cases a.transaction d with
    ⟨h, -⟩ | ⟨s, m, catalog, h, hmoved, hactive, hstatus, hkind⟩
  · rw [h]
    exact hf
  · rw [h]
    rcases hkind with ⟨-, hs, -⟩ | ⟨-, hbinds⟩
    · exact .failed hs
    · have hfresh := hf ((locallyActive_iff _).mp hactive).1 hstatus
      exact fun _ _ => hfresh.binds (hbinds hfresh.distinct) (hd hactive hstatus)

lemma setCurrent_current {ref : ℕ} {layers : StateLayers} {t : AttemptTransaction}
    (h : a.transaction.layers = some ref) (ht : t.layers = some ref) :
    ({ a.setCurrent layers with transaction := t } : Attempt).current = layers := by
  unfold Attempt.setCurrent Attempt.current
  rw [h, ht]
  exact update_self ..

lemma AttemptFresh.revised (hf : AttemptFresh a) (hv : ValidLayers a.current) (field : ℕ) :
    AttemptFresh (a.reviseTrial field).1 := by
  change AttemptFresh { a.setCurrent (a.transaction.reviseTrial a.current field).2.1 with
    transaction := (a.transaction.reviseTrial a.current field).1 }
  have hlayers : a.setCurrent a.current = a := by
    unfold Attempt.setCurrent Attempt.current Attempt.setLayers
    cases hl : a.transaction.layers with
    | none => rfl
    | some ref => simp
  rcases reviseTrial_cases a.transaction a.current field with
    ⟨h, hl, -⟩ | ⟨s, m, h, -, hs, -⟩ | hrevised
  · rw [h, hl, hlayers]
    exact hf
  · rw [h]
    exact .failed hs
  · obtain ⟨s, m, catalog, h, hmoved, hkind⟩ := hrevised.transaction
    have hactive := (locallyActive_iff _).mp hrevised.active
    obtain ⟨ref, href⟩ := Option.ne_none_iff_exists'.mp hactive.2
    rcases hkind with ⟨hs, -⟩ | hbinds
    · rw [h]
      exact .failed hs
    · have hfresh := hf hactive.1 hrevised.status
      intro _ _
      have hcurrent : ({ a.setCurrent (a.transaction.reviseTrial a.current field).2.1 with
          transaction := (a.transaction.reviseTrial a.current field).1 } : Attempt).current =
          (a.transaction.reviseTrial a.current field).2.1 :=
        setCurrent_current href (by rw [h]; exact href)
      rw [hcurrent, h]
      exact hfresh.revised hv hrevised.drawn (hv.handles.2 .trial) hrevised.inRange
        (hbinds hfresh.distinct)

lemma AttemptFresh.runtime (hf : AttemptFresh a) (hv : ∀ ref, ValidLayers (a.layers ref)) (ref : ℕ)
    (lifetime : FieldLifetime) (field : ℕ) :
    AttemptFresh (a.setLayers ref ((a.layers ref).reviseRuntime lifetime field).1) := by
  intro hactive hstatus
  have hfresh := hf hactive hstatus
  obtain ⟨hextends, hrevision⟩ := reviseRuntime_extends (hv ref) lifetime field
  unfold Attempt.current at hfresh ⊢
  change CatalogFresh a.transaction.dependencyCatalog ((a.transaction.layers.map (Function.update
    a.layers ref ((a.layers ref).reviseRuntime lifetime field).1)).getD {})
  cases hl : a.transaction.layers with
  | none =>
    rw [hl] at hfresh
    exact hfresh
  | some current =>
    rw [hl] at hfresh
    rw [Option.map_some, Option.getD_some] at hfresh ⊢
    by_cases href : current = ref
    · subst href
      rw [update_self]
      exact hfresh.congr hextends.flags hrevision
    · rw [update_of_ne href]
      exact hfresh

lemma current_valid (hv : ∀ ref, ValidLayers (a.layers ref)) : ValidLayers a.current := by
  unfold Attempt.current
  cases a.transaction.layers with
  | none => exact empty_valid
  | some ref => exact hv ref

/-- A step that respects the trial keeps the catalog fresh. -/
theorem step_attemptFresh {op : AttemptOp} (hf : AttemptFresh a) (hv : ∀ ref, ValidLayers (a.layers ref))
    (hr : RespectsTrial ⟨a, op, a'⟩) (h : Attempt.Step a op a') : AttemptFresh a' := by
  cases op with
  | begin ref =>
    rw [step_done rfl h]
    rcases begin_cases a ref with ⟨-, s, m, heq, -, hs⟩ | ⟨-, s, -, -, -, ht, hs⟩ | hopened
    · dsimp only
      rw [heq]
      exact .failed hs
    · exact .failed (by rw [ht]; exact hs)
    · obtain ⟨bound, s, m, catalog, ht, hfresh⟩ := hopened.transaction
      intro _ _
      have hcurrent : (a.begin ref).1.current = (a.begin ref).1.layers ref := by
        unfold Attempt.current
        rw [ht]
        rfl
      rw [hcurrent, ht]
      exact hfresh
  | reviseTrial field =>
    rw [step_done rfl h]
    exact hf.revised (current_valid hv) field
  | reviseRuntime ref lifetime field =>
    rw [step_done rfl h]
    exact hf.runtime hv ref lifetime field
  | bindDependency d =>
    rw [step_done rfl h]
    exact hf.bound hr
  | publish slot dependencies stamp =>
    rw [step_done rfl h]
    exact hf.within (publish_within a.transaction slot dependencies stamp 0)
      (publish_catalog a.transaction slot dependencies stamp 0) rfl
  | publishFinal slot dependencies stamp identity =>
    rw [step_done rfl h]
    exact hf.within (publishFinal_within a.transaction slot dependencies stamp identity)
      (publishFinal_catalog a.transaction slot dependencies stamp identity) rfl
  | claim slot =>
    rw [step_done rfl h]
    rcases claim_within_or slot (issueIdentity a.nextIdentity).1 a.transaction with hsame | hidle
    · change AttemptFresh { a with
        nextIdentity := (issueIdentity a.nextIdentity).2
        transaction := (a.transaction.claimFinalFaceFluxWriter slot
          (issueIdentity a.nextIdentity).1).1 }
      rw [hsame]
      exact hf
    · refine .idle ?_
      change (a.transaction.claimFinalFaceFluxWriter slot
        (issueIdentity a.nextIdentity).1).1.active = false
      unfold AttemptTransaction.claimFinalFaceFluxWriter
      split <;> exact hidle
  | detach failActive =>
    rw [step_done rfl h]
    exact hf.within (detach_within a.transaction failActive)
      (detach_catalog a.transaction failActive) rfl
  | invalidate =>
    rw [step_done rfl h]
    exact hf.within (invalidate_within a.transaction) (invalidate_catalog a.transaction) rfl
  | prepare i ready communicator localStatus =>
    obtain ⟨r, hreturns, rfl⟩ := h
    unfold AttemptOp.Returns AttemptOp.run at hreturns
    rw [Prog.local_bind_iff] at hreturns
    obtain ⟨p, hp, hreturns⟩ := hreturns
    rw [Prog.local_done_iff] at hreturns
    subst hreturns
    rcases prepare_cases hp with ⟨-, hr⟩ | ⟨-, hr⟩ | ⟨outcome, lowest, hr⟩
    · rw [hr]
      exact .idle rfl
    · rw [hr]
      exact hf
    · rw [hr]
      exact hf
  | commitAccept i =>
    rw [step_done rfl h]
    rcases commitAccept_cases a (a.prepared i) with heq | ⟨-, -, -, heq⟩ <;> rw [heq]
    · exact hf
    · exact .idle rfl
  | commitReject i =>
    rw [step_done rfl h]
    rcases commitReject_cases a (a.prepared i) with heq | ⟨-, lowest, heq⟩ <;> rw [heq]
    · exact hf
    · exact .idle rfl
  | finish ready communicator localStatus =>
    obtain ⟨r, hreturns, rfl⟩ := h
    rcases finish_cases hreturns with ⟨lowest, heq, -⟩ | ⟨-, heq, -⟩ <;> rw [heq] <;> exact .idle rfl
  | issueIdentity =>
    rw [step_done rfl h]
    exact hf

end Catalog

/-- What one step keeps of an attempt that goes on. -/
structure Continues (a a' : Attempt) : Prop where
  layers : a'.transaction.layers = a.transaction.layers
  extended : ∀ ref, ValidLayers (a.layers ref) → Extends (a.layers ref) (a'.layers ref)
  published : ∀ slot, a.transaction.pendingCaches.getD slot 0 ≠ 0 →
    a'.transaction.pendingCaches.getD slot 0 = a.transaction.pendingCaches.getD slot 0 ∧
      a'.transaction.pendingDependencies.getD slot [] = a.transaction.pendingDependencies.getD slot []

variable {a : Attempt} {op : AttemptOp} {t : List (Transition Attempt AttemptOp)}
  {dependencies : List RevisionDependency}

variable {a' : Attempt}

lemma Continues.refl : Continues a a :=
  ⟨rfl, fun _ => .refl, fun _ _ => ⟨rfl, rfl⟩⟩

lemma Continues.trans {b c : Attempt} (h : Continues a b) (h' : Continues b c) : Continues a c := by
  refine ⟨h'.layers.trans h.layers, fun ref hv => ?_, fun slot hslot => ?_⟩
  · have hab := h.extended ref hv
    exact hab.trans (h'.extended ref hab.valid)
  · obtain ⟨hcache, hdepen⟩ := h.published slot hslot
    obtain ⟨hcache', hdepen'⟩ := h'.published slot (hcache ▸ hslot)
    exact ⟨hcache'.trans hcache, hdepen'.trans hdepen⟩

lemma Continues.valid (h : Continues a a') (hv : ∀ ref, ValidLayers (a.layers ref))
    (ref : ℕ) : ValidLayers (a'.layers ref) :=
  (h.extended ref (hv ref)).valid

lemma Continues.current (h : Continues a a') (hv : ∀ ref, ValidLayers (a.layers ref)) :
    Extends a.current a'.current := by
  unfold Attempt.current
  rw [h.layers]
  cases a.transaction.layers with
  | none => exact .refl empty_valid
  | some ref => exact h.extended ref (hv ref)

lemma step_continues (h : Attempt.Step a op a') (hactive : a.transaction.active = true)
    (hactive' : a'.transaction.active = true) : Continues a a' := by
  cases step_effect h with
  | opened ref _ hopened => exact nomatch hopened.idle.symm.trans hactive
  | refused _ _ hidle => exact nomatch hidle.symm.trans hactive
  | within hw _ hlayers => exact ⟨hw.layers, hlayers, hw.published⟩
  | claimed _ _ _ _ hidle => exact nomatch hidle.symm.trans hactive
  | certified i p heq =>
    rw [heq]
    exact ⟨rfl, fun _ => .refl, fun _ _ => ⟨rfl, rfl⟩⟩
  | discarded lowest _ ht =>
    rw [ht] at hactive'
    exact absurd hactive' (by simp [discardedState, AttemptTransaction.discardAttempt])
  | accepted _ _ ht =>
    rw [ht] at hactive'
    exact absurd hactive' (by simp [acceptedState])

/-- The attempt goes on through all of `t`: no transition begins between two attempts. -/
def Lasts (t : List (Transition Attempt AttemptOp)) : Prop :=
  ∀ tr ∈ t, tr.pre.transaction.active = true

lemma exec_continues (h : Exec Attempt.Step a t a') (ht : Lasts t)
    (hactive' : a'.transaction.active = true) : Continues a a' := by
  induction h with
  | nil => exact .refl
  | snoc t b op b' _ hs ih =>
    have hactive := ht ⟨b, op, b'⟩ (by simp)
    exact (ih (fun tr htr => ht tr (by simp [htr])) hactive).trans (step_continues hs hactive hactive')

lemma Lasts.continues (ht : Lasts t) (h : Exec Attempt.Step a t a')
    (hactive' : a'.transaction.active = true) : a.transaction.active = true ∧ Continues a a' := by
  refine ⟨?_, exec_continues h ht hactive'⟩
  cases t with
  | nil => exact h.nil_inv ▸ hactive'
  | cons tr t => exact h.cons_inv.1 ▸ ht tr mem_cons_self

/-- `slot` was filled in the attempt under way at the end of `t`, and nothing but that
attempt's own steps came after. -/
def PublishedDuring (t : List (Transition Attempt AttemptOp)) (slot : ℕ)
    (dependencies : List RevisionDependency) (stamp : ℕ) : Prop :=
  ∃ u p v writerIdentity, t = u ++ p :: v ∧ Lasts (p :: v) ∧
    Publication p.pre p.op p.post slot dependencies stamp writerIdentity

lemma PublishedDuring.snoc {slot stamp : ℕ} (h : PublishedDuring t slot dependencies stamp)
    {tr : Transition Attempt AttemptOp} (htr : tr.pre.transaction.active = true) :
    PublishedDuring (t ++ [tr]) slot dependencies stamp := by
  obtain ⟨u, p, v, writerIdentity, rfl, hlasts, hpub⟩ := h
  refine ⟨u, p, v ++ [tr], writerIdentity, by simp, fun q hq => ?_, hpub⟩
  rcases mem_append.mp (cons_append ▸ hq) with hold | hnew
  · exact hlasts q hold
  · rw [mem_singleton.mp hnew]
    exact htr

lemma Publication.recorded {slot stamp writerIdentity : ℕ}
    (h : Publication a op a' slot dependencies stamp writerIdentity)
    (ha : a.transaction.pendingDependencies.length = a.transaction.pendingCaches.length) :
    a'.transaction.pendingCaches.getD slot 0 = stamp ∧
      a'.transaction.pendingDependencies.getD slot [] = dependencies := by
  obtain ⟨s, m, ht, -⟩ := h.published.transaction
  have hlt := h.published.slot_lt
  rw [ht]
  exact ⟨getD_set_self _ _ _ _ hlt, getD_set_self _ _ _ _ (ha ▸ hlt)⟩

def SlotsAligned (t : AttemptTransaction) : Prop :=
  t.pendingDependencies.length = t.pendingCaches.length

lemma step_slotsAligned (hs : SlotsAligned a.transaction) (h : Attempt.Step a op a') : SlotsAligned a'.transaction := by
  unfold SlotsAligned at hs ⊢
  cases step_effect h with
  | opened ref _ hopened =>
    obtain ⟨bound, s, m, catalog, ht, -⟩ := hopened.transaction
    rw [ht]
    simpa [AttemptTransaction.openAttempt] using hs
  | refused status _ _ _ ht =>
    rw [ht]
    exact hs
  | within hw =>
    rw [hw.slots.1, hw.slots.2]
    exact hs
  | claimed slot identity _ hclaim =>
    rw [hclaim]
    unfold AttemptTransaction.claimFinalFaceFluxWriter
    split <;> exact hs
  | certified i p heq =>
    rw [heq]
    exact hs
  | discarded lowest _ ht =>
    rw [ht]
    simpa [discardedState, AttemptTransaction.discardAttempt] using hs
  | accepted _ _ ht =>
    rw [ht]
    exact hs

def SlotsPublished (t : List (Transition Attempt AttemptOp)) (a : Attempt) : Prop :=
  a.transaction.active = true → ∀ slot, a.transaction.pendingCaches.getD slot 0 ≠ 0 →
    PublishedDuring t slot (a.transaction.pendingDependencies.getD slot [])
      (a.transaction.pendingCaches.getD slot 0)

lemma step_slotsPublished (hp : SlotsPublished t a) (ha : SlotsAligned a.transaction)
    (h : Attempt.Step a op a') : SlotsPublished (t ++ [⟨a, op, a'⟩]) a' := by
  intro hactive' slot hslot
  cases step_effect h with
  | opened ref _ hopened =>
    obtain ⟨bound, s, m, catalog, ht, -⟩ := hopened.transaction
    rw [ht] at hslot
    exact absurd (getD_map_const a.transaction.pendingCaches slot 0) hslot
  | refused status _ hidle _ ht =>
    rw [ht] at hactive'
    exact nomatch hidle.symm.trans hactive'
  | within hw hslots =>
    have hactive : a.transaction.active = true := hw.active ▸ hactive'
    have hkept : ∀ slot, a.transaction.pendingCaches.getD slot 0 ≠ 0 →
        PublishedDuring (t ++ [⟨a, op, a'⟩]) slot (a'.transaction.pendingDependencies.getD slot [])
          (a'.transaction.pendingCaches.getD slot 0) := by
      intro slot hold
      obtain ⟨hcache, hdepen⟩ := hw.published slot hold
      rw [hcache, hdepen]
      exact (hp hactive slot hold).snoc hactive
    rcases hslots with hsame | ⟨slot', dependencies, stamp, writerIdentity, hpub⟩
    · exact hkept slot (hsame.1 ▸ hslot)
    · obtain ⟨s, m, ht, -⟩ := hpub.published.transaction
      by_cases hslot' : slot = slot'
      · subst hslot'
        have hfilled := hpub.recorded ha
        rw [hfilled.1, hfilled.2]
        refine ⟨t, ⟨a, op, a'⟩, [], writerIdentity, rfl, fun q hq => ?_, hpub⟩
        rw [mem_singleton.mp hq]
        exact hactive
      · refine hkept slot ?_
        rw [ht] at hslot
        rwa [getD_set_of_ne _ _ _ _ _ hslot'] at hslot
  | claimed slot' identity _ hclaim hidle =>
    refine absurd hactive' ?_
    rw [hclaim]
    unfold AttemptTransaction.claimFinalFaceFluxWriter
    split <;> simp [hidle]
  | certified i p heq =>
    rw [heq] at hactive' hslot ⊢
    exact (hp hactive' slot hslot).snoc hactive'
  | discarded lowest _ ht =>
    rw [ht] at hactive'
    exact absurd hactive' (by simp [discardedState, AttemptTransaction.discardAttempt])
  | accepted _ _ ht =>
    rw [ht] at hactive'
    exact absurd hactive' (by simp [acceptedState])

/-- What holds after every history whose steps respect the trial. -/
structure Audited (t : List (Transition Attempt AttemptOp)) (a : Attempt) : Prop where
  valid : ∀ ref, ValidLayers (a.layers ref)
  certificates : CertificatesSound a
  fresh : AttemptFresh a
  aligned : SlotsAligned a.transaction
  published : SlotsPublished t a

theorem exec_audited {a₀ : Attempt} (h₀ : a₀.Initial) (h : Exec Attempt.Step a₀ t a)
    (hr : ∀ tr ∈ t, RespectsTrial tr) : Audited t a := by
  refine h.history hr ?_ ?_
  · obtain ⟨fields, slots, sources, hcreate⟩ := h₀.transaction
    have hcreated := create_ok hcreate
    exact ⟨initial_valid h₀, initial_certificatesSound h₀, .idle hcreated.idle, hcreated.slots,
      fun hactive => nomatch hcreated.idle.symm.trans hactive⟩
  · intro t s op s' _ hi hs hrespects
    exact ⟨step_valid hi.valid hs, step_certificatesSound hi.certificates hs,
      step_attemptFresh hi.fresh hi.valid hrespects hs, step_slotsAligned hi.aligned hs,
      step_slotsPublished hi.published hi.aligned hs⟩

lemma Audited.accepted_fresh (hi : Audited t a) (hr : RespectsTrial ⟨a, op, a'⟩) (h : Attempt.Step a op a')
    (haccepted : Attempt.Accepted a a') : a'.transaction.activeCaches = a.transaction.pendingCaches ∧
      ∀ dependencies ∈ a.transaction.pendingDependencies, ∀ d ∈ dependencies, ∀ f,
        a.current.isStateField f = true → d.source = fieldRevisionSource f →
          d.revision = a.current.revision .trial f := by
  obtain ⟨hop, -, ht, -⟩ := (step_effect h).of_accepted haccepted
  have hbound : a.transaction.attemptStatus.code = .ok ∧ DependenciesBound a.transaction := by
    rcases hop with ⟨i, rfl, hmatch, hdec⟩ | ⟨ready, c, s, rfl, hready⟩
    · have hstatus := hr hmatch
      have hmatch' := hmatch
      unfold AttemptTransaction.matchesPrepared at hmatch'
      simp only [Bool.and_eq_true, decide_eq_true_eq] at hmatch'
      obtain ⟨⟨⟨⟨⟨⟨⟨⟨hvalid, -⟩, -⟩, -⟩, -⟩, hidentity⟩, hmutation⟩, -⟩, -⟩ := hmatch'
      exact ⟨hstatus, (hi.certificates.accept i hvalid hdec hidentity haccepted.1).2
        hmutation hstatus⟩
    · exact ⟨hready.attempt, hready.bound⟩
  refine ⟨by rw [ht]; rfl, fun dependencies hmem d hd f hf hsource => ?_⟩
  exact (hi.fresh haccepted.1 hbound.1).fresh d (hbound.2 dependencies hmem d hd) f hf hsource

lemma getD_mem {α : Type} {l : List (List α)} {slot : ℕ} {x : α} (h : x ∈ l.getD slot []) : l.getD slot [] ∈ l := by
  rw [getD_eq_getElem?_getD] at h ⊢
  cases hslot : l[slot]? with
  | none =>
    rw [hslot] at h
    exact nomatch h
  | some y => exact mem_of_getElem? hslot

lemma revision_outOfRange (layers : StateLayers) {f : ℕ} (hf : layers.fieldCount ≤ f) (role : StateRole) :
    layers.revision role f = 0 := by
  unfold StateLayers.revision
  simp [hf]

lemma Extends.not_restored {a b c d : StateLayers} (hv : ValidLayers a) (hab : Extends a b)
    (hbc : Extends b c) (hcd : Extends c d) {f : ℕ} (hf : a.isStateField f = true)
    (hnew : c.revision .trial f ≠ b.revision .trial f) : d.revision .trial f ≠ a.revision .trial f := by
  have hrange : f < a.fieldCount := by
    by_contra hge
    have hb := revision_outOfRange b (hab.count ▸ not_lt.mp hge) .trial
    have hc := revision_outOfRange c (hbc.count ▸ hab.count ▸ not_lt.mp hge) .trial
    exact hnew (hc.trans hb.symm)
  have hold := revision_lt hv hf hrange .trial
  have hdrawn : b.nextRevision ≤ c.revision .trial f := (hbc.trial f).resolve_left hnew
  have hab' := hab.next
  have hbc' := hbc.next
  rcases hcd.trial f with hsame | hlater
  · rw [hsame]
    omega
  · omega

/-- What the acceptance `tr` after the history `u` activates was published in its attempt and
shows the trial revisions. -/
def FreshAtAcceptance (u : List (Transition Attempt AttemptOp)) (tr : Transition Attempt AttemptOp) :
    Prop :=
  ∀ slot, tr.post.transaction.activeCaches.getD slot 0 ≠ 0 →
    ∃ dependencies, PublishedDuring u slot dependencies (tr.post.transaction.activeCaches.getD slot 0) ∧
      dependencies = tr.pre.transaction.pendingDependencies.getD slot [] ∧
      ∀ d ∈ dependencies, ∀ f, tr.pre.current.isStateField f = true →
        d.source = fieldRevisionSource f → d.revision = tr.pre.current.revision .trial f

/-- In the attempt at the end of `u`, no trial changed after a cache was computed from it. -/
def UnrevisedSincePublication (u : List (Transition Attempt AttemptOp)) : Prop :=
  ∀ before p between q after slot dependencies stamp writerIdentity,
    u = before ++ p :: between ++ q :: after → Lasts (p :: between ++ q :: after) →
    Publication p.pre p.op p.post slot dependencies stamp writerIdentity →
    ∀ d ∈ dependencies, ∀ f, p.pre.current.isStateField f = true → d.source = fieldRevisionSource f →
      q.post.current.revision .trial f = q.pre.current.revision .trial f

def samplePublished : Attempt :=
  (sampleRevised.withTransaction (sampleRevised.transaction.publishPendingCache 0 [⟨1, 6⟩] 7)).attempt

lemma samplePublished_ready : LocallyReady samplePublished.transaction samplePublished.current true {} := by
  rw [← readiness_ok_iff]
  decide

/-- Up to the publication. -/
def sampleProduction : List (Transition Attempt AttemptOp) :=
  [⟨sampleAttempt, .begin 0, sampleBegun⟩, ⟨sampleBegun, .reviseTrial 0, sampleRevised⟩,
    ⟨sampleRevised, .publish 0 [⟨1, 6⟩] 7, samplePublished⟩]

lemma sampleProduction_exec : Exec Attempt.Step sampleAttempt sampleProduction samplePublished := by
  have hbegin : Attempt.Step sampleAttempt (.begin 0) sampleBegun :=
    step_of_done (r := ⟨(sampleAttempt.begin 0).1, (sampleAttempt.begin 0).2, []⟩) rfl
  have hrevise : Attempt.Step sampleBegun (.reviseTrial 0) sampleRevised :=
    step_of_done (r := ⟨(sampleBegun.reviseTrial 0).1, (sampleBegun.reviseTrial 0).2, []⟩) rfl
  have hpublish : Attempt.Step sampleRevised (.publish 0 [⟨1, 6⟩] 7) samplePublished :=
    step_of_done (r := sampleRevised.withTransaction
      (sampleRevised.transaction.publishPendingCache 0 [⟨1, 6⟩] 7)) rfl
  exact ((Exec.single hbegin).append (Exec.single hrevise)).append (Exec.single hpublish)

def sampleRevisedAgain : Attempt := (samplePublished.reviseTrial 0).1

def sampleOverbound : Attempt :=
  (sampleRevisedAgain.withTransaction (sampleRevisedAgain.transaction.bindDependency ⟨1, 6⟩)).attempt

lemma sampleOverbound_ready : LocallyReady sampleOverbound.transaction sampleOverbound.current true {} := by
  rw [← readiness_ok_iff]
  decide

end HundunFlow.Proofs
