import HundunFlow.Proofs.FinishAgreement
import HundunFlow.Proofs.LayerRevisions

/-!
# What a call can do to an attempt

One lemma for each call on the transaction says everything the call can change.
-/

namespace HundunFlow.Proofs

open Lib List

structure Created (t : AttemptTransaction) : Prop where
  identity : t.attemptIdentity = 0
  idle : t.active = false
  free : t.finalFaceFluxWriter = false ∧ t.finalFaceFluxWriterIdentity = 0
  slots : t.pendingDependencies.length = t.pendingCaches.length
  writers : t.pendingCacheWriterIdentities.length = t.requiredPendingCaches.length
  unclaimed : ∀ slot, t.pendingCacheWriterIdentities.getD slot 0 = 0

variable (t : AttemptTransaction) {catalog : List RevisionDependency} {d : RevisionDependency}
  {layers : StateLayers} (a : Attempt) {localStatus : RawStatus} {communicator : MpiComm}

variable {catalog' : List RevisionDependency} {layers' : StateLayers} (slot ref : ℕ) (failActive : Bool)
  (p : PreparedAttemptFinish)

variable (dependencies : List RevisionDependency)

lemma create_ok {fields slots sources : ℕ} {t : AttemptTransaction}
    (h : AttemptTransaction.create fields slots sources true {} = (t, {})) : Created t := by
  unfold AttemptTransaction.create at h
  split at h
  · exact nomatch congrArg (·.2.code) h
  · simp only [Bool.not_true, Bool.false_eq_true, if_false] at h
    split at h
    · exact nomatch congrArg (·.2.code) h
    · simp only [Bool.or_false, ne_eq, not_true_eq_false, decide_false, Bool.false_eq_true,
        if_false] at h
      obtain rfl := congrArg Prod.fst h
      refine ⟨rfl, rfl, ⟨rfl, rfl⟩, by simp, by simp, fun slot => ?_⟩
      by_cases hslot : slot < slots <;> simp [getD_eq_getElem?_getD, hslot]

/-- Status and mutation revision after a change: the revision moved, or the attempt failed.
A failure is never taken back. -/
structure Moved (t : AttemptTransaction) (status : Status) (revision : ℕ) : Prop where
  monotone : t.mutationRevision ≤ revision
  moved : revision = t.mutationRevision → status.code ≠ .ok
  latched : t.attemptStatus.code ≠ .ok → status.code ≠ .ok
  advanced : t.mutationRevision ≠ maxU64 → t.mutationRevision < revision

lemma advance_moved (t u : AttemptTransaction) (hrevision : u.mutationRevision = t.mutationRevision)
    (hlatched : t.attemptStatus.code ≠ .ok → u.attemptStatus.code ≠ .ok) :
    ∃ s m, u.advanceMutationRevision = { u with attemptStatus := s, mutationRevision := m } ∧
      Moved t s m ∧ (u.attemptStatus.code ≠ .ok → s.code ≠ .ok) := by
  unfold AttemptTransaction.advanceMutationRevision
  by_cases h : u.mutationRevision = maxU64
  · refine ⟨⟨.invalidPlan, kTransactionState⟩, u.mutationRevision, by rw [if_pos h], ?_, by simp⟩
    exact ⟨hrevision.ge, fun _ => by simp, fun _ => by simp, fun hsmall => absurd (hrevision.symm.trans h) hsmall⟩
  · refine ⟨u.attemptStatus, u.mutationRevision + 1, by rw [if_neg h], ?_, id⟩
    exact ⟨by omega, fun heq => by omega, hlatched, fun _ => by omega⟩

lemma latch_moved (failure : Status) (hf : failure.code ≠ .ok) :
    ∃ s m, (t.latch failure).1 = { t with attemptStatus := s, mutationRevision := m } ∧
      Moved t s m ∧ s.code ≠ .ok ∧ (t.latch failure).2 = s := by
  obtain ⟨s, m, heq, hmoved, hs⟩ := advance_moved t { t with attemptStatus := failure } rfl (fun _ => hf)
  have hlatch : (t.latch failure).1 = { t with attemptStatus := s, mutationRevision := m } := heq
  refine ⟨s, m, hlatch, hmoved, hs hf, ?_⟩
  change (t.latch failure).1.attemptStatus = s
  rw [hlatch]

def DistinctSources (catalog : List RevisionDependency) : Prop :=
  (catalog.map RevisionDependency.source).Nodup

/-- `catalog'` is `catalog` with `d` bound: the other sources keep their entries. -/
structure Binds (d : RevisionDependency) (catalog catalog' : List RevisionDependency) : Prop where
  distinct : DistinctSources catalog'
  bound : ∀ e ∈ catalog', e.source = d.source → e.revision = d.revision
  other : ∀ e ∈ catalog', e.source ≠ d.source → e ∈ catalog

lemma rebind_none (h : AttemptTransaction.rebind d catalog = none) : ∀ e ∈ catalog, e.source ≠ d.source := by
  induction catalog with
  | nil => simp
  | cons bound rest ih =>
    unfold AttemptTransaction.rebind at h
    split at h
    · exact nomatch h
    · rename_i hne
      rw [Option.map_eq_none_iff] at h
      intro e he
      rcases mem_cons.mp he with rfl | hrest
      · exact hne
      · exact ih h e hrest

lemma rebind_binds (h : AttemptTransaction.rebind d catalog = some catalog')
    (hd : DistinctSources catalog) : Binds d catalog catalog' ∧
      catalog'.map RevisionDependency.source = catalog.map RevisionDependency.source := by
  induction catalog generalizing catalog' with
  | nil => exact absurd h (by simp [AttemptTransaction.rebind])
  | cons bound rest ih =>
    have hd' := hd
    unfold DistinctSources at hd'
    rw [map_cons, nodup_cons] at hd'
    unfold AttemptTransaction.rebind at h
    split at h
    · rename_i hsource
      obtain rfl : { bound with revision := d.revision } :: rest = catalog' := by simpa using h
      refine ⟨⟨hd, ?_, ?_⟩, rfl⟩
      · intro e he hes
        rcases mem_cons.mp he with rfl | hrest
        · rfl
        · refine absurd (mem_map_of_mem (f := RevisionDependency.source) hrest) ?_
          rw [hes, ← hsource]
          exact hd'.1
      · intro e he hes
        rcases mem_cons.mp he with rfl | hrest
        · exact absurd hsource hes
        · exact mem_cons_of_mem _ hrest
    · rename_i hsource
      obtain ⟨rest', hrest', rfl⟩ := Option.map_eq_some_iff.mp h
      obtain ⟨hbinds, hmap⟩ := ih hrest' hd'.2
      refine ⟨⟨?_, ?_, ?_⟩, by rw [map_cons, map_cons, hmap]⟩
      · unfold DistinctSources
        rw [map_cons, nodup_cons, hmap]
        exact hd'
      · intro e he hes
        rcases mem_cons.mp he with rfl | hin
        · exact absurd hes hsource
        · exact hbinds.bound e hin hes
      · intro e he hes
        rcases mem_cons.mp he with rfl | hin
        · exact mem_cons_self
        · exact mem_cons_of_mem _ (hbinds.other e hin hes)

lemma append_binds (h : AttemptTransaction.rebind d catalog = none) (hd : DistinctSources catalog) :
    Binds d catalog (catalog ++ [d]) := by
  have hfresh := rebind_none h
  refine ⟨?_, ?_, ?_⟩
  · unfold DistinctSources
    rw [map_append, map_cons, map_nil, ← concat_eq_append, nodup_concat]
    refine ⟨?_, hd⟩
    intro hmem
    obtain ⟨e, he, hes⟩ := mem_map.mp hmem
    exact hfresh e he hes
  · intro e he hes
    rcases mem_append.mp he with hold | hnew
    · exact absurd hes (hfresh e hold)
    · rw [mem_singleton.mp hnew]
  · intro e he hes
    rcases mem_append.mp he with hold | hnew
    · exact hold
    · exact absurd (congrArg RevisionDependency.source (mem_singleton.mp hnew)) hes

/-- Everything `bind_dependency` can do: refuse, fail the attempt, or bind. -/
theorem bindDependency_cases (d : RevisionDependency) :
    ((t.bindDependency d).1 = t ∧ (t.bindDependency d).2.code ≠ .ok ∧
      (t.locallyActive = false ∨ t.attemptStatus.code ≠ .ok)) ∨
    ∃ s m catalog, (t.bindDependency d).1 =
        { t with dependencyCatalog := catalog, attemptStatus := s, mutationRevision := m } ∧
      Moved t s m ∧ t.locallyActive = true ∧ t.attemptStatus.code = .ok ∧
      ((catalog = t.dependencyCatalog ∧ s.code ≠ .ok ∧ (t.bindDependency d).2.code ≠ .ok) ∨
        ((t.bindDependency d).2 = {} ∧
          (DistinctSources t.dependencyCatalog → Binds d t.dependencyCatalog catalog))) := by
  unfold AttemptTransaction.bindDependency
  by_cases hactive : t.locallyActive = true
  · by_cases hstatus : t.attemptStatus.code = .ok
    · simp only [hactive, Bool.not_true, Bool.false_eq_true, if_false, ne_eq, hstatus, not_true_eq_false]
      have hlatch := latch_moved t ⟨.invalidPlan, kTransactionCacheRevision⟩ (by simp)
      obtain ⟨s, m, heq, hmoved, hs, hresult⟩ := hlatch
      by_cases hzero : (d.source = 0 || d.revision = 0) = true
      · rw [if_pos hzero]
        exact .inr ⟨s, m, _, heq, hmoved, trivial, trivial, .inl ⟨rfl, hs, hresult ▸ hs⟩⟩
      · rw [if_neg hzero]
        cases hrebind : AttemptTransaction.rebind d t.dependencyCatalog with
        | some catalog =>
          obtain ⟨s', m', heq', hmoved', -⟩ :=
            advance_moved t { t with dependencyCatalog := catalog } rfl id
          exact .inr ⟨s', m', catalog, heq', hmoved', trivial, trivial,
            .inr ⟨rfl, fun hd => (rebind_binds hrebind hd).1⟩⟩
        | none =>
          by_cases hfull : t.catalogCapacity ≤ t.dependencyCatalog.length
          · simp only [hfull, if_true]
            exact .inr ⟨s, m, _, heq, hmoved, trivial, trivial, .inl ⟨rfl, hs, hresult ▸ hs⟩⟩
          · simp only [hfull, if_false]
            obtain ⟨s', m', heq', hmoved', -⟩ :=
              advance_moved t { t with dependencyCatalog := t.dependencyCatalog ++ [d] } rfl id
            exact .inr ⟨s', m', _, heq', hmoved', trivial, trivial,
              .inr ⟨trivial, append_binds hrebind⟩⟩
    · simp [hactive, hstatus]
  · simp [hactive]

/-- The catalog shows the trial revision of every state field it knows. -/
structure CatalogFresh (catalog : List RevisionDependency) (layers : StateLayers) : Prop where
  distinct : DistinctSources catalog
  fresh : ∀ d ∈ catalog, ∀ f, layers.isStateField f = true → d.source = fieldRevisionSource f →
    d.revision = layers.revision .trial f

lemma catalogFresh_nil (layers : StateLayers) : CatalogFresh [] layers :=
  ⟨nodup_nil, nofun⟩

lemma CatalogFresh.binds
    (h : CatalogFresh catalog layers) (hb : Binds d catalog catalog')
    (hd : ∀ f, layers.isStateField f = true → d.source = fieldRevisionSource f →
      d.revision = layers.revision .trial f) : CatalogFresh catalog' layers := by
  refine ⟨hb.distinct, fun e he f hf hsource => ?_⟩
  by_cases heq : e.source = d.source
  · rw [hb.bound e he heq]
    exact hd f hf (heq ▸ hsource)
  · exact h.fresh e (hb.other e he heq) f hf hsource

lemma CatalogFresh.congr (h : CatalogFresh catalog layers) (hflags : layers'.stateFields = layers.stateFields)
    (hrevision : ∀ f, layers'.revision .trial f = layers.revision .trial f) : CatalogFresh catalog layers' := by
  refine ⟨h.distinct, fun d hd f hf hsource => ?_⟩
  unfold StateLayers.isStateField at hf
  rw [hflags] at hf
  rw [hrevision]
  exact h.fresh d hd f hf hsource

lemma fieldRevisionSource_inj {f g : ℕ} (h : fieldRevisionSource f = fieldRevisionSource g) : f = g := by
  unfold fieldRevisionSource at h
  omega

lemma CatalogFresh.revised (h : CatalogFresh catalog layers) {f r : ℕ} (hv : ValidLayers layers)
    (hdrawn : Drawn layers layers' r f) (hr : r < kRoleCount) (hf : f < layers.fieldCount)
    (hb : Binds ⟨fieldRevisionSource f, layers'.revision .trial f⟩ catalog catalog') :
    CatalogFresh catalog' layers' := by
  refine ⟨hb.distinct, fun e he g hg hsource => ?_⟩
  by_cases hgf : g = f
  · subst hgf
    exact hb.bound e he hsource
  · have hne : e.source ≠ fieldRevisionSource f := by
      rw [hsource]
      exact mt fieldRevisionSource_inj hgf
    have hstate : layers.isStateField g = true := by
      unfold StateLayers.isStateField at hg ⊢
      rwa [hdrawn.frame.2.2.1] at hg
    rw [hdrawn.revision hv hr hf .trial g, if_neg (fun hcontra => hgf hcontra.2.2)]
    exact h.fresh e (hb.other e he hne) g hstate hsource

structure Within (t t' : AttemptTransaction) : Prop where
  layers : t'.layers = t.layers
  active : t'.active = t.active
  committed : t'.committed = t.committed
  activeCaches : t'.activeCaches = t.activeCaches
  attemptIdentity : t'.attemptIdentity = t.attemptIdentity
  required : t'.requiredPendingCaches = t.requiredPendingCaches
  writers : t'.pendingCacheWriterIdentities = t.pendingCacheWriterIdentities
  writerIdentity : t'.finalFaceFluxWriterIdentity = t.finalFaceFluxWriterIdentity
  slots : t'.pendingCaches.length = t.pendingCaches.length ∧
    t'.pendingDependencies.length = t.pendingDependencies.length
  /-- A publication stays. -/
  published : ∀ slot, t.pendingCaches.getD slot 0 ≠ 0 →
    t'.pendingCaches.getD slot 0 = t.pendingCaches.getD slot 0 ∧
      t'.pendingDependencies.getD slot [] = t.pendingDependencies.getD slot []
  monotone : t.mutationRevision ≤ t'.mutationRevision
  latched : t.attemptStatus.code ≠ .ok → t'.attemptStatus.code ≠ .ok
  moved : t.active = true → t' = t ∨ Moved t t'.attemptStatus t'.mutationRevision

lemma Within.refl : Within t t :=
  ⟨rfl, rfl, rfl, rfl, rfl, rfl, rfl, rfl, ⟨rfl, rfl⟩, fun _ _ => ⟨rfl, rfl⟩, le_rfl, id,
    fun _ => .inl rfl⟩

lemma Moved.within {t : AttemptTransaction} {s : Status} {m : ℕ} (h : Moved t s m)
    (catalog : List RevisionDependency) (revised : List Bool) (writer : Bool) : Within t { t with
      dependencyCatalog := catalog, revisedFields := revised, finalFaceFluxWriter := writer
      attemptStatus := s, mutationRevision := m } :=
  ⟨rfl, rfl, rfl, rfl, rfl, rfl, rfl, rfl, ⟨rfl, rfl⟩, fun _ _ => ⟨rfl, rfl⟩, h.monotone, h.latched,
    fun _ => .inr h⟩

lemma bindDependency_within (d : RevisionDependency) : Within t (t.bindDependency d).1 := by
  rcases bindDependency_cases t d with ⟨h, -⟩ | ⟨s, m, catalog, h, hmoved, -⟩
  · rw [h]
    exact .refl t
  · rw [h]
    exact hmoved.within catalog t.revisedFields t.finalFaceFluxWriter

/-- What `revise_trial` does when it issues a revision. -/
structure Revised (t : AttemptTransaction) (layers : StateLayers) (field : ℕ)
    (r : AttemptTransaction × StateLayers × Status) : Prop where
  active : t.locallyActive = true
  status : t.attemptStatus.code = .ok
  stateField : layers.isStateField field = true
  inRange : field < layers.fieldCount
  drawn : Drawn layers r.2.1 (layers.handle .trial) field
  transaction : ∃ s m catalog, r.1 =
      { t with
        dependencyCatalog := catalog
        revisedFields := t.revisedFields.set field true
        attemptStatus := s
        mutationRevision := m } ∧
    Moved t s m ∧
    (s.code ≠ .ok ∧ r.2.2.code ≠ .ok ∨
      (DistinctSources t.dependencyCatalog →
        Binds ⟨fieldRevisionSource field, r.2.1.revision .trial field⟩ t.dependencyCatalog catalog))

/-- Everything `revise_trial` can do: refuse, fail the attempt, or issue a revision. -/
theorem reviseTrial_cases (layers : StateLayers) (field : ℕ) :
    ((t.reviseTrial layers field).1 = t ∧ (t.reviseTrial layers field).2.1 = layers ∧
      (t.reviseTrial layers field).2.2.code ≠ .ok) ∨
    (∃ s m, (t.reviseTrial layers field).1 = { t with attemptStatus := s, mutationRevision := m } ∧
      Moved t s m ∧ s.code ≠ .ok ∧ (t.reviseTrial layers field).2.1 = layers ∧
      (t.reviseTrial layers field).2.2.code ≠ .ok) ∨
    Revised t layers field (t.reviseTrial layers field) := by
  unfold AttemptTransaction.reviseTrial
  by_cases hactive : t.locallyActive = true
  · by_cases hstatus : t.attemptStatus.code = .ok
    · simp only [hactive, Bool.not_true, Bool.false_eq_true, if_false, ne_eq, hstatus, not_true_eq_false]
      by_cases hfield : (t.revisedFields.length ≤ field || !layers.isStateField field) = true
      · rw [if_pos hfield]
        obtain ⟨s, m, heq, hmoved, hs, hresult⟩ :=
          latch_moved t ⟨.invalidPlan, kTransactionState⟩ (by simp)
        exact .inr (.inl ⟨s, m, heq, hmoved, hs, rfl, hresult ▸ hs⟩)
      · rw [if_neg hfield]
        rcases issueRevision_cases layers (layers.handle .trial) field with
          hissue | ⟨-, hcount, hstate, hok, hdrawn⟩
        · rw [hissue]
          obtain ⟨s, m, heq, hmoved, hs, -⟩ :=
            latch_moved t ⟨.invalidPlan, kArenaRevision⟩ (by simp)
          exact .inr (.inl ⟨s, m, heq, hmoved, hs, rfl, by simp [Status.isOk]⟩)
        · refine .inr (.inr ?_)
          have hisOk : (layers.issueRevision (layers.handle .trial) field).2.isOk = true := by
            rw [hok]
            rfl
          simp only [hisOk, Bool.not_true, Bool.false_eq_true, if_false]
          refine ⟨hactive, hstatus, hstate, hcount, hdrawn, ?_⟩
          rcases bindDependency_cases { t with revisedFields := t.revisedFields.set field true }
              ⟨fieldRevisionSource field,
                (layers.issueRevision (layers.handle .trial) field).1.revision .trial field⟩ with
            ⟨-, -, hrefused⟩ | ⟨s, m, catalog, heq, hmoved, -, -, hkind⟩
          · -- an active attempt in good standing is not refused
            rcases hrefused with hoff | hlatched
            · cases hoff.symm.trans hactive
            · exact absurd hstatus hlatched
          · refine ⟨s, m, catalog, heq, ⟨hmoved.monotone, hmoved.moved, hmoved.latched, hmoved.advanced⟩, ?_⟩
            rcases hkind with ⟨-, hs, hresult⟩ | ⟨-, hbinds⟩
            · exact .inl ⟨hs, hresult⟩
            · exact .inr hbinds
    · simp [hactive, hstatus]
  · simp [hactive]

lemma reviseTrial_within (layers : StateLayers) (field : ℕ) : Within t (t.reviseTrial layers field).1 := by
  rcases reviseTrial_cases t layers field with ⟨h, -⟩ | ⟨s, m, h, hmoved, -⟩ | hrevised
  · rw [h]
    exact .refl t
  · rw [h]
    exact hmoved.within t.dependencyCatalog t.revisedFields t.finalFaceFluxWriter
  · obtain ⟨s, m, catalog, h, hmoved, -⟩ := hrevised.transaction
    rw [h]
    exact hmoved.within catalog _ t.finalFaceFluxWriter

/-- No slot was filled or emptied. -/
def SameSlots (t t' : AttemptTransaction) : Prop :=
  t'.pendingCaches = t.pendingCaches ∧ t'.pendingDependencies = t.pendingDependencies

lemma bindDependency_slots (d : RevisionDependency) : SameSlots t (t.bindDependency d).1 := by
  rcases bindDependency_cases t d with ⟨h, -⟩ | ⟨s, m, catalog, h, -⟩ <;>
    · rw [h]
      exact ⟨rfl, rfl⟩

lemma reviseTrial_slots (layers : StateLayers) (field : ℕ) : SameSlots t (t.reviseTrial layers field).1 := by
  rcases reviseTrial_cases t layers field with ⟨h, -⟩ | ⟨s, m, h, -⟩ | hrevised
  · rw [h]
    exact ⟨rfl, rfl⟩
  · rw [h]
    exact ⟨rfl, rfl⟩
  · obtain ⟨s, m, catalog, h, -⟩ := hrevised.transaction
    rw [h]
    exact ⟨rfl, rfl⟩

lemma certificatesBound_mem {t : AttemptTransaction} {prior dependencies : List RevisionDependency}
    (h : t.certificatesBound prior dependencies = true) :
    ∀ d ∈ dependencies, d ∈ t.dependencyCatalog := by
  induction dependencies generalizing prior with
  | nil => simp
  | cons certificate rest ih =>
    unfold AttemptTransaction.certificatesBound at h
    simp only [Bool.and_eq_true] at h
    obtain ⟨⟨⟨-, hmatch⟩, -⟩, hrest⟩ := h
    intro d hd
    rcases mem_cons.mp hd with rfl | htail
    · exact (matchesAuthority_iff t d).mp hmatch
    · exact ih hrest d htail

/-- A publication into `slot` that took effect. -/
structure Published (t : AttemptTransaction) (slot : ℕ) (dependencies : List RevisionDependency)
    (stamp writerIdentity : ℕ) (t' : AttemptTransaction) : Prop where
  active : t.locallyActive = true
  status : t.attemptStatus.code = .ok
  slot_lt : slot < t.pendingCaches.length
  writer : t.pendingCacheWriterIdentities.getD slot 0 = writerIdentity
  stamp_ne : stamp ≠ 0
  empty : t.pendingCaches.getD slot 0 = 0
  bound : ∀ d ∈ dependencies, d ∈ t.dependencyCatalog
  transaction : ∃ s m, t' =
      { t with
        pendingDependencies := t.pendingDependencies.set slot dependencies
        pendingCaches := t.pendingCaches.set slot stamp
        attemptStatus := s
        mutationRevision := m } ∧ Moved t s m

/-- Everything a publication can do: refuse, fail the attempt, or fill the slot. -/
theorem publish_cases (stamp writerIdentity : ℕ) :
    ((t.publishPendingCacheImpl slot dependencies stamp writerIdentity).1 = t ∧
      (t.publishPendingCacheImpl slot dependencies stamp writerIdentity).2.code ≠ .ok) ∨
    (∃ s m, (t.publishPendingCacheImpl slot dependencies stamp writerIdentity).1 =
        { t with attemptStatus := s, mutationRevision := m } ∧ Moved t s m ∧ s.code ≠ .ok ∧
      (t.publishPendingCacheImpl slot dependencies stamp writerIdentity).2.code ≠ .ok) ∨
    ((t.publishPendingCacheImpl slot dependencies stamp writerIdentity).2 = {} ∧
      Published t slot dependencies stamp writerIdentity
        (t.publishPendingCacheImpl slot dependencies stamp writerIdentity).1) := by
  have hpre : (∃ failure, t.preflightPendingCacheImpl slot dependencies stamp writerIdentity =
        some failure ∧ failure.code ≠ .ok) ∨
      (t.preflightPendingCacheImpl slot dependencies stamp writerIdentity = none ∧
        t.locallyActive = true ∧ t.attemptStatus.code = .ok ∧ slot < t.pendingCaches.length ∧
        t.pendingCacheWriterIdentities.getD slot 0 = writerIdentity ∧ stamp ≠ 0 ∧
        t.pendingCaches.getD slot 0 = 0 ∧ t.certificatesBound [] dependencies = true) := by
    unfold AttemptTransaction.preflightPendingCacheImpl
    split
    · exact .inl ⟨_, rfl, by simp⟩
    · rename_i hactive
      split
      · rename_i hstatus
        exact .inl ⟨_, rfl, hstatus⟩
      · rename_i hstatus
        split
        · exact .inl ⟨_, rfl, by simp⟩
        · rename_i hslot
          split
          · exact .inl ⟨_, rfl, by simp⟩
          · rename_i hguard
            split
            · exact .inl ⟨_, rfl, by simp⟩
            · rename_i hbound
              simp only [Bool.or_eq_true, decide_eq_true_eq, not_or, ne_eq, not_not] at hguard
              exact .inr ⟨rfl, by simpa using hactive, by simpa using hstatus, not_le.mp hslot,
                hguard.1.1.1.1, hguard.1.1.1.2, hguard.2, by simpa using hbound⟩
  unfold AttemptTransaction.publishPendingCacheImpl
  rcases hpre with ⟨failure, heq, hfailure⟩ |
    ⟨heq, hactive, hstatus, hslot, hwriter, hstamp, hempty, hbound⟩
  · rw [heq]
    dsimp only
    split
    · obtain ⟨s, m, hlatch, hmoved, hs, hresult⟩ := latch_moved t failure hfailure
      exact .inr (.inl ⟨s, m, hlatch, hmoved, hs, hresult ▸ hs⟩)
    · exact .inl ⟨rfl, hfailure⟩
  · rw [heq]
    obtain ⟨s, m, hadvance, hmoved, -⟩ := advance_moved t
      { t with
        pendingDependencies := t.pendingDependencies.set slot dependencies
        pendingCaches := t.pendingCaches.set slot stamp } rfl id
    exact .inr (.inr ⟨rfl, hactive, hstatus, hslot, hwriter, hstamp, hempty,
      certificatesBound_mem hbound, s, m, hadvance, hmoved⟩)

lemma getD_set_of_ne {α : Type} (l : List α) (slot slot' : ℕ) (a d : α) (h : slot' ≠ slot) :
    (l.set slot a).getD slot' d = l.getD slot' d := by
  rw [getD_eq_getElem?_getD, List.getElem?_set_ne (Ne.symm h), getD_eq_getElem?_getD]

lemma getD_set_self {α : Type} (l : List α) (slot : ℕ) (a d : α) (h : slot < l.length) :
    (l.set slot a).getD slot d = a := by
  rw [getD_eq_getElem?_getD, List.getElem?_set_self h, Option.getD_some]

lemma getD_map_const {α β : Type} (l : List α) (slot : ℕ) (b : β) : (l.map fun _ => b).getD slot b = b := by
  rw [getD_eq_getElem?_getD, List.getElem?_map]
  cases l[slot]? <;> rfl

lemma Published.within {t t' : AttemptTransaction} {slot stamp writerIdentity : ℕ}
    {dependencies : List RevisionDependency} (h : Published t slot dependencies stamp writerIdentity t') :
    Within t t' := by
  obtain ⟨s, m, rfl, hmoved⟩ := h.transaction
  refine ⟨rfl, rfl, rfl, rfl, rfl, rfl, rfl, rfl, ⟨length_set, length_set⟩, ?_,
    hmoved.monotone, hmoved.latched, fun _ => .inr hmoved⟩
  intro slot' hslot'
  have hne : slot' ≠ slot := by
    rintro rfl
    exact hslot' h.empty
  exact ⟨getD_set_of_ne _ _ _ _ _ hne, getD_set_of_ne _ _ _ _ _ hne⟩

lemma publish_within (stamp writerIdentity : ℕ) :
    Within t (t.publishPendingCacheImpl slot dependencies stamp writerIdentity).1 := by
  rcases publish_cases t slot dependencies stamp writerIdentity with
    ⟨h, -⟩ | ⟨s, m, h, hmoved, -⟩ | ⟨-, hpubl⟩
  · rw [h]
    exact .refl t
  · rw [h]
    exact hmoved.within t.dependencyCatalog t.revisedFields t.finalFaceFluxWriter
  · exact hpubl.within

lemma publishFinal_eq (stamp writerIdentity : ℕ) :
    t.publishFinalFaceFluxCache slot dependencies stamp writerIdentity =
      if writerIdentity = 0 then (t, ⟨.invalidPlan, kTransactionCacheSlot⟩)
      else t.publishPendingCacheImpl slot dependencies stamp writerIdentity := rfl

lemma publishFinal_within (stamp writerIdentity : ℕ) :
    Within t (t.publishFinalFaceFluxCache slot dependencies stamp writerIdentity).1 := by
  rw [publishFinal_eq]
  split
  · exact .refl t
  · exact publish_within t slot dependencies stamp writerIdentity

lemma invalidate_cases : t.invalidateFinalFaceFluxWriter = t ∨
    ∃ s m, t.invalidateFinalFaceFluxWriter = { t with attemptStatus := s, mutationRevision := m } ∧
      Moved t s m ∧ s.code ≠ .ok := by
  unfold AttemptTransaction.invalidateFinalFaceFluxWriter
  split
  · obtain ⟨s, m, h, hmoved, hs⟩ := advance_moved t
      { t with attemptStatus := ⟨.invalidPlan, kTransactionIncompleteState⟩ } rfl (fun _ => by simp)
    exact .inr ⟨s, m, h, hmoved, hs (by simp)⟩
  · exact .inl rfl

lemma invalidate_within : Within t t.invalidateFinalFaceFluxWriter := by
  rcases invalidate_cases t with h | ⟨s, m, h, hmoved, -⟩
  · rw [h]
    exact .refl t
  · rw [h]
    exact hmoved.within t.dependencyCatalog t.revisedFields t.finalFaceFluxWriter

lemma invalidate_fails {t : AttemptTransaction} (hwriter : t.finalFaceFluxWriter = true)
    (hactive : t.active = true) : t.invalidateFinalFaceFluxWriter.attemptStatus.code ≠ .ok := by
  by_cases hstatus : t.attemptStatus.code = .ok
  · obtain ⟨s, m, h, -, hs⟩ := advance_moved t
      { t with attemptStatus := ⟨.invalidPlan, kTransactionIncompleteState⟩ } rfl (fun _ => by simp)
    unfold AttemptTransaction.invalidateFinalFaceFluxWriter
    rw [if_pos (by simp [hwriter, hactive, hstatus]), h]
    exact hs (by simp)
  · exact (invalidate_within t).latched hstatus

lemma detach_cases : (t.finalFaceFluxWriter = false ∧ t.detachFinalFaceFluxWriter failActive = t) ∨
    (t.active = false ∧
      t.detachFinalFaceFluxWriter failActive = { t with finalFaceFluxWriter := false }) ∨
    (t.active = true ∧ ∃ s m, t.detachFinalFaceFluxWriter failActive =
      { t with finalFaceFluxWriter := false, attemptStatus := s, mutationRevision := m } ∧
        Moved t s m ∧ (failActive = true → s.code ≠ .ok)) := by
  unfold AttemptTransaction.detachFinalFaceFluxWriter
  by_cases hwriter : t.finalFaceFluxWriter = true
  · have hguard : ¬ (!t.finalFaceFluxWriter) = true := by simp [hwriter]
    rw [if_neg hguard]
    dsimp only
    by_cases hactive : t.active = true
    · refine .inr (.inr ⟨hactive, ?_⟩)
      by_cases hfail : (failActive && t.active && decide (t.attemptStatus.code = .ok)) = true
      · obtain ⟨s, m, h, hmoved, hs⟩ := advance_moved t
          { t with
            attemptStatus := ⟨.invalidPlan, kTransactionIncompleteState⟩
            finalFaceFluxWriter := false } rfl (fun _ => by simp)
        refine ⟨s, m, ?_, hmoved, fun _ => hs (by simp)⟩
        rw [if_pos hfail, if_pos hactive]
        exact h
      · obtain ⟨s, m, h, hmoved, hs⟩ := advance_moved t { t with finalFaceFluxWriter := false } rfl id
        refine ⟨s, m, ?_, hmoved, fun hfailActive => hs ?_⟩
        · rw [if_neg hfail, if_pos hactive]
          exact h
        · intro hstatus
          exact hfail (by simp [hfailActive, hactive, show t.attemptStatus.code = .ok from hstatus])
    · refine .inr (.inl ⟨by simpa using hactive, ?_⟩)
      have hfail : ¬ (failActive && t.active && decide (t.attemptStatus.code = .ok)) = true := by
        simp [hactive]
      rw [if_neg hfail, if_neg hactive]
  · simp [hwriter]

lemma detach_within : Within t (t.detachFinalFaceFluxWriter failActive) := by
  rcases detach_cases t failActive with ⟨-, h⟩ | ⟨hactive, h⟩ | ⟨-, s, m, h, hmoved, -⟩
  · rw [h]
    exact .refl t
  · rw [h]
    refine ⟨rfl, rfl, rfl, rfl, rfl, rfl, rfl, rfl, ⟨rfl, rfl⟩, fun _ _ => ⟨rfl, rfl⟩, le_rfl, id,
      fun h => ?_⟩
    exact nomatch hactive.symm.trans h
  · rw [h]
    exact hmoved.within t.dependencyCatalog t.revisedFields false

lemma detach_flag : (t.detachFinalFaceFluxWriter failActive).finalFaceFluxWriter = false := by
  rcases detach_cases t failActive with ⟨hfree, h⟩ | ⟨-, h⟩ | ⟨-, s, m, h, -⟩ <;> rw [h]
  exact hfree

lemma detach_fails {t : AttemptTransaction} (hwriter : t.finalFaceFluxWriter = true)
    (hactive : t.active = true) : (t.detachFinalFaceFluxWriter true).attemptStatus.code ≠ .ok := by
  rcases detach_cases t true with ⟨hfree, -⟩ | ⟨hidle, -⟩ | ⟨-, s, m, h, -, hs⟩
  · exact nomatch hfree.symm.trans hwriter
  · exact nomatch hidle.symm.trans hactive
  · rw [h]
    exact hs rfl

lemma invalidate_slots : SameSlots t t.invalidateFinalFaceFluxWriter := by
  rcases invalidate_cases t with h | ⟨s, m, h, -⟩ <;>
    · rw [h]
      exact ⟨rfl, rfl⟩

lemma detach_slots : SameSlots t (t.detachFinalFaceFluxWriter failActive) := by
  rcases detach_cases t failActive with ⟨-, h⟩ | ⟨-, h⟩ | ⟨-, s, m, h, -⟩ <;>
    · rw [h]
      exact ⟨rfl, rfl⟩

lemma publish_slots (stamp writerIdentity : ℕ) :
    SameSlots t (t.publishPendingCacheImpl slot dependencies stamp writerIdentity).1 ∨
    Published t slot dependencies stamp writerIdentity
      (t.publishPendingCacheImpl slot dependencies stamp writerIdentity).1 := by
  rcases publish_cases t slot dependencies stamp writerIdentity with
    ⟨h, -⟩ | ⟨s, m, h, -⟩ | ⟨-, hpubl⟩
  · rw [h]
    exact .inl ⟨rfl, rfl⟩
  · rw [h]
    exact .inl ⟨rfl, rfl⟩
  · exact .inr hpubl

lemma publishFinal_slots (stamp writerIdentity : ℕ) :
    SameSlots t (t.publishFinalFaceFluxCache slot dependencies stamp writerIdentity).1 ∨
    writerIdentity ≠ 0 ∧ Published t slot dependencies stamp writerIdentity
      (t.publishFinalFaceFluxCache slot dependencies stamp writerIdentity).1 := by
  rw [publishFinal_eq]
  split
  · exact .inl ⟨rfl, rfl⟩
  · rename_i hidentity
    rcases publish_slots t slot dependencies stamp writerIdentity with hsame | hpubl
    · exact .inl hsame
    · exact .inr ⟨hidentity, hpubl⟩

lemma issueTrial_extends (hv : ValidLayers layers) (fields : List ℕ) :
    Extends layers (AttemptTransaction.issueTrial layers (layers.handle .trial) fields).1 := by
  induction fields generalizing layers with
  | nil => exact .refl hv
  | cons field rest ih =>
    unfold AttemptTransaction.issueTrial
    by_cases hstate : layers.isStateField field = true
    · rw [if_pos hstate]
      have hissue := issueRevision_extends hv field
      have hhandle : (layers.issueRevision (layers.handle .trial) field).1.handle .trial =
          layers.handle .trial := congrFun hissue.handles .trial
      have hrest := ih hissue.valid
      rw [hhandle] at hrest
      dsimp only
      split
      · exact hissue.trans hrest
      · exact hissue
    · rw [if_neg hstate]
      exact ih hv

lemma bindTrial_cases (layers : StateLayers) (t : AttemptTransaction) (fields : List ℕ)
    (hfresh : CatalogFresh t.dependencyCatalog layers) :
    ∃ s m catalog, (t.bindTrial layers fields).1 =
      { t with dependencyCatalog := catalog, attemptStatus := s, mutationRevision := m } ∧
      CatalogFresh catalog layers := by
  induction fields generalizing t with
  | nil => exact ⟨t.attemptStatus, t.mutationRevision, t.dependencyCatalog, rfl, hfresh⟩
  | cons field rest ih =>
    unfold AttemptTransaction.bindTrial
    by_cases hstate : layers.isStateField field = true
    · rw [if_pos hstate]
      have hbound : ∃ s m catalog,
          (t.bindDependency ⟨fieldRevisionSource field, layers.revision .trial field⟩).1 =
            { t with dependencyCatalog := catalog, attemptStatus := s, mutationRevision := m } ∧
          CatalogFresh catalog layers := by
        rcases bindDependency_cases t ⟨fieldRevisionSource field, layers.revision .trial field⟩ with
          ⟨h, -⟩ | ⟨s, m, catalog, h, -, -, -, hkind⟩
        · exact ⟨t.attemptStatus, t.mutationRevision, t.dependencyCatalog, h, hfresh⟩
        · refine ⟨s, m, catalog, h, ?_⟩
          rcases hkind with ⟨rfl, -⟩ | ⟨-, hbinds⟩
          · exact hfresh
          · refine hfresh.binds (hbinds hfresh.distinct) fun f _ hsource => ?_
            rw [fieldRevisionSource_inj hsource]
      obtain ⟨s, m, catalog, h, hcatalog⟩ := hbound
      dsimp only
      split
      · obtain ⟨s', m', catalog', h', hcatalog'⟩ := ih
          (t.bindDependency ⟨fieldRevisionSource field, layers.revision .trial field⟩).1
          (by rw [h]; exact hcatalog)
        rw [h'] 
        exact ⟨s', m', catalog', by rw [h], hcatalog'⟩
      · exact ⟨s, m, catalog, h, hcatalog⟩
    · rw [if_neg hstate]
      exact ih t hfresh

lemma beginIdle_zero (layers : StateLayers) : t.beginIdle ref 0 layers =
      ({ t with attemptStatus := ⟨.invalidPlan, kTransactionState⟩ }, layers,
        ⟨.invalidPlan, kTransactionState⟩) := by
  simp [AttemptTransaction.beginIdle]

lemma beginIdle_cases {identity : ℕ} (hid : identity ≠ 0)
    (layers : StateLayers) : ∃ bound s m catalog, (t.beginIdle ref identity layers).1 =
      { t.openAttempt ref identity with
        boundLayersIdentity := bound
        dependencyCatalog := catalog
        attemptStatus := s
        mutationRevision := m } ∧
      CatalogFresh catalog (t.beginIdle ref identity layers).2.1 ∧
      (ValidLayers layers → Extends layers (t.beginIdle ref identity layers).2.1) := by
  have hfailed : ∀ s, ∃ bound s' m catalog,
      { t.openAttempt ref identity with attemptStatus := s } =
        { t.openAttempt ref identity with
          boundLayersIdentity := bound
          dependencyCatalog := catalog
          attemptStatus := s'
          mutationRevision := m } ∧ CatalogFresh catalog layers ∧ (ValidLayers layers → Extends layers layers) :=
    fun s => ⟨_, s, _, [], rfl, catalogFresh_nil layers, Extends.refl⟩
  unfold AttemptTransaction.beginIdle
  rw [if_neg hid]
  dsimp only
  split
  · exact hfailed _
  · split
    · exact hfailed _
    · split
      · exact hfailed _
      · split
        · exact hfailed _
        · have hissue := fun hv : ValidLayers layers => issueTrial_extends hv (range layers.fieldCount)
          split
          · exact ⟨_, _, _, [], rfl, catalogFresh_nil _, hissue⟩
          · obtain ⟨s, m, catalog, h, hfresh⟩ := bindTrial_cases
              (AttemptTransaction.issueTrial layers (layers.handle .trial)
                (range layers.fieldCount)).1
              { t.openAttempt ref identity with boundLayersIdentity := layers.storageIdentity }
              (range layers.fieldCount) (catalogFresh_nil _)
            exact ⟨_, s, m, catalog, h, hfresh, hissue⟩

/-- The attempt `begin` opened on the layers `ref`. -/
structure Opened (a : Attempt) (ref : ℕ) (a' : Attempt) : Prop where
  idle : a.transaction.active = false
  identity : a.nextIdentity ≠ 0 ∧ a'.nextIdentity = a.nextIdentity + 1
  prepared : a'.prepared = a.prepared
  layers : ∃ layers, a'.layers = Function.update a.layers ref layers ∧
    (ValidLayers (a.layers ref) → Extends (a.layers ref) layers)
  transaction : ∃ bound s m catalog, a'.transaction =
      { a.transaction.openAttempt ref a.nextIdentity with
        boundLayersIdentity := bound
        dependencyCatalog := catalog
        attemptStatus := s
        mutationRevision := m } ∧
    CatalogFresh catalog (a'.layers ref)

lemma issueIdentity_cases (next : ℕ) : ((issueIdentity next).1 = 0 ∧ next ≤ (issueIdentity next).2) ∨
    (next ≠ 0 ∧ issueIdentity next = (next, next + 1)) := by
  unfold issueIdentity
  by_cases hmax : next = maxU64
  · rw [if_pos hmax]
    exact .inl ⟨rfl, le_rfl⟩
  · rw [if_neg hmax]
    by_cases hzero : next = 0
    · exact .inl ⟨hzero, by simp⟩
    · exact .inr ⟨hzero, rfl⟩

lemma issueIdentity_le (next : ℕ) : next ≤ (issueIdentity next).2 := by
  rcases issueIdentity_cases next with ⟨-, hle⟩ | ⟨-, heq⟩
  · exact hle
  · rw [heq]
    exact Nat.le_succ _

/-- Everything `begin` can do: fail the attempt under way, fail for want of an identity, or
open an attempt, which may have failed already. -/
theorem begin_cases : (a.transaction.active = true ∧ ∃ s m, (a.begin ref).1 =
      { a with transaction := { a.transaction with attemptStatus := s, mutationRevision := m } } ∧
      Moved a.transaction s m ∧ s.code ≠ .ok) ∨
    (a.transaction.active = false ∧ ∃ s, (a.begin ref).1.layers = a.layers ∧
      (a.begin ref).1.prepared = a.prepared ∧ a.nextIdentity ≤ (a.begin ref).1.nextIdentity ∧
      (a.begin ref).1.transaction = { a.transaction with attemptStatus := s } ∧ s.code ≠ .ok) ∨
    Opened a ref (a.begin ref).1 := by
  unfold Attempt.begin
  by_cases hactive : a.transaction.active = true
  · rw [if_pos hactive]
    obtain ⟨s, m, heq, hmoved, hs, -⟩ := latch_moved a.transaction ⟨.invalidPlan, kTransactionState⟩ (by simp)
    refine .inl ⟨hactive, s, m, ?_, hmoved, hs⟩
    dsimp only
    rw [heq]
  · rw [if_neg hactive]
    have hidle : a.transaction.active = false := by simpa using hactive
    dsimp only
    rcases issueIdentity_cases a.nextIdentity with ⟨hzero, hnext⟩ | ⟨hnonzero, hissue⟩
    · rw [hzero, beginIdle_zero]
      refine .inr (.inl ⟨hidle, ⟨.invalidPlan, kTransactionState⟩, ?_, rfl, hnext, rfl, by simp⟩)
      exact Function.update_eq_self ref a.layers
    · rw [hissue]
      obtain ⟨bound, s, m, catalog, h, hfresh, hextends⟩ :=
        beginIdle_cases a.transaction ref hnonzero (a.layers ref)
      refine .inr (.inr ⟨hidle, ⟨hnonzero, rfl⟩, rfl, ⟨_, rfl, hextends⟩, bound, s, m, catalog, h, ?_⟩)
      simpa [Attempt.setLayers] using hfresh

/-- What a rank sees of `collective_prepare`: a failure that discards the attempt, or a
certificate; an accepting one only on a rank that is ready. -/
theorem prepare_cases {t : AttemptTransaction} {ready : Bool} {out : PreparedAttemptFinish} {r : PrepareResult}
    (h : (t.collectivePrepare layers ready communicator localStatus out).Local communicator.Faithful r) :
    (r.status.code ≠ .ok ∧ r = ⟨r.status, { t.discardAttempt with lowestFailingRank := -1 }, out,
      t.completion false⟩) ∨
    (LocallyReady t layers ready localStatus ∧ r = ⟨{}, t, t.certificate .accept {} (-1), []⟩) ∨
    ∃ outcome lowest, r = ⟨{}, t, t.certificate .reject outcome lowest, []⟩ := by
  have hfail : ∀ failure : Status, failure.code ≠ .ok →
      (t.failPrepare out failure).Local communicator.Faithful r →
      r.status.code ≠ .ok ∧ r = ⟨r.status, { t.discardAttempt with lowestFailingRank := -1 }, out,
        t.completion false⟩ := by
    intro failure hfailure hr
    unfold AttemptTransaction.failPrepare at hr
    rw [Prog.local_done_iff] at hr
    subst hr
    exact ⟨hfailure, rfl⟩
  unfold AttemptTransaction.collectivePrepare at h
  split at h
  · exact .inl (hfail _ (by simp) h)
  · dsimp only at h
    cases communicator with
    | null => exact .inl (hfail _ (by simp) h)
    | broken => exact .inl (hfail _ (by simp) h)
    | valid c =>
      have hrank : c.rank < 2 ^ 31 := c.rank_lt.trans c.size_int
      dsimp only at h
      rw [Prog.local_bind_iff] at h
      obtain ⟨selected, hsel, h⟩ := h
      unfold Mpi.allreduce at hsel
      rw [Prog.local_call_iff] at hsel
      obtain ⟨reply, hfaithful, hreply⟩ := hsel
      rw [Prog.local_done_iff] at hreply
      cases selected with
      | none => exact .inl (hfail _ (by simp) h)
      | some selected =>
        dsimp only at h
        split at h
        · rename_i hmax
          split at h
          · exact .inl (hfail _ (by simp) h)
          · rw [Prog.local_done_iff] at h
            refine .inr (.inl ⟨(readiness_ok_iff _ _ _ _).mp ?_, h⟩)
            have hle : selected ≤ failureSelectionKey c.rank
                (t.readiness layers ready localStatus).code := by
              cases reply with
              | value v =>
                obtain rfl : selected = v := by simpa using hreply
                exact hfaithful
              | failure => exact nomatch hreply
              | success => exact nomatch hreply
              | words w => exact nomatch hreply
            rw [hmax] at hle
            exact (failureSelectionKey_max_iff c.rank hrank _).mp
              (le_antisymm (failureSelectionKey_le c.rank hrank _) hle)
        · split at h
          · exact .inl (hfail _ (by simp) h)
          · rw [Prog.local_bind_iff] at h
            obtain ⟨wire, -, h⟩ := h
            cases wire with
            | none => exact .inl (hfail _ (by simp) h)
            | some wire =>
              dsimp only at h
              split at h
              · exact .inl (hfail _ (by simp) h)
              · rw [Prog.local_done_iff] at h
                exact .inr (.inr ⟨_, _, h⟩)

lemma commitAccept_cases : a.commitAccept p = ⟨a, p, []⟩ ∨
    (a.transaction.matchesPrepared p = true ∧ p.decision = .accept ∧ a.transaction.locallyActive = true ∧
      a.commitAccept p = ⟨acceptedState a, { p with consumed := true, isValid := false },
        a.transaction.completion true⟩) := by
  unfold Attempt.commitAccept
  split
  · exact .inl rfl
  · rename_i h
    simp only [Bool.not_eq_true', Bool.not_eq_false, Bool.and_eq_true, decide_eq_true_eq] at h
    exact .inr ⟨h.1.1, h.1.2, h.2, rfl⟩

lemma commitReject_cases : a.commitReject p = ⟨a, p, []⟩ ∨
    (a.transaction.matchesPrepared p = true ∧ ∃ lowest, a.commitReject p =
      ⟨discardedState a lowest, { p with consumed := true, isValid := false },
        a.transaction.completion false⟩) := by
  unfold Attempt.commitReject
  split
  · exact .inl rfl
  · rename_i h
    exact .inr ⟨by simpa using h, _, rfl⟩

lemma discardAttempt_twice (lowest : ℤ) : { t.discardAttempt with lowestFailingRank := lowest }.discardAttempt =
      { t.discardAttempt with lowestFailingRank := lowest } := by
  simp [AttemptTransaction.discardAttempt]

/-- What a rank sees of `collective_finish`: the attempt is discarded, or it is accepted on
a rank that is ready. -/
theorem finish_cases {a : Attempt} {ready : Bool} {r : AttemptResult}
    (h : (a.collectiveFinish ready communicator localStatus).Local communicator.Faithful r) :
    (∃ lowest, r.attempt = discardedState a lowest ∧ (∀ b ∈ r.completions, b = false) ∧
      (a.transaction.finalFaceFluxWriter = true ↔ r.completions ≠ [])) ∨
    (LocallyReady a.transaction a.current ready localStatus ∧ r.attempt = acceptedState a ∧
      r.completions = a.transaction.completion true) := by
  unfold Attempt.collectiveFinish at h
  rw [Prog.local_bind_iff] at h
  obtain ⟨p, hp, h⟩ := h
  rw [Prog.local_done_iff] at h
  subst h
  have hcompl : ∀ b ∈ a.transaction.completion false, b = false := by
    unfold AttemptTransaction.completion
    split <;> simp
  have hnon : a.transaction.finalFaceFluxWriter = true ↔ a.transaction.completion false ≠ [] := by
    simp [AttemptTransaction.completion]
  rcases prepare_cases hp with ⟨hstatus, hr⟩ | ⟨hready, hr⟩ | ⟨outcome, lowest, hr⟩
  · have hfailed : p.status.isOk = false := by simpa [Status.isOk] using hstatus
    refine .inl ⟨-1, ?_, ?_, ?_⟩
    · rw [hr]
      unfold Attempt.finishPrepared discardedState
      simp only [hfailed, Bool.not_false, if_true, discardAttempt_twice]
    · rw [hr]
      unfold Attempt.finishPrepared
      simp only [hfailed, Bool.not_false, if_true]
      intro b hb
      rcases mem_append.mp hb with hfirst | hsecond
      · exact hcompl b hfirst
      · exact hcompl b hsecond
    · rw [hr, hnon]
      unfold Attempt.finishPrepared
      simp [hfailed, AttemptTransaction.completion, AttemptTransaction.discardAttempt]
  · have heq := finishPrepared_accept a ((locallyActive_iff _).mpr hready.active)
    rw [hr, heq]
    exact .inr ⟨hready, rfl, rfl⟩
  · have heq := finishPrepared_reject a outcome lowest
    rw [hr, heq]
    exact .inl ⟨lowest, rfl, hcompl, hnon⟩

end HundunFlow.Proofs
