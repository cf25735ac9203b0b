import HundunFlow.Proofs.ArenaAddress
import HundunFlow.Proofs.StateLayerInvariant

/-!
# Views of fields

A view remembers the token its replica had.
-/

namespace HundunFlow.Proofs

open Lib Option

structure Evolves (layers layers' : StateLayers) : Prop where
  storage : layers'.storage = layers.storage
  count : layers'.fieldCount = layers.fieldCount
  flags : layers'.stateFields = layers.stateFields
  next : layers.nextRevision ≤ layers'.nextRevision
  tokens : ∀ r f, f < layers.fieldCount →
    layers'.token r f = layers.token r f ∨ layers.nextRevision ≤ layers'.token r f

variable {layers : StateLayers} {identity field : ℕ} {layout : ArenaLayout} {memory : Bool} {role : StateRole}
  {view : FieldView}

lemma Evolves.refl (layers : StateLayers) : Evolves layers layers :=
  ⟨rfl, rfl, rfl, le_rfl, fun _ _ _ => .inl rfl⟩

lemma Evolves.trans {a b c : StateLayers} (h : Evolves a b) (h' : Evolves b c) : Evolves a c := by
  refine ⟨h'.storage.trans h.storage, h'.count.trans h.count, h'.flags.trans h.flags, h.next.trans h'.next,
    fun r f hf => ?_⟩
  rcases h'.tokens r f (h.count ▸ hf) with hsame | hnew
  · rw [hsame]
    exact h.tokens r f hf
  · exact .inr (h.next.trans hnew)

lemma Extends.evolves {layers' : StateLayers} (h : Extends layers layers') : Evolves layers layers' :=
  ⟨h.storage, h.count, h.flags, h.next, h.tokens⟩

lemma step_evolves {a a' : Attempt} {op : AttemptOp} (h : Attempt.Step a op a')
    (hv : ∀ ref, ValidLayers (a.layers ref)) (ref : ℕ) : Evolves (a.layers ref) (a'.layers ref) := by
  rcases (step_effect h).cases_accepted with ⟨-, -, current, -, hlayers⟩ | ⟨-, -, hextends⟩
  · rw [hlayers]
    by_cases href : ref = current
    · subst href
      rw [Function.update_self]
      exact ⟨rfl, rfl, rfl, le_rfl, fun _ _ _ => .inl rfl⟩
    · rw [Function.update_of_ne href]
      exact .refl _
  · exact (hextends ref (hv ref)).evolves

section Run

variable {s s' : Attempts} {t : List (Transition Attempts AttemptsOp)}

lemma attempts_step {op : AttemptsOp} (h : Attempts.Step s op s') (hv : ∀ ref, ValidLayers (s.layers ref)) :
    ∀ ref, ValidLayers (s'.layers ref) ∧ Evolves (s.layers ref) (s'.layers ref) := by
  obtain ⟨a, hstep, rfl⟩ := h
  intro ref
  exact ⟨step_valid (a := s.view op.transaction) hv hstep ref, step_evolves hstep hv ref⟩

lemma attempts_run (h : Exec Attempts.Step s t s') (hv : ∀ ref, ValidLayers (s.layers ref)) :
    ∀ ref, ValidLayers (s'.layers ref) ∧ Evolves (s.layers ref) (s'.layers ref) := by
  induction h with
  | nil => exact fun ref => ⟨hv ref, .refl _⟩
  | snoc t b op b' _ hs ih =>
    intro ref
    obtain ⟨hvalid, hevolves⟩ := attempts_step hs (fun ref => (ih ref).1) ref
    exact ⟨hvalid, (ih ref).2.trans hevolves⟩

/-- The transition gives the replica of the field a new token. -/
def Revises (tr : Transition Attempts AttemptsOp) (ref replica field : ℕ) : Prop :=
  (tr.post.layers ref).token replica field ≠ (tr.pre.layers ref).token replica field

lemma token_eq_iff (h : Exec Attempts.Step s t s') (hv : ∀ ref, ValidLayers (s.layers ref)) {ref replica field : ℕ}
    (htoken : HasToken (s.layers ref) replica field) :
    (s'.layers ref).token replica field = (s.layers ref).token replica field ↔
      ∀ tr ∈ t, ¬ Revises tr ref replica field := by
  have hfresh := (hv ref).tokens.fresh replica field htoken
  have hrun : ((∀ tr ∈ t, ¬ Revises tr ref replica field) ∧
        (s'.layers ref).token replica field = (s.layers ref).token replica field) ∨
      ((∃ tr ∈ t, Revises tr ref replica field) ∧
        (s.layers ref).nextRevision ≤ (s'.layers ref).token replica field) := by
    induction h with
    | nil => exact .inl ⟨fun tr htr => absurd htr List.not_mem_nil, rfl⟩
    | snoc t b op b' hexec hs ih =>
      have hrun := attempts_run hexec hv
      obtain ⟨-, hevolves⟩ := attempts_step hs (fun ref => (hrun ref).1) ref
      by_cases hrevises : Revises ⟨b, op, b'⟩ ref replica field
      · have hnew := (hevolves.tokens replica field ((hrun ref).2.count ▸ htoken.2.1)).resolve_left hrevises
        exact .inr ⟨⟨_, by simp, hrevises⟩, (hrun ref).2.next.trans hnew⟩
      · have hsame : (b'.layers ref).token replica field = (b.layers ref).token replica field := not_not.mp hrevises
        rw [hsame]
        refine ih.imp (fun hold => ⟨fun tr htr => ?_, hold.2⟩) fun ⟨⟨tr, htr, hold⟩, hle⟩ => ⟨⟨tr, by simp [htr], hold⟩, hle⟩
        rcases List.mem_append.mp htr with hmem | hlast
        · exact hold.1 tr hmem
        · rw [List.mem_singleton.mp hlast]
          exact hrevises
  rcases hrun with ⟨hnone, hsame⟩ | ⟨⟨tr, htr, hrevises⟩, hle⟩
  · exact iff_of_true hsame hnone
  · refine iff_of_false (fun hsame => ?_) fun hnone => hnone tr htr hrevises
    omega

end Run

/-- The layouts are found by their ids, and the memory of an owner begins at the address with the
number of the owner. -/
structure Allocation (storage : FieldStorage) : Prop where
  id_eq : ∀ i (layout : ArenaFieldLayout), storage.fields[i]? = some layout → layout.id = i
  data_eq : ∀ i (owner : OwnerAllocation), storage.owners[i]? = some owner → owner.data = some ⟨storage.identity, i, 0⟩

lemma allocateOwners_data {index : ℕ} {layouts : List ArenaOwnerLayout} {owners : List OwnerAllocation}
    (h : FieldStorage.allocateOwners identity index layouts = some owners) (i : ℕ) (owner : OwnerAllocation)
    (howner : owners[i]? = some owner) : owner.data = some ⟨identity, index + i, 0⟩ := by
  induction layouts generalizing index owners i with
  | nil =>
    obtain rfl := some.inj h
    exact nomatch howner
  | cons layout rest ih =>
    unfold FieldStorage.allocateOwners at h
    split at h
    · exact nomatch h
    · split_ifs at h
      obtain ⟨later, hlater, rfl⟩ := map_eq_some_iff.mp h
      cases i with
      | zero =>
        obtain rfl := some.inj howner
        rfl
      | succ i =>
        rw [ih hlater i howner]
        congr 2
        omega

lemma storage_allocation {storage : FieldStorage}
    (h : FieldStorage.allocate layout identity memory = .ok storage) : Allocation storage := by
  unfold FieldStorage.allocate at h
  split_ifs at h
  split at h
  · exact nomatch h
  · rename_i owners howners
    obtain rfl := Except.ok.inj h
    refine ⟨fun i field hfield => ?_, fun i owner howner => ?_⟩
    · obtain ⟨hi, rfl⟩ := List.getElem?_eq_some_iff.mp hfield
      exact layout.id_eq i hi
    · rw [allocateOwners_data howners i owner howner, Nat.zero_add]

lemma allocateFields_storage {candidate : StateLayers} {fields : List ArenaFieldLayout}
    (h : candidate.allocateFields fields = .ok layers) : layers.storage = candidate.storage := by
  induction fields generalizing candidate with
  | nil =>
    obtain rfl := Except.ok.inj h
    rfl
  | cons field rest ih =>
    unfold StateLayers.allocateFields at h
    split_ifs at h
    · exact (ih h).trans rfl
    · exact (ih h).trans rfl

lemma allocate_allocation (h : StateLayers.allocate layout identity memory = .ok layers) : Allocation layers.storage := by
  unfold StateLayers.allocate at h
  split at h
  · exact nomatch h
  · rename_i storage hstorage
    dsimp only at h
    split at h
    · exact nomatch h
    · rename_i candidate hfields
      split_ifs at h
      obtain rfl := Except.ok.inj h
      rw [allocateFields_storage hfields]
      exact storage_allocation hstorage

lemma initial_layers {s : Attempts} (h : s.Initial) (ref : ℕ) :
    ValidLayers (s.layers ref) ∧ Allocation (s.layers ref).storage := by
  refine ⟨initial_valid (h 0) ref, ?_⟩
  rcases (h 0).layers ref with hempty | ⟨layout, identity, hallocated⟩
  · have hstorage : (s.layers ref).storage = {} := congrArg StateLayers.storage hempty
    rw [hstorage]
    exact ⟨nofun, nofun⟩
  · exact allocate_allocation hallocated

structure ViewOf (storage : FieldStorage) (field replica revision : ℕ) (layout : ArenaFieldLayout)
    (view : FieldView) : Prop where
  field_eq : view.field = field
  replica_eq : view.replica = replica
  revision_eq : view.revision = revision
  layout_eq : storage.fields[field]? = some layout
  owner : ∃ owner, storage.ownerOf field = some (layout, owner) ∧ owner.data = some ⟨storage.identity, layout.ownerIndex, 0⟩
  replica_lt : replica < layout.replicas
  identity_pos : storage.identity ≠ 0
  identities : view.storageIdentity = storage.identity ∧ view.revisionDomain = storage.identity
  shape : view.interior = layout.interior ∧ view.ghosts = layout.ghosts ∧ view.components = layout.components ∧
    view.strideY = layout.strideY ∧ view.strideZ = layout.strideZ ∧ view.componentStride = layout.componentStride
  product : HundunFlow.checkedMultiply replica layout.replicaStrideDoubles = some (replica * layout.replicaStrideDoubles)
  base : view.base = some ⟨storage.identity, layout.ownerIndex, layout.replicaOffset replica⟩

lemma view_spec (hallocation : Allocation layers.storage)
    (h : layers.view role field = .ok view) : layers.revision role field ≠ 0 ∧
      ∃ layout, ViewOf layers.storage field (layers.handle role) (layers.revision role field) layout view := by
  unfold StateLayers.view at h
  dsimp only at h
  split_ifs at h with htoken
  refine ⟨htoken, ?_⟩
  unfold FieldStorage.view at h
  split at h
  · exact nomatch h
  rename_i layout owner howner
  have hfound : layers.storage.fields[field]? = some layout ∧
      layers.storage.owners[layout.ownerIndex]? = some owner := by
    unfold FieldStorage.ownerOf at howner
    split at howner
    · exact nomatch howner
    · rename_i found hfield
      split at howner
      · exact nomatch howner
      · rename_i other hother
        split_ifs at howner
        obtain ⟨rfl, rfl⟩ := Prod.mk.inj (some.inj howner)
        exact ⟨hfield, hother⟩
  have hdata := hallocation.data_eq _ _ hfound.2
  unfold makeView at h
  rw [hdata] at h
  dsimp only at h
  split_ifs at h with hbad
  simp only [Bool.or_eq_true, decide_eq_true_eq, not_or, not_le] at hbad
  split at h
  · exact nomatch h
  · rename_i product hproduct
    obtain rfl := Except.ok.inj h
    obtain ⟨rfl, -⟩ := HundunFlow.checkedMultiply_spec hproduct
    refine ⟨layout, hallocation.id_eq _ _ hfound.1, rfl, rfl, hfound.1, ⟨owner, howner, hdata⟩, hbad.1.1.1, hbad.2,
      ⟨rfl, rfl⟩, ⟨rfl, rfl, rfl, rfl, rfl, rfl⟩, hproduct, ?_⟩
    simp [ArenaFieldLayout.replicaOffset]

lemma checkedPtr_eq {replica revision : ℕ} {layout : ArenaFieldLayout}
    (hview : ViewOf layers.storage field replica revision layout view) (hrevision : revision ≠ 0) (role : StateRole)
    (index : Int3) (component : ℕ) (pointer : ArenaAddress) :
    layers.checkedPtr role view index component = some pointer ↔
      layers.revision role field = revision ∧ InField layout replica component index ∧
        pointer = ⟨layers.storage.identity, layout.ownerIndex, cellAddress layout replica component index⟩ := by
  obtain ⟨owner, howner, hdata⟩ := hview.owner
  obtain ⟨hinterior, hghosts, hcompon, hstrideY, hstrideZ, hcomponentStride⟩ := hview.shape
  unfold StateLayers.checkedPtr FieldStorage.checkedPtrImpl
  rw [hview.field_eq, howner]
  dsimp only
  rw [hdata]
  dsimp only
  by_cases hsame : layers.revision role field = revision
  · have hmatches : (layout.replicas ≤ view.replica || layers.revision role field = 0 || layers.storage.identity = 0 ||
        view.revision ≠ layers.revision role field || view.storageIdentity ≠ layers.storage.identity ||
        view.revisionDomain ≠ layers.storage.identity || view.interior ≠ layout.interior ||
        view.ghosts ≠ layout.ghosts || view.components ≠ layout.components || view.strideY ≠ layout.strideY ||
        view.strideZ ≠ layout.strideZ || view.componentStride ≠ layout.componentStride : Bool) = false := by
      simp [hsame, hrevision, hview.replica_eq, not_le.mpr hview.replica_lt, hview.identity_pos, hview.revision_eq,
        hview.identities, hinterior, hghosts, hcompon, hstrideY, hstrideZ, hcomponentStride]
    rw [hmatches, hview.replica_eq, hview.product]
    simp only [Bool.false_eq_true, if_false]
    have hbase : view.base = some ⟨layers.storage.identity, layout.ownerIndex,
        0 + layout.offsetDoubles + (replica * layout.replicaStrideDoubles : ℕ)⟩ := by
      rw [hview.base]
      simp [ArenaFieldLayout.replicaOffset]
    split_ifs with houtside
    · refine iff_of_false (by simp) ?_
      rintro ⟨-, ⟨-, hcomp, hx, hy, hz⟩, -⟩
      simp only [hbase, ne_eq, not_true_eq_false, decide_false, Bool.false_or, Bool.or_eq_true, decide_eq_true_eq] at houtside
      omega
    · simp only [hbase, ne_eq, not_true_eq_false, decide_false, Bool.false_or, Bool.or_eq_true, decide_eq_true_eq, not_or,
        not_le, not_lt] at houtside
      obtain ⟨⟨⟨⟨⟨⟨hcomp, hx⟩, hy⟩, hz⟩, hx'⟩, hy'⟩, hz'⟩ := houtside
      rw [some.injEq, eq_comm]
      have haddress : 0 + (layout.offsetDoubles : ℤ) + ((replica * layout.replicaStrideDoubles : ℕ) : ℤ) +
          layout.cellOffset component index = cellAddress layout replica component index := by
        rw [zero_add, cellAddress, ArenaFieldLayout.replicaOffset, Nat.cast_add]
      rw [haddress]
      exact ⟨fun h => ⟨hsame, ⟨hview.replica_lt, hcomp, ⟨hx, hx'⟩, ⟨hy, hy'⟩, ⟨hz, hz'⟩⟩, h⟩, fun h => h.2.2⟩
  · have hdiffers : view.revision ≠ layers.revision role field := fun heq => hsame (heq.symm.trans hview.revision_eq)
    rw [if_pos (by simp [hdiffers])]
    exact iff_of_false (by simp) fun h => hsame h.1

lemma revision_of_ne_zero (h : layers.revision role field ≠ 0) :
    HasToken layers (layers.handle role) field ∧ layers.revision role field = layers.token (layers.handle role) field := by
  unfold StateLayers.revision at h ⊢
  split_ifs at h ⊢ with hnone
  · exact absurd rfl h
  · simp only [Bool.or_eq_true, decide_eq_true_eq, Bool.not_eq_true', not_or, not_le, Bool.not_eq_false] at hnone
    exact ⟨⟨hnone.2, hnone.1.1, .inl hnone.1.2⟩, rfl⟩

section Run

variable {s₀ s₁ s₂ : Attempts} {t u : List (Transition Attempts AttemptsOp)}

lemma revision_eq_iff (hu : Exec Attempts.Step s₁ u s₂) (hv : ∀ ref, ValidLayers (s₁.layers ref)) {ref field : ℕ}
    {role : StateRole} (hrevision : (s₁.layers ref).revision role field ≠ 0) (role' : StateRole) :
    (s₂.layers ref).revision role' field = (s₁.layers ref).revision role field ↔
      (s₂.layers ref).handle role' = (s₁.layers ref).handle role ∧
        ∀ tr ∈ u, ¬ Revises tr ref ((s₁.layers ref).handle role) field := by
  obtain ⟨htoken, heq⟩ := revision_of_ne_zero hrevision
  obtain ⟨hv', hevolves⟩ := attempts_run hu hv ref
  have hstate : (s₁.layers ref).isStateField field = true := by
    by_contra hnot
    exact hrevision (by unfold StateLayers.revision; rw [if_pos (by simp [hnot])])
  have hstate' : (s₂.layers ref).isStateField field = true := by
    unfold StateLayers.isStateField at hstate ⊢
    rwa [hevolves.flags]
  have hlt := hv'.handles.2 role'
  have hcurrent : (s₂.layers ref).revision role' field = (s₂.layers ref).token ((s₂.layers ref).handle role') field := by
    unfold StateLayers.revision
    rw [if_neg]
    simpa [hstate', hevolves.count] using ⟨htoken.2.1, hlt⟩
  rw [hcurrent, heq, ← token_eq_iff hu hv htoken]
  refine ⟨fun hsame => ?_, fun ⟨hhandle, hsame⟩ => hhandle ▸ hsame⟩
  by_cases hhandle : (s₂.layers ref).handle role' = (s₁.layers ref).handle role
  · exact ⟨hhandle, hhandle ▸ hsame⟩
  · have hother : HasToken (s₁.layers ref) ((s₂.layers ref).handle role') field := ⟨hlt, htoken.2.1, .inl hstate⟩
    have hfresh := (hv ref).tokens.fresh _ _ htoken
    rcases hevolves.tokens ((s₂.layers ref).handle role') field htoken.2.1 with hkept | hnew
    · exact absurd ((hv ref).tokens.distinct _ _ _ _ hother htoken (hkept.symm.trans hsame)).1 hhandle
    · omega

/-- In every run, `checked_ptr` finds the element of a view exactly as long as the role names the
replica of the view, the replica was not revised, and the element exists; and what it returns is
the address of that element. -/
theorem stale_views_refused (h₀ : s₀.Initial) (ht : Exec Attempts.Step s₀ t s₁) {ref field : ℕ} {role : StateRole}
    {view : FieldView} (hview : (s₁.layers ref).view role field = .ok view) (hu : Exec Attempts.Step s₁ u s₂) :
    view.replica = (s₁.layers ref).handle role ∧ view.field = field ∧
      ∃ layout, (s₁.layers ref).storage.fields[field]? = some layout ∧
        ∀ role' index component,
          (((s₂.layers ref).checkedPtr role' view index component).isSome = true ↔
            (s₂.layers ref).handle role' = view.replica ∧ (∀ tr ∈ u, ¬ Revises tr ref view.replica field) ∧
              InField layout view.replica component index) ∧
          ∀ pointer, (s₂.layers ref).checkedPtr role' view index component = some pointer →
            pointer = ⟨(s₁.layers ref).storage.identity, layout.ownerIndex,
              cellAddress layout view.replica component index⟩ := by
  have hrun := attempts_run ht fun ref => (initial_layers h₀ ref).1
  have hv : ∀ ref, ValidLayers (s₁.layers ref) := fun ref => (hrun ref).1
  have hallocation : Allocation (s₁.layers ref).storage := (hrun ref).2.storage ▸ (initial_layers h₀ ref).2
  obtain ⟨hrevision, layout, hviewOf⟩ := view_spec hallocation hview
  have hstorage := (attempts_run hu hv ref).2.storage
  refine ⟨hviewOf.replica_eq, hviewOf.field_eq, layout, hviewOf.layout_eq, fun role' index component => ?_⟩
  have hpointer := checkedPtr_eq (hstorage ▸ hviewOf) hrevision role' index component
  rw [hviewOf.replica_eq]
  refine ⟨?_, fun pointer hsome => hstorage ▸ ((hpointer pointer).mp hsome).2.2⟩
  rw [isSome_iff_exists, ← and_assoc, ← revision_eq_iff hu hv hrevision role']
  constructor
  · rintro ⟨pointer, hsome⟩
    obtain ⟨hsame, hcell, -⟩ := (hpointer pointer).mp hsome
    exact ⟨hsame, hcell⟩
  · rintro ⟨hsame, hcell⟩
    exact ⟨_, (hpointer _).mpr ⟨hsame, hcell, rfl⟩⟩

end Run

def sampleAttempts : Attempts where
  transactions := fun _ => sampleAttempt.transaction
  layers := sampleAttempt.layers
  nextIdentity := sampleAttempt.nextIdentity

lemma sampleAttempts_initial : sampleAttempts.Initial := fun _ => sampleAttempt_initial

def begunAttempts : Attempts := sampleAttempts.put 0 ((sampleAttempts.view 0).begin 0).1

lemma begunAttempts_step : Attempts.Step sampleAttempts ⟨0, .begin 0⟩ begunAttempts :=
  ⟨_, step_of_done rfl, rfl⟩

def revisedAttempts : Attempts := begunAttempts.put 0 ((begunAttempts.view 0).reviseTrial 0).1

lemma revisedAttempts_step : Attempts.Step begunAttempts ⟨0, .reviseTrial 0⟩ revisedAttempts :=
  ⟨_, step_of_done rfl, rfl⟩

def sampleView : FieldView := ((begunAttempts.layers 0).view .trial 0).toOption.getD {}

theorem stale_views_refused_sample : ∃ layout,
    (((revisedAttempts.layers 0).checkedPtr .trial sampleView ⟨0, 0, 0⟩ 0).isSome = true ↔
      (revisedAttempts.layers 0).handle .trial = sampleView.replica ∧
        (∀ tr ∈ [⟨begunAttempts, ⟨0, .reviseTrial 0⟩, revisedAttempts⟩], ¬ Revises tr 0 sampleView.replica 0) ∧
          InField layout sampleView.replica 0 ⟨0, 0, 0⟩) := by
  have hview : (begunAttempts.layers 0).view .trial 0 = .ok sampleView := rfl
  obtain ⟨-, -, layout, -, hpointers⟩ := stale_views_refused sampleAttempts_initial
    (Exec.single begunAttempts_step) hview (Exec.single revisedAttempts_step)
  exact ⟨layout, (hpointers .trial ⟨0, 0, 0⟩ 0).1⟩

/-- The view is of the trial before it was written, so it finds nothing. -/
example : (begunAttempts.layers 0).checkedPtr .trial sampleView ⟨0, 0, 0⟩ 0 = some ⟨1, 0, 16⟩ ∧
    (revisedAttempts.layers 0).checkedPtr .trial sampleView ⟨0, 0, 0⟩ 0 = none := by decide

end HundunFlow.Proofs
