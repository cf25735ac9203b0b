import HundunFlow.StateLayers

/-!
# Revision tokens of the state layers

Tokens are drawn from one counter, so no two replicas of fields share one.
-/

namespace HundunFlow.Proofs

open StateLayers List

/-- The roles name the three replicas, each exactly one. -/
def IsPermutation (handles : StateRole → ℕ) : Prop :=
  Function.Injective handles ∧ ∀ role, handles role < kRoleCount

/-- The pairs that carry a token: three replicas of a state field, one of a runtime field. -/
def HasToken (layers : StateLayers) (replica field : ℕ) : Prop :=
  replica < kRoleCount ∧ field < layers.fieldCount ∧ (layers.isStateField field = true ∨ replica = 0)

/-- The tokens of the pairs in `S` were drawn from the counter, each one for itself. -/
structure Stamped (layers : StateLayers) (S : ℕ → ℕ → Prop) : Prop where
  length : layers.revisions.length = layers.fieldCount * kRoleCount
  range : ∀ r f, S r f → r < kRoleCount ∧ f < layers.fieldCount
  distinct : ∀ r f r' f', S r f → S r' f' → layers.token r f = layers.token r' f' → r = r' ∧ f = f'
  fresh : ∀ r f, S r f → layers.token r f < layers.nextRevision

structure ValidLayers (layers : StateLayers) : Prop where
  handles : IsPermutation layers.roleHandles
  tokens : Stamped layers (HasToken layers)

variable {layers candidate : StateLayers}

lemma tokenIndex_inj {n r f r' f' : ℕ} (hf : f < n) (hf' : f' < n) (h : r * n + f = r' * n + f') :
    r = r' ∧ f = f' := by
  have hn : 0 < n := by omega
  have hr : r = r' := by
    have hdiv := congrArg (· / n) h
    simpa [Nat.mul_comm r, Nat.mul_comm r', Nat.mul_add_div hn, Nat.div_eq_of_lt hf,
      Nat.div_eq_of_lt hf'] using hdiv
  subst hr
  exact ⟨rfl, by omega⟩

lemma tokenIndex_lt {n r f : ℕ} (hr : r < kRoleCount) (hf : f < n) : r * n + f < n * kRoleCount := by
  have h3 : kRoleCount = 3 := rfl
  rw [h3] at hr ⊢
  obtain rfl | rfl | rfl : r = 0 ∨ r = 1 ∨ r = 2 := by omega
  all_goals omega

lemma token_stampNext (layers : StateLayers) {r f r' f' : ℕ}
    (hlen : layers.revisions.length = layers.fieldCount * kRoleCount) (hr : r < kRoleCount)
    (hf : f < layers.fieldCount) (hf' : f' < layers.fieldCount) : (layers.stampNext r f).token r' f' =
      if r' = r ∧ f' = f then layers.nextRevision else layers.token r' f' := by
  have hlt : r * layers.fieldCount + f < layers.revisions.length := hlen ▸ tokenIndex_lt hr hf
  unfold StateLayers.token StateLayers.stampNext
  simp only [getD_eq_getElem?_getD, List.getElem?_set]
  by_cases heq : r' = r ∧ f' = f
  · obtain ⟨rfl, rfl⟩ := heq
    simp [hlt]
  · have hne : r * layers.fieldCount + f ≠ r' * layers.fieldCount + f' := by
      intro h
      obtain ⟨h1, h2⟩ := tokenIndex_inj hf hf' h
      exact heq ⟨h1.symm, h2.symm⟩
    rw [if_neg heq, if_neg hne]

/-- Drawing a token for a pair, new or known, keeps all tokens distinct. -/
theorem Stamped.stampNext {S : ℕ → ℕ → Prop} (h : Stamped layers S) {r f : ℕ} (hr : r < kRoleCount)
    (hf : f < layers.fieldCount) : Stamped (layers.stampNext r f) fun r' f' => S r' f' ∨ (r' = r ∧ f' = f) := by
  have hrange : ∀ r' f', S r' f' ∨ (r' = r ∧ f' = f) → r' < kRoleCount ∧ f' < layers.fieldCount := by
    rintro r' f' (hs | ⟨rfl, rfl⟩)
    · exact h.range r' f' hs
    · exact ⟨hr, hf⟩
  have htoken : ∀ r' f', S r' f' ∨ (r' = r ∧ f' = f) → (layers.stampNext r f).token r' f' =
      if r' = r ∧ f' = f then layers.nextRevision else layers.token r' f' :=
    fun r' f' hs => token_stampNext layers h.length hr hf (hrange r' f' hs).2
  have hold : ∀ r' f', S r' f' ∨ (r' = r ∧ f' = f) → ¬ (r' = r ∧ f' = f) →
      layers.token r' f' < layers.nextRevision :=
    fun r' f' hs hne => h.fresh r' f' (hs.resolve_right hne)
  refine ⟨?_, hrange, ?_, ?_⟩
  · rw [StateLayers.stampNext, length_set]
    exact h.length
  · intro r₁ f₁ r₂ f₂ h₁ h₂ heq
    rw [htoken _ _ h₁, htoken _ _ h₂] at heq
    by_cases hp₁ : r₁ = r ∧ f₁ = f
    · by_cases hp₂ : r₂ = r ∧ f₂ = f
      · exact ⟨hp₁.1.trans hp₂.1.symm, hp₁.2.trans hp₂.2.symm⟩
      · rw [if_pos hp₁, if_neg hp₂] at heq
        have := hold _ _ h₂ hp₂
        omega
    · by_cases hp₂ : r₂ = r ∧ f₂ = f
      · rw [if_neg hp₁, if_pos hp₂] at heq
        have := hold _ _ h₁ hp₁
        omega
      · rw [if_neg hp₁, if_neg hp₂] at heq
        exact h.distinct _ _ _ _ (h₁.resolve_right hp₁) (h₂.resolve_right hp₂) heq
  · intro r' f' hs
    have hnext : (layers.stampNext r f).nextRevision = layers.nextRevision + 1 := rfl
    rw [htoken _ _ hs, hnext]
    by_cases hp : r' = r ∧ f' = f
    · rw [if_pos hp]
      omega
    · rw [if_neg hp]
      have := hold _ _ hs hp
      omega

lemma Stamped.mono {S T : ℕ → ℕ → Prop} (h : Stamped layers S) (hT : ∀ r f, T r f → S r f) : Stamped layers T :=
  ⟨h.length, fun r f ht => h.range r f (hT r f ht),
    fun r f r' f' ht ht' => h.distinct r f r' f' (hT r f ht) (hT r' f' ht'),
    fun r f ht => h.fresh r f (hT r f ht)⟩

/-- The candidate after the first `k` fields: they have their tokens and flags. -/
structure Allocated (candidate : StateLayers) (k n : ℕ) : Prop where
  handles : candidate.roleHandles = ({} : StateLayers).roleHandles
  count : candidate.fieldCount = n
  flags : candidate.stateFields.length = n
  unset : ∀ f, k ≤ f → candidate.isStateField f = false
  tokens : Stamped candidate fun r f => f < k ∧ HasToken candidate r f

lemma isStateField_set (candidate : StateLayers) (id f : ℕ) (h : id < candidate.stateFields.length) :
    StateLayers.isStateField { candidate with stateFields := candidate.stateFields.set id true } f =
      (decide (f = id) || candidate.isStateField f) := by
  unfold StateLayers.isStateField
  simp only [getD_eq_getElem?_getD, List.getElem?_set]
  by_cases hf : id = f
  · subst hf
    simp [h]
  · have hf' : ¬ f = id := fun e => hf e.symm
    simp [hf, hf']

lemma allocated_stateField {k n : ℕ} (h : Allocated candidate k n) (hk : k < n) :
    Allocated ({ candidate with stateFields := candidate.stateFields.set k true }.stampReplicas k
      [0, 1, 2]) (k + 1) n := by
  have hflag : ∀ f, StateLayers.isStateField
      { candidate with stateFields := candidate.stateFields.set k true } f =
        (decide (f = k) || candidate.isStateField f) :=
    fun f => isStateField_set candidate k f (h.flags ▸ hk)
  have hk' : k < candidate.fieldCount := h.count ▸ hk
  have hbase : Stamped { candidate with stateFields := candidate.stateFields.set k true }
      fun r f => f < k ∧ HasToken candidate r f :=
    ⟨h.tokens.length, h.tokens.range, h.tokens.distinct, h.tokens.fresh⟩
  have hstamped := ((hbase.stampNext (r := 0) (by decide) hk').stampNext (r := 1) (by decide) hk').stampNext
    (r := 2) (by decide) hk'
  refine ⟨h.handles, h.count, ?_, ?_, ?_⟩
  · exact (length_set ..).trans h.flags
  · intro f hf
    refine (hflag f).trans ?_
    have hne : f ≠ k := by omega
    simp [hne, h.unset f (by omega)]
  · have hall : Stamped ({ candidate with stateFields := candidate.stateFields.set k true }.stampReplicas k
        [0, 1, 2]) (fun r f => (((f < k ∧ HasToken candidate r f) ∨ (r = 0 ∧ f = k)) ∨ (r = 1 ∧ f = k)) ∨
          (r = 2 ∧ f = k)) :=
      ⟨hstamped.length, hstamped.range, hstamped.distinct, hstamped.fresh⟩
    refine hall.mono ?_
    rintro r f ⟨hf, hr, hcount, hhas⟩
    have hr3 : r < 3 := hr
    by_cases hfk : f = k
    · subst hfk
      have : r = 0 ∨ r = 1 ∨ r = 2 := by omega
      tauto
    · refine Or.inl (Or.inl (Or.inl ⟨by omega, hr, hcount, ?_⟩))
      have hhas' : StateLayers.isStateField
          { candidate with stateFields := candidate.stateFields.set k true } f = true ∨ r = 0 := hhas
      rw [hflag f] at hhas'
      simpa [hfk] using hhas'

lemma allocated_runtimeField {k n : ℕ} (h : Allocated candidate k n)
    (hk : k < n) : Allocated (candidate.stampNext 0 k) (k + 1) n := by
  have hk' : k < candidate.fieldCount := h.count ▸ hk
  have hstamped := h.tokens.stampNext (r := 0) (f := k) (by decide) hk'
  refine ⟨h.handles, h.count, h.flags, fun f hf => h.unset f (by omega), ?_⟩
  refine hstamped.mono ?_
  rintro r f ⟨hf, hr, hcount, hhas⟩
  by_cases hfk : f = k
  · subst hfk
    refine Or.inr ⟨hhas.resolve_left ?_, rfl⟩
    have := h.unset f le_rfl
    intro hset
    exact nomatch this.symm.trans hset
  · exact Or.inl ⟨by omega, hr, hcount, hhas⟩

lemma allocateFields_allocated {n : ℕ} (rest : List ArenaFieldLayout) (k : ℕ)
    (hid : ∀ i (hi : i < rest.length), (rest.get ⟨i, hi⟩).id = k + i) (hn : k + rest.length = n)
    (h : Allocated candidate k n) (hok : candidate.allocateFields rest = .ok layers) : Allocated layers n n := by
  induction rest generalizing candidate k with
  | nil =>
    obtain rfl : candidate = layers := by simpa [StateLayers.allocateFields] using hok
    obtain rfl : k = n := by simpa using hn
    exact h
  | cons field rest ih =>
    have hfield : field.id = k := by simpa using hid 0 (by simp)
    have hk : k < n := by
      simp only [length_cons] at hn
      omega
    have hrest : ∀ i (hi : i < rest.length), (rest.get ⟨i, hi⟩).id = k + 1 + i := by
      intro i hi
      have := hid (i + 1) (by simp only [length_cons]; omega)
      simp only [get_eq_getElem, getElem_cons_succ] at this ⊢
      omega
    have hlen : k + 1 + rest.length = n := by
      simp only [length_cons] at hn
      omega
    unfold StateLayers.allocateFields at hok
    rw [hfield] at hok
    split at hok
    · split at hok
      · exact nomatch hok
      · exact ih (k + 1) hrest hlen (allocated_stateField h hk) hok
    · split at hok
      · exact nomatch hok
      · exact ih (k + 1) hrest hlen (allocated_runtimeField h hk) hok

lemma isPermutation_initial : IsPermutation ({} : StateLayers).roleHandles := by
  constructor
  · intro a b h
    cases a <;> cases b <;> first | rfl | exact nomatch h
  · intro role
    cases role <;> decide

theorem allocate_valid {layout : ArenaLayout} {identity : ℕ} {memory : Bool}
    (h : StateLayers.allocate layout identity memory = .ok layers) : ValidLayers layers := by
  unfold StateLayers.allocate at h
  split at h
  · exact nomatch h
  · rename_i storage _
    dsimp only at h
    split at h
    · exact nomatch h
    · rename_i candidate hfields
      split at h
      · exact nomatch h
      · obtain rfl : candidate = layers := by simpa using h
        have hempty : Allocated
            { storage := storage
              revisions := replicate (layout.fields.length * kRoleCount) 0
              stateFields := replicate layout.fields.length false
              fieldCount := layout.fields.length } 0 layout.fields.length := by
          refine ⟨rfl, rfl, length_replicate, ?_, length_replicate, ?_, ?_, ?_⟩
          · intro f _
            simp [StateLayers.isStateField, getD_eq_getElem?_getD, List.getElem?_replicate]
            split <;> rfl
          · rintro r f ⟨hf, -⟩
            exact absurd hf (Nat.not_lt_zero f)
          · rintro r f r' f' ⟨hf, -⟩
            exact absurd hf (Nat.not_lt_zero f)
          · rintro r f ⟨hf, -⟩
            exact absurd hf (Nat.not_lt_zero f)
        have hdone := allocateFields_allocated layout.fields 0
          (fun i hi => by simpa using layout.id_eq i hi) (by simp) hempty hfields
        refine ⟨hdone.handles ▸ isPermutation_initial, hdone.tokens.mono ?_⟩
        rintro r f hhas
        exact ⟨hdone.count ▸ hhas.2.1, hhas⟩

lemma empty_valid : ValidLayers {} := by
  refine ⟨isPermutation_initial, rfl, ?_, ?_, ?_⟩
  · rintro r f ⟨-, hf, -⟩
    exact absurd hf (Nat.not_lt_zero f)
  · rintro r f r' f' ⟨-, hf, -⟩
    exact absurd hf (Nat.not_lt_zero f)
  · rintro r f ⟨-, hf, -⟩
    exact absurd hf (Nat.not_lt_zero f)

/-- `layers'` is `layers` after one token was drawn for the pair `(r, f)`. -/
def Drawn (layers layers' : StateLayers) (r f : ℕ) : Prop :=
  ∃ stateRevisions, layers' = { layers.stampNext r f with stateRevisions }

lemma issueRevision_cases (layers : StateLayers) (r f : ℕ) :
    layers.issueRevision r f = (layers, ⟨.invalidPlan, kArenaRevision⟩) ∨
    (r < kRoleCount ∧ f < layers.fieldCount ∧ layers.isStateField f = true ∧
      (layers.issueRevision r f).2 = {} ∧ Drawn layers (layers.issueRevision r f).1 r f) := by
  unfold StateLayers.issueRevision
  split
  · exact .inl rfl
  · rename_i h
    simp only [Bool.or_eq_true, decide_eq_true_eq, Bool.not_eq_true', not_or, not_le,
      Bool.not_eq_false] at h
    exact .inr ⟨h.1.1.1.1, h.1.1.1.2, h.1.1.2, rfl, _, rfl⟩

lemma reviseRuntime_cases (layers : StateLayers) (lifetime : FieldLifetime) (f : ℕ) :
    (layers.reviseRuntime lifetime f).1 = layers ∨
    (f < layers.fieldCount ∧ layers.isStateField f = false ∧
      Drawn layers (layers.reviseRuntime lifetime f).1 0 f) := by
  unfold StateLayers.reviseRuntime
  split
  · exact .inl rfl
  · rename_i h
    simp only [Bool.or_eq_true, decide_eq_true_eq, Bool.not_eq_true', not_or, not_le,
      Bool.not_eq_false] at h
    obtain ⟨⟨⟨⟨hruntime, -⟩, hstate⟩, -⟩, -⟩ := h
    have hcount : f < layers.fieldCount := by
      unfold StateLayers.runtimeField at hruntime
      split at hruntime
      · exact nomatch hruntime
      · simp only [Bool.and_eq_true, decide_eq_true_eq] at hruntime
        exact hruntime.1.2
    refine .inr ⟨hcount, by simpa using hstate, layers.stateRevisions, ?_⟩
    simp [StateLayers.stampNext]

section Drawn

variable {layers layers' : StateLayers} {r f : ℕ}

lemma Drawn.frame (h : Drawn layers layers' r f) : layers'.roleHandles = layers.roleHandles ∧
    layers'.fieldCount = layers.fieldCount ∧ layers'.stateFields = layers.stateFields ∧
    layers'.nextRevision = layers.nextRevision + 1 := by
  obtain ⟨_, rfl⟩ := h
  exact ⟨rfl, rfl, rfl, rfl⟩

lemma Drawn.storage (h : Drawn layers layers' r f) : layers'.storage = layers.storage := by
  obtain ⟨_, rfl⟩ := h
  rfl

lemma Drawn.token (h : Drawn layers layers' r f) (hlen : layers.revisions.length =
    layers.fieldCount * kRoleCount) (hr : r < kRoleCount) (hf : f < layers.fieldCount) {r' f' : ℕ}
    (hf' : f' < layers.fieldCount) : layers'.token r' f' =
      if r' = r ∧ f' = f then layers.nextRevision else layers.token r' f' := by
  obtain ⟨_, rfl⟩ := h
  exact token_stampNext layers hlen hr hf hf'

lemma hasToken_congr (hcount : layers'.fieldCount = layers.fieldCount)
    (hflags : layers'.stateFields = layers.stateFields) : HasToken layers' = HasToken layers := by
  funext a b
  unfold HasToken StateLayers.isStateField
  rw [hcount, hflags]

theorem Drawn.valid (h : Drawn layers layers' r f) (hv : ValidLayers layers)
    (hhas : HasToken layers r f) : ValidLayers layers' := by
  obtain ⟨hhandles, hcount, hflags, -⟩ := h.frame
  refine ⟨hhandles ▸ hv.handles, ?_⟩
  rw [hasToken_congr hcount hflags]
  have hstamped := (hv.tokens.stampNext hhas.1 hhas.2.1).mono (fun r' f' ht => Or.inl ht)
  obtain ⟨_, rfl⟩ := h
  exact ⟨hstamped.length, hstamped.range, hstamped.distinct, hstamped.fresh⟩

lemma Drawn.revision (h : Drawn layers layers' r f) (hv : ValidLayers layers) (hr : r < kRoleCount)
    (hf : f < layers.fieldCount) (role : StateRole) (f' : ℕ) : layers'.revision role f' =
      if layers.isStateField f' = true ∧ layers.handle role = r ∧ f' = f then layers.nextRevision
      else layers.revision role f' := by
  obtain ⟨hhandles, hcount, hflags, -⟩ := h.frame
  have hhandle : layers'.handle role = layers.handle role := by
    unfold StateLayers.handle
    rw [hhandles]
  have hflag : layers'.isStateField f' = layers.isStateField f' := by
    unfold StateLayers.isStateField
    rw [hflags]
  have hrole : ¬ kRoleCount ≤ layers.handle role := not_le.mpr (hv.handles.2 role)
  unfold StateLayers.revision
  rw [hhandle, hflag, hcount]
  by_cases hf' : layers.fieldCount ≤ f'
  · have hne : f' ≠ f := by omega
    simp [hf', hne]
  · by_cases hstate : layers.isStateField f' = true
    · simp only [hf', hstate, hrole, decide_false, Bool.not_true, Bool.or_false, Bool.false_eq_true,
        if_false, true_and]
      exact h.token hv.tokens.length hr hf (not_le.mp hf')
    · simp [hstate]

end Drawn

/-- The accepted layers show the same replicas and revisions. -/
structure AcceptedUnchanged (layers layers' : StateLayers) : Prop where
  replicas : ∀ role, role ≠ .trial → layers'.handle role = layers.handle role
  revisions : ∀ role f, role ≠ .trial → layers'.revision role f = layers.revision role f

lemma AcceptedUnchanged.refl (layers : StateLayers) : AcceptedUnchanged layers layers :=
  ⟨fun _ _ => rfl, fun _ _ _ => rfl⟩

lemma AcceptedUnchanged.trans {a b c : StateLayers} (h : AcceptedUnchanged a b)
    (h' : AcceptedUnchanged b c) : AcceptedUnchanged a c :=
  ⟨fun role hr => (h'.replicas role hr).trans (h.replicas role hr),
    fun role f hr => (h'.revisions role f hr).trans (h.revisions role f hr)⟩

/-- What a sequence of draws for trial revisions and runtime fields keeps. -/
structure Extends (layers layers' : StateLayers) : Prop where
  valid : ValidLayers layers'
  accepted : AcceptedUnchanged layers layers'
  count : layers'.fieldCount = layers.fieldCount
  flags : layers'.stateFields = layers.stateFields
  handles : layers'.roleHandles = layers.roleHandles
  next : layers.nextRevision ≤ layers'.nextRevision
  /-- A trial revision stays or moves to a new token. -/
  trial : ∀ f, layers'.revision .trial f = layers.revision .trial f ∨
    layers.nextRevision ≤ layers'.revision .trial f
  storage : layers'.storage = layers.storage
  /-- So does every token. -/
  tokens : ∀ r f, f < layers.fieldCount →
    layers'.token r f = layers.token r f ∨ layers.nextRevision ≤ layers'.token r f

lemma Extends.refl (h : ValidLayers layers) : Extends layers layers :=
  ⟨h, .refl layers, rfl, rfl, rfl, le_rfl, fun _ => .inl rfl, rfl, fun _ _ _ => .inl rfl⟩

lemma Extends.trans {a b c : StateLayers} (h : Extends a b) (h' : Extends b c) : Extends a c := by
  refine ⟨h'.valid, h.accepted.trans h'.accepted, h'.count.trans h.count, h'.flags.trans h.flags,
    h'.handles.trans h.handles, le_trans h.next h'.next, fun f => ?_, h'.storage.trans h.storage,
    fun r f hf => ?_⟩
  · rcases h'.trial f with hsame | hnew
    · rw [hsame]
      exact h.trial f
    · exact .inr (le_trans h.next hnew)
  · rcases h'.tokens r f (h.count ▸ hf) with hsame | hnew
    · rw [hsame]
      exact h.tokens r f hf
    · exact .inr (le_trans h.next hnew)

lemma Drawn.extends {layers' : StateLayers} {r f : ℕ} (h : Drawn layers layers' r f)
    (hv : ValidLayers layers) (hf : f < layers.fieldCount)
    (hpair : layers.isStateField f = true ∧ r = layers.handle .trial ∨
      layers.isStateField f = false ∧ r = 0) : Extends layers layers' := by
  have hr : r < kRoleCount := by
    rcases hpair with ⟨-, rfl⟩ | ⟨-, rfl⟩
    · exact hv.handles.2 .trial
    · decide
  obtain ⟨hhandles, hcount, hflags, hnext⟩ := h.frame
  have hrevision := h.revision hv hr hf
  refine ⟨h.valid hv ⟨hr, hf, ?_⟩, ⟨?_, ?_⟩, hcount, hflags, hhandles, by omega, ?_, h.storage,
    fun r' f' hf' => ?_⟩
  · rcases hpair with ⟨hstate, -⟩ | ⟨-, hzero⟩
    · exact .inl hstate
    · exact .inr hzero
  · intro role _
    unfold StateLayers.handle
    rw [hhandles]
  · intro role f' hrole
    rw [hrevision role f', if_neg]
    rintro ⟨hstate', hhandle, rfl⟩
    rcases hpair with ⟨-, rfl⟩ | ⟨hruntime, -⟩
    · exact hrole (hv.handles.1 hhandle)
    · exact nomatch hruntime.symm.trans hstate'
  · intro f'
    rw [hrevision .trial f']
    split
    · exact .inr le_rfl
    · exact .inl rfl
  · rw [h.token hv.tokens.length hr hf hf']
    split
    · exact .inr le_rfl
    · exact .inl rfl

lemma issueRevision_extends (hv : ValidLayers layers) (f : ℕ) :
    Extends layers (layers.issueRevision (layers.handle .trial) f).1 := by
  rcases issueRevision_cases layers (layers.handle .trial) f with h | ⟨-, hf, hstate, -, hdrawn⟩
  · rw [h]
    exact .refl hv
  · exact hdrawn.extends hv hf (.inl ⟨hstate, rfl⟩)

lemma reviseRuntime_extends (hv : ValidLayers layers) (lifetime : FieldLifetime)
    (f : ℕ) : Extends layers (layers.reviseRuntime lifetime f).1 ∧
      ∀ f', (layers.reviseRuntime lifetime f).1.revision .trial f' = layers.revision .trial f' := by
  rcases reviseRuntime_cases layers lifetime f with h | ⟨hf, hruntime, hdrawn⟩
  · rw [h]
    exact ⟨.refl hv, fun _ => rfl⟩
  · refine ⟨hdrawn.extends hv hf (.inr ⟨hruntime, rfl⟩), fun f' => ?_⟩
    rw [hdrawn.revision hv (by decide) hf .trial f', if_neg]
    rintro ⟨hstate, -, rfl⟩
    exact nomatch hruntime.symm.trans hstate

lemma revision_lt (hv : ValidLayers layers) {f : ℕ} (hstate : layers.isStateField f = true)
    (hf : f < layers.fieldCount) (role : StateRole) : layers.revision role f < layers.nextRevision := by
  have hrole : ¬ kRoleCount ≤ layers.handle role := not_le.mpr (hv.handles.2 role)
  unfold StateLayers.revision
  simp only [not_le.mpr hf, hstate, hrole, decide_false, Bool.not_true, Bool.or_false,
    Bool.false_eq_true, if_false]
  exact hv.tokens.fresh _ _ ⟨hv.handles.2 role, hf, .inl hstate⟩

/-- The rotation of an accepted attempt. -/
structure Rotated (layers layers' : StateLayers) : Prop where
  previous : layers'.handle .acceptedNMinusOne = layers.handle .acceptedN
  accepted : layers'.handle .acceptedN = layers.handle .trial
  trial : layers'.handle .trial = layers.handle .acceptedNMinusOne
  tokens : ∀ r f, layers'.token r f = layers.token r f

lemma rotateCommit_rotated (layers : StateLayers) : Rotated layers layers.rotateCommit :=
  ⟨rfl, rfl, rfl, fun _ _ => rfl⟩

lemma rotateCommit_valid (hv : ValidLayers layers) : ValidLayers layers.rotateCommit := by
  refine ⟨⟨?_, ?_⟩, hv.tokens.length, hv.tokens.range, hv.tokens.distinct, hv.tokens.fresh⟩
  · have hinj : ∀ a b, layers.roleHandles a = layers.roleHandles b → a = b := fun a b h => hv.handles.1 h
    intro a b h
    cases a <;> cases b <;> first | rfl | exact nomatch hinj _ _ h
  · intro role
    cases role
    · exact hv.handles.2 .trial
    · exact hv.handles.2 .acceptedN
    · exact hv.handles.2 .acceptedNMinusOne

end HundunFlow.Proofs
