import HundunFlow.EsfReaction
import HundunFlow.Proofs.EnsembleMeans

/-!
# The accounts of a reaction

The provider's results chained over the intervals of each field are set beside what a successful
`react` publishes.
-/

namespace HundunFlow.Proofs

open Lib Esf List Function

/-- The provider's results so far. `fractions` and `fieldDelta` are those of the last field. -/
structure ReactionChain (F σ : Type) where
  provider : σ
  nextY : ℕ → F
  speciesDelta : ℕ → F
  fractions : List F
  fieldDelta : ℕ → F

section Chain

variable {F σ : Type} [Field F] [LinearOrder F]

/-- The provider advances the field from the mass fractions that it returned last. -/
def ReactionChain.call (q : ReactionRequest F) (p : Provider F σ) (gas : GasIdentity F) (pressure enthalpy : F)
    (chain : ReactionChain F σ) (part : ℕ) : ReactionChain F σ :=
  let reply := p.advanceGas chain.provider (advanceQuery q gas pressure enthalpy chain.fractions part)
    (emptyOutput q.accepted.species chain.nextY chain.speciesDelta)
  { provider := reply.1
    nextY := reply.2.2.finalMassFractions
    speciesDelta := reply.2.2.integratedDelta
    fractions := (range q.accepted.species).map reply.2.2.finalMassFractions
    fieldDelta := fun s => chain.fieldDelta s + reply.2.2.integratedDelta s }

def ReactionChain.enter (ns : ℕ) (initial : ℕ → F) (chain : ReactionChain F σ) : ReactionChain F σ :=
  { chain with fractions := (range ns).map initial, fieldDelta := fun _ => 0 }

/-- All intervals of a field with the initial tuple `initial`. -/
def ReactionChain.field (q : ReactionRequest F) (p : Provider F σ) (gas : GasIdentity F) (pressures : ℕ → F)
    (initial : ℕ → ℕ → F) (chain : ReactionChain F σ) (f : ℕ) : ReactionChain F σ :=
  (range q.intervalCount).foldl
    (ReactionChain.call q p gas (pressures f) (initial f q.accepted.species)) (chain.enter q.accepted.species (initial f))

def initialTuple (w : Workspace F) (q : ReactionRequest F) : ℕ → ℕ → F :=
  row (w.load q.accepted.values) (q.accepted.species + 1)

/-- The results of the first `f` fields. -/
def chainAfter (w : Workspace F) (q : ReactionRequest F) (p : Provider F σ) (state : σ) (gas : GasIdentity F)
    (pressures : ℕ → F) (f : ℕ) : ReactionChain F σ :=
  (range f).foldl (ReactionChain.field q p gas pressures (initialTuple w q))
    ⟨state, w.nextY, w.speciesDelta, [], fun _ => 0⟩

def finalFraction (w : Workspace F) (q : ReactionRequest F) (p : Provider F σ) (state : σ) (gas : GasIdentity F)
    (pressures : ℕ → F) (f s : ℕ) : F :=
  (chainAfter w q p state gas pressures (f + 1)).fractions.getD s 0

/-- The sum over the intervals of field `f`. -/
def densityDelta (w : Workspace F) (q : ReactionRequest F) (p : Provider F σ) (state : σ) (gas : GasIdentity F)
    (pressures : ℕ → F) (f s : ℕ) : F :=
  (chainAfter w q p state gas pressures (f + 1)).fieldDelta s

/-- What a reaction publishes agrees with the results of the provider. -/
structure ReactionAccounts (w : Workspace F) (q : ReactionRequest F) (p : Provider F σ) (state : σ)
    (gas : GasIdentity F) (pressures : ℕ → F) (r : Reaction F σ) : Prop where
  published : r.report.published = true ∧ r.report.candidate =
    some { q.accepted with values := .candidate, owner := .this, generation := r.workspace.generation }
  fractions : ∀ f < q.accepted.fields, ∀ s < q.accepted.species,
    row r.workspace.candidate (q.accepted.species + 1) f s = finalFraction w q p state gas pressures f s
  enthalpy : ∀ f < q.accepted.fields,
    row r.workspace.candidate (q.accepted.species + 1) f q.accepted.species = initialTuple w q f q.accepted.species
  means : ∀ j ≤ q.accepted.species, r.workspace.means j =
    fieldMean q.accepted.fields fun f => row r.workspace.candidate (q.accepted.species + 1) f j
  variances : ∀ j ≤ q.accepted.species, r.workspace.variances j =
    fieldMean q.accepted.fields fun f =>
      (row r.workspace.candidate (q.accepted.species + 1) f j - r.workspace.means j) ^ 2
  density : ∀ s < q.accepted.species, r.workspace.meanSpeciesDelta s =
    fieldMean q.accepted.fields fun f => densityDelta w q p state gas pressures f s
  fractionDelta : ∀ s < q.accepted.species, r.workspace.meanFractionDelta s =
    fieldMean q.accepted.fields fun f => finalFraction w q p state gas pressures f s - initialTuple w q f s

end Chain

section Part

variable {F σ : Type} [Field F] [LinearOrder F] {q : ReactionRequest F} {p : Provider F σ}
  {id : ChemistryIdentity F} {gas : GasIdentity F} {pressures densities : ℕ → F} {f part : ℕ} {r r' : Reaction F σ}

/-- The reply to the call that `advancePart` makes. -/
def partReply (q : ReactionRequest F) (p : Provider F σ) (gas : GasIdentity F) (pressures : ℕ → F) (f : ℕ)
    (r : Reaction F σ) (part : ℕ) : σ × PortableStatus × AdvanceOutput F :=
  let fractions := row r.workspace.transported (q.accepted.species + 1) f
  p.advanceGas r.provider
    (advanceQuery q gas (pressures f) (fractions q.accepted.species) ((range q.accepted.species).map fractions) part)
    (emptyOutput q.accepted.species r.workspace.nextY r.workspace.speciesDelta)

lemma advancePart_ok (h : advancePart q p id gas pressures f r part = .ok r') :
    let reply := partReply q p gas pressures f r part
    r'.provider = reply.1 ∧ r'.workspace.nextY = reply.2.2.finalMassFractions ∧
      r'.workspace.speciesDelta = reply.2.2.integratedDelta ∧
      (∀ s < q.accepted.species, r'.workspace.meanSpeciesDelta s =
        r.workspace.meanSpeciesDelta s + reply.2.2.integratedDelta s / q.accepted.fields) ∧
      r'.workspace.transported = setRow r.workspace.transported (q.accepted.species + 1) f q.accepted.species
        reply.2.2.finalMassFractions := by
  dsimp only [advancePart] at h
  split at h
  · cases h
  · split at h
    · cases h
    · split at h
      · cases h
      · split at h
        · cases h
        · split at h
          · cases h
          · cases h
            refine ⟨rfl, rfl, rfl, ?_, rfl⟩
            intro s hs
            exact if_pos hs

/-- The workspace holds the chain of a field under way, and is as `base` elsewhere. -/
structure RunningField (q : ReactionRequest F) (f : ℕ) (base : Workspace F) (enthalpy : F) (chain : ReactionChain F σ)
    (r : Reaction F σ) : Prop where
  provider : r.provider = chain.provider
  nextY : r.workspace.nextY = chain.nextY
  speciesDelta : r.workspace.speciesDelta = chain.speciesDelta
  fractions : (range q.accepted.species).map (row r.workspace.transported (q.accepted.species + 1) f) = chain.fractions
  enthalpy : row r.workspace.transported (q.accepted.species + 1) f q.accepted.species = enthalpy
  others : ∀ g ≠ f, ∀ j < q.accepted.species + 1, row r.workspace.transported (q.accepted.species + 1) g j =
    row base.transported (q.accepted.species + 1) g j
  delta : ∀ s < q.accepted.species, r.workspace.meanSpeciesDelta s =
    base.meanSpeciesDelta s + chain.fieldDelta s / q.accepted.fields

lemma advancePart_running {base : Workspace F} {enthalpy : F} {chain : ReactionChain F σ}
    (hin : RunningField q f base enthalpy chain r) (h : advancePart q p id gas pressures f r part = .ok r') :
    RunningField q f base enthalpy (chain.call q p gas (pressures f) enthalpy part) r' := by
  obtain ⟨hprovider, hnext, hdelta, hmean, hmoved⟩ := advancePart_ok h
  have hreply : partReply q p gas pressures f r part =
      p.advanceGas chain.provider (advanceQuery q gas (pressures f) enthalpy chain.fractions part)
        (emptyOutput q.accepted.species chain.nextY chain.speciesDelta) := by
    simp only [partReply, hin.provider, hin.nextY, hin.speciesDelta, hin.fractions, hin.enthalpy]
  rw [hreply] at hprovider hnext hdelta hmean hmoved
  refine ⟨hprovider, hnext, hdelta, ?_, ?_, ?_, ?_⟩
  · refine map_congr_left fun s hs => ?_
    have hs := mem_range.mp hs
    rw [hmoved, row_setRow_self (Nat.lt_succ_of_lt hs), if_pos hs]
  · rw [hmoved, row_setRow_self (Nat.lt_succ_self _), if_neg (Nat.lt_irrefl _), hin.enthalpy]
  · intro g hg j hj
    rw [hmoved, row_setRow_of_ne hj hg, hin.others g hg j hj]
  · intro s hs
    rw [hmean s hs, hin.delta s hs, add_assoc, ← add_div]
    rfl

/-- The first `f` fields hold the results of the chain, the others what they were admitted with. -/
structure FieldsDone (w : Workspace F) (q : ReactionRequest F) (p : Provider F σ) (state : σ) (gas : GasIdentity F)
    (pressures : ℕ → F) (f : ℕ) (r : Reaction F σ) : Prop where
  provider : r.provider = (chainAfter w q p state gas pressures f).provider
  nextY : r.workspace.nextY = (chainAfter w q p state gas pressures f).nextY
  speciesDelta : r.workspace.speciesDelta = (chainAfter w q p state gas pressures f).speciesDelta
  done : ∀ g < f, (range q.accepted.species).map (row r.workspace.transported (q.accepted.species + 1) g) =
    (chainAfter w q p state gas pressures (g + 1)).fractions
  enthalpy : ∀ g < f, row r.workspace.transported (q.accepted.species + 1) g q.accepted.species =
    initialTuple w q g q.accepted.species
  waiting : ∀ g, f ≤ g → g < q.accepted.fields → ∀ j < q.accepted.species + 1,
    row r.workspace.transported (q.accepted.species + 1) g j = initialTuple w q g j
  delta : ∀ s < q.accepted.species, r.workspace.meanSpeciesDelta s =
    (∑ g ∈ Finset.range f, densityDelta w q p state gas pressures g s) / q.accepted.fields

variable {w : Workspace F} {state : σ}

omit [LinearOrder F] in
lemma chainAfter_succ (f : ℕ) : chainAfter w q p state gas pressures (f + 1) =
    (chainAfter w q p state gas pressures f).field q p gas pressures (initialTuple w q) f := by
  rw [chainAfter, range_succ, foldl_append]
  rfl

lemma advanceField_done (hf : f < q.accepted.fields) (hdone : FieldsDone w q p state gas pressures f r)
    (h : advanceField q p id gas pressures densities r f = .ok r') :
    FieldsDone w q p state gas pressures (f + 1) r' := by
  let start : Reaction F σ := { r.atField f with density := densities f }
  let entered := (chainAfter w q p state gas pressures f).enter q.accepted.species (initialTuple w q f)
  let chain := fun i => (range i).foldl
    (ReactionChain.call q p gas (pressures f) (initialTuple w q f q.accepted.species)) entered
  have hchain : chain q.intervalCount = chainAfter w q p state gas pressures (f + 1) := (chainAfter_succ f).symm
  have hstart : RunningField q f r.workspace (initialTuple w q f q.accepted.species) (chain 0) start := by
    refine ⟨hdone.provider, hdone.nextY, hdone.speciesDelta, ?_, ?_, fun _ _ _ _ => rfl, ?_⟩
    · refine map_congr_left fun s hs => ?_
      exact hdone.waiting f le_rfl hf s (Nat.lt_succ_of_lt (mem_range.mp hs))
    · exact hdone.waiting f le_rfl hf _ (Nat.lt_succ_self _)
    · intro s _
      change _ = _ + (0 : F) / _
      rw [zero_div, add_zero]
      rfl
  change (range q.intervalCount).foldlM (advancePart q p id gas pressures f) start >>= _ = _ at h
  cases hfold : (range q.intervalCount).foldlM (advancePart q p id gas pressures f) start with
  | error e =>
    rw [hfold] at h
    cases h
  | ok r₁ =>
    rw [hfold] at h
    cases h
    have hin : RunningField q f r.workspace (initialTuple w q f q.accepted.species) (chain q.intervalCount) r₁ := by
      refine range_foldlM_rule (I := fun i r' =>
        RunningField q f r.workspace (initialTuple w q f q.accepted.species) (chain i) r') hstart ?_ hfold
      intro i s s' _ hs hstep
      have hnext : chain (i + 1) =
          (chain i).call q p gas (pressures f) (initialTuple w q f q.accepted.species) i := by
        simp only [chain, range_succ, foldl_append, foldl_cons, foldl_nil]
      rw [hnext]
      exact advancePart_running hs hstep
    rw [hchain] at hin
    refine ⟨hin.provider, hin.nextY, hin.speciesDelta, ?_, ?_, ?_, ?_⟩
    · intro g hg
      rcases Nat.lt_succ_iff_lt_or_eq.mp hg with hlt | rfl
      · rw [← hdone.done g hlt]
        refine map_congr_left fun s hs => ?_
        exact hin.others g (Nat.ne_of_lt hlt) s (Nat.lt_succ_of_lt (mem_range.mp hs))
      · exact hin.fractions
    · intro g hg
      rcases Nat.lt_succ_iff_lt_or_eq.mp hg with hlt | rfl
      · exact (hin.others g (Nat.ne_of_lt hlt) _ (Nat.lt_succ_self _)).trans (hdone.enthalpy g hlt)
      · exact hin.enthalpy
    · intro g hfg hg j hj
      exact (hin.others g (by omega) j hj).trans (hdone.waiting g (by omega) hg j hj)
    · intro s hs
      rw [Finset.sum_range_succ, add_div]
      exact (hin.delta s hs).trans (congrArg (· + _) (hdone.delta s hs))

/-- The first `f` fields are copied. -/
structure FieldsAdmitted (w : Workspace F) (q : ReactionRequest F) (state : σ) (f : ℕ) (r : Reaction F σ) : Prop where
  provider : r.provider = state
  nextY : r.workspace.nextY = w.nextY
  speciesDelta : r.workspace.speciesDelta = w.speciesDelta
  candidate : r.workspace.candidate = w.candidate
  copied : ∀ g < f, ∀ j < q.accepted.species + 1,
    row r.workspace.transported (q.accepted.species + 1) g j = initialTuple w q g j
  delta : ∀ s, r.workspace.meanSpeciesDelta s = 0

omit [Field F] [LinearOrder F] in
lemma load_congr [Field F] {w w' : Workspace F} (h : w'.candidate = w.candidate) (values : Values F) :
    w'.load values = w.load values := by
  cases values with
  | null => rfl
  | outside values => rfl
  | candidate => exact h

lemma admitField_admitted (hr : FieldsAdmitted w q state f r) (h : admitField q pressures densities r f = .ok r') :
    FieldsAdmitted w q state (f + 1) r' := by
  have hload : r.workspace.load q.accepted.values = w.load q.accepted.values := load_congr hr.candidate _
  dsimp only [admitField] at h
  split at h
  · cases h
    refine ⟨hr.provider, hr.nextY, hr.speciesDelta, hr.candidate, ?_, hr.delta⟩
    intro g hg j hj
    rcases Nat.lt_succ_iff_lt_or_eq.mp hg with hlt | rfl
    · exact (row_setRow_of_ne hj (Nat.ne_of_lt hlt)).trans (hr.copied g hlt j hj)
    · refine (row_setRow_self hj).trans ((if_pos hj).trans ?_)
      exact congrArg (fun buffer => row buffer _ g j) hload
  · cases h

/-- The first `j` components of the candidate are filled, and their means and variances. -/
structure ComponentsPublished (stride n : ℕ) (base : Workspace F) (j : ℕ) (w : Workspace F) : Prop where
  transported : w.transported = base.transported
  meanSpeciesDelta : w.meanSpeciesDelta = base.meanSpeciesDelta
  candidate : ∀ f < n, ∀ i < j, i < stride → row w.candidate stride f i = row base.transported stride f i
  means : ∀ i < j, w.means i = fieldMean n fun f => row base.transported stride f i
  variances : ∀ i < j, w.variances i = fieldMean n fun f => (row base.transported stride f i - w.means i) ^ 2

omit [LinearOrder F] in
lemma publishComponent_published {stride n j : ℕ} {base w : Workspace F} (hj : j < stride)
    (hw : ComponentsPublished stride n base j w) :
    ComponentsPublished stride n base (j + 1) (publishComponent stride n w j) := by
  have hvalue : (fun f => w.transported (f * stride + j)) = fun f => row base.transported stride f j := by
    rw [hw.transported]
    rfl
  refine ⟨hw.transported, hw.meanSpeciesDelta, ?_, ?_, ?_⟩
  · intro f hf i hi histride
    change row (setColumn w.candidate stride n j fun f => w.transported (f * stride + j)) stride f i = _
    rw [row_setColumn histride hf]
    by_cases hij : i = j
    · rw [if_pos hij, hij]
      exact congrFun hvalue f
    · rw [if_neg hij]
      exact hw.candidate f hf i (by omega) histride
  · intro i hi
    by_cases hij : i = j
    · subst hij
      refine (update_self ..).trans ?_
      rw [ensembleMean_eq, hvalue]
    · exact (update_of_ne hij _ _).trans (hw.means i (by omega))
  · intro i hi
    by_cases hij : i = j
    · subst hij
      refine (update_self ..).trans ?_
      rw [ensembleVariance_eq]
      refine congrArg (fieldMean n) (funext fun f => ?_)
      rw [congrFun hvalue f]
      exact congrArg (fun m => (_ - m) ^ 2) (update_self i _ w.means).symm
    · refine (update_of_ne hij _ _).trans ((hw.variances i (by omega)).trans ?_)
      refine congrArg (fieldMean n) (funext fun f => ?_)
      exact congrArg (fun m => (_ - m) ^ 2) (update_of_ne hij _ w.means).symm

omit [LinearOrder F] in
lemma components_published (stride n : ℕ) (base : Workspace F) :
    ComponentsPublished stride n base stride ((range stride).foldl (publishComponent stride n) base) := by
  refine range_foldl_rule (I := ComponentsPublished stride n base) ?_ fun j w hj => publishComponent_published hj
  exact ⟨rfl, rfl, fun f _ i hi => absurd hi (Nat.not_lt_zero i), fun i hi => absurd hi (Nat.not_lt_zero i),
    fun i hi => absurd hi (Nat.not_lt_zero i)⟩

def Unpublished : Except (Reaction F σ) (Reaction F σ) → Prop :=
  Outcome (fun r => r.report.status = .invalidInput) fun r => r.report.status ≠ .success

lemma admitField_unpublished (h : r.report.status = .invalidInput) :
    Unpublished (admitField q pressures densities r f) := by
  dsimp only [admitField]
  split
  · exact h
  · exact fun hs => nomatch h.symm.trans hs

lemma advancePart_unpublished (h : r.report.status = .invalidInput) :
    Unpublished (advancePart q p id gas pressures f r part) := by
  dsimp only [advancePart]
  split
  · rename_i hstatus
    exact hstatus
  · split
    · exact PortableStatus.noConfusion
    · split
      · exact PortableStatus.noConfusion
      · split
        · exact PortableStatus.noConfusion
        · split
          · exact PortableStatus.noConfusion
          · exact h

lemma advanceField_unpublished (h : r.report.status = .invalidInput) :
    Unpublished (advanceField q p id gas pressures densities r f) := by
  let start : Reaction F σ := { r.atField f with density := densities f }
  have hloop : Unpublished ((range q.intervalCount).foldlM (advancePart q p id gas pressures f) start) :=
    range_foldlM_outcome h fun i r hr => advancePart_unpublished hr
  exact hloop.bind fun _ hr => hr

lemma reactFields_success (h : r.report.status = .invalidInput) {r' : Reaction F σ}
    (hr : reactFields q p id gas pressures densities r = .ok r' ∨
      reactFields q p id gas pressures densities r = .error r' ∧ r'.report.status = .success) :
    ∃ r₁ r₂,
      (range q.accepted.fields).foldlM (admitField q pressures densities)
        { r with workspace := { r.workspace with meanSpeciesDelta := fun _ => 0 } } = .ok r₁ ∧
      (range q.accepted.fields).foldlM (advanceField q p id gas pressures densities) r₁ = .ok r₂ ∧
      r' = publishReaction q.accepted r₂ := by
  let start : Reaction F σ := { r with workspace := { r.workspace with meanSpeciesDelta := fun _ => 0 } }
  have hadmit : Unpublished ((range q.accepted.fields).foldlM (admitField q pressures densities) start) :=
    range_foldlM_outcome h fun i r hr => admitField_unpublished hr
  have heq : reactFields q p id gas pressures densities r =
      ((range q.accepted.fields).foldlM (admitField q pressures densities) start >>= fun r₁ =>
        (range q.accepted.fields).foldlM (advanceField q p id gas pressures densities) r₁ >>= fun r₂ =>
          .ok (publishReaction q.accepted r₂)) := rfl
  rw [heq] at hr
  cases hfold : (range q.accepted.fields).foldlM (admitField q pressures densities) start with
  | error e =>
    rw [hfold] at hr hadmit
    rcases hr with hr | ⟨hr, hsuccess⟩
    · cases hr
    · cases hr
      exact absurd hsuccess hadmit
  | ok r₁ =>
    rw [hfold] at hr hadmit
    have hadvance : Unpublished ((range q.accepted.fields).foldlM (advanceField q p id gas pressures densities) r₁) :=
      range_foldlM_outcome hadmit fun i r hr => advanceField_unpublished hr
    change ((range q.accepted.fields).foldlM (advanceField q p id gas pressures densities) r₁ >>= fun r₂ =>
          Except.ok (publishReaction q.accepted r₂)) = _ ∨
        ((range q.accepted.fields).foldlM (advanceField q p id gas pressures densities) r₁ >>= fun r₂ =>
          Except.ok (publishReaction q.accepted r₂)) = _ ∧ _ at hr
    cases hfold₂ : (range q.accepted.fields).foldlM (advanceField q p id gas pressures densities) r₁ with
    | error e =>
      rw [hfold₂] at hr hadvance
      rcases hr with hr | ⟨hr, hsuccess⟩
      · cases hr
      · cases hr
        exact absurd hsuccess hadvance
    | ok r₂ =>
      rw [hfold₂] at hr
      rcases hr with hr | ⟨hr, -⟩
      · cases hr
        exact ⟨r₁, r₂, rfl, hfold₂, rfl⟩
      · cases hr

def reactionStart (w : Workspace F) (q : ReactionRequest F) (state : σ) : Reaction F σ where
  report := Report.initial q.modelIdentity
  workspace := w.nextGeneration
  provider := state
  density := 0

lemma react_success (h : (react w q p state).report.status = .success) :
    ∃ id gas pressures densities, q.gasIdentity = some gas ∧ q.pressures = some pressures ∧
      (reactFields q p id gas pressures densities (reactionStart w q state) = .ok (react w q p state) ∨
        reactFields q p id gas pressures densities (reactionStart w q state) = .error (react w q p state) ∧
          (react w q p state).report.status = .success) := by
  have hstart : (reactionStart w q state).report.status ≠ .success := PortableStatus.noConfusion
  have hfail : ∀ status, status ≠ .success → ((reactionStart w q state).fail status).report.status ≠ .success :=
    fun _ hs => hs
  generalize hr : react w q p state = r at h ⊢
  dsimp only [react] at hr
  change (if _ then (reactionStart w q state).fail .staleRevision
    else if _ then (reactionStart w q state).fail .capacityExceeded
    else if _ then reactionStart w q state else _) = r at hr
  split at hr
  · exact absurd h (hr ▸ hfail _ (by decide))
  · split at hr
    · exact absurd h (hr ▸ hfail _ (by decide))
    · split at hr
      · exact absurd h (hr ▸ hstart)
      · split at hr
        · rename_i id gas pressures densities hid hgas hpress hdensities
          split at hr
          · exact absurd h (hr ▸ hstart)
          · split at hr
            · exact absurd h (hr ▸ hfail .identityMismatch (by decide))
            · split at hr
              · exact absurd h (hr ▸ hfail .identityMismatch (by decide))
              · split at hr
                · exact absurd h (hr ▸ hfail .identityMismatch (by decide))
                · refine ⟨id, gas, pressures, densities, hgas, hpress, ?_⟩
                  split at hr
                  · rename_i r₁ heq
                    exact .inl (hr ▸ heq)
                  · rename_i r₁ heq
                    exact .inr ⟨hr ▸ heq, h⟩
        · exact absurd h (hr ▸ hstart)

lemma fields_done (h : reactFields q p id gas pressures densities (reactionStart w q state) = .ok r ∨
      reactFields q p id gas pressures densities (reactionStart w q state) = .error r ∧ r.report.status = .success) :
    ∃ r₂, FieldsDone w q p state gas pressures q.accepted.fields r₂ ∧ r = publishReaction q.accepted r₂ := by
  obtain ⟨r₁, r₂, hadmit, hadvance, rfl⟩ := reactFields_success rfl h
  refine ⟨r₂, ?_, rfl⟩
  have hcopied : FieldsAdmitted w q state q.accepted.fields r₁ := by
    refine range_foldlM_rule (I := FieldsAdmitted w q state) ?_ (fun i r r' _ => admitField_admitted) hadmit
    exact ⟨rfl, rfl, rfl, rfl, fun g hg => absurd hg (Nat.not_lt_zero g), fun _ => rfl⟩
  refine range_foldlM_rule (I := FieldsDone w q p state gas pressures) ?_
    (fun i r r' hi => advanceField_done hi) hadvance
  refine ⟨hcopied.provider, hcopied.nextY, hcopied.speciesDelta, fun g hg => absurd hg (Nat.not_lt_zero g),
    fun g hg => absurd hg (Nat.not_lt_zero g), fun g _ hg => hcopied.copied g hg, fun s _ => ?_⟩
  rw [hcopied.delta s, Finset.range_zero, Finset.sum_empty, zero_div]

section

omit [LinearOrder F]

lemma finalFraction_eq (hdone : FieldsDone w q p state gas pressures q.accepted.fields r) {s : ℕ}
    (hf : f < q.accepted.fields) (hs : s < q.accepted.species) :
    row r.workspace.transported (q.accepted.species + 1) f s = finalFraction w q p state gas pressures f s := by
  rw [finalFraction, ← hdone.done f hf, getD_eq_getElem?_getD, List.getElem?_map, List.getElem?_range hs]
  rfl

lemma publishReaction_fractionDelta (hdone : FieldsDone w q p state gas pressures q.accepted.fields r) {s : ℕ}
    (hs : s < q.accepted.species) : (publishReaction q.accepted r).workspace.meanFractionDelta s =
      match q.accepted.values with
      | .candidate => 0
      | _ => fieldMean q.accepted.fields fun f => finalFraction w q p state gas pressures f s - initialTuple w q f s := by
  have hcompon := components_published (q.accepted.species + 1) q.accepted.fields r.workspace
  let published := (range (q.accepted.species + 1)).foldl
    (publishComponent (q.accepted.species + 1) q.accepted.fields) r.workspace
  change (if s < q.accepted.species then runningSum _ fun f =>
    (published.candidate (f * (q.accepted.species + 1) + s) -
      published.load q.accepted.values (f * (q.accepted.species + 1) + s)) / q.accepted.fields else _) = _
  rw [if_pos hs, runningSum_eq, ← Finset.sum_div]
  have hfinal : ∀ f < q.accepted.fields, published.candidate (f * (q.accepted.species + 1) + s) =
      finalFraction w q p state gas pressures f s := by
    intro f hf
    rw [← finalFraction_eq hdone hf hs]
    exact hcompon.candidate f hf s (Nat.lt_succ_of_lt hs) (Nat.lt_succ_of_lt hs)
  have hload : ∀ values, q.accepted.values = values → values ≠ .candidate → published.load values =
      w.load q.accepted.values := by
    intro values heq hvalues
    rw [heq]
    cases values with
    | null => rfl
    | outside values => rfl
    | candidate => exact absurd rfl hvalues
  cases hvalues : q.accepted.values with
  | candidate =>
    change (∑ f ∈ Finset.range _, (published.candidate _ - published.candidate _)) / _ = (0 : F)
    rw [Finset.sum_eq_zero fun f _ => sub_self _, zero_div]
  | null =>
    refine fieldMean_congr fun f hf => ?_
    rw [hfinal f hf, hload _ hvalues (fun hne => nomatch hne)]
    rfl
  | outside values =>
    refine fieldMean_congr fun f hf => ?_
    rw [hfinal f hf, hload _ hvalues (fun hne => nomatch hne)]
    rfl

lemma publishReaction_accounts (hdone : FieldsDone w q p state gas pressures q.accepted.fields r)
    (hdelta : ∀ s < q.accepted.species, (publishReaction q.accepted r).workspace.meanFractionDelta s =
      fieldMean q.accepted.fields fun f => finalFraction w q p state gas pressures f s - initialTuple w q f s) :
    ReactionAccounts w q p state gas pressures (publishReaction q.accepted r) := by
  have hcompon := components_published (q.accepted.species + 1) q.accepted.fields r.workspace
  have hcand : ∀ f < q.accepted.fields, ∀ i ≤ q.accepted.species,
      row (publishReaction q.accepted r).workspace.candidate (q.accepted.species + 1) f i =
        row r.workspace.transported (q.accepted.species + 1) f i :=
    fun f hf i hi => hcompon.candidate f hf i (Nat.lt_succ_of_le hi) (Nat.lt_succ_of_le hi)
  refine ⟨⟨rfl, rfl⟩, ?_, ?_, ?_, ?_, ?_, hdelta⟩
  · intro f hf s hs
    rw [hcand f hf s hs.le, finalFraction_eq hdone hf hs]
  · intro f hf
    rw [hcand f hf _ le_rfl, hdone.enthalpy f hf]
  · intro j hj
    refine (hcompon.means j (Nat.lt_succ_of_le hj)).trans (fieldMean_congr fun f hf => ?_)
    exact (hcand f hf j hj).symm
  · intro j hj
    refine (hcompon.variances j (Nat.lt_succ_of_le hj)).trans (fieldMean_congr fun f hf => ?_)
    rw [hcand f hf j hj]
    rfl
  · intro s hs
    refine (congrFun hcompon.meanSpeciesDelta s).trans ((hdone.delta s hs).trans ?_)
    rfl

end

lemma react_candidate (h : (react w q p state).report.status = .success) : (react w q p state).report.candidate =
    some { q.accepted with values := .candidate, owner := .this, generation := (react w q p state).workspace.generation } := by
  obtain ⟨_, _, _, _, _, _, hloops⟩ := react_success h
  obtain ⟨r, -, heq⟩ := fields_done hloops
  rw [heq]
  rfl

/-- A successful reaction keeps its accounts unless it was given the candidate of the same workspace and changed a mean. -/
theorem reaction_accounting (w : Workspace F) (q : ReactionRequest F) (p : Provider F σ) (state : σ)
    (h : (react w q p state).report.status = .success) :
    ∃ gas pressures, q.gasIdentity = some gas ∧ q.pressures = some pressures ∧
      (ReactionAccounts w q p state gas pressures (react w q p state) ↔
        q.accepted.values ≠ .candidate ∨ ∀ s < q.accepted.species,
          (fieldMean q.accepted.fields fun f => finalFraction w q p state gas pressures f s) =
            fieldMean q.accepted.fields fun f => initialTuple w q f s) := by
  obtain ⟨id, gas, pressures, densities, hgas, hpressures, hloops⟩ := react_success h
  obtain ⟨r, hdone, heq⟩ := fields_done hloops
  refine ⟨gas, pressures, hgas, hpressures, ?_⟩
  rw [heq]
  have hdelta := fun s (hs : s < q.accepted.species) => publishReaction_fractionDelta hdone hs
  constructor
  · intro haccounts
    by_cases hvalues : q.accepted.values = .candidate
    · refine .inr fun s hs => ?_
      have hpublished := hdelta s hs
      simp only [hvalues] at hpublished
      have hzero := (haccounts.fractionDelta s hs).symm.trans hpublished
      rw [fieldMean_sub] at hzero
      exact sub_eq_zero.mp hzero
    · exact .inl hvalues
  · intro hcondition
    refine publishReaction_accounts hdone fun s hs => (hdelta s hs).trans ?_
    cases hvalues : q.accepted.values with
    | candidate =>
      have hmeans := hcondition.resolve_left (fun hne => hne hvalues) s hs
      change (0 : F) = _
      rw [fieldMean_sub, hmeans, sub_self]
    | null => rfl
    | outside values => rfl

end Part

def isomerChemistry : ChemistryIdentity ℚ := ⟨1, [⟨1, [1], 0⟩, ⟨1, [1], 0⟩], 1⟩

def isomerGas : GasIdentity ℚ :=
  ⟨"sha", "gas", ["A", "B"], ["X"], [1, 1], [1, 1], "reference", 1, 1, "model"⟩

/-- Half of the first isomer turns into the second. -/
def isomerProvider : Provider ℚ Unit where
  gasIdentity := isomerGas
  advanceGas := fun _ query out =>
    let y := (query.state.massFractions.getD []).getD 0 0
    ((), .success,
      { out with
        finalSample := ⟨query.state.revision, 1, query.state.pressure, 1, 1, query.state.enthalpy, 1, 0, 0⟩
        finalMassFractions := fun s => if s = 0 then y / 2 else 1 - y / 2
        integratedDelta := fun s => if s = 0 then - y / 2 else y / 2
        completedDuration := query.duration })

def isomerWorkspace : Workspace ℚ :=
  ⟨true, 0, 2, 1, fun _ _ => 0, fun _ => 0, fun _ => 0, fun _ => 0, fun _ => 0, fun _ => 0, fun _ => 0, fun _ => 0,
    fun _ => 0, fun _ => 0⟩

def isomerRequest (accepted : View ℚ) : ReactionRequest ℚ where
  accepted := accepted
  expectedRevision := {}
  chemistryIdentity := some isomerChemistry
  gasIdentity := some isomerGas
  pressures := some fun _ => 1
  initialDensities := some fun _ => 1
  startTime := 0
  duration := 1
  intervals := .twoHalves
  observeElementBalance := false

def isomerView : View ℚ := ⟨{}, 1, 1, 2, .outside fun k => if k < 2 then 1 / 2 else 0, .none, 0⟩

def firstReaction : Reaction ℚ Unit := react isomerWorkspace (isomerRequest isomerView) isomerProvider ()

def reactedView : View ℚ := ⟨{}, 1, 1, 2, .candidate, .this, 1⟩

def secondReaction : Reaction ℚ Unit := react firstReaction.workspace (isomerRequest reactedView) isomerProvider ()

theorem reaction_accounting_sample :
    ∃ gas pressures, (isomerRequest isomerView).gasIdentity = some gas ∧ (isomerRequest isomerView).pressures = some pressures ∧
      (ReactionAccounts isomerWorkspace (isomerRequest isomerView) isomerProvider () gas pressures firstReaction ↔
        isomerView.values ≠ .candidate ∨ ∀ s < 2,
          (fieldMean 1 fun f => finalFraction isomerWorkspace (isomerRequest isomerView) isomerProvider () gas pressures f s) =
            fieldMean 1 fun f => initialTuple isomerWorkspace (isomerRequest isomerView) f s) :=
  reaction_accounting isomerWorkspace (isomerRequest isomerView) isomerProvider () (by decide +kernel)

/-- A second reaction on the candidate of the first one reports no change of the mass fractions. -/
theorem reaction_on_own_candidate :
    firstReaction.report.candidate = some reactedView ∧ firstReaction.workspace.validBorrow reactedView = true ∧
      secondReaction.report.status = .success ∧ secondReaction.workspace.candidate 0 = 1 / 32 ∧
      secondReaction.workspace.meanFractionDelta 0 = 0 ∧
      ¬ ∃ pressures, ReactionAccounts firstReaction.workspace (isomerRequest reactedView) isomerProvider () isomerGas
        pressures secondReaction := by
  have hgeneration : firstReaction.workspace.generation = 1 := by decide +kernel
  have hcandidate : firstReaction.report.candidate = some reactedView := by
    refine (react_candidate (by decide +kernel)).trans ?_
    rw [show (react _ _ _ _).workspace.generation = 1 from hgeneration]
    rfl
  refine ⟨hcandidate, by decide +kernel, by decide +kernel, by decide +kernel, by decide +kernel, ?_⟩
  rintro ⟨pressures, haccounts⟩
  have hdelta := haccounts.fractionDelta 0 (by decide)
  have hfraction := haccounts.fractions 0 (by decide) 0 (by decide)
  have hzero : secondReaction.workspace.meanFractionDelta 0 = 0 := by decide +kernel
  have hrow : row secondReaction.workspace.candidate 3 0 0 = 1 / 32 := by decide +kernel
  have hinitial : initialTuple firstReaction.workspace (isomerRequest reactedView) 0 0 = 1 / 8 := by decide +kernel
  have hmean : fieldMean 1 (fun f =>
      finalFraction firstReaction.workspace (isomerRequest reactedView) isomerProvider () isomerGas pressures f 0 -
        initialTuple firstReaction.workspace (isomerRequest reactedView) f 0) = 1 / 32 - 1 / 8 := by
    rw [fieldMean, Finset.sum_range_one, ← hinitial, ← hrow, Nat.cast_one, div_one]
    exact congrArg (· - _) hfraction.symm
  have heq : (0 : ℚ) = 1 / 32 - 1 / 8 := hzero.symm.trans (hdelta.trans hmean)
  norm_num at heq

end HundunFlow.Proofs
