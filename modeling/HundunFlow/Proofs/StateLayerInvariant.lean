import HundunFlow.Proofs.AttemptEffects

/-!
# The three layers through every history of attempts

Whatever calls are made, the roles stay a permutation of the replicas, only an acceptance
rotates them, and no two tokens coincide.
-/

namespace HundunFlow.Proofs

open Lib Function

section Steps

variable {a a' : Attempt}

variable {op : AttemptOp}

lemma acceptedState_layers (a : Attempt) {ref : ℕ} (h : a.transaction.layers = some ref) :
    (acceptedState a).layers = Function.update a.layers ref (a.layers ref).rotateCommit := by
  unfold acceptedState Attempt.setCurrent Attempt.current
  rw [h]
  rfl

lemma Effect.cases_accepted (h : Effect a op a') :
    (Attempt.Accepted a a' ∧ ((∃ i, op = .commitAccept i) ∨ ∃ ready c s, op = .finish ready c s) ∧
      ∃ ref, a.transaction.layers = some ref ∧
        a'.layers = Function.update a.layers ref (a.layers ref).rotateCommit) ∨
    (¬ Attempt.Accepted a a' ∧ a'.transaction.activeCaches = a.transaction.activeCaches ∧
      ∀ ref, ValidLayers (a.layers ref) → Extends (a.layers ref) (a'.layers ref)) := by
  have hsame : ∀ layers', layers' = a.layers →
      ∀ ref, ValidLayers (a.layers ref) → Extends (a.layers ref) (layers' ref) := by
    rintro _ rfl ref hv
    exact .refl hv
  cases h with
  | opened ref hop h =>
    obtain ⟨bound, s, m, catalog, ht, -⟩ := h.transaction
    obtain ⟨layers, hlayers, hextends⟩ := h.layers
    refine .inr ⟨?_, by rw [ht]; rfl, fun ref' hv => ?_⟩
    · rintro ⟨hactive, -⟩
      exact nomatch h.idle.symm.trans hactive
    · rw [hlayers]
      exact setLayers_extends ref hextends ref' hv
  | refused status _ hidle _ ht hlayers _ _ =>
    refine .inr ⟨?_, by rw [ht], hsame _ hlayers⟩
    rintro ⟨hactive, -⟩
    exact nomatch hidle.symm.trans hactive
  | within h _ hlayers _ _ =>
    refine .inr ⟨?_, h.activeCaches, hlayers⟩
    rintro ⟨hactive, hoff, -⟩
    rw [h.active, hactive] at hoff
    exact nomatch hoff
  | claimed slot identity _ hclaim hidle hlayers _ _ =>
    refine .inr ⟨?_, ?_, hsame _ hlayers⟩
    · rintro ⟨hactive, -⟩
      exact nomatch hidle.symm.trans hactive
    · rw [hclaim]
      unfold AttemptTransaction.claimFinalFaceFluxWriter
      split <;> rfl
  | certified i p h _ _ _ =>
    rw [h]
    refine .inr ⟨?_, rfl, hsame _ rfl⟩
    rintro ⟨hactive, hoff, -⟩
    exact nomatch hactive.symm.trans hoff
  | discarded lowest _ ht hlayers _ _ =>
    refine .inr ⟨?_, by rw [ht]; rfl, hsame _ hlayers⟩
    rintro ⟨-, -, hcommitted⟩
    rw [ht] at hcommitted
    exact absurd hcommitted (by simp [discardedState, AttemptTransaction.discardAttempt])
  | accepted hactive hop ht hlayers _ _ =>
    have hlocal := (locallyActive_iff _).mp hactive
    obtain ⟨ref, href⟩ := Option.ne_none_iff_exists'.mp hlocal.2
    refine .inl ⟨⟨hlocal.1, by rw [ht]; rfl, by rw [ht]; rfl⟩, ?_, ref, href, ?_⟩
    · rcases hop with ⟨i, hop, -⟩ | ⟨ready, c, s, hop, -⟩
      · exact .inl ⟨i, hop⟩
      · exact .inr ⟨ready, c, s, hop⟩
    · rw [hlayers]
      exact acceptedState_layers a href

lemma step_valid (hv : ∀ ref, ValidLayers (a.layers ref)) (h : Attempt.Step a op a') :
    ∀ ref, ValidLayers (a'.layers ref) := by
  intro ref
  rcases (step_effect h).cases_accepted with ⟨-, -, current, -, hlayers⟩ | ⟨-, -, hextends⟩
  · rw [hlayers]
    by_cases href : ref = current
    · subst href
      rw [update_self]
      exact rotateCommit_valid (hv ref)
    · rw [update_of_ne href]
      exact hv ref
  · exact (hextends ref (hv ref)).valid

end Steps

lemma initial_valid {a : Attempt} (h : a.Initial) (ref : ℕ) : ValidLayers (a.layers ref) := by
  rcases h.layers ref with hempty | ⟨layout, identity, hallocated⟩
  · rw [hempty]
    exact empty_valid
  · exact allocate_valid hallocated

theorem exec_valid {a₀ a : Attempt} {t : List (Transition Attempt AttemptOp)} (h₀ : a₀.Initial)
    (h : Exec Attempt.Step a₀ t a) : ∀ ref, ValidLayers (a.layers ref) :=
  h.invariant (initial_valid h₀) fun _ _ _ hv hs => step_valid hv hs

/-- In every history of calls: the roles are a permutation of the three replicas, tokens are
pairwise distinct and below the counter, an acceptance rotates the layers of its attempt
once, and any other step leaves the accepted layers and the active caches alone. -/
theorem three_layer_invariant (a₀ a : Attempt) (t : List (Transition Attempt AttemptOp)) (h₀ : a₀.Initial)
    (h : Exec Attempt.Step a₀ t a) : (∀ ref, IsPermutation (a.layers ref).roleHandles) ∧
    (∀ ref r f r' f', HasToken (a.layers ref) r f → HasToken (a.layers ref) r' f' →
      (a.layers ref).token r f = (a.layers ref).token r' f' → r = r' ∧ f = f') ∧
    (∀ ref r f, HasToken (a.layers ref) r f →
      (a.layers ref).token r f < (a.layers ref).nextRevision) ∧
    ∀ tr ∈ t,
      (Attempt.Accepted tr.pre tr.post →
        ((∃ i, tr.op = .commitAccept i) ∨ ∃ ready c s, tr.op = .finish ready c s) ∧
        ∃ ref, tr.pre.transaction.layers = some ref ∧
          Rotated (tr.pre.layers ref) (tr.post.layers ref) ∧
          ∀ other, other ≠ ref → tr.post.layers other = tr.pre.layers other) ∧
      (¬ Attempt.Accepted tr.pre tr.post →
        (∀ ref, AcceptedUnchanged (tr.pre.layers ref) (tr.post.layers ref)) ∧
        tr.post.transaction.activeCaches = tr.pre.transaction.activeCaches) := by
  have hvalid := exec_valid h₀ h
  refine ⟨fun ref => (hvalid ref).handles, fun ref => (hvalid ref).tokens.distinct,
    fun ref => (hvalid ref).tokens.fresh, fun tr htr => ?_⟩
  obtain ⟨⟨u, v, -, hexec⟩, hstep⟩ := h.transition htr
  have hpre := exec_valid h₀ hexec
  rcases (step_effect hstep).cases_accepted with
    ⟨haccepted, hop, ref, href, hlayers⟩ | ⟨hnot, hcaches, hextends⟩
  · refine ⟨fun _ => ⟨hop, ref, href, ?_, fun other hne => ?_⟩, fun hnot => absurd haccepted hnot⟩
    · rw [hlayers, update_self]
      exact rotateCommit_rotated _
    · rw [hlayers, update_of_ne hne]
  · exact ⟨fun haccepted => absurd haccepted hnot,
      fun _ => ⟨fun ref => (hextends ref (hpre ref)).accepted, hcaches⟩⟩

/-- One state field and one runtime field. -/
def sampleLayout : ArenaLayout where
  fields := [
    { id := 0, interior := ⟨1, 1, 1⟩, components := 1, strideY := 8, strideZ := 8, componentStride := 8, replicas := 3,
      replicaStrideDoubles := 8, spanDoubles := 24, lifetime := .stateLayer },
    { id := 1, interior := ⟨1, 1, 1⟩, components := 1, strideY := 8, strideZ := 8, componentStride := 8, replicas := 1,
      replicaStrideDoubles := 8, rawOffsetDoubles := 24, offsetDoubles := 24, spanDoubles := 8,
      lifetime := .persistentWorkspace }]
  owners := [⟨0, 0, 32⟩]
  totalDoubles := 32
  id_eq := by
    intro i hi
    match i, hi with
    | 0, _ => rfl
    | 1, _ => rfl
  replicas_eq := by decide
  length_le := by decide

def sampleLayers : StateLayers := (StateLayers.allocate sampleLayout 1 true).toOption.getD {}

/-- A transaction with one cache slot over the sample layers. -/
def sampleAttempt : Attempt where
  transaction := (AttemptTransaction.create 2 1 3 true {}).1
  layers := fun _ => sampleLayers
  nextIdentity := 2

def sampleComm : RankComm := ⟨1, 0, by decide, by decide⟩

lemma sampleAttempt_initial : sampleAttempt.Initial :=
  ⟨⟨2, 1, 3, rfl⟩, fun _ => .inr ⟨sampleLayout, 1, rfl⟩, fun _ => rfl, by decide⟩

def sampleBegun : Attempt := (sampleAttempt.begin 0).1

def sampleRevised : Attempt := (sampleBegun.reviseTrial 0).1

lemma sampleRevised_ready : LocallyReady sampleRevised.transaction sampleRevised.current true {} := by
  rw [← readiness_ok_iff]
  decide

lemma sampleHistory : Exec Attempt.Step sampleAttempt
    [⟨sampleAttempt, .begin 0, sampleBegun⟩, ⟨sampleBegun, .reviseTrial 0, sampleRevised⟩,
      ⟨sampleRevised, .finish true (.valid sampleComm) {}, acceptedState sampleRevised⟩]
    (acceptedState sampleRevised) := by
  have hbegin : Attempt.Step sampleAttempt (.begin 0) sampleBegun :=
    step_of_done (r := ⟨(sampleAttempt.begin 0).1, (sampleAttempt.begin 0).2, []⟩) rfl
  have hrevise : Attempt.Step sampleBegun (.reviseTrial 0) sampleRevised :=
    step_of_done (r := ⟨(sampleBegun.reviseTrial 0).1, (sampleBegun.reviseTrial 0).2, []⟩) rfl
  have hfinish := step_finish_accepted sampleComm sampleRevised_ready
  exact ((Exec.single hbegin).append (Exec.single hrevise)).append (Exec.single hfinish)

theorem three_layer_invariant_sample :
    (∀ ref, IsPermutation ((acceptedState sampleRevised).layers ref).roleHandles) ∧
    Attempt.Accepted sampleRevised (acceptedState sampleRevised) ∧
    Rotated (sampleRevised.layers 0) ((acceptedState sampleRevised).layers 0) := by
  have h := three_layer_invariant sampleAttempt _ _ sampleAttempt_initial sampleHistory
  have haccepted : Attempt.Accepted sampleRevised (acceptedState sampleRevised) :=
    ⟨by decide, rfl, rfl⟩
  refine ⟨h.1, haccepted, ?_⟩
  obtain ⟨-, ref, href, hrotated, -⟩ := (h.2.2.2 ⟨sampleRevised, .finish true (.valid sampleComm) {},
    acceptedState sampleRevised⟩ (by simp)).1 haccepted
  obtain rfl : 0 = ref := by
    have hlayers : sampleRevised.transaction.layers = some 0 := by decide
    exact Option.some.inj (hlayers.symm.trans href)
  exact hrotated

end HundunFlow.Proofs
