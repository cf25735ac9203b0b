import HundunFlow.Proofs.StateLayerInvariant

/-!
# The ranks in lockstep

Between two calls of `collective_finish` every rank works on its own transaction. All ranks accept the same
attempts, so their roles stand for the same replicas after every history.
-/

namespace HundunFlow.Proofs

open Lib Function

variable {n : ℕ} (hn : 0 < n) (hsize : n < 2 ^ 31)

/-- A call that decides nothing. Every rank works on its layers 0. -/
def RankLocal : AttemptOp → Prop
  | .begin ref => ref = 0
  | .prepare .. | .commitAccept _ | .commitReject _ | .finish .. => False
  | _ => True

inductive RanksCall (n : ℕ) where
  | single (rank : Fin n) (op : AttemptOp)
  | finish (ready : Fin n → Bool) (localStatus : Fin n → RawStatus)

inductive RanksStep : (Fin n → Attempt) → RanksCall n → (Fin n → Attempt) → Prop where
  | single (s : Fin n → Attempt) (rank : Fin n) (op : AttemptOp) (after : Attempt) (hlocal : RankLocal op)
      (h : Attempt.Step (s rank) op after) : RanksStep s (.single rank op) (update s rank after)
  | finish (s : Fin n → Attempt) (ready : Fin n → Bool) (localStatus : Fin n → RawStatus) (trace : List MpiSignature)
      (r : Fin n → AttemptResult) (h : (mpiNetwork hn).Run
        (fun i => (s i).collectiveFinish (ready i) (rankComm hsize i) (localStatus i)) trace r) :
      RanksStep s (.finish ready localStatus) fun i => (r i).attempt

instance (a a' : Attempt) : Decidable (Attempt.Accepted a a') := inferInstanceAs (Decidable (_ ∧ _ ∧ _))

def acceptances (t : List (Transition (Fin n → Attempt) (RanksCall n))) : ℕ :=
  t.countP fun tr => ∀ i, Attempt.Accepted (tr.pre i) (tr.post i)

/-- The state of a rank after this many acceptances. -/
structure InStep (accepted : ℕ) (a : Attempt) : Prop where
  valid : ∀ ref, ValidLayers (a.layers ref)
  bound : ∀ ref, a.transaction.layers = some ref → ref = 0
  roles : ∀ role, (a.layers 0).handle role = (({} : StateLayers).handle role + 2 * accepted) % 3

section Rank

variable {a a' : Attempt} {op : AttemptOp} {accepted : ℕ}

/-- Beginning an attempt binds the layers, and no other call of a rank does. -/
lemma Effect.bound (h : Effect a op a') (hlocal : RankLocal op) (hbound : ∀ ref, a.transaction.layers = some ref → ref = 0) :
    ∀ ref, a'.transaction.layers = some ref → ref = 0 := by
  cases h with
  | opened ref hop h =>
    obtain ⟨bound, s, m, catalog, ht, -⟩ := h.transaction
    rw [hop] at hlocal
    rw [ht]
    rintro _ ⟨⟩
    exact hlocal
  | refused status _ _ _ ht =>
    rw [ht]
    exact hbound
  | within h =>
    rw [h.layers]
    exact hbound
  | claimed slot identity _ hclaim =>
    rw [hclaim]
    unfold AttemptTransaction.claimFinalFaceFluxWriter
    split <;> exact hbound
  | certified i p h =>
    rw [h]
    exact hbound
  | discarded lowest hop =>
    rcases hop with ⟨i, ready, c, s, rfl⟩ | ⟨i, rfl⟩ | ⟨ready, c, s, rfl⟩ <;> exact hlocal.elim
  | accepted _ hop =>
    rcases hop with ⟨i, rfl, -⟩ | ⟨ready, c, s, rfl, -⟩ <;> exact hlocal.elim

lemma InStep.local (h : InStep accepted a) (hlocal : RankLocal op) (hstep : Attempt.Step a op a') :
    InStep accepted a' ∧ ¬ Attempt.Accepted a a' := by
  have heffect := step_effect hstep
  rcases heffect.cases_accepted with ⟨-, hop, -⟩ | ⟨hnot, -, hextends⟩
  · rcases hop with ⟨i, rfl⟩ | ⟨ready, c, status, rfl⟩ <;> exact hlocal.elim
  · refine ⟨⟨step_valid h.valid hstep, heffect.bound hlocal h.bound, fun role => ?_⟩, hnot⟩
    exact (congrFun (hextends 0 (h.valid 0)).handles role).trans (h.roles role)

lemma InStep.accept (h : InStep accepted a) (hactive : a.transaction.active = true ∧ a.transaction.layers ≠ none) :
    InStep (accepted + 1) (acceptedState a) ∧ Attempt.Accepted a (acceptedState a) := by
  obtain ⟨ref, href⟩ := Option.ne_none_iff_exists'.mp hactive.2
  obtain rfl := h.bound ref href
  refine ⟨⟨fun ref => ?_, fun ref hnone => (nomatch hnone), fun role => ?_⟩, hactive.1, rfl, rfl⟩
  · rw [acceptedState_layers a href]
    by_cases hzero : ref = 0
    · subst hzero
      rw [update_self]
      exact rotateCommit_valid (h.valid 0)
    · rw [update_of_ne hzero]
      exact h.valid ref
  · rw [acceptedState_layers a href, update_self]
    cases role with
    | acceptedNMinusOne => exact (h.roles .acceptedN).trans (by dsimp only [StateLayers.handle]; omega)
    | acceptedN => exact (h.roles .trial).trans (by dsimp only [StateLayers.handle]; omega)
    | trial => exact (h.roles .acceptedNMinusOne).trans (by dsimp only [StateLayers.handle]; omega)

lemma InStep.discard (h : InStep accepted a) (lowest : ℤ) :
    InStep accepted (discardedState a lowest) ∧ ¬ Attempt.Accepted a (discardedState a lowest) := by
  refine ⟨⟨h.valid, fun ref hnone => (nomatch hnone), h.roles⟩, ?_⟩
  rintro ⟨-, -, hcommitted⟩
  exact nomatch hcommitted

lemma stampReplicas_handles (layers : StateLayers) (field : ℕ) (replicas : List ℕ) :
    (layers.stampReplicas field replicas).roleHandles = layers.roleHandles := by
  induction replicas generalizing layers with
  | nil => rfl
  | cons replica rest ih => exact ih _

lemma allocateFields_handles {candidate layers : StateLayers} {fields : List ArenaFieldLayout}
    (h : StateLayers.allocateFields candidate fields = .ok layers) : layers.roleHandles = candidate.roleHandles := by
  induction fields generalizing candidate with
  | nil => exact congrArg StateLayers.roleHandles (Except.ok.inj h).symm
  | cons field rest ih =>
    unfold StateLayers.allocateFields at h
    split at h <;> split at h
    · cases h
    · exact (ih h).trans (stampReplicas_handles _ _ _)
    · cases h
    · exact (@ih (candidate.stampNext 0 field.id) h).trans rfl

lemma initial_inStep (h : a.Initial) : InStep 0 a := by
  refine ⟨initial_valid h, fun ref href => ?_, fun role => ?_⟩
  · obtain ⟨fields, slots, sources, hcreated⟩ := h.transaction
    have hnone : (AttemptTransaction.create fields slots sources true {}).1.layers = none := by
      unfold AttemptTransaction.create
      split_ifs <;> rfl
    rw [hcreated] at hnone
    exact nomatch hnone.symm.trans href
  · have hhandles : (a.layers 0).roleHandles = ({} : StateLayers).roleHandles := by
      rcases h.layers 0 with hempty | ⟨layout, identity, hallocated⟩
      · rw [hempty]
      · unfold StateLayers.allocate at hallocated
        split at hallocated
        · exact nomatch hallocated
        · dsimp only at hallocated
          split at hallocated
          · exact nomatch hallocated
          · rename_i hfields
            split at hallocated
            · exact nomatch hallocated
            · obtain rfl := Except.ok.inj hallocated
              exact (allocateFields_handles hfields).trans rfl
    refine (congrFun hhandles role).trans ?_
    cases role <;> rfl

end Rank

lemma RanksStep.together {accepted : ℕ} {s s' : Fin n → Attempt} {call : RanksCall n} (hs : ∀ i, InStep accepted (s i))
    (h : RanksStep hn hsize s call s') : (∀ i, InStep (accepted + 1) (s' i) ∧ Attempt.Accepted (s i) (s' i)) ∨
      ∀ i, InStep accepted (s' i) ∧ ¬ Attempt.Accepted (s i) (s' i) := by
  cases h with
  | single rank op after hlocal h =>
    refine .inr fun i => ?_
    by_cases hi : i = rank
    · subst hi
      rw [update_self]
      exact (hs i).local hlocal h
    · rw [update_of_ne hi]
      exact ⟨hs i, fun hsame => nomatch hsame.1.symm.trans hsame.2.1⟩
  | finish ready localStatus trace r h =>
    have : Nonempty (Fin n) := ⟨⟨0, hn⟩⟩
    obtain ⟨trace', r', hrun, haccept, hreject⟩ := finish_run hn hsize s ready localStatus
    obtain ⟨-, rfl⟩ := hrun.unique h
    by_cases hall : ∀ i, (broughtStatus s ready localStatus i).code = .ok
    · refine .inl fun i => ?_
      dsimp only
      rw [haccept hall i]
      exact (hs i).accept ((readiness_ok_iff _ _ _ _).mp (hall i)).active
    · obtain ⟨k, -, hdiscarded⟩ := hreject hall
      refine .inr fun i => ?_
      dsimp only
      rw [hdiscarded i]
      exact (hs i).discard k

lemma exec_inStep {s₀ s : Fin n → Attempt} {t : List (Transition (Fin n → Attempt) (RanksCall n))}
    (h₀ : ∀ i, (s₀ i).Initial) (h : Exec (RanksStep hn hsize) s₀ t s) : ∀ i, InStep (acceptances t) (s i) := by
  refine h.history (P := fun _ => True) (I := fun t s => ∀ i, InStep (acceptances t) (s i)) (fun _ _ => trivial)
    (fun i => initial_inStep (h₀ i)) fun t s call s' _ hs hstep _ => ?_
  have hcount : acceptances (t ++ [⟨s, call, s'⟩]) =
      acceptances t + if ∀ i, Attempt.Accepted (s i) (s' i) then 1 else 0 := by
    simp [acceptances]
  rw [hcount]
  rcases hstep.together hn hsize hs with hboth | hneither
  · rw [if_pos fun i => (hboth i).2]
    exact fun i => (hboth i).1
  · rw [if_neg fun hall => (hneither ⟨0, hn⟩).2 (hall ⟨0, hn⟩)]
    exact fun i => (hneither i).1

end HundunFlow.Proofs
