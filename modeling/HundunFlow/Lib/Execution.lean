import Mathlib.Tactic.Common

/-!
# Executions of a transition system

A `Step` relation with labelled steps, its finite executions with the transitions they
took, and the induction rule that carries a property of the execution so far.
-/

namespace HundunFlow.Lib

/-- One step as it was taken: the state before, the label, the state after. -/
structure Transition (σ α : Type) where
  pre : σ
  op : α
  post : σ

variable {σ α : Type} {Step : σ → α → σ → Prop}

/-- `Exec Step s₀ t s`: the transitions `t`, in this order, lead from `s₀` to `s`. -/
inductive Exec (Step : σ → α → σ → Prop) (s₀ : σ) : List (Transition σ α) → σ → Prop where
  | nil : Exec Step s₀ [] s₀
  | snoc (t : List (Transition σ α)) (s : σ) (a : α) (s' : σ) (h : Exec Step s₀ t s)
      (hs : Step s a s') : Exec Step s₀ (t ++ [⟨s, a, s'⟩]) s'

namespace Exec

variable {s₀ s s' : σ} {t u : List (Transition σ α)}

variable {tr : Transition σ α}

theorem append (h : Exec Step s₀ t s) (h' : Exec Step s u s') : Exec Step s₀ (t ++ u) s' := by
  induction h' with
  | nil => simpa using h
  | snoc u r a r' _ hs ih =>
    rw [← List.append_assoc]
    exact .snoc _ r a r' ih hs

lemma single {a : α} (hs : Step s a s') : Exec Step s [⟨s, a, s'⟩] s' :=
  .snoc [] s a s' .nil hs

lemma nil_inv (h : Exec Step s₀ [] s) : s = s₀ := by
  generalize hw : ([] : List (Transition σ α)) = w at h
  cases h with
  | nil => rfl
  | snoc => exact absurd hw (by simp)

/-- The first transition of an execution. -/
theorem cons_inv (h : Exec Step s₀ (tr :: u) s) :
    tr.pre = s₀ ∧ Step tr.pre tr.op tr.post ∧ Exec Step tr.post u s := by
  generalize hw : tr :: u = w at h
  induction h generalizing u with
  | nil => exact nomatch hw
  | snoc w r a r' h hs ih =>
    cases w with
    | nil =>
      obtain ⟨rfl, rfl⟩ : tr = ⟨r, a, r'⟩ ∧ u = [] := by simpa using hw
      exact ⟨nil_inv h, hs, .nil⟩
    | cons tr' w =>
      obtain ⟨rfl, rfl⟩ : tr = tr' ∧ u = w ++ [⟨r, a, r'⟩] := by simpa using hw
      obtain ⟨hpre, hfirst, hrest⟩ := ih rfl
      exact ⟨hpre, hfirst, .snoc w r a r' hrest hs⟩

/-- An execution can be cut after any of its transitions. -/
theorem split (h : Exec Step s₀ (t ++ u) s) : ∃ m, Exec Step s₀ t m ∧ Exec Step m u s := by
  induction t generalizing s₀ with
  | nil => exact ⟨s₀, .nil, h⟩
  | cons tr t ih =>
    obtain ⟨rfl, hs, hrest⟩ := cons_inv h
    obtain ⟨m, ht, hu⟩ := ih hrest
    exact ⟨m, (single hs).append ht, hu⟩

/-- An execution around one of its transitions. -/
theorem around (h : Exec Step s₀ (t ++ tr :: u) s) :
    Exec Step s₀ t tr.pre ∧ Step tr.pre tr.op tr.post ∧ Exec Step tr.post u s := by
  obtain ⟨m, hbefore, hafter⟩ := split h
  obtain ⟨rfl, hstep, hrest⟩ := cons_inv hafter
  exact ⟨hbefore, hstep, hrest⟩

/-- The rule for a property of the whole history: it holds of the empty history, and every
step that satisfies `P` extends it. -/
theorem history {P : Transition σ α → Prop} {I : List (Transition σ α) → σ → Prop}
    (h : Exec Step s₀ t s) (hP : ∀ tr ∈ t, P tr) (init : I [] s₀)
    (step : ∀ t s a s', Exec Step s₀ t s → I t s → Step s a s' → P ⟨s, a, s'⟩ →
      I (t ++ [⟨s, a, s'⟩]) s') : I t s := by
  induction h with
  | nil => exact init
  | snoc t s a s' h hs ih =>
    have hlast : P ⟨s, a, s'⟩ := hP _ (by simp)
    have hinit : ∀ tr ∈ t, P tr := fun tr htr => hP tr (by simp [htr])
    exact step t s a s' h (ih hinit) hs hlast

/-- The rule for a property of states. -/
theorem invariant {I : σ → Prop} (h : Exec Step s₀ t s) (init : I s₀) (step : ∀ s a s', I s → Step s a s' → I s') : I s :=
  h.history (P := fun _ => True) (I := fun _ s => I s) (fun _ _ => trivial) init
    fun _ s a s' _ hi hs _ => step s a s' hi hs

/-- Every transition of an execution starts in a state the execution reaches. -/
theorem transition (h : Exec Step s₀ t s) (htr : tr ∈ t) :
    (∃ u v, t = u ++ tr :: v ∧ Exec Step s₀ u tr.pre) ∧ Step tr.pre tr.op tr.post := by
  induction h with
  | nil => simp at htr
  | snoc t s a s' h hs ih =>
    rcases List.mem_append.mp htr with hold | hnew
    · obtain ⟨⟨u, v, rfl, hu⟩, hstep⟩ := ih hold
      exact ⟨⟨u, v ++ [⟨s, a, s'⟩], by simp, hu⟩, hstep⟩
    · obtain rfl : tr = ⟨s, a, s'⟩ := by simpa using hnew
      exact ⟨⟨t, [], by simp, h⟩, hs⟩

end Exec

end HundunFlow.Lib
