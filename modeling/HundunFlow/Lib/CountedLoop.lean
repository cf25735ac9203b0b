import Mathlib.Algebra.BigOperators.Intervals

/-!
# Counted loops

A property indexed by the number of turns done, from one turn to the whole loop. A turn may leave
the loop with an error.
-/

namespace HundunFlow.Lib

open List

variable {σ ε : Type}

variable {step : σ → ℕ → Except ε σ} {I : ℕ → σ → Prop} {s : σ} {n : ℕ} {x : Except ε σ} {E : ε → Prop}

lemma range_foldlM_rule {s' : σ} (init : I 0 s) (turn : ∀ i s s', i < n → I i s → step s i = .ok s' → I (i + 1) s')
    (h : (range n).foldlM step s = .ok s') : I n s' := by
  induction n generalizing s' with
  | zero =>
    cases h
    exact init
  | succ n ih =>
    rw [range_succ, foldlM_append] at h
    cases hfold : (range n).foldlM step s with
    | error e =>
      rw [hfold] at h
      cases h
    | ok s₁ =>
      rw [hfold] at h
      have hI := ih (fun i s s' hi => turn i s s' (Nat.lt_succ_of_lt hi)) hfold
      refine turn n s₁ s' (Nat.lt_succ_self n) hI ?_
      change (step s₁ n >>= fun s₂ => pure s₂) = .ok s' at h
      rwa [bind_pure] at h

lemma range_foldlM_total (init : I 0 s) (turn : ∀ i s, i < n → I i s → ∃ s', step s i = .ok s' ∧ I (i + 1) s') :
    ∃ s', (range n).foldlM step s = .ok s' ∧ I n s' := by
  induction n with
  | zero => exact ⟨s, rfl, init⟩
  | succ n ih =>
    obtain ⟨s₁, hfold, hs₁⟩ := ih fun i s hi => turn i s (Nat.lt_succ_of_lt hi)
    obtain ⟨s₂, hstep, hs₂⟩ := turn n s₁ (Nat.lt_succ_self n) hs₁
    refine ⟨s₂, ?_, hs₂⟩
    rw [range_succ, foldlM_append, hfold]
    change (step s₁ n >>= fun s₂ => pure s₂) = .ok s₂
    rw [bind_pure, hstep]

lemma bind_ok {τ : Type} {next : σ → Except ε τ} {t : τ} (h : x >>= next = .ok t) :
    ∃ s, x = .ok s ∧ next s = .ok t := by
  cases x with
  | error e => cases h
  | ok s => exact ⟨s, rfl, h⟩

lemma ite_ok {c : Prop} [Decidable c] {t : σ} {e : ε} (h : (if c then Except.ok s else Except.error e) = .ok t) :
    c ∧ s = t := by
  split at h
  · rename_i hc
    exact ⟨hc, Except.ok.inj h⟩
  · cases h

/-- What holds of a state that goes on, and of an error with which a loop is left. -/
def Outcome (I : σ → Prop) (E : ε → Prop) : Except ε σ → Prop
  | .ok s => I s
  | .error e => E e

lemma Outcome.bind {τ : Type} {I : σ → Prop} {J : τ → Prop} {next : σ → Except ε τ} (hx : Outcome I E x)
    (hnext : ∀ s, I s → Outcome J E (next s)) : Outcome J E (x >>= next) := by
  cases x with
  | error e => exact hx
  | ok s => exact hnext s hx

lemma Outcome.ite {I : σ → Prop} {c : Prop} [Decidable c] {y : Except ε σ} (hx : Outcome I E x)
    (hy : Outcome I E y) : Outcome I E (if c then x else y) := by
  split
  · exact hx
  · exact hy

lemma range_foldlM_outcome {I : σ → Prop} (init : I s)
    (turn : ∀ i s, I s → Outcome I E (step s i)) : Outcome I E ((range n).foldlM step s) := by
  induction n with
  | zero => exact init
  | succ n ih =>
    rw [range_succ, foldlM_append]
    refine ih.bind fun s hs => ?_
    change Outcome I E (step s n >>= fun s₂ => pure s₂)
    rw [bind_pure]
    exact turn n s hs

lemma range_foldl_rule {step : σ → ℕ → σ} (init : I 0 s)
    (turn : ∀ i s, i < n → I i s → I (i + 1) (step s i)) : I n ((range n).foldl step s) := by
  induction n with
  | zero => exact init
  | succ n ih =>
    rw [range_succ, foldl_append]
    exact turn n _ (Nat.lt_succ_self n) (ih fun i s hi => turn i s (Nat.lt_succ_of_lt hi))

def runningSum {F : Type} [Zero F] [Add F] (n : ℕ) (term : ℕ → F) : F :=
  (range n).foldl (fun sum i => sum + term i) 0

lemma runningSum_eq {F : Type} [AddCommMonoid F] (n : ℕ) (term : ℕ → F) :
    runningSum n term = ∑ i ∈ Finset.range n, term i :=
  range_foldl_rule (I := fun i sum => sum = ∑ k ∈ Finset.range i, term k) rfl fun i sum _ h => by
    rw [h, Finset.sum_range_succ]

end HundunFlow.Lib
