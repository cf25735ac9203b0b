import Mathlib.Data.List.Nodup

/-!
# Loops over lists

A property of the elements done so far and the value reached, from one element to the whole list; and loops
over places that overwrite the value at each of them, from what stands everywhere by then.
-/

namespace HundunFlow.Lib

open List Function

section Folds

variable {σ β : Type}

variable {I : List β → σ → Prop}

lemma foldlM_rule {f : σ → β → Option σ} {l : List β} {s : σ} (init : I [] s)
    (step : ∀ seen b s, seen ⊆ l → b ∈ l → I seen s → ∃ s', f s b = some s' ∧ I (seen ++ [b]) s') :
    ∃ s', l.foldlM f s = some s' ∧ I l s' := by
  have hrest : ∀ rest seen s, seen ++ rest ⊆ l → I seen s → ∃ s', rest.foldlM f s = some s' ∧ I (seen ++ rest) s' := by
    intro rest
    induction rest with
    | nil =>
      intro seen s _ hs
      exact ⟨s, rfl, by rwa [append_nil]⟩
    | cons b rest ih =>
      intro seen s hsub hs
      obtain ⟨hseen, hb⟩ := append_subset.mp hsub
      obtain ⟨s₁, hstep, hs₁⟩ := step seen b s hseen (hb mem_cons_self) hs
      obtain ⟨s₂, hfold, hs₂⟩ := ih (seen ++ [b]) s₁ (by rwa [append_assoc]) hs₁
      refine ⟨s₂, ?_, ?_⟩
      · rw [foldlM_cons, hstep]
        exact hfold
      · rwa [append_assoc] at hs₂
  exact hrest l [] s (fun _ h => h) init

lemma foldl_rule {f : σ → β → σ} {l : List β} {s : σ} (init : I [] s)
    (step : ∀ seen b s, b ∈ l → I seen s → I (seen ++ [b]) (f s b)) : I l (l.foldl f s) := by
  obtain ⟨s', hfold, hs'⟩ := foldlM_rule (f := fun s b => some (f s b)) (I := I) (l := l) (s := s) init
    fun seen b s _ hb hs => ⟨_, rfl, step seen b s hb hs⟩
  have heq : l.foldlM (fun s b => some (f s b)) s = some (l.foldl f s) := foldlM_pure
  rw [heq] at hfold
  rwa [Option.some.inj hfold]

end Folds

variable {α β : Type} [DecidableEq α]

def inPlace (v : (α → β) → α → β) : List α → (α → β) → α → β
  | [], f => f
  | a :: l, f => inPlace v l (Function.update f a (v f a))

variable {v : (α → β) → α → β}

lemma inPlace_of_notMem {l : List α} {a : α} (h : a ∉ l) (f : α → β) : inPlace v l f a = f a := by
  induction l generalizing f with
  | nil => rfl
  | cons b l ih =>
    rw [mem_cons, not_or] at h
    rw [inPlace, ih h.2, update_of_ne h.1]

/-- The value at a place comes from the last values before it and the first ones from it on. -/
theorem inPlace_at {before after : List α} {a : α} (hnodup : (before ++ a :: after).Nodup) (f : α → β) :
    inPlace v (before ++ a :: after) f a =
      v (fun c => if c ∈ before then inPlace v (before ++ a :: after) f c else f c) a := by
  induction before generalizing f with
  | nil =>
    have ha : a ∉ after := (nodup_cons.mp hnodup).1
    simp only [nil_append, inPlace, not_mem_nil, if_false]
    rw [inPlace_of_notMem ha, update_self]
  | cons b before ih =>
    rw [cons_append] at hnodup
    obtain ⟨hb, hrest⟩ := nodup_cons.mp hnodup
    rw [cons_append, inPlace, ih hrest]
    congr 1
    funext c
    by_cases hc : c = b
    · subst hc
      have hbefore : c ∉ before := fun h => hb (mem_append_left _ h)
      have hlast : inPlace v (before ++ a :: after) (Function.update f c (v f c)) c = v f c := by
        rw [inPlace_of_notMem hb, update_self]
      rw [if_neg hbefore, if_pos mem_cons_self, hlast, update_self]
    · simp only [mem_cons, hc, false_or, update_of_ne hc]

end HundunFlow.Lib
