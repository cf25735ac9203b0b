import Mathlib.Data.List.Pairwise

/-!
# Memories and store loops

A memory maps addresses to values. `storeLoop` is a loop that stores one value for every
index it visits, where the value may depend on the memory at that moment. Two rules are
needed of it: addresses it does not store to are unchanged, and when no store overwrites
another or disturbs a later value, every destination holds its value.
-/

namespace HundunFlow.Lib

open Function

variable {A ι F : Type} [DecidableEq A]

abbrev Memory (A F : Type) := A → F

def storeLoop (destination : ι → A) (value : Memory A F → ι → F) (m : Memory A F) : List ι → Memory A F
  | [] => m
  | i :: rest => storeLoop destination value (Function.update m (destination i) (value m i)) rest

variable {destination : ι → A} {value : Memory A F → ι → F}

variable (m : Memory A F)

@[simp] lemma storeLoop_nil : storeLoop destination value m [] = m := rfl

@[simp] lemma storeLoop_cons (i : ι) (rest : List ι) : storeLoop destination value m (i :: rest) =
      storeLoop destination value (Function.update m (destination i) (value m i)) rest := rfl

theorem storeLoop_append (l l' : List ι) : storeLoop destination value m (l ++ l') =
      storeLoop destination value (storeLoop destination value m l) l' := by
  induction l generalizing m with
  | nil => rfl
  | cons i rest ih => simp only [List.cons_append, storeLoop_cons, ih]

/-- The frame rule. -/
theorem storeLoop_frame (l : List ι) (p : A) (h : ∀ i ∈ l, destination i ≠ p) :
    storeLoop destination value m l p = m p := by
  induction l generalizing m with
  | nil => rfl
  | cons i rest ih =>
    have hi : destination i ≠ p := h i (by simp)
    rw [storeLoop_cons, ih _ fun j hj => h j (by simp [hj])]
    exact update_of_ne hi.symm _ _

/-- What the loop leaves at a destination. `stable` says the value of a later index does not
see the stores before it. -/
theorem storeLoop_get (l : List ι)
    (distinct : l.Pairwise fun i j => destination i ≠ destination j)
    (stable : ∀ i ∈ l, ∀ m' : Memory A F, (∀ p, (∀ j ∈ l, destination j ≠ p) → m' p = m p) →
      value m' i = value m i)
    (i : ι) (hi : i ∈ l) : storeLoop destination value m l (destination i) = value m i := by
  induction l generalizing m with
  | nil => simp at hi
  | cons j rest ih =>
    rw [List.pairwise_cons] at distinct
    have hframe : ∀ p, (∀ k ∈ j :: rest, destination k ≠ p) →
        Function.update m (destination j) (value m j) p = m p := by
      intro p hp
      exact update_of_ne (hp j (by simp)).symm _ _
    rcases List.mem_cons.mp hi with rfl | hrest
    · rw [storeLoop_cons, storeLoop_frame _ _ _ fun k hk => (distinct.1 k hk).symm]
      exact update_self _ _ _
    · rw [storeLoop_cons, ih _ distinct.2 ?_ hrest]
      · exact stable i (by simp [hrest]) _ hframe
      · intro k hk m' hm'
        have hk' : k ∈ j :: rest := by simp [hk]
        rw [stable k hk' m', stable k hk' _ hframe]
        intro p hp
        rw [hm' p fun q hq => hp q (by simp [hq])]
        exact hframe p hp

/-- Loops over the same indices that store values of their own leave the same memory in any order. -/
theorem storeLoop_perm {l l' : List ι} (h : l.Perm l')
    (distinct : l.Pairwise fun i j => destination i ≠ destination j) (v : ι → F) :
    storeLoop destination (fun _ i => v i) m l = storeLoop destination (fun _ i => v i) m l' := by
  have distinct' : l'.Pairwise fun i j => destination i ≠ destination j := h.pairwise distinct fun hne => hne.symm
  funext p
  by_cases hp : ∃ i ∈ l, destination i = p
  · obtain ⟨i, hi, rfl⟩ := hp
    rw [storeLoop_get m l distinct (fun _ _ _ _ => rfl) i hi,
      storeLoop_get m l' distinct' (fun _ _ _ _ => rfl) i (h.mem_iff.mp hi)]
  · rw [storeLoop_frame m l p fun i hi heq => hp ⟨i, hi, heq⟩,
      storeLoop_frame m l' p fun i hi heq => hp ⟨i, h.mem_iff.mpr hi, heq⟩]

end HundunFlow.Lib
