import Mathlib.Algebra.BigOperators.Group.Finset.Basic
import Mathlib.Data.Fintype.Basic

/-!
# Combination trees

A reduction combines the contributions of its parties two at a time, in an order nobody knows.
What holds of every single contribution and is kept by the combination of two parts holds of
the result, whatever the order was.
-/

namespace HundunFlow.Lib

open List Multiset

inductive CombinationTree (α : Type) where
  | leaf (party : α)
  | node (input inout : CombinationTree α)
  deriving DecidableEq

namespace CombinationTree

variable {α β : Type}

def parties : CombinationTree α → Multiset α
  | leaf a => {a}
  | node input inout => input.parties + inout.parties

def eval (combine : β → β → β) (contribution : α → β) : CombinationTree α → β
  | leaf a => contribution a
  | node input inout => combine (input.eval combine contribution) (inout.eval combine contribution)

def chain (start : CombinationTree α) : List α → CombinationTree α
  | [] => start
  | a :: rest => chain (node (leaf a) start) rest

lemma parties_chain (start : CombinationTree α) (rest : List α) :
    (chain start rest).parties = start.parties + (rest : Multiset α) := by
  induction rest generalizing start with
  | nil => exact (add_zero _).symm
  | cons a rest ih =>
    rw [chain, ih, parties, parties, ← cons_coe, ← singleton_add]
    exact (congrArg (· + _) (add_comm _ _)).trans (add_assoc _ _ _)

lemma eval_chain (combine : β → β → β) (contribution : α → β) (start : CombinationTree α) (rest : List α) :
    (chain start rest).eval combine contribution =
      rest.foldl (fun inout a => combine (contribution a) inout) (start.eval combine contribution) := by
  induction rest generalizing start with
  | nil => rfl
  | cons a rest ih => exact ih _

def overRanks {n : ℕ} (hn : 0 < n) : CombinationTree (Fin n) := chain (leaf ⟨0, hn⟩) (finRange n).tail

lemma parties_overRanks {n : ℕ} (hn : 0 < n) : (overRanks hn).parties = Finset.univ.val := by
  have hcons : finRange n = ⟨0, hn⟩ :: (finRange n).tail := by
    cases n with
    | zero => exact absurd hn (lt_irrefl 0)
    | succ m => rw [finRange_succ, tail_cons]; rfl
  rw [overRanks, parties_chain, parties, singleton_add, cons_coe, ← hcons]
  rfl

lemma parties_ne_zero (t : CombinationTree α) : t.parties ≠ 0 := by
  induction t with
  | leaf a => exact singleton_ne_zero a
  | node input inout hinput _ =>
    intro h
    have hcard := congrArg card h
    rw [parties, card_add, card_zero, Nat.add_eq_zero_iff] at hcard
    exact hinput (card_eq_zero.mp hcard.1)

/-- What holds of each contribution and of the combination of any two parts holds of the
result, as a statement about its parties. -/
theorem eval_induction {combine : β → β → β} {contribution : α → β} {P : Multiset α → β → Prop}
    (hleaf : ∀ a, P {a} (contribution a))
    (hnode : ∀ s t a b, s ≠ 0 → t ≠ 0 → P s a → P t b → P (s + t) (combine a b)) (t : CombinationTree α) :
    P t.parties (t.eval combine contribution) := by
  induction t with
  | leaf a => exact hleaf a
  | node input inout hinput hinout =>
    exact hnode _ _ _ _ input.parties_ne_zero inout.parties_ne_zero hinput hinout

end CombinationTree

end HundunFlow.Lib
