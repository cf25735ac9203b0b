import Mathlib.Data.List.SplitBy
import Mathlib.Tactic.Ring
import HundunFlow.Lib.Sorting

/-!
# Strides and runs

A position inside a block together with the number of the block is one number, as long as the
position is below the stride. A sorted list falls into runs of equal keys.
-/

namespace HundunFlow.Lib

open List

/-! ### Strides -/

lemma strided_lt {inner outer stride count : ℕ} (hinner : inner < stride) (houter : outer < count) :
    inner + outer * stride < stride * count := by
  calc inner + outer * stride < stride + outer * stride := Nat.add_lt_add_right hinner _
    _ = (outer + 1) * stride := by ring
    _ ≤ count * stride := Nat.mul_le_mul_right stride houter
    _ = stride * count := Nat.mul_comm _ _

lemma strided_inj {inner inner' outer outer' stride : ℕ} (hinner : inner < stride) (hinner' : inner' < stride)
    (h : inner + outer * stride = inner' + outer' * stride) : inner = inner' ∧ outer = outer' := by
  have hpos : 0 < stride := Nat.zero_lt_of_lt hinner
  have houter : outer = outer' := by
    have hdiv := congrArg (· / stride) h
    simpa only [Nat.add_mul_div_right _ _ hpos, Nat.div_eq_of_lt hinner, Nat.div_eq_of_lt hinner', zero_add] using hdiv
  subst houter
  exact ⟨Nat.add_right_cancel h, rfl⟩

/-! ### Runs -/

variable {α κ : Type} [LinearOrder κ]

lemma splitBy_ascending {key : α → κ} {l : List α} (h : l.Pairwise fun a b => key a ≤ key b) :
    (∀ run ∈ l.splitBy fun a b => key a = key b, ∀ a ∈ run, ∀ b ∈ run, key a = key b) ∧
      (l.splitBy fun a b => key a = key b).Pairwise fun run run' => ∀ a ∈ run, ∀ b ∈ run', key a < key b := by
  have hsame : ∀ run ∈ l.splitBy fun a b => key a = key b, ∀ a ∈ run, ∀ b ∈ run, key a = key b := by
    intro run hrun
    have hchain := (isChain_of_mem_splitBy hrun).imp fun a b hab => of_decide_eq_true hab
    have hpair : run.Pairwise fun a b => key a = key b :=
      pairwise_map.mp (isChain_iff_pairwise.mp ((isChain_map key).mpr hchain))
    intro a ha b hb
    exact List.Pairwise.forall_of_forall_of_flip (R := fun a b => key a = key b) (fun _ _ => rfl) hpair
      (hpair.imp fun hab => hab.symm) ha hb
  refine ⟨hsame, ?_⟩
  have hsorted := h
  rw [← flatten_splitBy (fun a b => key a = key b) l, pairwise_flatten] at hsorted
  have hparted := isChain_getLast_head_splitBy (fun a b => decide (key a = key b)) l
  have hnon := nil_notMem_splitBy (fun a b => decide (key a = key b)) l
  generalize l.splitBy (fun a b => decide (key a = key b)) = runs at *
  induction runs with
  | nil => exact List.Pairwise.nil
  | cons run rest ih =>
    rw [pairwise_cons] at hsorted ⊢
    refine ⟨?_, ih (fun other hother => hsame other (mem_cons_of_mem _ hother))
      ⟨fun other hother => hsorted.1 other (mem_cons_of_mem _ hother), hsorted.2.2⟩ hparted.tail
      fun hmem => hnon (mem_cons_of_mem _ hmem)⟩
    intro other hother a ha b hb
    apply lt_of_le_of_ne (hsorted.2.1 other hother a ha b hb)
    intro heq
    cases rest with
    | nil => exact absurd hother not_mem_nil
    | cons next rest =>
      obtain ⟨hlast, hhead, hne⟩ := (isChain_cons_cons.mp hparted).1
      have hmem := getLast_mem hlast
      have hmem' := head_mem hhead
      -- the first key of the next run is between those of `a` and `b`
      have hle : key (next.head hhead) ≤ key b := by
        rcases mem_cons.mp hother with rfl | hlater
        · exact (hsame other (mem_cons_of_mem _ mem_cons_self) _ hmem' b hb).le
        · exact (pairwise_cons.mp hsorted.2.2).1 other hlater _ hmem' b hb
      have hge := hsorted.2.1 next mem_cons_self _ hmem _ hmem'
      rw [← heq, hsame run mem_cons_self a ha _ hmem] at hle
      exact of_decide_eq_false hne (le_antisymm hge hle)

end HundunFlow.Lib
