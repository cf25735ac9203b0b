import Mathlib.Data.Set.Pairwise.Lattice
import Mathlib.Data.Set.Lattice.Image
import Mathlib.Algebra.Order.Ring.Int
import Mathlib.Order.CompletePartialOrder

/-!
# Boxes and their coarsening

A box is a product of intervals of integers. Halving a box on some axes keeps the points whose
doubles lie in it, so the halves of a partition are a partition again.
-/

namespace HundunFlow.Lib

open Function

section Partition

variable {α β κ : Type}

structure Partitions (whole : Set α) (parts : κ → Set α) : Prop where
  cover : ⋃ i, parts i = whole
  disjoint : Pairwise (Disjoint on parts)

variable {parts : κ → Set α} {whole : Set α}

lemma Partitions.subset (h : Partitions whole parts) (i : κ) : parts i ⊆ whole := by
  rw [← h.cover]
  exact Set.subset_iUnion parts i

lemma Partitions.exists_mem (h : Partitions whole parts) {a : α} (ha : a ∈ whole) :
    ∃ i, a ∈ parts i := by
  rw [← h.cover] at ha
  exact Set.mem_iUnion.mp ha

lemma Partitions.unique (h : Partitions whole parts) {a : α} {i j : κ} (hi : a ∈ parts i) (hj : a ∈ parts j) : i = j := by
  by_contra hne
  exact Set.disjoint_left.mp (h.disjoint hne) hi hj

lemma Partitions.preimage (h : Partitions whole parts) (f : β → α) :
    Partitions (Set.preimage f whole) fun i => Set.preimage f (parts i) := by
  constructor
  · rw [← Set.preimage_iUnion, h.cover]
  · intro i j hij
    exact (h.disjoint hij).preimage f

end Partition

variable {ι : Type}

/-- The points from `b` to `e`, without `e`. -/
def box (b e : ι → ℤ) : Set (ι → ℤ) := {c | ∀ a, b a ≤ c a ∧ c a < e a}

lemma mem_box {b e c : ι → ℤ} : c ∈ box b e ↔ ∀ a, b a ≤ c a ∧ c a < e a := Iff.rfl

lemma box_nonempty {b e : ι → ℤ} (h : ∀ a, b a < e a) : b ∈ box b e := fun a => ⟨le_refl _, h a⟩

/-- A point, doubled on the axes in `mask`. -/
def double (mask : ι → Bool) (c : ι → ℤ) (a : ι) : ℤ := if mask a then 2 * c a else c a

/-- A point, halved on the axes in `mask`. -/
def half (mask : ι → Bool) (c : ι → ℤ) (a : ι) : ℤ := if mask a then c a / 2 else c a

/-- A bound, halved on the axes in `mask` and rounded up. -/
def halfUp (mask : ι → Bool) (b : ι → ℤ) (a : ι) : ℤ := if mask a then (b a + 1) / 2 else b a

lemma preimage_double_box (mask : ι → Bool) (b e : ι → ℤ) :
    Set.preimage (double mask) (box b e) = box (halfUp mask b) (halfUp mask e) := by
  ext c
  rw [Set.mem_preimage, mem_box, mem_box]
  apply forall_congr'
  intro a
  unfold double halfUp
  split_ifs <;> omega

/-- The even point of the pair of a point lies in the box that the point lies in. -/
lemma double_half_mem {mask : ι → Bool} {e c : ι → ℤ} (hc : c ∈ box (fun _ => 0) e) :
    double mask (half mask c) ∈ box (fun _ => 0) e := by
  intro a
  have ha : 0 ≤ c a ∧ c a < e a := hc a
  change 0 ≤ double mask (half mask c) a ∧ double mask (half mask c) a < e a
  unfold double half
  split_ifs <;> omega

end HundunFlow.Lib
