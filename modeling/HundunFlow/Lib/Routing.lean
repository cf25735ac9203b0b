import Mathlib.Algebra.Order.BigOperators.Group.Finset
import Mathlib.Algebra.BigOperators.Fin

/-!
# Routing items to ranks

Every rank holds a list of items, and every item has a destination. `routed` is what a rank
receives when all items are sent to their destinations and arrive in the order of the
senders: nothing is lost, and nothing arrives twice.
-/

namespace HundunFlow.Lib

open List

variable {α : Type} {n : ℕ}

lemma sum_map_coe {β : Type} (lists : Fin n → List α) (f : α → β) :
    ∑ i, (((lists i).map f : List β) : Multiset β) = (∑ i, (lists i : Multiset α)).map f := by
  have h := map_sum (Multiset.mapAddMonoidHom f) (fun i => (lists i : Multiset α)) Finset.univ
  rw [Multiset.coe_mapAddMonoidHom] at h
  simp only [h, Multiset.map_coe]

/-- What rank `r` receives. -/
def routed (items : Fin n → List α) (destination : α → ℕ) (r : ℕ) : List α :=
  (finRange n).flatMap fun j => (items j).filter fun a => destination a = r

variable {items : Fin n → List α} {destination : α → ℕ}

variable (r : ℕ)

lemma mem_routed {r : ℕ} {a : α} : a ∈ routed items destination r ↔ (∃ j, a ∈ items j) ∧ destination a = r := by
  simp only [routed, mem_flatMap, mem_finRange, true_and, mem_filter, decide_eq_true_eq,
    exists_and_right]

lemma coe_flatMap_finRange (f : Fin n → List α) :
    (((finRange n).flatMap f : List α) : Multiset α) = ∑ j, (f j : Multiset α) := by
  rw [Fin.sum_univ_def]
  induction finRange n with
  | nil => rfl
  | cons j rest ih => rw [flatMap_cons, ← Multiset.coe_add, ih, map_cons, sum_cons]

lemma sum_filter_destination (s : Multiset α) (h : ∀ a ∈ s, destination a < n) :
    ∑ r : Fin n, s.filter (fun a => destination a = r) = s := by
  classical
  ext a
  rw [Multiset.count_sum']
  by_cases ha : a ∈ s
  · rw [Finset.sum_eq_single ⟨destination a, h a ha⟩]
    · exact Multiset.count_filter_of_pos (p := fun a' => destination a' = destination a) rfl
    · intro r _ hr
      rw [Multiset.count_filter_of_neg]
      exact fun heq => hr (Fin.ext heq.symm)
    · intro hnot
      exact absurd (Finset.mem_univ _) hnot
  · rw [Multiset.count_eq_zero_of_notMem ha]
    apply Finset.sum_eq_zero
    intro r _
    exact Multiset.count_eq_zero_of_notMem fun hmem => ha (Multiset.mem_of_mem_filter hmem)

lemma filter_sum (p : α → Prop) [DecidablePred p] (f : Fin n → Multiset α) (s : Finset (Fin n)) :
    (∑ j ∈ s, f j).filter p = ∑ j ∈ s, (f j).filter p := by
  classical
  induction s using Finset.induction_on with
  | empty => rfl
  | insert j s hj ih => rw [Finset.sum_insert hj, Finset.sum_insert hj, Multiset.filter_add, ih]

lemma coe_routed : (routed items destination r : Multiset α) =
    (∑ j, (items j : Multiset α)).filter fun a => destination a = r := by
  rw [routed, coe_flatMap_finRange, filter_sum]
  simp only [Multiset.filter_coe]

lemma length_routed_eq_card : (routed items destination r).length =
    ((∑ j, (items j : Multiset α)).filter fun a => destination a = r).card := by
  rw [← coe_routed, Multiset.coe_card]

/-- Nothing is lost and nothing is duplicated. -/
theorem sum_routed (h : ∀ j, ∀ a ∈ items j, destination a < n) :
    ∑ r : Fin n, (routed items destination r : Multiset α) = ∑ j, (items j : Multiset α) := by
  simp only [coe_routed]
  apply sum_filter_destination
  intro a ha
  obtain ⟨j, -, hj⟩ := Multiset.mem_sum.mp ha
  exact h j a (Multiset.mem_coe.mp hj)

lemma length_routed : (routed items destination r).length =
      ((finRange n).map fun j => (items j).countP fun a => destination a = r).sum := by
  rw [routed, length_flatMap]
  simp only [countP_eq_length_filter]

/-- Items with one mark go to one rank, so looking for equal marks rank by rank is enough. -/
theorem nodup_map_sum_routed {β : Type} {mark : α → β} (h : ∀ j, ∀ a ∈ items j, destination a < n)
    (hmark : ∀ a b, mark a = mark b → destination a = destination b) :
    ((∑ j, (items j : Multiset α)).map mark).Nodup ↔
      ∀ r : Fin n, ((routed items destination r).map mark).Nodup := by
  classical
  constructor
  · intro hnodup r
    rw [← Multiset.coe_nodup, ← Multiset.map_coe, coe_routed]
    exact Multiset.nodup_of_le (Multiset.map_le_map (Multiset.filter_le _ _)) hnodup
  · intro hnodup
    rw [Multiset.nodup_iff_count_le_one]
    intro b
    by_cases hb : b ∈ (∑ j, (items j : Multiset α)).map mark
    · obtain ⟨a, ha, rfl⟩ := Multiset.mem_map.mp hb
      obtain ⟨j, -, hj⟩ := Multiset.mem_sum.mp ha
      have hone := Multiset.nodup_iff_count_le_one.mp
        (Multiset.coe_nodup.mpr (hnodup ⟨destination a, h j a (Multiset.mem_coe.mp hj)⟩)) (mark a)
      rw [← Multiset.map_coe, coe_routed, Multiset.count_map, Multiset.filter_filter] at hone
      rw [Multiset.count_map]
      convert hone using 2
      apply Multiset.filter_congr
      intro c _
      constructor
      · intro hc
        exact ⟨hc, (hmark a c hc).symm⟩
      · exact fun hc => hc.1
    · rw [Multiset.count_eq_zero_of_notMem hb]
      exact Nat.zero_le 1

/-- Two copies of an item meet at one rank. -/
theorem nodup_sum_routed (h : ∀ j, ∀ a ∈ items j, destination a < n) :
    (∑ j, (items j : Multiset α)).Nodup ↔ ∀ r : Fin n, (routed items destination r).Nodup := by
  have hid : ((∑ j, (items j : Multiset α)).map id).Nodup ↔
      ∀ r : Fin n, ((routed items destination r).map id).Nodup :=
    nodup_map_sum_routed h fun a b hab => congrArg destination hab
  simpa only [Multiset.map_id, map_id] using hid

end HundunFlow.Lib
