import Mathlib.Data.List.Sort
import Mathlib.Data.List.TakeWhile
import Mathlib.Order.WithBot

/-!
# Sweeps with lazy removal

A sweep visits points in ascending order. What starts at or before a point enters a queue, whose
first element has the least key. What has stopped before a point is removed only when it is first in
the queue, so that the queue may hold elements that have stopped; the first one has not.
-/

namespace HundunFlow.Lib

open List

variable {α β X κ : Type} [LinearOrder X] [LinearOrder κ]

/-- What has not started yet, in the order of its starts, and the queue in the order of its keys. -/
structure LazySweep (α β : Type) where
  pending : List α
  queue : List β

variable (start : α → X) (enter : α → β) (stop : β → X) (key : β → κ)

def queuePush (queue : List β) (b : β) : List β := queue.orderedInsert (fun b c => key b ≤ key c) b

/-- The two loops at a point. -/
def LazySweep.advance (x : X) (s : LazySweep α β) : LazySweep α β where
  pending := s.pending.dropWhile fun a => start a ≤ x
  queue := (((s.pending.takeWhile fun a => start a ≤ x).map enter).foldl (queuePush key) s.queue).dropWhile
    fun b => stop b < x

def LazySweep.tops : LazySweep α β → List X → List (Option β)
  | _, [] => []
  | s, x :: rest =>
    let next := s.advance start enter stop key x
    next.queue.head? :: next.tops rest

/-- The state of a sweep of `all` that has come to a bound. -/
structure Sweeping (all : List α) (bound : WithBot X) (s : LazySweep α β) : Prop where
  entered : ∀ b ∈ s.queue, ∃ a ∈ all, enter a = b ∧ (start a : WithBot X) ≤ bound
  covered : ∀ a ∈ all, a ∈ s.pending ∨ enter a ∈ s.queue ∨ (stop (enter a) : WithBot X) < bound
  waiting : ∀ a ∈ s.pending, a ∈ all
  pendingSorted : s.pending.Pairwise fun a b => start a ≤ start b
  queueSorted : s.queue.Pairwise fun a b => key a ≤ key b

/-- An element of least key among those that have started and not stopped at a point, if there is one. -/
def IsTop (all : List α) (x : X) : Option β → Prop
  | none => ∀ a ∈ all, start a ≤ x → stop (enter a) < x
  | some b => (∃ a ∈ all, enter a = b ∧ start a ≤ x) ∧ x ≤ stop b ∧
      ∀ a ∈ all, start a ≤ x → x ≤ stop (enter a) → key b ≤ key (enter a)

variable {start enter stop key} {all : List α} {bound : WithBot X} {s : LazySweep α β} {x : X}

variable {list : List α}

lemma queuePush_sorted {queue : List β} (h : queue.Pairwise fun a b => key a ≤ key b) (b : β) :
    (queuePush key queue b).Pairwise fun a b => key a ≤ key b := by
  have : Std.Total fun a b : β => key a ≤ key b := ⟨fun a b => le_total (key a) (key b)⟩
  have : IsTrans β fun a b => key a ≤ key b := ⟨fun _ _ _ => le_trans⟩
  exact List.Pairwise.orderedInsert _ _ h

lemma pushes_sorted {queue entering : List β} (h : queue.Pairwise fun a b => key a ≤ key b) :
    (entering.foldl (queuePush key) queue).Pairwise fun a b => key a ≤ key b := by
  induction entering generalizing queue with
  | nil => exact h
  | cons b rest ih => exact ih (queuePush_sorted h b)

lemma mem_pushes {queue entering : List β} {b : β} :
    b ∈ entering.foldl (queuePush key) queue ↔ b ∈ entering ∨ b ∈ queue := by
  induction entering generalizing queue with
  | nil => simp
  | cons a rest ih =>
    rw [foldl_cons, ih, queuePush, mem_orderedInsert, mem_cons]
    tauto

lemma mem_takeWhile_of_sorted (h : list.Pairwise fun a b => start a ≤ start b) {a : α} (ha : a ∈ list)
    (hx : start a ≤ x) : a ∈ list.takeWhile fun a => start a ≤ x := by
  induction list with
  | nil => cases ha
  | cons first rest ih =>
    rw [pairwise_cons] at h
    have hfirst : start first ≤ x := by
      rcases mem_cons.mp ha with rfl | ha
      · exact hx
      · exact (h.1 a ha).trans hx
    rw [takeWhile_cons_of_pos (by simpa using hfirst), mem_cons]
    rcases mem_cons.mp ha with rfl | ha
    · exact .inl rfl
    · exact .inr (ih h.2 ha)

/-- In a sorted list the elements behind a bound come last. -/
lemma lt_of_mem_dropWhile (h : list.Pairwise fun a b => start a ≤ start b) {a : α}
    (ha : a ∈ list.dropWhile fun a => start a ≤ x) : x < start a := by
  induction list with
  | nil => cases ha
  | cons first rest ih =>
    rw [pairwise_cons] at h
    by_cases hfirst : start first ≤ x
    · rw [dropWhile_cons_of_pos (by simpa using hfirst)] at ha
      exact ih h.2 ha
    · rw [dropWhile_cons_of_neg (by simpa using hfirst)] at ha
      rcases mem_cons.mp ha with rfl | ha
      · exact not_le.mp hfirst
      · exact (not_le.mp hfirst).trans_le (h.1 a ha)

lemma mem_of_mem_dropWhile {γ : Type} {p : γ → Bool} {list : List γ} {c : γ} (h : c ∈ list) :
    c ∈ list.dropWhile p ∨ p c = true := by
  induction list with
  | nil => cases h
  | cons first rest ih =>
    by_cases hp : p first = true
    · rw [dropWhile_cons_of_pos hp]
      rcases mem_cons.mp h with rfl | h
      · exact .inr hp
      · exact ih h
    · rw [dropWhile_cons_of_neg hp]
      exact .inl h

lemma Sweeping.begin (h : all.Pairwise fun a b => start a ≤ start b) :
    Sweeping start enter stop key all ⊥ ⟨all, []⟩ :=
  ⟨by simp, fun a ha => .inl ha, fun a ha => ha, h, List.Pairwise.nil⟩

lemma Sweeping.advance (h : Sweeping start enter stop key all bound s) (hx : bound ≤ x) :
    Sweeping start enter stop key all x (s.advance start enter stop key x) := by
  constructor
  · intro b hb
    rcases mem_pushes.mp ((dropWhile_sublist _).mem hb) with hb | hb
    · obtain ⟨a, ha, rfl⟩ := mem_map.mp hb
      have hstart := mem_takeWhile_imp ha
      exact ⟨a, h.waiting a ((takeWhile_sublist _).mem ha), rfl, by simpa using hstart⟩
    · obtain ⟨a, ha, rfl, hstart⟩ := h.entered b hb
      exact ⟨a, ha, rfl, hstart.trans hx⟩
  · intro a ha
    have hqueue : ∀ b, b ∈ ((s.pending.takeWhile fun a => start a ≤ x).map enter).foldl (queuePush key) s.queue →
        b ∈ (s.advance start enter stop key x).queue ∨ (stop b : WithBot X) < x := by
      intro b hb
      rcases mem_of_mem_dropWhile hb with hb | hb
      · exact .inl hb
      · exact .inr (by simpa using hb)
    rcases h.covered a ha with hpending | hentered | hstopped
    · by_cases hstart : start a ≤ x
      · exact .inr (hqueue _ (mem_pushes.mpr (.inl (mem_map_of_mem
          (mem_takeWhile_of_sorted h.pendingSorted hpending hstart)))))
      · left
        rcases mem_of_mem_dropWhile hpending with hwaiting | habsurd
        · exact hwaiting
        · exact absurd (by simpa using habsurd) hstart
    · exact .inr (hqueue _ (mem_pushes.mpr (.inr hentered)))
    · exact .inr (.inr (hstopped.trans_le hx))
  · intro a ha
    exact h.waiting a ((dropWhile_sublist _).mem ha)
  · exact h.pendingSorted.sublist (dropWhile_sublist _)
  · exact (pushes_sorted h.queueSorted).sublist (dropWhile_sublist _)

lemma advance_head (h : Sweeping start enter stop key all bound s) (hx : bound ≤ x) :
    IsTop start enter stop key all x (s.advance start enter stop key x).queue.head? := by
  have hnext := h.advance hx
  have hpending : ∀ a ∈ (s.advance start enter stop key x).pending, ¬start a ≤ x := fun a ha =>
    not_le.mpr (lt_of_mem_dropWhile h.pendingSorted ha)
  cases hhead : (s.advance start enter stop key x).queue.head? with
  | none =>
    intro a ha hstart
    rcases hnext.covered a ha with hwaiting | hentered | hstopped
    · exact absurd hstart (hpending a hwaiting)
    · rw [List.head?_eq_none_iff.mp hhead] at hentered
      cases hentered
    · exact_mod_cast hstopped
  | some b =>
    have hb : b ∈ (s.advance start enter stop key x).queue := mem_of_mem_head? hhead
    obtain ⟨a, ha, hab, hstart⟩ := hnext.entered b hb
    refine ⟨⟨a, ha, hab, by exact_mod_cast hstart⟩, ?_, fun c hc hcstart hcstop => ?_⟩
    · have hfirst := List.head?_dropWhile_not (fun b => decide (stop b < x))
        (((s.pending.takeWhile fun a => start a ≤ x).map enter).foldl (queuePush key) s.queue)
      change match (s.advance start enter stop key x).queue.head? with | some b => _ | none => _ at hfirst
      rw [hhead] at hfirst
      simpa using hfirst
    · rcases hnext.covered c hc with hwaiting | hentered | hstopped
      · exact absurd hcstart (hpending c hwaiting)
      · obtain ⟨rest, hrest⟩ := List.head?_eq_some_iff.mp hhead
        have hsorted := hnext.queueSorted
        rw [hrest, pairwise_cons] at hsorted
        rw [hrest] at hentered
        rcases mem_cons.mp hentered with heq | hmem
        · rw [heq]
        · exact hsorted.1 _ hmem
      · exact absurd hcstop (not_le.mpr (by exact_mod_cast hstopped))

/-- At every point of a sweep the first element is one of least key among those that have not stopped. -/
theorem Sweeping.tops (h : Sweeping start enter stop key all bound s) {points : List X}
    (hpoints : points.Pairwise (· ≤ ·)) (hbound : ∀ x ∈ points, bound ≤ (x : WithBot X)) :
    Forall₂ (IsTop start enter stop key all) points (s.tops start enter stop key points) := by
  induction points generalizing bound s with
  | nil => exact .nil
  | cons x rest ih =>
    rw [pairwise_cons] at hpoints
    have hx := hbound x mem_cons_self
    refine .cons (advance_head h hx) (ih (h.advance hx) hpoints.2 fun y hy => ?_)
    exact_mod_cast hpoints.1 y hy

end HundunFlow.Lib
