import Mathlib.Data.Finset.Card
import Mathlib.Data.Nat.Find

/-!
# Union-find by parent pointers

A forest is kept by the parent of every node; a root is its own parent. The search for a root
halves the path it climbs, and two trees are joined by giving the root of one the root of the other
as its parent. Neither changes which nodes belong together otherwise.
-/

namespace HundunFlow.Lib

open Function Finset

variable {α : Type}

/-- The root `r` is found from `a` in at most `n` steps to a parent. -/
inductive Climbs (parent : α → α) : ℕ → α → α → Prop where
  | root (n : ℕ) (r : α) (h : parent r = r) : Climbs parent n r r
  | step (n : ℕ) (a r : α) (h : Climbs parent n (parent a) r) : Climbs parent (n + 1) a r

section Climbs

variable {parent : α → α} {n m : ℕ} {a b r s : α}

lemma Climbs.isRoot (h : Climbs parent n a r) : parent r = r := by
  induction h with
  | root n r h => exact h
  | step n a r _ ih => exact ih

lemma Climbs.mono (h : Climbs parent n a r) (hm : n ≤ m) : Climbs parent m a r := by
  induction h generalizing m with
  | root n r h => exact .root m r h
  | step n a r _ ih =>
    cases m with
    | zero => omega
    | succ m => exact .step m a r (ih (by omega))

lemma Climbs.eq_of_isRoot (h : Climbs parent n a r) (ha : parent a = a) : r = a := by
  induction h with
  | root n r _ => rfl
  | step n a r _ ih =>
    rw [ha] at ih
    exact ih ha

lemma Climbs.exists_iterate (h : Climbs parent n a r) : ∃ k ≤ n, parent^[k] a = r := by
  induction h with
  | root n r _ => exact ⟨0, Nat.zero_le n, rfl⟩
  | step n a r _ ih =>
    obtain ⟨k, hk, hr⟩ := ih
    exact ⟨k + 1, by omega, hr⟩

lemma climbs_of_iterate (hr : parent r = r) {k : ℕ} (h : parent^[k] a = r) : Climbs parent k a r := by
  induction k generalizing a with
  | zero =>
    obtain rfl : a = r := h
    exact .root 0 a hr
  | succ k ih => exact .step k a r (ih h)

lemma Climbs.acyclic (h : Climbs parent n a r) {k : ℕ} (hcycle : parent^[k + 1] a = a) : parent a = a := by
  obtain ⟨m, -, hm⟩ := h.exists_iterate
  have hperiod : parent^[(k + 1) * m] a = a := by
    rw [iterate_mul]
    exact iterate_fixed hcycle m
  have htop : parent^[(k + 1) * m] a = r := by
    rw [Nat.add_mul, Nat.one_mul, iterate_add_apply, hm]
    exact iterate_fixed h.isRoot _
  have hroot : a = r := hperiod.symm.trans htop
  rw [hroot]
  exact h.isRoot

lemma Climbs.iterate (h : Climbs parent n a r) (k : ℕ) : Climbs parent n (parent^[k] a) r := by
  induction k generalizing a n with
  | zero => exact h
  | succ k ih =>
    cases h with
    | root _ _ hroot =>
      rw [iterate_fixed hroot]
      exact .root n r hroot
    | step n _ _ hup => exact (ih hup).mono (Nat.le_succ n)

/-- The nodes on the way to a root are different, so there are no more steps than nodes. -/
lemma Climbs.bounded (h : Climbs parent n a r) {S : Finset α} (hS : ∀ b ∈ S, parent b ∈ S) (ha : a ∈ S) :
    Climbs parent S.card a r := by
  classical
  obtain ⟨k, -, hk⟩ := h.exists_iterate
  have hreaches : ∃ k, parent^[k] a = r := ⟨k, hk⟩
  have hfirst := Nat.find_spec hreaches
  have hin : ∀ i, parent^[i] a ∈ S := by
    intro i
    induction i with
    | zero => exact ha
    | succ i ih =>
      rw [iterate_succ_apply']
      exact hS _ ih
  have hdist : Set.InjOn (fun i => parent^[i] a) (range (Nat.find hreaches + 1)) := by
    have hlt : ∀ i j, i < j → j ≤ Nat.find hreaches → parent^[i] a ≠ parent^[j] a := by
      intro i j hij hj heq
      have hcycle : parent^[(j - i - 1) + 1] (parent^[i] a) = parent^[i] a := by
        rw [← iterate_add_apply, show j - i - 1 + 1 + i = j by omega]
        exact heq.symm
      have hroot := (h.iterate i).acyclic hcycle
      exact Nat.find_min hreaches (by omega) ((h.iterate i).eq_of_isRoot hroot).symm
    intro i hi j hj heq
    have hi' := mem_range.mp (mem_coe.mp hi)
    have hj' := mem_range.mp (mem_coe.mp hj)
    rcases lt_trichotomy i j with hij | hij | hij
    · exact absurd heq (hlt i j hij (by omega))
    · exact hij
    · exact absurd heq.symm (hlt j i hij (by omega))
  have hcard : (range (Nat.find hreaches + 1)).card ≤ S.card :=
    card_le_card_of_injOn _ (fun i _ => hin i) hdist
  rw [card_range] at hcard
  exact (climbs_of_iterate h.isRoot hfirst).mono (by omega)

end Climbs

/-! ### Changing the parents -/

section Update

variable [DecidableEq α] {parent : α → α} {n : ℕ} {a b r s t : α}

lemma Climbs.halve (h : Climbs parent n b r) (a : α) : Climbs (update parent a (parent (parent a))) n b r := by
  induction h with
  | root n r hroot =>
    refine .root n r ?_
    by_cases ha : r = a
    · subst ha
      rw [update_self, hroot, hroot]
    · rw [update_of_ne ha, hroot]
  | step n b r hup ih =>
    by_cases hb : b = a
    · subst hb
      by_cases hroot : parent b = b
      · simp only [hroot] at ih
        simp only [hroot]
        exact ih.mono (Nat.le_succ n)
      · refine .step n b r ?_
        rw [update_self]
        generalize hparent : parent b = above at ih hroot
        cases ih with
        | root _ _ htop =>
          rw [update_of_ne hroot] at htop
          rw [htop]
          exact .root n _ (by rw [update_of_ne hroot, htop])
        | step n _ _ hup' =>
          rw [update_of_ne hroot] at hup'
          exact hup'.mono (Nat.le_succ n)
    · refine .step n b r ?_
      rwa [update_of_ne hb]

/-- The root `t` gets the root `s` as its parent. -/
lemma Climbs.link (h : Climbs parent n b r) (hs : parent s = s) (ht : parent t = t) :
    Climbs (update parent t s) (n + 1) b (if r = t then s else r) := by
  by_cases hsame : t = s
  · subst hsame
    have hparent : update parent t t = parent := update_eq_iff.mpr ⟨ht.symm, fun _ _ => rfl⟩
    rw [hparent]
    split_ifs with hr
    · exact hr ▸ h.mono (Nat.le_succ n)
    · exact h.mono (Nat.le_succ n)
  · have hroot : update parent t s s = s := by rw [update_of_ne (Ne.symm hsame), hs]
    induction h with
    | root n r hr =>
      split_ifs with heq
      · subst heq
        exact .step n _ _ (by rw [update_self]; exact .root n s hroot)
      · exact .root _ r (by rw [update_of_ne heq, hr])
    | step n b r hup ih =>
      by_cases hb : b = t
      · subst hb
        rw [ht] at hup
        rw [if_pos (hup.eq_of_isRoot ht)]
        exact .step _ _ _ (by rw [update_self]; exact .root _ s hroot)
      · exact .step _ _ _ (by rw [update_of_ne hb]; exact ih)

end Update

/-! ### Forests -/

/-- The roots when the tree of `b` is hung on the tree of `a`. -/
def linked [DecidableEq α] (root : α → α) (a b c : α) : α := if root c = root b then root a else root c

/-- The parents stay in `S`, and `root` is the root of every node in `S`. -/
structure Forest (S : Finset α) (parent root : α → α) : Prop where
  closed : ∀ a ∈ S, parent a ∈ S
  climbs : ∀ a ∈ S, ∃ n, Climbs parent n a (root a)

namespace Forest

variable {S : Finset α} {parent root : α → α} {a b : α}

lemma initial (S : Finset α) : Forest S (fun a => a) fun a => a where
  closed _ ha := ha
  climbs a _ := ⟨0, .root 0 a rfl⟩

lemma root_mem (h : Forest S parent root) (ha : a ∈ S) : root a ∈ S := by
  obtain ⟨n, hn⟩ := h.climbs a ha
  generalize root a = r at hn
  induction hn with
  | root => exact ha
  | step n a r _ ih => exact ih (h.closed a ha)

lemma isRoot (h : Forest S parent root) (ha : a ∈ S) : parent (root a) = root a := by
  obtain ⟨n, hn⟩ := h.climbs a ha
  exact hn.isRoot

lemma root_root (h : Forest S parent root) (ha : a ∈ S) : root (root a) = root a := by
  obtain ⟨n, hn⟩ := h.climbs _ (h.root_mem ha)
  exact hn.eq_of_isRoot (h.isRoot ha)

variable [DecidableEq α]

lemma halve (h : Forest S parent root) (ha : a ∈ S) : Forest S (update parent a (parent (parent a))) root where
  closed b hb := by
    rw [update_apply]
    split_ifs
    · exact h.closed _ (h.closed a ha)
    · exact h.closed b hb
  climbs b hb := by
    obtain ⟨n, hn⟩ := h.climbs b hb
    exact ⟨n, hn.halve a⟩

/-- The tree of `b` is hung on the tree of `a`. -/
lemma link (h : Forest S parent root) (ha : a ∈ S) (hb : b ∈ S) :
    Forest S (update parent (root b) (root a)) (linked root a b) where
  closed c hc := by
    rw [update_apply]
    split_ifs
    · exact h.root_mem ha
    · exact h.closed c hc
  climbs c hc := by
    obtain ⟨n, hn⟩ := h.climbs c hc
    exact ⟨n + 1, hn.link (h.isRoot ha) (h.isRoot hb)⟩

end Forest

/-! ### Classes -/

/-- Two nodes have one root when they are connected by `R`. -/
def SameRoot (S : Finset α) (root : α → α) (R : α → α → Prop) : Prop :=
  ∀ a ∈ S, ∀ b ∈ S, root a = root b ↔ Relation.EqvGen R a b

variable {R : α → α → Prop}

lemma eq_of_eqvGen {β : Type} {f : α → β} (h : ∀ a b, R a b → f a = f b) {a b : α}
    (hab : Relation.EqvGen R a b) : f a = f b := by
  induction hab with
  | rel a b hab => exact h a b hab
  | refl => rfl
  | symm _ _ _ ih => exact ih.symm
  | trans _ _ _ _ _ ih₁ ih₂ => exact ih₁.trans ih₂

lemma sameRoot_initial (S : Finset α) : SameRoot S (fun a => a) fun _ _ => False := by
  intro a _ b _
  constructor
  · rintro rfl
    exact .refl a
  · exact eq_of_eqvGen (f := fun a => a) fun _ _ h => False.elim h

/-- Joining the trees of `a` and `b` adds one pair to the relation. -/
lemma SameRoot.link [DecidableEq α] {S : Finset α} {root : α → α} {a b : α} (h : SameRoot S root R) (ha : a ∈ S)
    (hb : b ∈ S) (hR : ∀ c d, R c d → c ∈ S ∧ d ∈ S) :
    SameRoot S (linked root a b) fun c d => R c d ∨ c = a ∧ d = b := by
  have hmono : ∀ c ∈ S, ∀ d ∈ S, root c = root d → Relation.EqvGen (fun c d => R c d ∨ c = a ∧ d = b) c d := by
    intro c hc d hd heq
    exact ((h c hc d hd).mp heq).mono fun _ _ h => .inl h
  have hnew : Relation.EqvGen (fun c d => R c d ∨ c = a ∧ d = b) a b := .rel _ _ (.inr ⟨rfl, rfl⟩)
  intro c hc d hd
  constructor
  · intro heq
    unfold linked at heq
    split_ifs at heq with hcb hdb hdb
    · exact hmono c hc d hd (hcb.trans hdb.symm)
    · exact ((hmono c hc b hb hcb).trans _ _ _ (hnew.symm _ _)).trans _ _ _ (hmono a ha d hd heq)
    · exact ((hmono c hc a ha heq).trans _ _ _ hnew).trans _ _ _ (hmono b hb d hd hdb.symm)
    · exact hmono c hc d hd heq
  · apply eq_of_eqvGen
    intro x y hxy
    unfold linked
    rcases hxy with hxy | ⟨rfl, rfl⟩
    · obtain ⟨hx, hy⟩ := hR x y hxy
      rw [(h x hx y hy).mpr (.rel _ _ hxy)]
    · rw [ite_self, if_pos rfl]

end HundunFlow.Lib
