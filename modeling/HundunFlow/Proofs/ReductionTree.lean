import HundunFlow.Reduction
import Mathlib.Data.Fintype.Lattice

/-!
# Reductions do not depend on the tree

A part of the ranks compares the sizes of its spans with that of its own lowest rank, so while
packets are combined a difference may be laid at the door of the wrong rank.
-/

namespace HundunFlow.Proofs

open Lib ReductionEngine Multiset

variable {F : Type} {n : ℕ}

def failureIn (p : Packet F) : ℕ × ℕ × ℕ := (p.failureRank, p.failureCode, p.failureDetail)

def failureWith (rank : ℕ) (status : Status) : ℕ × ℕ × ℕ := (rank, status.code.toWire, status.detail.toNat)

section Select

variable {p : Packet F} {rank code detail : ℕ}

lemma failureIn_select_lower (h : rank < p.failureRank) :
    failureIn (p.selectFailure rank code detail) = (rank, code, detail) := by
  unfold Packet.selectFailure
  simp [h, failureIn]

lemma select_higher (h : p.failureRank < rank) : p.selectFailure rank code detail = p := by
  have hlow : ¬ rank < p.failureRank := by omega
  have hsame : rank ≠ p.failureRank := by omega
  unfold Packet.selectFailure
  simp [hlow, hsame]

lemma select_same : p.selectFailure p.failureRank p.failureCode p.failureDetail = p := by
  unfold Packet.selectFailure
  simp

lemma selectCountMismatch_same : p.selectCountMismatch p.failureRank = p := by
  unfold Packet.selectCountMismatch Packet.selectFailure
  have hproposed : Packet.isCountMismatch StatusCode.invalidPlan.toWire kCountMismatch.toNat = true := by decide
  rw [hproposed]
  by_cases hsel : Packet.isCountMismatch p.failureCode p.failureDetail = true
  · have hparts := hsel
    simp only [Packet.isCountMismatch, Bool.and_eq_true, decide_eq_true_eq] at hparts
    simp [hparts.1, hparts.2]
  · rw [Bool.not_eq_true] at hsel
    simp [hsel]

end Select

/-- What rank `k` fails with if it does: its own status, or that of differing counts. -/
def ownFailure (status : Fin n → Status) (k : Fin n) : Status :=
  if (status k).isOk then Packet.countMismatch else status k

def failureOf (status : Fin n → Status) : WithTop (Fin n) → ℕ × ℕ × ℕ
  | ⊤ => (n, StatusCode.ok.toWire, 0)
  | (k : Fin n) => failureWith k (ownFailure status k)

/-- The lowest rank of a part that has failed or brings another count than `count`. -/
def lowestFailing (status : Fin n → Status) (counts : Fin n → ℕ) (count : ℕ) (s : Multiset (Fin n)) :
    WithTop (Fin n) :=
  ((s.filter fun k => (status k).isOk = false ∨ counts k ≠ count).map WithTop.some).inf

section Lowest

variable {status : Fin n → Status} {counts : Fin n → ℕ} {count : ℕ} {s t : Multiset (Fin n)}

variable {k : Fin n}

lemma lowestFailing_add (s t : Multiset (Fin n)) : lowestFailing status counts count (s + t) =
    min (lowestFailing status counts count s) (lowestFailing status counts count t) := by
  rw [lowestFailing, filter_add, Multiset.map_add, Multiset.inf_add]
  rfl

lemma le_lowestFailing {k : WithTop (Fin n)} : k ≤ lowestFailing status counts count s ↔
    ∀ j ∈ s, (status j).isOk = false ∨ counts j ≠ count → k ≤ j := by
  rw [lowestFailing, Multiset.le_inf]
  simp only [mem_map, mem_filter, forall_exists_index, and_imp]
  exact ⟨fun h j hj hfails => h _ j hj hfails rfl, fun h _ j hj hfails heq => heq ▸ h j hj hfails⟩

lemma lowestFailing_le (hk : k ∈ s) (h : (status k).isOk = false ∨ counts k ≠ count) :
    lowestFailing status counts count s ≤ k :=
  le_lowestFailing.mp le_rfl k hk h

lemma lowestFailing_of_ne (hk : k ∈ t) (hleast : ∀ j ∈ t, k ≤ j) (h : counts k ≠ count) :
    lowestFailing status counts count t = k := by
  apply le_antisymm
  · exact lowestFailing_le hk (.inr h)
  · exact le_lowestFailing.mpr fun j hj _ => WithTop.coe_le_coe.mpr (hleast j hj)

lemma lowestFailing_merge {m : Fin n} (hk : k ∈ t) (hleast : ∀ j ∈ t, k ≤ j) :
    lowestFailing status counts (counts m) (s + t) =
      if counts m ≠ counts k then
        min ↑k (min (lowestFailing status counts (counts m) s) (lowestFailing status counts (counts k) t))
      else min (lowestFailing status counts (counts m) s) (lowestFailing status counts (counts k) t) := by
  rw [lowestFailing_add]
  by_cases hcounts : counts m = counts k
  · rw [if_neg (not_not.mpr hcounts), hcounts]
  · have hle : (k : WithTop (Fin n)) ≤ lowestFailing status counts (counts k) t :=
      le_lowestFailing.mpr fun j hj _ => WithTop.coe_le_coe.mpr (hleast j hj)
    rw [if_pos hcounts, lowestFailing_of_ne hk hleast fun heq => hcounts heq.symm, ← min_assoc, min_comm (k : WithTop (Fin n)),
      min_assoc, min_eq_left hle]

lemma ok_of_lt_lowestFailing (hk : k ∈ t) (h : ↑k < lowestFailing status counts (counts k) t) :
    (status k).isOk = true := by
  by_contra hfailed
  rw [Bool.not_eq_true] at hfailed
  have hle : lowestFailing status counts (counts k) t ≤ k := lowestFailing_le hk (.inl hfailed)
  exact absurd hle (not_le.mpr h)

end Lowest

variable {status : Fin n → Status} {counts : Fin n → ℕ} {p : Packet F} {lowest : WithTop (Fin n)}

lemma select_failureOf (other : WithTop (Fin n)) (h : failureIn p = failureOf status lowest) :
    failureIn (p.selectFailure (failureOf status other).1 (failureOf status other).2.1 (failureOf status other).2.2) =
      failureOf status (min other lowest) := by
  have hsame : other = lowest → failureIn (p.selectFailure (failureOf status other).1
      (failureOf status other).2.1 (failureOf status other).2.2) = failureOf status (min other lowest) := by
    intro heq
    rw [heq, ← h, min_self]
    exact (congrArg failureIn select_same).trans h
  have hrank : p.failureRank = (failureOf status lowest).1 := congrArg Prod.fst h
  cases other with
  | top =>
    cases lowest with
    | top => exact hsame rfl
    | coe j =>
      rw [min_eq_right le_top, select_higher]
      · exact h
      · rw [hrank]
        exact j.isLt
  | coe k =>
    cases lowest with
    | top =>
      rw [min_eq_left le_top, failureIn_select_lower]
      rw [hrank]
      exact k.isLt
    | coe j =>
      rcases lt_trichotomy k j with hlt | heq | hgt
      · rw [min_eq_left (WithTop.coe_le_coe.mpr hlt.le), failureIn_select_lower]
        rw [hrank]
        exact hlt
      · exact hsame (congrArg _ heq)
      · rw [min_eq_right (WithTop.coe_le_coe.mpr hgt.le), select_higher]
        · exact h
        · rw [hrank]
          exact hgt

lemma selectCountMismatch_failureOf (k : Fin n) (h : failureIn p = failureOf status lowest)
    (hok : ↑k < lowest → (status k).isOk = true) :
    failureIn (p.selectCountMismatch k) = failureOf status (min ↑k lowest) := by
  have hrank : p.failureRank = (failureOf status lowest).1 := congrArg Prod.fst h
  have hlower : ↑k < lowest → (k : ℕ) < p.failureRank →
      failureIn (p.selectCountMismatch k) = failureOf status (min ↑k lowest) := by
    intro hlt hless
    rw [min_eq_left hlt.le, Packet.selectCountMismatch, failureIn_select_lower hless]
    simp only [failureOf, failureWith, ownFailure, hok hlt, if_true]
    rfl
  cases lowest with
  | top => exact hlower (WithTop.coe_lt_top k) (hrank ▸ k.isLt)
  | coe j =>
    have hj : p.failureRank = j := hrank
    rcases lt_trichotomy k j with hlt | heq | hgt
    · exact hlower (WithTop.coe_lt_coe.mpr hlt) (hj ▸ hlt)
    · rw [heq, min_self, ← hj, selectCountMismatch_same]
      exact h
    · rw [min_eq_right (WithTop.coe_le_coe.mpr hgt.le), Packet.selectCountMismatch, select_higher (hj ▸ hgt)]
      exact h

structure Summarizes (status : Fin n → Status) (counts : Fin n → ℕ) (s : Multiset (Fin n)) (p : Packet F)
    (m : Fin n) : Prop where
  mem : m ∈ s
  least : ∀ j ∈ s, m ≤ j
  referenceRank : p.referenceRank = m
  referenceCount : p.referenceCount = counts m
  failure : failureIn p = failureOf status (lowestFailing status counts (counts m) s)

lemma combineHeaders_summarizes {s t : Multiset (Fin n)} {input inout : Packet F} {m k : Fin n}
    (hinput : Summarizes status counts s input m) (hinout : Summarizes status counts t inout k) :
    Summarizes status counts (s + t) (Packet.combineHeaders input inout) (min m k) := by
  have hsel := select_failureOf (lowestFailing status counts (counts m) s) hinout.failure
  rw [← hinput.failure] at hsel
  have hmem : min m k ∈ s + t := by
    rw [mem_add]
    cases min_choice m k with
    | inl h =>
      rw [h]
      exact .inl hinput.mem
    | inr h =>
      rw [h]
      exact .inr hinout.mem
  have hleast : ∀ j ∈ s + t, min m k ≤ j := by
    intro j hj
    cases mem_add.mp hj with
    | inl hj => exact (min_le_left _ _).trans (hinput.least j hj)
    | inr hj => exact (min_le_right _ _).trans (hinout.least j hj)
  by_cases hlt : m < k
  · -- the rank that differs is the lowest of the part already in
    have hmin : min m k = m := min_eq_left hlt.le
    have hcomb : Packet.combineHeaders input inout =
        { (if input.referenceCount ≠ inout.referenceCount then
            (inout.selectFailure input.failureRank input.failureCode input.failureDetail).selectCountMismatch k
          else inout.selectFailure input.failureRank input.failureCode input.failureDetail) with
          referenceRank := input.referenceRank, referenceCount := input.referenceCount } := by
      unfold Packet.combineHeaders
      rw [hinput.referenceRank, hinout.referenceRank, if_pos (Fin.lt_def.mp hlt)]
    refine ⟨hmem, hleast, ?_, ?_, ?_⟩
    · rw [hcomb, hmin]
      exact hinput.referenceRank
    · rw [hcomb, hmin]
      exact hinput.referenceCount
    · rw [hmin, lowestFailing_merge hinout.mem hinout.least, hcomb, hinput.referenceCount,
        hinout.referenceCount]
      by_cases hcounts : counts m ≠ counts k
      · rw [if_pos hcounts, if_pos hcounts]
        refine selectCountMismatch_failureOf k hsel fun hless => ?_
        exact ok_of_lt_lowestFailing hinout.mem (hless.trans_le (min_le_right _ _))
      · rw [if_neg hcounts, if_neg hcounts]
        exact hsel
  · have hmin : min m k = k := min_eq_right (not_lt.mp hlt)
    have hcomb : Packet.combineHeaders input inout =
        (if input.referenceCount ≠ inout.referenceCount then
          (inout.selectFailure input.failureRank input.failureCode input.failureDetail).selectCountMismatch m
        else inout.selectFailure input.failureRank input.failureCode input.failureDetail) := by
      unfold Packet.combineHeaders
      rw [hinput.referenceRank, hinout.referenceRank, if_neg fun h => hlt (Fin.lt_def.mpr h)]
    have hkept : ∀ (rank code detail : ℕ) (p : Packet F),
        (p.selectFailure rank code detail).referenceRank = p.referenceRank ∧
          (p.selectFailure rank code detail).referenceCount = p.referenceCount := by
      intro rank code detail p
      unfold Packet.selectFailure
      dsimp only
      split_ifs
      · exact ⟨rfl, rfl⟩
      · exact ⟨rfl, rfl⟩
    refine ⟨hmem, hleast, ?_, ?_, ?_⟩
    · rw [hcomb, hmin]
      split_ifs
      · exact (hkept _ _ _ _).1.trans ((hkept _ _ _ _).1.trans hinout.referenceRank)
      · exact (hkept _ _ _ _).1.trans hinout.referenceRank
    · rw [hcomb, hmin]
      split_ifs
      · exact (hkept _ _ _ _).2.trans ((hkept _ _ _ _).2.trans hinout.referenceCount)
      · exact (hkept _ _ _ _).2.trans hinout.referenceCount
    · rw [hmin, add_comm s t, lowestFailing_merge hinput.mem hinput.least, hcomb, hinput.referenceCount,
        hinout.referenceCount, min_comm (lowestFailing status counts (counts k) t)]
      by_cases hcounts : counts m ≠ counts k
      · rw [if_pos hcounts, if_pos hcounts.symm]
        refine selectCountMismatch_failureOf m hsel fun hless => ?_
        exact ok_of_lt_lowestFailing hinput.mem (hless.trans_le (min_le_left _ _))
      · rw [if_neg hcounts, if_neg fun h => hcounts h.symm]
        exact hsel

end HundunFlow.Proofs
