import HundunFlow.ExchangeBatch
import HundunFlow.Proofs.OwnerAudit

/-!
# The checks of an exchange batch

What the loops over cells, rows and stencils accept.
-/

namespace HundunFlow.Proofs

open Lib ExchangeWorkspace OwnerExchangeRoutingPlan List

variable {F : Type} [Field F] [LinearOrder F]

variable (all : List (ExchangeSegment F))

variable (i : ℕ)

variable (rows : List (ExchangeSegment F))

@[simp] lemma isFinite_exact (x : F) : ExchangeReal.isFinite x = true := rfl

def AscendingCells (cells : List (ExchangeCell F)) : Prop :=
  cells.Pairwise fun a b => a.globalCell < b.globalCell

lemma cellsFailure_some_eq_none (p : ExchangeCell F) (i : ℕ) (cells : List (ExchangeCell F)) :
    cellsFailure (some p) i cells = none ↔ (∀ c ∈ cells, 0 < c.volume) ∧ AscendingCells (p :: cells) := by
  induction cells generalizing p i with
  | nil => simp [cellsFailure, AscendingCells]
  | cons c rest ih =>
    rw [cellsFailure, forall_mem_cons]
    by_cases hvolume : 0 < c.volume
    · by_cases hless : p.globalCell < c.globalCell
      · have hle : ¬ c.globalCell ≤ p.globalCell := UInt64.not_le.mpr hless
        simp only [hvolume, decide_true, Bool.not_true, isFinite_exact, Option.any_some, hle, decide_false,
          Bool.or_self, Bool.false_eq_true, if_false, true_and]
        rw [ih]
        constructor
        · rintro ⟨hrest, hasc⟩
          refine ⟨hrest, pairwise_cons.mpr ⟨fun b hb => ?_, hasc⟩⟩
          cases mem_cons.mp hb with
          | inl heq => rwa [heq]
          | inr hmem => exact UInt64.lt_trans hless ((pairwise_cons.mp hasc).1 b hmem)
        · exact fun h => ⟨h.1, (pairwise_cons.mp h.2).2⟩
      · have hle : c.globalCell ≤ p.globalCell := UInt64.not_lt.mp hless
        simp only [Option.any_some, hle, decide_true, Bool.or_true, if_true]
        refine ⟨nofun, fun h => ?_⟩
        exact absurd ((pairwise_cons.mp h.2).1 c (by simp)) hless
    · simp only [hvolume, decide_false, Bool.not_false, Bool.true_or, if_true]
      exact ⟨nofun, fun h => h.1.1.elim⟩

lemma cellsFailure_eq_none (cells : List (ExchangeCell F)) :
    cellsFailure none i cells = none ↔ (∀ c ∈ cells, 0 < c.volume) ∧ AscendingCells cells := by
  cases cells with
  | nil => simp [cellsFailure, AscendingCells]
  | cons c rest =>
    rw [cellsFailure, forall_mem_cons]
    by_cases hvolume : 0 < c.volume
    · simp only [hvolume, decide_true, Bool.not_true, isFinite_exact, Option.any_none, Bool.or_self,
        Bool.false_eq_true, if_false, true_and]
      exact cellsFailure_some_eq_none c _ rest
    · simp only [hvolume, decide_false, Bool.not_false, Bool.true_or, if_true]
      exact ⟨nofun, fun h => h.1.1.elim⟩

omit [Field F] [LinearOrder F] in
lemma knownCell_iff {cells : List (ExchangeCell F)} (h : AscendingCells cells) (id : UInt64) :
    knownCell cells id = true ↔ ∃ c ∈ cells, c.globalCell = id := by
  induction cells with
  | nil => simp [knownCell]
  | cons c rest ih =>
    obtain ⟨hall, htail⟩ := pairwise_cons.mp h
    by_cases hless : c.globalCell < id
    · have hskip : knownCell (c :: rest) id = knownCell rest id := by
        rw [knownCell, knownCell, dropWhile_cons_of_pos (by simpa using hless)]
      rw [hskip, ih htail, exists_mem_cons_iff]
      refine ⟨.inr, fun h => ?_⟩
      cases h with
      | inl heq =>
        rw [heq] at hless
        exact absurd hless (UInt64.lt_irrefl id)
      | inr hrest => exact hrest
    · rw [knownCell, dropWhile_cons_of_neg (by simpa using hless)]
      simp only [List.head?_cons, decide_eq_true_eq]
      refine ⟨fun heq => ⟨c, by simp, heq⟩, ?_⟩
      rintro ⟨d, hd, rfl⟩
      cases mem_cons.mp hd with
      | inl heq => rw [heq]
      | inr hmem => exact absurd (hall d hmem) hless

def ThermalOk (atol rtol : F) (s : ExchangeSegment F) : Prop :=
  |s.delta.thermochemicalEnthalpyDelta + s.delta.thermalExchangeToGas| ≤
    thermalLimit atol rtol s.delta.thermochemicalEnthalpyDelta s.delta.thermalExchangeToGas

lemma rowFailure_eq_none {plan : OwnerExchangeRoutingPlan F} {revision : Revision} {s : ExchangeSegment F}
    (h : plan.rowStatus revision s = .success) (cells : List (ExchangeCell F)) (atol rtol : F) :
    rowFailure plan.species revision cells atol rtol s = none ↔
      (s.channel = .interphase → knownCell cells s.globalCell = true ∧ ThermalOk atol rtol s) := by
  unfold rowStatus at h
  split_ifs at h with hrevision hbad
  simp only [ExchangeReal.isFinite, ExchangeReal.lt, ExchangeReal.zero, ExchangeReal.one, ExchangeReal.equal,
    Bool.not_true, Bool.or_eq_true, Bool.not_eq_true', decide_eq_true_eq, decide_eq_false_iff_not,
    Bool.and_eq_true, not_or, not_and, not_not, not_lt, Bool.false_eq_true, Bool.not_eq_false] at hbad
  obtain ⟨⟨⟨⟨⟨⟨⟨⟨-, hid⟩, hfinite⟩, -⟩, hpos⟩, hone⟩, hchannel⟩, hspecies⟩, hweight⟩ := hbad
  rw [not_not] at hrevision
  have hid' : ¬ (s.parcelId.high = 0 ∧ s.parcelId.low = 0) := fun hzero => hid hzero.1 hzero.2
  have hpass : ((decide (s.parcelId.high = 0) && decide (s.parcelId.low = 0)) || !finiteDelta s.delta ||
      !ExchangeReal.isFinite s.depositionWeight || decide (s.depositionWeight ≤ 0) ||
      decide (1 < s.depositionWeight) || decide (ExchangeChannel.external.toWire < s.channel.toWire)) = false := by
    simp only [Bool.or_eq_false_iff, Bool.and_eq_false_iff, decide_eq_false_iff_not, Bool.not_eq_false',
      not_le, not_lt, isFinite_exact]
    refine ⟨⟨⟨⟨⟨?_, hfinite⟩, trivial⟩, not_le.mp hpos⟩, hone⟩, hchannel⟩
    by_cases hhigh : s.parcelId.high = 0
    · exact .inr (hid hhigh)
    · exact .inl hhigh
  unfold rowFailure
  rw [if_neg (not_not.mpr hrevision), hpass]
  simp only [Bool.false_eq_true, if_false]
  by_cases hphase : s.channel = .interphase
  · simp only [hphase, ne_eq, not_true_eq_false, decide_false, Bool.false_and, Bool.false_eq_true, if_false,
      if_true, true_implies]
    rw [if_neg hspecies]
    by_cases hknown : knownCell cells s.globalCell = true
    · simp only [hknown, Bool.not_true, Bool.false_eq_true, if_false, true_and]
      unfold ThermalOk
      by_cases hlimit : thermalLimit atol rtol s.delta.thermochemicalEnthalpyDelta s.delta.thermalExchangeToGas <
          |s.delta.thermochemicalEnthalpyDelta + s.delta.thermalExchangeToGas|
      · rw [if_pos hlimit]
        exact ⟨nofun, fun h => absurd hlimit (not_lt.mpr h)⟩
      · rw [if_neg hlimit]
        exact ⟨fun _ => not_lt.mp hlimit, fun _ => rfl⟩
    · rw [Bool.not_eq_true] at hknown
      simp only [hknown, Bool.not_false, if_true, Bool.false_eq_true, false_and, iff_false]
      simp
  · have hw : s.depositionWeight = 1 := hweight hphase
    simp only [hphase, hw, ne_eq, not_true_eq_false, decide_false, Bool.and_false, Bool.false_eq_true,
      if_false, false_implies]

lemma rowsFailure_eq_none (species : ℕ) (revision : Revision) (cells : List (ExchangeCell F)) (atol rtol : F)
    (i : ℕ) (list : List (ExchangeSegment F)) : rowsFailure species revision cells atol rtol i list = none ↔
      ∀ s ∈ list, rowFailure species revision cells atol rtol s = none := by
  induction list generalizing i with
  | nil => simp [rowsFailure]
  | cons s rest ih =>
    rw [rowsFailure, forall_mem_cons, ← ih (i + 1)]
    cases h : rowFailure species revision cells atol rtol s <;> simp

omit [Field F] [LinearOrder F] in
lemma key_eq_iff (a b : ExchangeSegment F) :
    a.key = b.key ↔ a.parcelId = b.parcelId ∧ a.segmentOrdinal = b.segmentOrdinal := by
  constructor
  · intro h
    exact ⟨congrArg (fun k => (ofLex k).1) h, UInt64.toNat_inj.mp (congrArg (fun k => (ofLex k).2) h)⟩
  · rintro ⟨hid, hordinal⟩
    rw [ExchangeSegment.key, ExchangeSegment.key, hid, hordinal]

lemma sameBudget_iff (a b : ExchangeSegment F) :
    sameBudget a b = true ↔ a.channel = b.channel ∧ a.vaporSpeciesIndex = b.vaporSpeciesIndex ∧
      a.delta = b.delta := by
  rcases hd : a.delta with ⟨mass, ⟨x, y, z⟩, enthalpy, kinetic, thermal⟩
  rcases hd' : b.delta with ⟨mass', ⟨x', y', z'⟩, enthalpy', kinetic', thermal'⟩
  simp only [sameBudget, ExchangeReal.equal, hd, hd', Bool.and_eq_true, decide_eq_true_eq,
    ParcelExchangeBudget.mk.injEq, Vector3.mk.injEq]
  tauto

lemma sameBudget_eq (a b : ExchangeSegment F) : sameBudget a b =
    (decide (a.channel = b.channel) && decide (a.vaporSpeciesIndex = b.vaporSpeciesIndex) &&
      sameDelta a.delta b.delta) := by
  simp only [sameBudget, sameDelta, ExchangeReal.equal, Bool.and_assoc]

/-- What row `i` asks of the row `b` at position `j`. -/
def Compatible (i : ℕ) (a : ExchangeSegment F) (j : ℕ) (b : ExchangeSegment F) : Prop :=
  b.key = a.key → sameBudget a b = true ∧ (j ≠ i → a.globalCell ≠ b.globalCell ∧ a.channel = .interphase)

def weightOf (rows : List (ExchangeSegment F)) (key : ParcelId ×ₗ ℕ) : F :=
  ((rows.filter fun s => s.key = key).map (·.depositionWeight)).sum

lemma stencilWeight_eq_ok (a : ExchangeSegment F) (j : ℕ) (rows : List (ExchangeSegment F)) (weight total : F) :
    stencilWeight i a j rows weight = .ok total ↔
      (∀ k b, rows[k]? = some b → Compatible i a (j + k) b) ∧ weight + weightOf rows a.key = total := by
  induction rows generalizing j weight with
  | nil => simp [stencilWeight, weightOf]
  | cons b rest ih =>
    have hsplit : (∀ k c, (b :: rest)[k]? = some c → Compatible i a (j + k) c) ↔
        Compatible i a j b ∧ ∀ k c, rest[k]? = some c → Compatible i a (j + 1 + k) c := by
      constructor
      · intro h
        refine ⟨h 0 b rfl, fun k c hc => ?_⟩
        have hk := h (k + 1) c (by simpa using hc)
        rwa [Nat.add_comm k 1, ← Nat.add_assoc] at hk
      · rintro ⟨hfirst, hrest⟩ k c hc
        cases k with
        | zero =>
          obtain rfl : b = c := by simpa using hc
          exact hfirst
        | succ k =>
          have hk := hrest k c (by simpa using hc)
          rwa [Nat.add_assoc, Nat.add_comm 1 k] at hk
    rw [hsplit, stencilWeight]
    by_cases hkey : b.key = a.key
    · have hids := (key_eq_iff b a).mp hkey
      have hsame : (decide (a.parcelId ≠ b.parcelId) || decide (a.segmentOrdinal ≠ b.segmentOrdinal)) = false := by
        simp [hids.1, hids.2]
      have hweight : weightOf (b :: rest) a.key = b.depositionWeight + weightOf rest a.key := by
        rw [weightOf, filter_cons_of_pos (by simpa using hkey), map_cons, sum_cons]
        rfl
      rw [hsame, hweight]
      simp only [Bool.false_eq_true, if_false]
      by_cases hcompat : Compatible i a j b
      · obtain ⟨hbudget, hother⟩ := hcompat hkey
        have hparts := (sameBudget_iff a b).mp hbudget
        rw [sameBudget_eq, hparts.1, hparts.2.1] at hbudget
        simp only [decide_true, Bool.true_and] at hbudget
        have hpair : (decide (j ≠ i) && (decide (a.globalCell = b.globalCell) ||
            decide (a.channel ≠ .interphase))) = false := by
          by_cases hji : j = i
          · simp [hji]
          · obtain ⟨hcell, hchannel⟩ := hother hji
            simp [hcell, hchannel]
        simp only [hparts.1, hparts.2.1, ne_eq, not_true_eq_false, decide_false, Bool.or_self,
          Bool.false_eq_true, if_false]
        rw [hparts.1] at hpair
        simp only [ne_eq] at hpair
        simp only [hpair, Bool.false_eq_true, if_false, hbudget, Bool.not_true]
        rw [ih, add_assoc]
        exact ⟨fun h => ⟨⟨hcompat, h.1⟩, h.2⟩, fun h => ⟨h.1.2, h.2⟩⟩
      · refine ⟨fun h => absurd ?_ hcompat, fun h => absurd h.1.1 hcompat⟩
        intro _
        split_ifs at h with hparts hpair hdelta
        simp only [Bool.or_eq_true, decide_eq_true_eq, not_or, ne_eq, not_not] at hparts
        rw [Bool.not_eq_true, Bool.not_eq_false'] at hdelta
        refine ⟨?_, fun hji => ?_⟩
        · rw [sameBudget_eq, hparts.1, hparts.2, hdelta]
          simp
        · simp only [Bool.and_eq_true, Bool.or_eq_true, decide_eq_true_eq, not_and, not_or, ne_eq, not_not] at hpair
          exact hpair hji
    · have hids : (decide (a.parcelId ≠ b.parcelId) || decide (a.segmentOrdinal ≠ b.segmentOrdinal)) = true := by
        by_contra hsame
        simp only [Bool.or_eq_true, decide_eq_true_eq, not_or, ne_eq, not_not] at hsame
        exact hkey ((key_eq_iff b a).mpr ⟨hsame.1.symm, hsame.2.symm⟩)
      have hweight : weightOf (b :: rest) a.key = weightOf rest a.key := by
        rw [weightOf, filter_cons_of_neg (by simpa using hkey)]
        rfl
      rw [hids, hweight]
      simp only [if_true]
      rw [ih]
      exact ⟨fun h => ⟨⟨fun heq => absurd heq hkey, h.1⟩, h.2⟩, fun h => ⟨h.1.2, h.2⟩⟩

lemma stencilsFailure_eq_none : stencilsFailure all i rows = none ↔ ∀ k a, rows[k]? = some a →
      (∀ j b, all[j]? = some b → Compatible (i + k) a j b) ∧
        ExchangeReal.farFromOne (F := F) (weightOf all a.key) = false := by
  have hweight : ∀ i a, (∃ total, stencilWeight i a 0 all 0 = .ok total ∧
      ExchangeReal.farFromOne (F := F) total = false) ↔
      (∀ j b, all[j]? = some b → Compatible i a j b) ∧
        ExchangeReal.farFromOne (F := F) (weightOf all a.key) = false := by
    intro i a
    simp only [stencilWeight_eq_ok, zero_add]
    constructor
    · rintro ⟨total, ⟨hall, rfl⟩, hfar⟩
      exact ⟨hall, hfar⟩
    · rintro ⟨hall, hfar⟩
      exact ⟨_, ⟨hall, rfl⟩, hfar⟩
  simp only [← hweight]
  induction rows generalizing i with
  | nil => simp [stencilsFailure]
  | cons a rest ih =>
    rw [stencilsFailure]
    constructor
    · intro h k b hb
      cases k with
      | zero =>
        obtain rfl : a = b := by simpa using hb
        cases hloop : stencilWeight i a 0 all 0 with
        | error e => simp [hloop] at h
        | ok total =>
          simp only [hloop] at h
          cases hfar : ExchangeReal.farFromOne (F := F) total with
          | true => simp [hfar] at h
          | false => exact ⟨total, rfl, hfar⟩
      | succ k =>
        cases hloop : stencilWeight i a 0 all 0 with
        | error e => simp [hloop] at h
        | ok total =>
          simp only [hloop] at h
          split_ifs at h
          have hk := (ih (i + 1)).mp h k b (by simpa using hb)
          rwa [Nat.add_assoc, Nat.add_comm 1 k] at hk
    · intro h
      obtain ⟨total, hloop, hfar⟩ := h 0 a rfl
      rw [Nat.add_zero] at hloop
      simp only [hloop, hfar, Bool.false_eq_true, if_false]
      refine (ih (i + 1)).mpr fun k b hb => ?_
      have hk := h (k + 1) b (by simpa using hb)
      rwa [Nat.add_comm k 1, ← Nat.add_assoc] at hk

def Apart (a b : ExchangeSegment F) : Prop :=
  a.key = b.key → a.globalCell ≠ b.globalCell ∧ a.channel = .interphase ∧ b.channel = .interphase

omit [Field F] [LinearOrder F] in
lemma apart_symm {a b : ExchangeSegment F} (h : Apart a b) : Apart b a := by
  intro hkey
  obtain ⟨hcell, ha, hb⟩ := h hkey.symm
  exact ⟨hcell.symm, hb, ha⟩

/-- What the quadratic loop asks of the rows, without their positions. -/
structure StencilsOk (all : List (ExchangeSegment F)) : Prop where
  budget : ∀ a ∈ all, ∀ b ∈ all, a.key = b.key → sameBudget a b = true
  apart : all.Pairwise Apart
  weight : ∀ a ∈ all, ExchangeReal.farFromOne (F := F) (weightOf all a.key) = false

lemma stencilsFailure_iff : stencilsFailure all 0 all = none ↔ StencilsOk all := by
  rw [stencilsFailure_eq_none]
  simp only [Nat.zero_add]
  constructor
  · intro h
    have hbudget : ∀ a ∈ all, ∀ b ∈ all, a.key = b.key → sameBudget a b = true := by
      intro a ha b hb hkey
      obtain ⟨i, hi⟩ := List.getElem?_of_mem ha
      obtain ⟨j, hj⟩ := List.getElem?_of_mem hb
      exact ((h i a hi).1 j b hj hkey.symm).1
    refine ⟨hbudget, ?_, fun a ha => ?_⟩
    · rw [pairwise_iff_getElem]
      intro i j hi hj hij hkey
      have hcompat := (h i _ (List.getElem?_eq_getElem hi)).1 j _ (List.getElem?_eq_getElem hj) hkey.symm
      obtain ⟨hcell, hchannel⟩ := hcompat.2 (by omega)
      exact ⟨hcell, hchannel, ((sameBudget_iff _ _).mp hcompat.1).1 ▸ hchannel⟩
    · obtain ⟨i, hi⟩ := List.getElem?_of_mem ha
      exact (h i a hi).2
  · rintro ⟨hbudget, hapart, hweight⟩ i a hi
    refine ⟨fun j b hj hkey => ?_, hweight a (mem_of_getElem? hi)⟩
    refine ⟨hbudget a (mem_of_getElem? hi) b (mem_of_getElem? hj) hkey.symm, fun hji => ?_⟩
    obtain ⟨hi', rfl⟩ := List.getElem?_eq_some_iff.mp hi
    obtain ⟨hj', rfl⟩ := List.getElem?_eq_some_iff.mp hj
    cases Nat.lt_or_gt_of_ne hji with
    | inl hlt =>
      obtain ⟨hcell, -, hchannel⟩ := pairwise_iff_getElem.mp hapart j i hj' hi' hlt hkey
      exact ⟨hcell.symm, hchannel⟩
    | inr hgt =>
      obtain ⟨hcell, hchannel, -⟩ := pairwise_iff_getElem.mp hapart i j hi' hj' hgt hkey.symm
      exact ⟨hcell, hchannel⟩

lemma foldl_weight (start : F) :
    rows.foldl (fun w row => ExchangeReal.longAdd (F := F) w row.depositionWeight) start =
      start + (rows.map (·.depositionWeight)).sum := by
  induction rows generalizing start with
  | nil => simp
  | cons row rest ih =>
    rw [foldl_cons, ih, map_cons, sum_cons, ← add_assoc]
    rfl

lemma foldl_stencil {all rows : List (ExchangeSegment F)} {key : ParcelId ×ₗ ℕ}
    (h : rows.Perm (all.filter fun s => s.key = key)) :
    rows.foldl (fun w row => ExchangeReal.longAdd (F := F) w row.depositionWeight) ExchangeReal.longZero =
      weightOf all key := by
  rw [foldl_weight, weightOf, (h.map _).sum_eq]
  exact zero_add _

/-- The quadratic loop and the auditors accept the same rows. -/
theorem stencilsOk_iff : StencilsOk all ↔ ∀ v ∈ (all : Multiset (ExchangeSegment F)),
      StencilAccepted (all : Multiset (ExchangeSegment F)) v.key := by
  constructor
  · rintro ⟨hbudget, hapart, hweight⟩ v hv
    rw [← stencilAccepted_iff (coe_stencilOf all v.key)]
    have hperm : (stencilOf all v.key).Perm (all.filter fun s => s.key = v.key) := (sortOn_perm _ all).filter _
    have hmem : ∀ s, s ∈ stencilOf all v.key ↔ s ∈ all ∧ s.key = v.key := by
      intro s
      rw [hperm.mem_iff, mem_filter, decide_eq_true_eq]
    have hsorted := stencilOf_sorted all v.key
    have hrows : (stencilOf all v.key).Pairwise fun a b =>
        a.globalCell ≠ b.globalCell ∧ a.channel = .interphase ∧ b.channel = .interphase := by
      have hall := (hapart.sublist (filter_sublist (p := fun s => decide (s.key = v.key))))
      have hstencil := (hperm.pairwise_iff apart_symm).mpr hall
      refine hstencil.imp_of_mem fun {a b} ha hb h => h ?_
      exact ((hmem a).mp ha).2.trans ((hmem b).mp hb).2.symm
    cases hstencil : stencilOf all v.key with
    | nil =>
      have := (hmem v).mpr ⟨Multiset.mem_coe.mp hv, rfl⟩
      rw [hstencil] at this
      exact nomatch this
    | cons first rest =>
      have hfold := foldl_stencil hperm
      rw [hstencil] at hmem hsorted hrows hfold
      rw [stencilStatus_success hsorted]
      have hfirst := (hmem first).mp (by simp)
      refine ⟨fun row hrow => ?_, fun row hrow => ?_, ?_, ?_⟩
      · have hmine := (hmem row).mp hrow
        exact hbudget first hfirst.1 row hmine.1 (hfirst.2.trans hmine.2.symm)
      · exact ((pairwise_cons.mp hrows).1 row hrow).2.2
      · exact (hsorted.and hrows).imp fun h => lt_of_le_of_ne h.1 fun heq => h.2.1 (UInt64.toNat_inj.mp heq)
      · rw [hfold]
        exact hweight v (Multiset.mem_coe.mp hv)
  · intro h
    have hstencil : ∀ v ∈ all, ∃ first rest, StencilOk first rest ∧
        (first :: rest).Perm (all.filter fun s => s.key = v.key) := by
      intro v hv
      obtain ⟨rows, hrows, hsorted, hstatus⟩ := h v (Multiset.mem_coe.mpr hv)
      rw [Multiset.filter_coe, Multiset.coe_eq_coe] at hrows
      cases rows with
      | nil =>
        have hmem : v ∈ all.filter fun s => s.key = v.key := mem_filter.mpr ⟨hv, by simp⟩
        exact nomatch hrows.mem_iff.mpr hmem
      | cons first rest => exact ⟨first, rest, (stencilStatus_success hsorted).mp hstatus, hrows⟩
    have hbudget : ∀ a ∈ all, ∀ b ∈ all, a.key = b.key → sameBudget a b = true := by
      intro a ha b hb hkey
      obtain ⟨first, rest, hok, hperm⟩ := hstencil a ha
      have hfa := hok.budget a (hperm.mem_iff.mpr (mem_filter.mpr ⟨ha, by simp⟩))
      have hfb := hok.budget b (hperm.mem_iff.mpr (mem_filter.mpr ⟨hb, by simpa using hkey.symm⟩))
      rw [sameBudget_iff] at hfa hfb ⊢
      exact ⟨hfa.1.symm.trans hfb.1, hfa.2.1.symm.trans hfb.2.1, hfa.2.2.symm.trans hfb.2.2⟩
    refine ⟨hbudget, ?_, fun a ha => ?_⟩
    · rw [pairwise_iff_getElem]
      intro i j hi hj hij hkey
      obtain ⟨first, rest, hok, hperm⟩ := hstencil all[i] (getElem_mem hi)
      have hcells : (all.filter fun s => s.key = all[i].key).Pairwise fun a b => a.globalCell ≠ b.globalCell := by
        apply (hperm.pairwise_iff fun hne => hne.symm).mp
        exact hok.cells.imp fun hlt heq => absurd (congrArg UInt64.toNat heq) hlt.ne
      rw [pairwise_filter] at hcells
      have hne := pairwise_iff_getElem.mp hcells i j hi hj hij (by simp) (by simpa using hkey.symm)
      have hmem : ∀ s ∈ all, s.key = all[i].key → s ∈ first :: rest := fun s hs hs' =>
        hperm.mem_iff.mpr (mem_filter.mpr ⟨hs, by simpa using hs'⟩)
      have hfi := hmem _ (getElem_mem hi) rfl
      have hfj := hmem _ (getElem_mem hj) hkey.symm
      have hchannels := ((sameBudget_iff _ _).mp (hbudget _ (getElem_mem hi) _ (getElem_mem hj) hkey)).1
      -- one of the two is not the first row of the stencil
      have hphase : all[i].channel = .interphase := by
        cases mem_cons.mp hfi with
        | inr hrest => exact hok.interphase _ hrest
        | inl hfirst =>
          cases mem_cons.mp hfj with
          | inr hrest => exact hchannels.trans (hok.interphase _ hrest)
          | inl hfirst' => exact absurd (congrArg _ (hfirst.trans hfirst'.symm)) hne
      exact ⟨hne, hphase, hchannels.symm.trans hphase⟩
    · obtain ⟨first, rest, hok, hperm⟩ := hstencil a ha
      rw [← foldl_stencil hperm]
      exact hok.weight

end HundunFlow.Proofs
