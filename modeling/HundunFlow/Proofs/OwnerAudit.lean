import HundunFlow.OwnerExchange

/-!
# The audit of exchange rows

What the loops of the owner exchange find out: whether every row passes its own checks, and
whether the rows of every stencil fit together.
-/

namespace HundunFlow.Proofs

open Lib OwnerExchangeRoutingPlan List

variable {F : Type} [ExchangeReal F]

variable {plan : OwnerExchangeRoutingPlan F} {revision : Revision} {rows : List (ExchangeSegment F)}

lemma rowsStatus_isOk (list : List (ExchangeSegment F)) :
    (plan.rowsStatus revision list).isOk = true ↔ ∀ s ∈ list, plan.rowStatus revision s = .success := by
  induction list with
  | nil => simp [rowsStatus]
  | cons s rest ih =>
    rw [rowsStatus, forall_mem_cons, ← ih]
    cases h : plan.rowStatus revision s <;> simp

structure AdmissibleRows (plan : OwnerExchangeRoutingPlan F) (revision : Revision)
    (input : Span (ExchangeSegment F)) : Prop where
  fits : input.size ≤ plan.localCapacity
  readable : input.isNull = true → input.size = 0
  algorithmVersion : revision.algorithmVersion = 1
  inputRevision : revision.inputRevision ≠ 0
  rows : ∀ s ∈ input.values, plan.rowStatus revision s = .success

lemma inputStatus_isOk {input : Span (ExchangeSegment F)} :
    (plan.inputStatus revision input).isOk = true ↔ AdmissibleRows plan revision input := by
  unfold inputStatus
  by_cases hfits : plan.localCapacity < input.size
  · rw [if_pos hfits]
    refine ⟨nofun, fun h => ?_⟩
    have := h.fits
    omega
  rw [if_neg hfits]
  by_cases hbad : (decide (input.size ≠ 0) && input.isNull || decide (revision.algorithmVersion ≠ 1) ||
      decide (revision.inputRevision = 0)) = true
  · rw [if_pos hbad]
    refine ⟨nofun, fun h => ?_⟩
    simp only [Bool.or_eq_true, Bool.and_eq_true, decide_eq_true_eq] at hbad
    rcases hbad with (⟨hsize, hnull⟩ | hversion) | hrevision
    · exact absurd (h.readable hnull) hsize
    · exact absurd h.algorithmVersion hversion
    · exact absurd hrevision h.inputRevision
  rw [if_neg hbad, rowsStatus_isOk]
  simp only [Bool.or_eq_true, Bool.and_eq_true, decide_eq_true_eq, not_or, not_and, ne_eq, not_not] at hbad
  constructor
  · intro h
    refine ⟨not_lt.mp hfits, fun hnull => ?_, hbad.1.2, hbad.2, h⟩
    by_contra hsize
    exact hbad.1.1 hsize hnull
  · exact fun h => h.rows

lemma owner_of_rowStatus {s : ExchangeSegment F} (h : plan.rowStatus revision s = .success) :
    0 ≤ owner plan.global plan.grid s.globalCell.toNat ∧ s.revision = revision := by
  unfold rowStatus at h
  split_ifs at h with hrevision hbad
  simp only [Bool.or_eq_true, decide_eq_true_eq, not_or, not_lt] at hbad
  exact ⟨hbad.1.1.1.1.1.1.1.1, not_not.mp hrevision⟩

lemma auditLoop_isOk (stencils : List (List (ExchangeSegment F))) :
    (auditLoop stencils).isOk = true ↔ ∀ g ∈ stencils, stencilStatus g = .success := by
  induction stencils with
  | nil => simp [auditLoop]
  | cons g rest ih =>
    rw [auditLoop, forall_mem_cons, ← ih]
    cases h : stencilStatus g <;> simp

lemma stencilLoop_some {p : ExchangeSegment F}
    (hsorted : (p :: rows).Pairwise fun a b => a.globalCell.toNat ≤ b.globalCell.toNat) (first : ExchangeSegment F)
    (weight total : ExchangeReal.Long F) : stencilLoop first (some p) rows weight = some total ↔
      (∀ row ∈ rows, sameBudget first row = true ∧ row.channel = .interphase) ∧
      ((p :: rows).Pairwise fun a b => a.globalCell.toNat < b.globalCell.toNat) ∧
      rows.foldl (fun w row => ExchangeReal.longAdd w row.depositionWeight) weight = total := by
  induction rows generalizing p weight with
  | nil => simp [stencilLoop]
  | cons row rest ih =>
    obtain ⟨hall, htail⟩ := pairwise_cons.mp hsorted
    rw [stencilLoop]
    by_cases hbad : (!sameBudget first row || (some p).any fun p =>
        decide (p.globalCell = row.globalCell) || decide (row.channel ≠ .interphase)) = true
    · rw [if_pos hbad]
      refine ⟨nofun, fun ⟨hrows, hcells, _⟩ => ?_⟩
      have hrow := hrows row (by simp)
      have hlt := (pairwise_cons.mp hcells).1 row (by simp)
      simp only [hrow.1, Bool.not_true, Bool.false_or, Option.any_some, hrow.2, ne_eq, not_true_eq_false,
        decide_false, Bool.or_false, decide_eq_true_eq] at hbad
      rw [hbad] at hlt
      exact absurd hlt (lt_irrefl _)
    · rw [if_neg hbad, ih htail]
      simp only [Bool.or_eq_true, Bool.not_eq_true', Option.any_some, decide_eq_true_eq, not_or,
        Bool.not_eq_false, ne_eq, not_not] at hbad
      have hlt : p.globalCell.toNat < row.globalCell.toNat :=
        lt_of_le_of_ne (hall row (by simp)) fun heq => hbad.2.1 (UInt64.toNat_inj.mp heq)
      rw [forall_mem_cons, foldl_cons]
      constructor
      · rintro ⟨hrows, hcells, htotal⟩
        refine ⟨⟨⟨hbad.1, hbad.2.2⟩, hrows⟩, pairwise_cons.mpr ⟨fun b hb => ?_, hcells⟩, htotal⟩
        cases mem_cons.mp hb with
        | inl heq => rwa [heq]
        | inr hmem => exact hlt.trans ((pairwise_cons.mp hcells).1 b hmem)
      · rintro ⟨⟨_, hrows⟩, hcells, htotal⟩
        exact ⟨hrows, (pairwise_cons.mp hcells).2, htotal⟩

structure StencilOk (first : ExchangeSegment F) (rest : List (ExchangeSegment F)) : Prop where
  budget : ∀ row ∈ first :: rest, sameBudget first row = true
  interphase : ∀ row ∈ rest, row.channel = .interphase
  cells : (first :: rest).Pairwise fun a b => a.globalCell.toNat < b.globalCell.toNat
  weight : ExchangeReal.farFromOne ((first :: rest).foldl
    (fun w row => ExchangeReal.longAdd w row.depositionWeight) ExchangeReal.longZero) = false

lemma stencilStatus_success {first : ExchangeSegment F} {rest : List (ExchangeSegment F)}
    (hsorted : (first :: rest).Pairwise fun a b => a.globalCell.toNat ≤ b.globalCell.toNat) :
    stencilStatus (first :: rest) = .success ↔ StencilOk first rest := by
  rw [stencilStatus, stencilLoop]
  by_cases hfirst : sameBudget first first = true
  · rw [hfirst]
    simp only [Bool.not_true, Option.any_none, Bool.or_self, Bool.false_eq_true, if_false]
    have hspec := stencilLoop_some hsorted first
      (ExchangeReal.longAdd ExchangeReal.longZero first.depositionWeight)
    constructor
    · intro h
      cases hloop : stencilLoop first (some first) rest
          (ExchangeReal.longAdd ExchangeReal.longZero first.depositionWeight) with
      | none => simp [hloop] at h
      | some total =>
        obtain ⟨hrows, hcells, htotal⟩ := (hspec total).mp hloop
        simp only [hloop] at h
        refine ⟨forall_mem_cons.mpr ⟨hfirst, fun row hrow => (hrows row hrow).1⟩,
          fun row hrow => (hrows row hrow).2, hcells, ?_⟩
        rw [foldl_cons, htotal]
        cases hfar : ExchangeReal.farFromOne total with
        | false => rfl
        | true => simp [hfar] at h
    · intro h
      have hloop := (hspec _).mpr ⟨fun row hrow => ⟨h.budget row (by simp [hrow]), h.interphase row hrow⟩,
        h.cells, rfl⟩
      have hweight := h.weight
      rw [foldl_cons] at hweight
      simp only [hloop, hweight, Bool.false_eq_true, if_false]
  · rw [Bool.not_eq_true] at hfirst
    rw [hfirst]
    simp only [Bool.not_false, Bool.true_or, if_true]
    refine ⟨nofun, fun h => ?_⟩
    have := h.budget first (by simp)
    rw [hfirst] at this
    exact nomatch this

def stencilOf (rows : List (ExchangeSegment F)) (key : ParcelId ×ₗ ℕ) : List (ExchangeSegment F) :=
  (sortOn (fun s => toLex (s.key, s.globalCell.toNat)) rows).filter fun s => s.key = key

omit [ExchangeReal F] in
lemma stencilOf_sorted (rows : List (ExchangeSegment F)) (key : ParcelId ×ₗ ℕ) :
    (stencilOf rows key).Pairwise fun a b => a.globalCell.toNat ≤ b.globalCell.toNat := by
  rw [stencilOf, pairwise_filter]
  refine (sortOn_pairwise_le _ rows).imp fun {a b} hle ha hb => ?_
  have heq : a.key = b.key := (of_decide_eq_true ha).trans (of_decide_eq_true hb).symm
  exact (Prod.Lex.toLex_le_toLex'.mp hle).2 heq

lemma auditRows_isOk (rows : List (ExchangeSegment F)) :
    (auditRows rows).isOk = true ↔ ∀ s ∈ rows, stencilStatus (stencilOf rows s.key) = .success := by
  have hsorted : (sortOn (fun s : ExchangeSegment F => toLex (s.key, s.globalCell.toNat)) rows).Pairwise
      fun a b => a.key ≤ b.key :=
    (sortOn_pairwise_le (fun s => toLex (s.key, s.globalCell.toNat)) rows).imp
      fun hle => (Prod.Lex.toLex_le_toLex'.mp hle).1
  rw [auditRows, auditLoop_isOk]
  constructor
  · intro h s hs
    exact h _ ((mem_runs_iff hsorted _).mpr ⟨s, (sortOn_perm _ rows).mem_iff.mpr hs, rfl⟩)
  · intro h g hg
    obtain ⟨s, hs, rfl⟩ := (mem_runs_iff hsorted _).mp hg
    exact h s ((sortOn_perm _ rows).mem_iff.mp hs)

lemma deliveryKey_nodup (h : (auditRows rows).isOk = true) : (rows.map deliveryKey).Nodup := by
  rw [auditRows_isOk] at h
  let sorted := sortOn (fun s : ExchangeSegment F => toLex (s.key, s.globalCell.toNat)) rows
  have hperm : sorted.Perm rows := sortOn_perm _ rows
  have hlt : ∀ s ∈ sorted, sorted.Pairwise fun a b =>
      a.key = s.key → b.key = s.key → a.globalCell.toNat < b.globalCell.toNat := by
    intro s hs
    have hok := h s (hperm.mem_iff.mp hs)
    have hcells : (stencilOf rows s.key).Pairwise fun a b => a.globalCell.toNat < b.globalCell.toNat := by
      cases hstencil : stencilOf rows s.key with
      | nil => exact List.Pairwise.nil
      | cons first rest =>
        have hle := stencilOf_sorted rows s.key
        rw [hstencil] at hle hok
        exact ((stencilStatus_success hle).mp hok).cells
    rw [stencilOf, pairwise_filter] at hcells
    simpa only [decide_eq_true_eq] using hcells
  have hsorted : (sorted.map deliveryKey).Nodup := by
    rw [Nodup, pairwise_map, pairwise_iff_getElem]
    intro i j hi hj hij heq
    have hkey : sorted[i].key = sorted[j].key := congrArg (fun k => (ofLex k).2) heq
    have hcell : sorted[i].globalCell.toNat = sorted[j].globalCell.toNat := congrArg (fun k => (ofLex k).1) heq
    have hless := pairwise_iff_getElem.mp (hlt sorted[i] (getElem_mem hi)) i j hi hj hij rfl hkey.symm
    omega
  exact (hperm.map _).nodup_iff.mp hsorted

def StencilAccepted (all : Multiset (ExchangeSegment F)) (key : ParcelId ×ₗ ℕ) : Prop :=
  ∃ rows : List (ExchangeSegment F), (rows : Multiset (ExchangeSegment F)) = all.filter (fun s => s.key = key) ∧
    (rows.Pairwise fun a b => a.globalCell.toNat ≤ b.globalCell.toNat) ∧ stencilStatus rows = .success

lemma cells_of_stencilStatus (hsorted : rows.Pairwise fun a b => a.globalCell.toNat ≤ b.globalCell.toNat)
    (h : stencilStatus rows = .success) : rows.Pairwise fun a b => a.globalCell.toNat < b.globalCell.toNat := by
  cases rows with
  | nil => exact List.Pairwise.nil
  | cons first rest => exact ((stencilStatus_success hsorted).mp h).cells

lemma stencilAccepted_iff {all : Multiset (ExchangeSegment F)}
    {key : ParcelId ×ₗ ℕ} (hrows : (stencilOf rows key : Multiset (ExchangeSegment F)) =
      all.filter fun s => s.key = key) :
    stencilStatus (stencilOf rows key) = .success ↔ StencilAccepted all key := by
  constructor
  · exact fun h => ⟨_, hrows, stencilOf_sorted rows key, h⟩
  · rintro ⟨others, hothers, hsorted, h⟩
    have hperm : others.Perm (stencilOf rows key) := Multiset.coe_eq_coe.mp (hothers.trans hrows.symm)
    rwa [eq_of_perm_of_pairwise (cells_of_stencilStatus hsorted h) (stencilOf_sorted rows key) hperm] at h

omit [ExchangeReal F] in
lemma coe_stencilOf (rows : List (ExchangeSegment F)) (key : ParcelId ×ₗ ℕ) :
    (stencilOf rows key : Multiset (ExchangeSegment F)) =
      (rows : Multiset (ExchangeSegment F)).filter fun s => s.key = key := by
  rw [Multiset.filter_coe, Multiset.coe_eq_coe]
  exact (sortOn_perm _ rows).filter _

omit [ExchangeReal F] in
lemma auditor_eq_of_key {n : ℕ} {a b : ExchangeSegment F} (h : a.key = b.key) : auditor n a = auditor n b := by
  have hid : a.parcelId = b.parcelId := congrArg (fun k => (ofLex k).1) h
  have hordinal : a.segmentOrdinal.toNat = b.segmentOrdinal.toNat := congrArg (fun k => (ofLex k).2) h
  unfold auditor
  rw [hid, UInt64.toNat_inj.mp hordinal]

lemma audits_isOk {n : ℕ} (hn : 0 < n) (items : Fin n → List (ExchangeSegment F)) :
    (∀ i : Fin n, (auditRows (routed items (auditor n) i)).isOk = true) ↔
      ∀ s ∈ ∑ j, (items j : Multiset (ExchangeSegment F)),
        StencilAccepted (∑ j, (items j : Multiset (ExchangeSegment F))) s.key := by
  have hstencil : ∀ (i : Fin n), ∀ s ∈ routed items (auditor n) i,
      (stencilOf (routed items (auditor n) i) s.key : Multiset (ExchangeSegment F)) =
        (∑ j, (items j : Multiset (ExchangeSegment F))).filter fun t => t.key = s.key := by
    intro i s hs
    rw [coe_stencilOf, coe_routed, Multiset.filter_filter]
    apply Multiset.filter_congr
    intro t _
    have hi := (mem_routed.mp hs).2
    constructor
    · exact fun h => h.1
    · exact fun h => ⟨h, (auditor_eq_of_key h).trans hi⟩
  constructor
  · intro h s hs
    obtain ⟨j, -, hj⟩ := Multiset.mem_sum.mp hs
    have hmem : s ∈ routed items (auditor n) (auditor n s) := mem_routed.mpr ⟨⟨j, Multiset.mem_coe.mp hj⟩, rfl⟩
    let i : Fin n := ⟨auditor n s, Nat.mod_lt _ hn⟩
    exact (stencilAccepted_iff (hstencil i s hmem)).mp ((auditRows_isOk _).mp (h i) s hmem)
  · intro h i
    rw [auditRows_isOk]
    intro s hs
    obtain ⟨⟨j, hj⟩, -⟩ := mem_routed.mp hs
    have hall : s ∈ ∑ j, (items j : Multiset (ExchangeSegment F)) :=
      Multiset.mem_sum.mpr ⟨j, Finset.mem_univ j, Multiset.mem_coe.mpr hj⟩
    exact (stencilAccepted_iff (hstencil i s hs)).mpr (h s hall)

end HundunFlow.Proofs
