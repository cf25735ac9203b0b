import HundunFlow.Proofs.BatchOutcome
import HundunFlow.Proofs.OwnerDelivery

/-!
# Distributed and serial exchange

The rows of a job, delivered to the owners of their cells and evaluated there, give every cell
and every channel what one evaluation of all rows and cells gives.
-/

namespace HundunFlow.Proofs

open Lib ExchangeWorkspace OwnerExchangeRoutingPlan List

variable {F : Type} [Field F] [LinearOrder F] {n : ℕ}

section Owners

variable {cells grid : Int3} {rows mine : List (ExchangeSegment F)} {i : ℕ}

def ownCells (cells grid : Int3) (domain : List (ExchangeCell F)) (i : ℕ) : List (ExchangeCell F) :=
  domain.filter fun c => owner cells grid c.globalCell.toNat = i

def OwnRows (cells grid : Int3) (rows mine : List (ExchangeSegment F)) (i : ℕ) : Prop :=
  (mine : Multiset (ExchangeSegment F)) =
    (rows : Multiset (ExchangeSegment F)).filter fun v => owner cells grid v.globalCell.toNat = i

variable {domain : List (ExchangeCell F)}

omit [Field F] [LinearOrder F] in
lemma mem_ownRows (h : OwnRows cells grid rows mine i) {v : ExchangeSegment F} :
    v ∈ mine ↔ v ∈ rows ∧ owner cells grid v.globalCell.toNat = i := by
  rw [← Multiset.mem_coe, h, Multiset.mem_filter, Multiset.mem_coe]

omit [Field F] [LinearOrder F] in
lemma ascending_ownCells (h : AscendingCells domain) : AscendingCells (ownCells cells grid domain i) := h.filter _

omit [Field F] [LinearOrder F] in
lemma knownCell_ownCells (h : AscendingCells domain) {id : UInt64} (hid : owner cells grid id.toNat = i) :
    knownCell (ownCells cells grid domain i) id = true ↔ knownCell domain id = true := by
  rw [knownCell_iff (ascending_ownCells h), knownCell_iff h]
  constructor
  · rintro ⟨c, hc, heq⟩
    exact ⟨c, (mem_filter.mp hc).1, heq⟩
  · rintro ⟨c, hc, heq⟩
    refine ⟨c, mem_filter.mpr ⟨hc, ?_⟩, heq⟩
    rw [heq, hid]
    simp

lemma nodup_deliveryKey (h : StencilsOk rows) : (rows.map deliveryKey).Nodup := by
  rw [Nodup, pairwise_map]
  refine h.apart.imp fun {a b} hapart heq => ?_
  have hkey : a.key = b.key := congrArg (fun k => (ofLex k).2) heq
  have hcell : a.globalCell.toNat = b.globalCell.toNat := congrArg (fun k => (ofLex k).1) heq
  exact (hapart hkey).1 (UInt64.toNat_inj.mp hcell)

lemma cellRows_eq (hrows : StencilsOk rows) (hmine : OwnRows cells grid rows mine i) {cell : UInt64}
    (hcell : owner cells grid cell.toNat = i) : cellRows mine cell = cellRows rows cell := by
  have hall := sortOn_pairwise_lt (nodup_deliveryKey hrows)
  have hperm : (cellRows rows cell).Perm (cellRows mine cell) := by
    have h₁ : (cellRows rows cell).Perm (rowsOfCell rows cell) := (sortOn_perm _ rows).filter _
    have h₂ : (cellRows mine cell).Perm (rowsOfCell mine cell) := (sortOn_perm _ mine).filter _
    refine h₁.trans (Perm.trans ?_ h₂.symm)
    rw [← Multiset.coe_eq_coe, rowsOfCell, rowsOfCell, ← Multiset.filter_coe, ← Multiset.filter_coe, hmine,
      Multiset.filter_filter]
    apply Multiset.filter_congr
    intro v _
    constructor
    · intro heq
      exact ⟨heq, heq.symm ▸ hcell⟩
    · exact fun h => h.1
  exact (eq_of_perm_of_pairwise (hall.filter _) ((sortOn_pairwise_le _ mine).filter _) hperm).symm

end Owners

section Acceptance

variable {cells grid : Int3} {revision : Revision} {plan : OwnerExchangeRoutingPlan F}
  {domain : List (ExchangeCell F)} {rows : List (ExchangeSegment F)} {mine : Fin n → List (ExchangeSegment F)}
  (atol rtol : F)

lemma batchAccepted_iff (hasc : AscendingCells domain)
    (hinside : ∀ c ∈ domain, ∃ i : Fin n, owner cells grid c.globalCell.toNat = i)
    (hpass : ∀ v ∈ rows, plan.rowStatus revision v = .success ∧ ∃ i : Fin n, owner cells grid v.globalCell.toNat = i)
    (hmine : ∀ i : Fin n, OwnRows cells grid rows (mine i) i) (hn : 0 < n) :
    BatchAccepted plan.species revision domain rows atol rtol true ↔ StencilsOk rows ∧ ∀ i : Fin n,
      BatchAccepted plan.species revision (ownCells cells grid domain i) (mine i) atol rtol false := by
  have hown : ∀ {c : ExchangeCell F} {i : Fin n}, c ∈ ownCells cells grid domain i ↔
      c ∈ domain ∧ owner cells grid c.globalCell.toNat = i := by
    intro c i
    rw [ownCells, mem_filter, decide_eq_true_eq]
  constructor
  · intro h
    refine ⟨h.stencils rfl, fun i => ⟨h.tolerances, fun c hc => h.volumes c (hown.mp hc).1,
      ascending_ownCells hasc, fun v hv => ?_, nofun, fun c hc => ?_⟩⟩
    · obtain ⟨hv, howner⟩ := (mem_ownRows (hmine i)).mp hv
      rw [rowFailure_eq_none (hpass v hv).1, knownCell_ownCells hasc howner]
      exact (rowFailure_eq_none (hpass v hv).1 domain atol rtol).mp (h.rowsPass v hv)
    · obtain ⟨hc, howner⟩ := hown.mp hc
      rw [cellRows_eq (h.stencils rfl) (hmine i) howner]
      exact h.gas c hc
  · rintro ⟨hstencil, h⟩
    refine ⟨(h ⟨0, hn⟩).tolerances, fun c hc => ?_, hasc, fun v hv => ?_, fun _ => hstencil, fun c hc => ?_⟩
    · obtain ⟨i, howner⟩ := hinside c hc
      exact (h i).volumes c (hown.mpr ⟨hc, howner⟩)
    · obtain ⟨i, howner⟩ := (hpass v hv).2
      rw [rowFailure_eq_none (hpass v hv).1, ← knownCell_ownCells hasc howner]
      exact (rowFailure_eq_none (hpass v hv).1 _ atol rtol).mp
        ((h i).rowsPass v ((mem_ownRows (hmine i)).mpr ⟨hv, howner⟩))
    · obtain ⟨i, howner⟩ := hinside c hc
      rw [← cellRows_eq hstencil (hmine i) howner]
      exact (h i).gas c (hown.mpr ⟨hc, howner⟩)

end Acceptance

variable (hn : 0 < n) (hsize : n < 2 ^ 31) (sizes : ObjectSizes)

/-- The rows of a job that pass the checks of a row, the cells of a domain, and room for both on
every rank and in one serial workspace. -/
structure ExchangeTask (s : Fin n → OwnerExchangeRoutingPlan F) (revision : Revision)
    (input : Fin n → Span (ExchangeSegment F)) (workspace : Fin n → ExchangeWorkspace) (serial : ExchangeWorkspace)
    (domain : List (ExchangeCell F)) (rows : List (ExchangeSegment F)) : Prop where
  configured : ∀ i, (s i).comm ≠ none
  algorithmVersion : revision.algorithmVersion = 1
  inputRevision : revision.inputRevision ≠ 0
  readable : ∀ i, (input i).isNull = true → (input i).size = 0
  rowsPass : ∀ i, ∀ v ∈ (input i).values, (s i).rowStatus revision v = .success
  distributed : (rows : Multiset (ExchangeSegment F)) = handedIn input
  ascending : AscendingCells domain
  inside : ∀ c ∈ domain, ∃ i : Fin n, owner (s i).global (s i).grid c.globalCell.toNat = i
  species : ∀ i, (s i).species = serial.species ∧ (workspace i).species = serial.species
  inputs : ∀ i, (input i).size ≤ (s i).localCapacity
  audits : ∀ i : Fin n, ((handedIn input).filter fun v => auditor n v = i).card ≤ (s i).auditCapacity
  receives : ∀ i : Fin n, ((handedIn input).filter fun v =>
    owner (s i).global (s i).grid v.globalCell.toNat = i).card ≤
      min (s i).localCapacity (workspace i).segmentCapacity
  ownCells : ∀ i, (ownCells (s i).global (s i).grid domain i).length ≤ (workspace i).cellCapacity
  allCells : domain.length ≤ serial.cellCapacity
  allRows : rows.length ≤ serial.segmentCapacity

/-- What a rank evaluates after `prepare`. -/
def rankReport (s : Fin n → OwnerExchangeRoutingPlan F) (workspace : Fin n → ExchangeWorkspace) (revision : Revision)
    (domain : List (ExchangeCell F)) (atol rtol : F) (r : Fin n → OwnerExchangeRoutingPlan F × Portable.Status)
    (i : Fin n) : ExchangeBatchReport F :=
  (workspace i).evaluateRouted revision (.of (ownCells (s i).global (s i).grid domain i)) (r i).1.candidates (r i).1
    atol rtol

/-- The ranks report of their own cells what the serial evaluation reports, and their channels
add up to its channels. -/
structure SameExchange (s : Fin n → OwnerExchangeRoutingPlan F) (serial : ExchangeBatchReport F)
    (report : Fin n → ExchangeBatchReport F) : Prop where
  cells : ∀ i, (report i).cells = serial.cells.filter fun c => owner (s i).global (s i).grid c.globalCell.toNat = i
  wall : ∑ i, (report i).wall = serial.wall
  outlet : ∑ i, (report i).outlet = serial.outlet
  external : ∑ i, (report i).external = serial.external

section Exchange

variable {s : Fin n → OwnerExchangeRoutingPlan F} {revision : Revision} {input : Fin n → Span (ExchangeSegment F)}
  {workspace : Fin n → ExchangeWorkspace} {serial : ExchangeWorkspace} {domain : List (ExchangeCell F)}
  {rows : List (ExchangeSegment F)}

variable {v : ExchangeSegment F}

lemma mem_rows_iff (h : ExchangeTask s revision input workspace serial domain rows) :
    v ∈ rows ↔ ∃ i, v ∈ (input i).values := by
  rw [← Multiset.mem_coe, h.distributed, mem_handedIn]

lemma routingAccepted_iff (h : ExchangeTask s revision input workspace serial domain rows) :
    RoutingAccepted s (fun _ => revision) input ↔ StencilsOk rows := by
  rw [stencilsOk_iff, h.distributed]
  refine ⟨fun hrouting => hrouting.stencils, fun hstencil => ⟨h.configured, fun i => ?_, fun _ _ => rfl, h.audits,
    hstencil, fun i => (h.receives i).trans (min_le_left _ _)⟩⟩
  exact ⟨h.inputs i, h.readable i, h.algorithmVersion, h.inputRevision, h.rowsPass i⟩

variable {cells grid : Int3} (hg : PartitionOf cells n grid) (hs : ∀ i, OwnerConfigured hsize cells grid i (s i))

include hg

lemma ownRows_delivered (h : ExchangeTask s revision input workspace serial domain rows) (i : Fin n) :
    OwnRows cells grid rows (deliveredRows cells grid input i) i := by
  rw [OwnRows, deliveredRows, Multiset.coe_eq_coe.mpr (sortOn_perm _ _), coe_routed, h.distributed]
  apply Multiset.filter_congr
  intro v _
  exact subscript_eq_iff hg _ i.isLt

include hs

lemma inside_rows (h : ExchangeTask s revision input workspace serial domain rows) (hv : v ∈ rows) (j : Fin n) :
    (s j).rowStatus revision v = .success ∧ ∃ i : Fin n, owner cells grid v.globalCell.toNat = i := by
  obtain ⟨k, hk⟩ := (mem_rows_iff h).mp hv
  have hpass := h.rowsPass k v hk
  have hsame : (s j).rowStatus revision v = (s k).rowStatus revision v := by
    unfold OwnerExchangeRoutingPlan.rowStatus
    rw [(hs j).global, (hs j).grid, (hs k).global, (hs k).grid, (h.species j).1, (h.species k).1]
  have howner := (owner_of_rowStatus hpass).1
  rw [(hs k).global, (hs k).grid, owner_plans_eq] at howner
  have hrange := owner_range hg v.globalCell.toNat
  rw [owner_plans_eq]
  refine ⟨hsame.trans hpass, ⟨(ParcelMigrationPlan.owner cells grid v.globalCell.toNat).toNat, ?_⟩, ?_⟩
  · omega
  · exact (Int.toNat_of_nonneg howner).symm

lemma channelTotal_delivered (h : ExchangeTask s revision input workspace serial domain rows)
    (channel : ExchangeChannel) :
    ∑ i : Fin n, channelTotal channel (deliveredRows cells grid input i : Multiset (ExchangeSegment F)) =
      channelTotal channel (rows : Multiset (ExchangeSegment F)) := by
  rw [channelTotal_sum, h.distributed]
  congr 1
  have hperm : ∀ i : Fin n, (deliveredRows cells grid input i : Multiset (ExchangeSegment F)) =
      routed (fun j => (input j).values) (destinationOf cells grid n) i := fun i =>
    Multiset.coe_eq_coe.mpr (sortOn_perm _ _)
  simp only [hperm]
  exact sum_routed (destination_admissible hsize hg hs fun i =>
    ⟨h.inputs i, h.readable i, h.algorithmVersion, h.inputRevision, h.rowsPass i⟩)

include hn

lemma distributed_accepted_iff (h : ExchangeTask s revision input workspace serial domain rows) (atol rtol : F) :
    (OwnerAccepted cells grid s (fun _ => revision) input ∧ ∀ i : Fin n, BatchAccepted serial.species revision
      (ownCells cells grid domain i) (deliveredRows cells grid input i) atol rtol false) ↔
      BatchAccepted serial.species revision domain rows atol rtol true := by
  have hinside : ∀ c ∈ domain, ∃ i : Fin n, owner cells grid c.globalCell.toNat = i := by
    intro c hc
    obtain ⟨i, hi⟩ := h.inside c hc
    rw [(hs i).global, (hs i).grid] at hi
    exact ⟨i, hi⟩
  have hbatch := batchAccepted_iff atol rtol h.ascending hinside
    (fun v hv => inside_rows hsize hg hs h hv ⟨0, hn⟩) (ownRows_delivered hg h) hn
  rw [(h.species ⟨0, hn⟩).1] at hbatch
  rw [hbatch, ownerAccepted_iff hn hsize hg hs, routingAccepted_iff h]

omit hn in
lemma delivered_fits (h : ExchangeTask s revision input workspace serial domain rows) (i : Fin n) :
    (deliveredRows cells grid input i).length ≤ (workspace i).segmentCapacity := by
  have hreceives := (h.receives i).trans (min_le_right _ _)
  rw [(hs i).global, (hs i).grid, ← h.distributed, ← ownRows_delivered hg h i, Multiset.coe_card] at hreceives
  exact hreceives

end Exchange

/-- The exchange of a job succeeds on all ranks exactly when one serial evaluation of all rows
and cells does, and then the ranks report together what it reports. This holds for every
placement of the rows, every number of ranks and every order of the serial rows. -/
theorem distributed_exchange_equals_serial {s : Fin n → OwnerExchangeRoutingPlan F}
    (hs : OwnerReachable hn hsize sizes s) {revision : Revision} {input : Fin n → Span (ExchangeSegment F)}
    {workspace : Fin n → ExchangeWorkspace} {serial : ExchangeWorkspace} {domain : List (ExchangeCell F)}
    {rows : List (ExchangeSegment F)} (h : ExchangeTask s revision input workspace serial domain rows)
    (atol rtol : F) :
    ∃ trace r, (mpiJob hn).Run (fun i => (s i).prepare revision (input i)) trace (fun i => some (r i)) ∧
      (∀ trace' r', (mpiJob hn).Run (fun i => (s i).prepare revision (input i)) trace' r' →
        r' = fun i => some (r i)) ∧
      ((∀ i, (r i).2 = .success ∧ (rankReport s workspace revision domain atol rtol r i).status = .success) ↔
        (serial.evaluate revision (.of domain) (.of rows) atol rtol).status = .success) ∧
      ((serial.evaluate revision (.of domain) (.of rows) atol rtol).status = .success →
        SameExchange s (serial.evaluate revision (.of domain) (.of rows) atol rtol)
          (rankReport s workspace revision domain atol rtol r)) := by
  have : Nonempty (Fin n) := ⟨⟨0, hn⟩⟩
  cases ownerReachable_configured hn hsize sizes hs with
  | inl hnone => exact absurd (hnone ⟨0, hn⟩) (h.configured _)
  | inr hconfigured =>
    obtain ⟨cells, grid, hg, hplan⟩ := hconfigured
    obtain ⟨trace, r, hrun, houtcome⟩ := ownerPrepare_run hn hsize hg hplan (fun _ => revision) input
    refine ⟨trace, r, hrun, fun _ _ hrun' => (hrun.unique hrun').2.symm, ?_⟩
    have haccepted := distributed_accepted_iff hn hsize hg hplan h atol rtol
    have hserial : (serial.evaluate revision (.of domain) (.of rows) atol rtol).status = .success →
        BatchAccepted serial.species revision domain rows atol rtol true := by
      intro hsuccess
      by_contra hrefused
      exact evaluateImpl_refused h.allCells h.allRows h.algorithmVersion hrefused hsuccess
    cases houtcome with
    | failed e howner he =>
      refine ⟨⟨fun hall => ?_, fun hsuccess => absurd (haccepted.mpr (hserial hsuccess)).1 howner⟩,
        fun hsuccess => absurd (haccepted.mpr (hserial hsuccess)).1 howner⟩
      have hstatus := (hall ⟨0, hn⟩).1
      rw [show e = .success from hstatus] at he
      exact absurd he (by simp [PortableFailure])
    | succeeded done howner _ hcandidates =>
      have hown : ∀ i : Fin n, ownCells (s i).global (s i).grid domain i = ownCells cells grid domain i := by
        intro i
        rw [(hplan i).global, (hplan i).grid]
      have hreport : ∀ i, rankReport s workspace revision domain atol rtol (fun i => (done i, .success)) i =
          (workspace i).evaluateImpl revision (.of (ownCells cells grid domain i))
            (.of (deliveredRows cells grid input i)) atol rtol false := by
        intro i
        rw [rankReport, hown]
        simp [evaluateRouted, hcandidates i]
      have hcells : ∀ i : Fin n, (ownCells cells grid domain i).length ≤ (workspace i).cellCapacity := fun i =>
        hown i ▸ h.ownCells i
      have hrows := delivered_fits hsize hg hplan h
      have hranks : (∀ i : Fin n, (rankReport s workspace revision domain atol rtol
          (fun i => (done i, .success)) i).status = .success) ↔ ∀ i : Fin n, BatchAccepted serial.species revision
            (ownCells cells grid domain i) (deliveredRows cells grid input i) atol rtol false := by
        refine forall_congr' fun i => ?_
        rw [hreport i, ← (h.species i).2]
        constructor
        · intro hsuccess
          by_contra hrefused
          exact evaluateImpl_refused (hcells i) (hrows i) h.algorithmVersion hrefused hsuccess
        · intro hbatch
          rw [evaluateImpl_accepted (hcells i) (hrows i) h.algorithmVersion hbatch]
          rfl
      refine ⟨⟨fun hall => ?_, fun hsuccess i => ?_⟩, fun hsuccess => ?_⟩
      · have hbatch := haccepted.mp ⟨howner, hranks.mp fun i => (hall i).2⟩
        rw [evaluate, evaluateImpl_accepted h.allCells h.allRows h.algorithmVersion hbatch]
        rfl
      · exact ⟨rfl, hranks.mpr (haccepted.mpr (hserial hsuccess)).2 i⟩
      · have hbatch := hserial hsuccess
        have hparts := (haccepted.mpr hbatch).2
        have hserialReport := evaluateImpl_accepted h.allCells h.allRows h.algorithmVersion hbatch
        have hrankReport : ∀ i, rankReport s workspace revision domain atol rtol (fun i => (done i, .success)) i =
            acceptedReport ((workspace i).generation + 1) serial.species revision (ownCells cells grid domain i)
              (deliveredRows cells grid input i) atol rtol := by
          intro i
          have hpart := hparts i
          rw [← (h.species i).2] at hpart ⊢
          rw [hreport i, evaluateImpl_accepted (hcells i) (hrows i) h.algorithmVersion hpart]
        rw [evaluate, hserialReport]
        refine ⟨fun i => ?_, ?_, ?_, ?_⟩
        · rw [hrankReport i, (hplan i).global, (hplan i).grid]
          simp only [acceptedReport]
          rw [filter_map, ownCells]
          apply map_congr_left
          intro c hc
          rw [cellRows_eq (hbatch.stencils rfl) (ownRows_delivered hg h i) (by simpa using (mem_filter.mp hc).2)]
        · simp only [hrankReport, acceptedReport]
          exact channelTotal_delivered hsize hg hplan h .wall
        · simp only [hrankReport, acceptedReport]
          exact channelTotal_delivered hsize hg hplan h .outlet
        · simp only [hrankReport, acceptedReport]
          exact channelTotal_delivered hsize hg hplan h .external

def pairDomain : List (ExchangeCell ℚ) := [⟨0, 1, 10, ⟨0, 0, 0⟩⟩, ⟨1, 1, 20, ⟨0, 0, 0⟩⟩]

lemma pairDomain_ascending : AscendingCells pairDomain :=
  (by decide : pairDomain.Pairwise fun a b => a.globalCell < b.globalCell)

lemma pair_cellRows : cellRows [pairRow 0, pairRow 1] 0 = [pairRow 1] ∧
    cellRows [pairRow 0, pairRow 1] 1 = [pairRow 0] := by
  have hperm : ∀ cell, (cellRows [pairRow 0, pairRow 1] cell).Perm (rowsOfCell [pairRow 0, pairRow 1] cell) :=
    fun _ => (sortOn_perm _ _).filter _
  have hzero : rowsOfCell [pairRow 0, pairRow 1] 0 = [pairRow 1] := by decide +kernel
  have hone : rowsOfCell [pairRow 0, pairRow 1] 1 = [pairRow 0] := by decide +kernel
  exact ⟨perm_singleton.mp (hzero ▸ hperm 0), perm_singleton.mp (hone ▸ hperm 1)⟩

lemma pair_accepted : BatchAccepted 1 ⟨3, 1, 1⟩ pairDomain [pairRow 0, pairRow 1] (0 : ℚ) 0 true := by
  refine ⟨by decide +kernel, by decide +kernel, pairDomain_ascending, by decide +kernel, fun _ => ?_, ?_⟩
  · exact (stencilsFailure_iff _).mp (by decide +kernel)
  · intro c hc
    have hcell : c = ⟨0, 1, 10, ⟨0, 0, 0⟩⟩ ∨ c = ⟨1, 1, 20, ⟨0, 0, 0⟩⟩ := by simpa [pairDomain] using hc
    cases hcell with
    | inl h =>
      rw [h, pair_cellRows.1]
      decide +kernel
    | inr h =>
      rw [h, pair_cellRows.2]
      decide +kernel

theorem distributed_exchange_equals_serial_pair :
    ∃ r : Fin 2 → OwnerExchangeRoutingPlan ℚ × Portable.Status,
      SameExchange pairPlan
        ((⟨2, 2, 1, 0⟩ : ExchangeWorkspace).evaluate ⟨3, 1, 1⟩ (.of pairDomain) (.of [pairRow 0, pairRow 1]) 0 0)
        (rankReport pairPlan (fun _ => ⟨2, 2, 1, 0⟩) ⟨3, 1, 1⟩ pairDomain 0 0 r) := by
  have htask : ExchangeTask pairPlan ⟨3, 1, 1⟩ (fun i => .of [pairRow i]) (fun _ => ⟨2, 2, 1, 0⟩) ⟨2, 2, 1, 0⟩
      pairDomain [pairRow 0, pairRow 1] := by
    refine ⟨fun i => by simp [pairPlan, ConfigureInput.install], rfl, by decide, fun i h => ?_, fun i v hv => ?_, ?_,
      pairDomain_ascending, by decide +kernel, fun _ => ⟨rfl, rfl⟩, fun _ => (by decide : 1 ≤ 4), ?_, ?_,
      by decide +kernel, by decide, by decide⟩
    · exact absurd h (by simp [Span.isNull])
    · rw [mem_singleton.mp hv]
      exact pairRow_passes i
    · decide +kernel
    · rw [pairRow_handedIn]
      decide +kernel
    · rw [pairRow_handedIn]
      decide +kernel
  obtain ⟨trace, r, -, -, -, hsame⟩ := distributed_exchange_equals_serial (by decide) (by decide) ⟨400, 4, 136⟩
    pairPlan_reachable htask 0 0
  refine ⟨r, hsame ?_⟩
  rw [evaluate, evaluateImpl_accepted (by decide) (by decide) rfl pair_accepted]
  rfl

end HundunFlow.Proofs
