import HundunFlow.Proofs.ScatterStages
import HundunFlow.Proofs.OwnerAudit
import HundunFlow.Proofs.PartitionOwnership

/-!
# What the owner exchange delivers

The phases of `prepare` on all ranks of a configured job: when they succeed, and the rows they
leave on the ranks.
-/

namespace HundunFlow.Proofs

section Stages

open Lib OwnerExchangeRoutingPlan

variable {F : Type} {n : ℕ} (hn : 0 < n) (hsize : n < 2 ^ 31)

/-- What `agree` returns to every rank. -/
def agreement (s : Fin n → Portable.Status) : Stage Portable.Status Unit :=
  match firstBad fun i => (s i).isOk with
  | none => .ok ()
  | some k => .failed (s k)

variable {s : Fin n → Portable.Status}

lemma agreement_ok (h : ∀ i, (s i).isOk = true) : agreement s = .ok () := by
  rw [agreement, firstBad_eq_none_iff.mpr h]

lemma agreement_failed (h : ¬ ∀ i, (s i).isOk = true) :
    ∃ k, (s k).isOk = false ∧ agreement s = .failed (s k) := by
  cases hfirst : firstBad fun i => (s i).isOk with
  | none => exact absurd (firstBad_none hfirst) h
  | some k => exact ⟨k, (firstBad_some hfirst).1, by rw [agreement, hfirst]⟩

lemma agree_run (s : Fin n → Portable.Status) : ∃ trace,
    (mpiJob hn).Run (fun i => agree (F := F) (jobComm hsize i) (s i)) trace fun _ => agreement s := by
  have hmax : n ≤ maxInt := by
    unfold maxInt
    omega
  have hbrought : ∀ i, (if s i = .success then maxInt else (jobComm hsize i).rank) =
      if (s i).isOk then maxInt else (i : ℕ) := by
    intro i
    simp only [Portable.Status.isOk_iff]
    rfl
  have hreduce := job_allreduce_min (W := Lane F) (D := Unit) hn
    (fun i => if s i = .success then maxInt else (jobComm hsize i).rank)
  have hsel : rankMin hn (fun i => if s i = .success then maxInt else (jobComm hsize i).rank) =
      match firstBad fun i => (s i).isOk with | none => maxInt | some k => k := by
    simp only [hbrought]
    exact rankMin_firstBad hn _ hmax
  unfold agreement
  cases h : firstBad fun i => (s i).isOk with
  | none =>
    rw [h] at hsel
    refine ⟨_, Network.Run.bind (u := []) hreduce ?_⟩
    simp only [hsel, if_true]
    exact .done _
  | some k =>
    rw [h] at hsel
    have hk : (k : ℕ) ≠ maxInt := by
      have := k.isLt
      omega
    have hbad := (firstBad_some h).1
    have hwire := job_bcast (W := Lane F) (D := Unit) hn k (fun i => [.word (s i).toWire]) 1 fun _ => rfl
    refine ⟨_, Network.Run.bind (u := [.bcast k 1] ++ []) hreduce ?_⟩
    simp only [hsel, hk, if_false]
    refine Network.Run.bind hwire ?_
    simp only [Portable.Status.ofWire_toWire]
    cases hstatus : s k with
    | success =>
      rw [hstatus] at hbad
      cases hbad
    | invalidInput => exact .done _
    | identityMismatch => exact .done _
    | staleRevision => exact .done _
    | capacityExceeded => exact .done _
    | providerFailure => exact .done _
    | unavailable => exact .done _
    | conservationFailure => exact .done _

def PortableFailure (e : Portable.Status) : Prop := e.isOk = false

lemma owner_consensus :
    Consensus (F := F) hn (fun i => agree (jobComm hsize i)) Portable.Status.isOk PortableFailure where
  passes s h := by
    obtain ⟨trace, hrun⟩ := agree_run (F := F) hn hsize s
    rw [agreement_ok h] at hrun
    exact ⟨trace, hrun⟩
  fails s h := by
    obtain ⟨trace, hrun⟩ := agree_run (F := F) hn hsize s
    obtain ⟨k, hk, hresult⟩ := agreement_failed h
    rw [hresult] at hrun
    exact ⟨trace, _, hk, hrun⟩

variable {destination : ExchangeSegment F → ℕ} {items : Fin n → List (ExchangeSegment F)}
  {capacity valuesSize : Fin n → ℕ} (hcapacity : ∀ i, capacity i * ExchangeSegment.lanes ≤ maxInt)
  (hdest : ∀ j, ∀ s ∈ items j, destination s < n)
  (hitems : ∀ i, (items i).length * ExchangeSegment.lanes ≤ maxInt)
  {send receive : Fin n → List (Lane F)}

lemma ownerCountRefused_iff {capacity received : ℕ} (r : ℕ) (h : received ≤ capacity) :
    OwnerExchangeRoutingPlan.countRefused capacity r received = true ↔ capacity < received + r := by
  simp only [OwnerExchangeRoutingPlan.countRefused, decide_eq_true_eq]
  omega

include hcapacity hdest hitems

lemma exchange_run_ok (hvalues : ∀ i, capacity i ≤ valuesSize i)
    (hversion : ∀ j, ∀ s ∈ items j, s.revision.algorithmVersion < 2 ^ 32)
    (hsend : ∀ i, (items i).length * ExchangeSegment.lanes ≤ (send i).length)
    (hreceive : ∀ i, capacity i * ExchangeSegment.lanes ≤ (receive i).length)
    (hfits : ∀ i : Fin n, (routed items destination i).length ≤ capacity i) :
    ∃ (trace : _) (done : Fin n → Delivery F),
    (mpiJob hn).Run
      (fun i => exchange (jobComm hsize i) (capacity i) (valuesSize i) destination (items i) (send i) (receive i))
      trace (fun i => .ok (done i)) ∧
    ∀ i : Fin n, (done i).values = routed items destination i ∧
      (done i).send.length = (send i).length ∧ (done i).receive.length = (receive i).length := by
  have htally : ∀ i, tally (jobComm hsize i).size destination (items i) =
      some (countsFor n destination (items i)) := fun i => tally_spec (hdest i)
  obtain ⟨trace, done, hrun, hdone⟩ := exchangeItems_run_ok (owner_consensus (F := F) hn hsize) .providerFailure
    .success .capacityExceeded rfl (fun _ _ _ => false) hcapacity (fun _ r _ h => ownerCountRefused_iff r h)
    (fun _ _ _ _ _ => rfl) hdest hitems
    ExchangeSegment.length_encode hsend hreceive hfits
  have hdecoded : ∀ i, (rows ExchangeSegment.lanes (done i).receive (done i).received).mapM
      ExchangeSegment.decode = some (routed items destination i) := by
    intro i
    rw [(hdone i).2.2.2]
    apply mapM_map_eq_some
    intro s hs
    obtain ⟨⟨j, hj⟩, -⟩ := mem_routed.mp hs
    exact ExchangeSegment.decode_encode (hversion j s hj)
  have hroom : ∀ i, ¬ valuesSize i < (done i).received := by
    intro i
    have := hfits i
    have := hvalues i
    rw [(hdone i).1]
    omega
  refine ⟨trace ++ [], fun i => ⟨(done i).send, (done i).receive, routed items destination i⟩, ?_,
    fun i => ⟨rfl, (hdone i).2.1, (hdone i).2.2.1⟩⟩
  simp only [exchange, htally]
  refine Network.Run.andThen_ok hrun ?_
  simp only [hroom, if_false, hdecoded]
  exact .done _

lemma exchange_run_failed (hfull : ¬ ∀ i : Fin n, (routed items destination i).length ≤ capacity i) :
    ∃ trace e, PortableFailure e ∧ (mpiJob hn).Run
      (fun i => exchange (jobComm hsize i) (capacity i) (valuesSize i) destination (items i) (send i) (receive i))
      trace fun _ => .failed e := by
  have htally : ∀ i, tally (jobComm hsize i).size destination (items i) =
      some (countsFor n destination (items i)) := fun i => tally_spec (hdest i)
  obtain ⟨trace, e, he, hrun⟩ := exchangeItems_run_failed (owner_consensus (F := F) hn hsize) .providerFailure
    .success .capacityExceeded rfl (fun _ _ _ => false) hcapacity (fun _ r _ h => ownerCountRefused_iff r h)
    (fun _ _ _ _ _ => rfl) hdest hitems ExchangeSegment.encode send receive hfull
  refine ⟨trace ++ [], e, he, ?_⟩
  simp only [exchange, htally]
  exact Network.Run.andThen_failed hrun

end Stages

open Lib OwnerExchangeRoutingPlan

variable {F : Type} [ExchangeReal F] {n : ℕ} {cells grid : Int3} (hsize : n < 2 ^ 31)

/-- What a successful `configure` establishes on rank `i`. -/
structure OwnerConfigured (cells grid : Int3) (i : Fin n) (plan : OwnerExchangeRoutingPlan F) : Prop where
  comm : plan.comm = some (jobComm hsize i)
  global : plan.global = cells
  grid : plan.grid = grid
  localCapacity : plan.localCapacity * ExchangeSegment.lanes ≤ maxInt
  auditCapacity : plan.auditCapacity * ExchangeSegment.lanes ≤ maxInt
  send : plan.localCapacity * ExchangeSegment.lanes ≤ plan.send.length
  receive : max plan.localCapacity plan.auditCapacity * ExchangeSegment.lanes ≤ plan.receive.length
  values : max plan.localCapacity plan.auditCapacity ≤ plan.valuesSize

/-- The rows that rank `i` ends up with, in the order of their cells. -/
def deliveredRows (cells grid : Int3) (input : Fin n → Span (ExchangeSegment F)) (i : Fin n) :
    List (ExchangeSegment F) :=
  sortOn deliveryKey (routed (fun j => (input j).values) (destinationOf cells grid n) i)

structure OwnerAccepted (cells grid : Int3) (plan : Fin n → OwnerExchangeRoutingPlan F)
    (revision : Fin n → Revision) (input : Fin n → Span (ExchangeSegment F)) : Prop where
  admissible : ∀ i, AdmissibleRows (plan i) (revision i) (input i)
  sameRevision : ∀ i j, [(revision i).acceptedStep, (revision i).inputRevision] =
    [(revision j).acceptedStep, (revision j).inputRevision]
  audits : ∀ i : Fin n, (routed (fun j => (input j).values) (auditor n) i).length ≤ (plan i).auditCapacity
  stencils : ∀ i : Fin n, (auditRows (routed (fun j => (input j).values) (auditor n) i)).isOk = true
  receives : ∀ i : Fin n, (routed (fun j => (input j).values) (destinationOf cells grid n) i).length ≤
    (plan i).localCapacity

/-- All ranks succeed, which happens exactly when `accepted` holds, or all fail alike. -/
inductive DeliveryOutcome (plan : Fin n → OwnerExchangeRoutingPlan F) (values : Fin n → List (ExchangeSegment F))
    (accepted : Prop) : (Fin n → Stage Portable.Status (Delivery F)) → Prop where
  | succeeded (done : Fin n → Delivery F) (h : accepted) (hvalues : ∀ i, (done i).values = values i)
      (hsend : ∀ i, (done i).send.length = (plan i).send.length)
      (hreceive : ∀ i, (done i).receive.length = (plan i).receive.length) :
      DeliveryOutcome plan values accepted fun i => .ok (done i)
  | failed (e : Portable.Status) (h : ¬ accepted) (hfailure : PortableFailure e) :
      DeliveryOutcome plan values accepted fun _ => .failed e

variable (hn : 0 < n) {plan : Fin n → OwnerExchangeRoutingPlan F} {revision : Fin n → Revision}
  {input : Fin n → Span (ExchangeSegment F)} (hg : PartitionOf cells n grid)
  (hplan : ∀ i, OwnerConfigured hsize cells grid i (plan i))
  (hadmissible : ∀ i, AdmissibleRows (plan i) (revision i) (input i))

omit [ExchangeReal F] in
lemma rowAuditor_lt (hn : 0 < n) (s : ExchangeSegment F) : auditor n s < n := Nat.mod_lt _ hn

include hadmissible

lemma length_admissible (i : Fin n) : (input i).values.length ≤ (plan i).localCapacity := by
  rw [← Span.size_eq_length (hadmissible i).readable]
  exact (hadmissible i).fits

lemma version_admissible (j : Fin n) (s : ExchangeSegment F) (hs : s ∈ (input j).values) :
    s.revision.algorithmVersion < 2 ^ 32 := by
  rw [(owner_of_rowStatus ((hadmissible j).rows s hs)).2, (hadmissible j).algorithmVersion]
  decide

include hplan

lemma lanes_admissible (i : Fin n) : (input i).values.length * ExchangeSegment.lanes ≤ maxInt :=
  (Nat.mul_le_mul_right _ (length_admissible hadmissible i)).trans (hplan i).localCapacity

include hg in
lemma destination_admissible (j : Fin n) (s : ExchangeSegment F) (hs : s ∈ (input j).values) :
    destinationOf cells grid n s < n := by
  have howner := (owner_of_rowStatus ((hadmissible j).rows s hs)).1
  rw [(hplan j).global, (hplan j).grid] at howner
  exact (subscript_lt_iff hg s.globalCell.toNat).mpr howner

include hg

lemma ownerDeliver_run {audit : Fin n → Delivery F} (hsend : ∀ i, (audit i).send.length = (plan i).send.length)
    (hreceive : ∀ i, (audit i).receive.length = (plan i).receive.length) :
    ∃ trace r, (mpiJob hn).Run
      (fun i => (plan i).deliverPhases (jobComm hsize i) (input i).values (audit i)) trace r ∧
      DeliveryOutcome plan (deliveredRows cells grid input)
        ((∀ i, (auditRows (audit i).values).isOk = true) ∧
          ∀ i : Fin n, (routed (fun j => (input j).values) (destinationOf cells grid n) i).length ≤
            (plan i).localCapacity) r := by
  by_cases hok : ∀ i, (auditRows (audit i).values).isOk = true
  · obtain ⟨trace₁, hagree⟩ := (owner_consensus hn hsize).passes _ hok
    have hwhere : ∀ i, destinationOf (F := F) (plan i).global (plan i).grid (jobComm hsize i).size =
        destinationOf cells grid n := by
      intro i
      rw [(hplan i).global, (hplan i).grid]
      rfl
    have hdest := destination_admissible hsize hg hplan hadmissible
    have hitems := lanes_admissible hsize hplan hadmissible
    by_cases hroom : ∀ i : Fin n,
        (routed (fun j => (input j).values) (destinationOf cells grid n) i).length ≤ (plan i).localCapacity
    · have hspace : ∀ i, (input i).values.length * ExchangeSegment.lanes ≤ (audit i).send.length := by
        intro i
        rw [hsend i]
        exact (Nat.mul_le_mul_right _ (length_admissible hadmissible i)).trans (hplan i).send
      have harrives : ∀ i, (plan i).localCapacity * ExchangeSegment.lanes ≤ (audit i).receive.length := by
        intro i
        rw [hreceive i]
        exact (Nat.mul_le_mul_right _ (le_max_left _ _)).trans (hplan i).receive
      obtain ⟨trace₂, done, hexchange, hdone⟩ := exchange_run_ok hn hsize (fun i => (hplan i).localCapacity)
        hdest hitems (fun i => (le_max_left _ _).trans (hplan i).values)
        (version_admissible hadmissible) hspace harrives hroom
      have hhere : ∀ i, ¬ ((sortOn deliveryKey (done i).values).any fun s =>
          decide (owner (plan i).global (plan i).grid s.globalCell.toNat ≠ (jobComm hsize i).rank)) = true := by
        intro i
        rw [List.any_eq_true]
        rintro ⟨s, hs, hne⟩
        rw [(sortOn_perm _ _).mem_iff, (hdone i).1] at hs
        have heq := (subscript_eq_iff hg s.globalCell.toNat i.isLt).mp (mem_routed.mp hs).2
        rw [(hplan i).global, (hplan i).grid, owner_plans_eq, heq] at hne
        simp [jobComm] at hne
      obtain ⟨trace₃, hfinal⟩ := (owner_consensus hn hsize).passes (fun _ => .success) fun _ => rfl
      refine ⟨trace₁ ++ (trace₂ ++ (trace₃ ++ [])),
        fun i => .ok ⟨(done i).send, (done i).receive, sortOn deliveryKey (done i).values⟩,
        Network.Run.andThen_ok hagree ?_, .succeeded _ ⟨hok, hroom⟩ (fun i => ?_)
          (fun i => ((hdone i).2.1).trans (hsend i)) (fun i => ((hdone i).2.2).trans (hreceive i))⟩
      · simp only [hwhere]
        refine Network.Run.andThen_ok hexchange ?_
        simp only [hhere]
        exact Network.Run.andThen_ok hfinal (.done _)
      · rw [(hdone i).1]
        rfl
    · obtain ⟨trace₂, e, he, hexchange⟩ := exchange_run_failed hn hsize (fun i => (hplan i).localCapacity)
        hdest hitems hroom
      refine ⟨trace₁ ++ (trace₂ ++ []), _, Network.Run.andThen_ok hagree ?_,
        .failed e (fun h => hroom h.2) he⟩
      simp only [hwhere]
      exact Network.Run.andThen_failed hexchange
  · obtain ⟨trace₁, e, he, hagree⟩ := (owner_consensus hn hsize).fails _ hok
    exact ⟨_, _, Network.Run.andThen_failed hagree, .failed e (fun h => hok h.1) he⟩

omit hadmissible

lemma ownerPhases_run (revision : Fin n → Revision) (input : Fin n → Span (ExchangeSegment F)) :
    ∃ trace r, (mpiJob hn).Run
      (fun i => (plan i).preparePhases (jobComm hsize i) (revision i) (input i)) trace r ∧
      DeliveryOutcome plan (deliveredRows cells grid input) (OwnerAccepted cells grid plan revision input) r := by
  by_cases hstatus : ∀ i, ((plan i).inputStatus (revision i) (input i)).isOk = true
  · have hadmissible := fun i => inputStatus_isOk.mp (hstatus i)
    obtain ⟨trace₁, hagree⟩ := (owner_consensus hn hsize).passes _ hstatus
    obtain ⟨trace₂, hrevision⟩ := compareAll_run (F := F) hn Portable.Status.providerFailure
      Portable.Status.staleRevision (fun i => [(revision i).acceptedStep, (revision i).inputRevision]) 2
      fun _ => rfl
    by_cases hsame : ∀ i j, [(revision i).acceptedStep, (revision i).inputRevision] =
        [(revision j).acceptedStep, (revision j).inputRevision]
    · simp only [if_pos hsame] at hrevision
      have hdest : ∀ j, ∀ s ∈ (input j).values, auditor n s < n := fun _ s _ => rowAuditor_lt hn s
      have hitems := lanes_admissible hsize hplan hadmissible
      by_cases hroom : ∀ i : Fin n,
          (routed (fun j => (input j).values) (auditor n) i).length ≤ (plan i).auditCapacity
      · obtain ⟨trace₃, audit, hexchange, haudit⟩ := exchange_run_ok hn hsize
          (fun i => (hplan i).auditCapacity) hdest hitems (fun i => (le_max_right _ _).trans (hplan i).values)
          (version_admissible hadmissible)
          (fun i => (Nat.mul_le_mul_right _ (length_admissible hadmissible i)).trans (hplan i).send)
          (fun i => (Nat.mul_le_mul_right _ (le_max_right _ _)).trans (hplan i).receive) hroom
        obtain ⟨trace₄, r, hdeliver, houtcome⟩ := ownerDeliver_run hsize hn hg hplan hadmissible
          (fun i => (haudit i).2.1) (fun i => (haudit i).2.2)
        refine ⟨_, r, Network.Run.andThen_ok hagree (Network.Run.andThen_ok hrevision
          (Network.Run.andThen_ok hexchange hdeliver)), ?_⟩
        simp only [(haudit _).1] at houtcome
        cases houtcome with
        | succeeded done h hvalues hsend hreceive =>
          exact .succeeded done ⟨hadmissible, hsame, hroom, h.1, h.2⟩ hvalues hsend hreceive
        | failed e h he => exact .failed e (fun hall => h ⟨hall.stencils, hall.receives⟩) he
      · obtain ⟨trace₃, e, he, hexchange⟩ := exchange_run_failed hn hsize
          (fun i => (hplan i).auditCapacity) hdest hitems hroom
        exact ⟨_, _, Network.Run.andThen_ok hagree (Network.Run.andThen_ok hrevision
          (Network.Run.andThen_failed hexchange)), .failed e (fun h => hroom h.audits) he⟩
    · simp only [if_neg hsame] at hrevision
      exact ⟨_, _, Network.Run.andThen_ok hagree (Network.Run.andThen_failed hrevision),
        .failed _ (fun h => hsame h.sameRevision) rfl⟩
  · obtain ⟨trace₁, e, he, hagree⟩ := (owner_consensus hn hsize).fails _ hstatus
    exact ⟨_, _, Network.Run.andThen_failed hagree,
      .failed e (fun h => hstatus fun i => inputStatus_isOk.mpr (h.admissible i)) he⟩

end HundunFlow.Proofs
