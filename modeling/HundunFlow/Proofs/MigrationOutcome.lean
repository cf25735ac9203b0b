import HundunFlow.Proofs.MigrationStages
import HundunFlow.Proofs.PartitionOwnership

/-!
# What a migration delivers

The parcels a rank hands in are counted, sent, collected, audited and sorted.
-/

namespace HundunFlow.Proofs

open Lib ParcelMigrationPlan List

variable {F : Type}

section Owner

variable {cells grid : Int3} {n : ℕ} (hg : PartitionOf cells n grid)

include hg

variable (value : ParcelMigrationValue F)

lemma destinationOf_lt_iff :
    destinationOf cells grid n value < n ↔ 0 ≤ owner cells grid value.parcel.ownerGlobalCell.toNat :=
  subscript_lt_iff hg _

lemma destinationOf_eq_iff {r : ℕ} (hr : r < n) :
    destinationOf cells grid n value = r ↔ owner cells grid value.parcel.ownerGlobalCell.toNat = r :=
  subscript_eq_iff hg _ hr

end Owner

section Loops

variable [SprayReal F] {cells grid : Int3} {n : ℕ} (hg : PartitionOf cells n grid) (hsize : n < 2 ^ 31) (i : Fin n)
  {plan : ParcelMigrationPlan F}

def Admissible (cells grid : Int3) (n : ℕ) (value : ParcelMigrationValue F) : Prop :=
  value.valid = true ∧ destinationOf cells grid n value < n

include hg

lemma inputLoop_spec (hcells : plan.globalCells = cells) (hgrid : plan.processGrid = grid)
    (values : List (ParcelMigrationValue F)) (f : ℕ → ℕ) (outgoing : ℕ) :
    ∃ status counts left,
      plan.inputLoop (jobComm hsize i) values ((range n).map f) outgoing = some (status, counts, left) ∧
      (status.isOk = true ↔ ∀ v ∈ values, Admissible cells grid n v) ∧
      (status.isOk = true →
        counts = (range n).map fun r => f r + countFor (destinationOf cells grid n) values r) := by
  induction values generalizing f outgoing with
  | nil => exact ⟨{}, _, _, rfl, by simp, fun _ => by simp [countFor]⟩
  | cons v rest ih =>
    rw [inputLoop, hcells, hgrid]
    by_cases hvalid : v.valid = true
    · rw [hvalid, Bool.not_true, if_neg Bool.false_ne_true]
      by_cases hneg : owner cells grid v.parcel.ownerGlobalCell.toNat < 0
      · simp only [if_pos hneg]
        have hbad : ¬ Admissible cells grid n v := by
          intro h
          have := (destinationOf_lt_iff hg v).mp h.2
          omega
        refine ⟨_, _, _, rfl, ⟨fun h => absurd h (by simp [invalidMigration]), fun h => ?_⟩,
          fun h => absurd h (by simp [invalidMigration])⟩
        exact absurd (h v (by simp)) hbad
      · have hdest : destinationOf cells grid n v < n := (destinationOf_lt_iff hg v).mpr (not_lt.mp hneg)
        have heq : (owner cells grid v.parcel.ownerGlobalCell.toNat).toNat = destinationOf cells grid n v := by
          rw [destinationOf, subscript, if_neg hneg]
        simp only [if_neg hneg, heq, getElem?_map_range _ hdest, set_map_range _ hdest]
        obtain ⟨status, counts, left, hrun, hok, hcounts⟩ := ih
          (fun r => f r + if destinationOf cells grid n v = r then 1 else 0)
          (if owner cells grid v.parcel.ownerGlobalCell.toNat ≠ (jobComm hsize i).rank then outgoing + 1
            else outgoing)
        refine ⟨status, counts, left, hrun, ?_, fun h => ?_⟩
        · rw [hok, forall_mem_cons]
          exact ⟨fun h => ⟨⟨hvalid, hdest⟩, h⟩, fun h => h.2⟩
        · rw [hcounts h, map_range_countFor_cons]
    · rw [Bool.not_eq_true] at hvalid
      rw [hvalid, Bool.not_false, if_pos rfl]
      refine ⟨_, _, _, rfl, ⟨fun h => absurd h (by simp [invalidMigration]), fun h => ?_⟩,
        fun h => absurd h (by simp [invalidMigration])⟩
      exact absurd (h v (by simp)).1 (by simp [hvalid])

omit hg in
lemma replicate_zero_eq : replicate n 0 = (range n).map fun _ => 0 := by
  rw [map_const', length_range]

structure AdmissibleInput (cells grid : Int3) (n capacity : ℕ) (input : Span (ParcelMigrationValue F)) : Prop where
  readable : input.isNull = true → input.size = 0
  fits : input.size ≤ capacity
  values : ∀ v ∈ input.values, Admissible cells grid n v

lemma scanInput_spec (hcells : plan.globalCells = cells) (hgrid : plan.processGrid = grid)
    (input : Span (ParcelMigrationValue F)) :
    ∃ status counts left,
      plan.scanInput (jobComm hsize i) input = some (status, counts, left) ∧
      (status.isOk = true ↔ AdmissibleInput cells grid n plan.localCapacity input) ∧
      (status.isOk = true → counts = countsFor n (destinationOf cells grid n) input.values) := by
  have hzeros : replicate (jobComm hsize i).size 0 = (range n).map fun _ => 0 := replicate_zero_eq
  rw [scanInput, hzeros]
  by_cases hbad : (decide (input.size ≠ 0) && input.isNull || decide (plan.localCapacity < input.size)) = true
  · simp only [if_pos hbad]
    refine ⟨_, _, _, rfl, ⟨fun h => absurd h (by simp [invalidMigration]), fun h => ?_⟩,
      fun h => absurd h (by simp [invalidMigration])⟩
    have hfits := h.fits
    simp only [Bool.or_eq_true, Bool.and_eq_true, decide_eq_true_eq] at hbad
    cases hbad with
    | inl hnull => exact absurd (h.readable hnull.2) hnull.1
    | inr hlarge => omega
  · simp only [if_neg hbad]
    obtain ⟨status, counts, left, hrun, hok, hcounts⟩ :=
      inputLoop_spec hg hsize i hcells hgrid input.values (fun _ => 0) 0
    simp only [Bool.or_eq_true, Bool.and_eq_true, decide_eq_true_eq, not_or, not_and, not_lt] at hbad
    refine ⟨status, counts, left, hrun, ?_, fun h => ?_⟩
    · rw [hok]
      refine ⟨fun h => ⟨fun hnull => ?_, hbad.2, h⟩, fun h => h.values⟩
      by_contra hne
      exact hbad.1 hne hnull
    · rw [hcounts h, countsFor]
      simp only [Nat.zero_add]

omit hg

lemma auditor_lt (hn : 0 < n) (id : ParcelId) : auditor n id < n := Nat.mod_lt _ hn

lemma candidateLoop_spec (hcells : plan.globalCells = cells) (hgrid : plan.processGrid = grid)
    (values : List (ParcelMigrationValue F)) (hvalid : ∀ v ∈ values, v.valid = true)
    (howner : ∀ v ∈ values, owner cells grid v.parcel.ownerGlobalCell.toNat = i) (f : ℕ → ℕ) :
    plan.candidateLoop (jobComm hsize i) (values.map ParcelMigrationValue.encode) ((range n).map f) =
      some ({}, ((range n).map fun r =>
        f r + countFor (auditor n) (values.map (·.parcel.id)) r), values) := by
  have hn : 0 < n := Nat.lt_of_le_of_lt (Nat.zero_le _) i.isLt
  induction values generalizing f with
  | nil => simp [candidateLoop, countFor]
  | cons v rest ih =>
    have hv := hvalid v (by simp)
    have ho := howner v (by simp)
    have hd : auditor (jobComm hsize i).size v.parcel.id < n := auditor_lt hn _
    rw [map_cons, candidateLoop, decode_encode hv]
    simp only [hv, hcells, hgrid, ho, Bool.not_true, Bool.false_or]
    rw [if_neg (by simp [jobComm]), getElem?_map_range _ hd]
    simp only
    rw [set_map_range _ hd, ih (fun w hw => hvalid w (by simp [hw])) (fun w hw => howner w (by simp [hw])),
      map_cons]
    simp only [Option.map_some]
    rw [← map_range_countFor_cons]
    rfl

omit [SprayReal F] in
lemma auditIds_spec {auditWire : List (Lane F)} {audited : ℕ} {ids : List ParcelId}
    (h : rows 2 auditWire audited = ids.map encodeId) :
    ∃ status, auditIds auditWire audited = some (status, ()) ∧ (status.isOk = true ↔ ids.Nodup) := by
  rw [auditIds, h, mapM_map_eq_some fun id _ => decodeId_encodeId id, Option.map_some]
  refine ⟨_, rfl, ?_⟩
  rw [← adjacentEqual_sortOn ids]
  cases adjacentEqual (sortOn id ids) <;> simp [invalidMigration]

end Loops

variable [SprayReal F] {cells grid : Int3} {n : ℕ} (hn : 0 < n) (hsize : n < 2 ^ 31)

/-- What a successful `configure` establishes on rank `i`. -/
structure Configured (cells grid : Int3) (i : Fin n) (plan : ParcelMigrationPlan F) : Prop where
  communicator : plan.communicator = some (jobComm hsize i)
  globalCells : plan.globalCells = cells
  processGrid : plan.processGrid = grid
  localCapacity : plan.localCapacity ≤ maxInt / kLanes
  auditCapacity : plan.auditCapacity ≤ maxInt / 2
  sendWire : plan.localCapacity * kLanes ≤ plan.sendWire.length
  receiveWire : plan.localCapacity * kLanes ≤ plan.receiveWire.length
  auditWire : plan.auditCapacity * 2 ≤ plan.auditWire.length

/-- The phases succeeded for a rank that has received `values`. -/
structure PreparedFor (plan : ParcelMigrationPlan F) (values : List (ParcelMigrationValue F))
    (done : Prepared F) : Prop where
  candidates : done.candidates = sortOn (·.parcel.id) values
  status : done.report.status = {}
  sendWire : done.sendWire.length = plan.sendWire.length
  receiveWire : done.receiveWire.length = plan.receiveWire.length
  auditWire : done.auditWire.length = plan.auditWire.length

/-- All ranks succeed, which happens exactly when `accepted` holds, or all fail alike. -/
inductive PhaseOutcome (plan : Fin n → ParcelMigrationPlan F) (values : Fin n → List (ParcelMigrationValue F))
    (accepted : Prop) : (Fin n → Stage (Status × ℤ) (Prepared F)) → Prop where
  | succeeded (done : Fin n → Prepared F) (h : accepted) (hdone : ∀ i, PreparedFor (plan i) (values i) (done i)) :
      PhaseOutcome plan values accepted fun i => .ok (done i)
  | failed (e : Status × ℤ) (h : ¬ accepted) (hfailure : RankFailure n e) :
      PhaseOutcome plan values accepted fun _ => .failed e

def idsOf (values : Fin n → List (ParcelMigrationValue F)) (i : Fin n) : List ParcelId :=
  (values i).map (·.parcel.id)

def AuditPasses (plan : Fin n → ParcelMigrationPlan F) (values : Fin n → List (ParcelMigrationValue F)) : Prop :=
  (∀ i : Fin n, (routed (idsOf values) (auditor n) i).length ≤ (plan i).auditCapacity) ∧
    ∀ i : Fin n, (routed (idsOf values) (auditor n) i).Nodup

variable {plan : Fin n → ParcelMigrationPlan F} (hplan : ∀ i, Configured hsize cells grid i (plan i))

include hplan

lemma auditPhases_run {values : Fin n → List (ParcelMigrationValue F)} (inputSize outgoing : Fin n → ℕ)
    {delivery : Fin n → Exchanged F}
    (hrows : ∀ i, rows kLanes (delivery i).receive (delivery i).received =
      (values i).map ParcelMigrationValue.encode)
    (hvalid : ∀ i, ∀ v ∈ values i, v.valid = true)
    (howner : ∀ i, ∀ v ∈ values i, owner cells grid v.parcel.ownerGlobalCell.toNat = i)
    (hfits : ∀ i, (values i).length ≤ (plan i).localCapacity)
    (hsend : ∀ i, (delivery i).send.length = (plan i).sendWire.length)
    (hreceive : ∀ i, (delivery i).receive.length = (plan i).receiveWire.length)
    (hsum : ∑ i, inputSize i = ∑ i, (delivery i).received) :
    ∃ trace r, (mpiJob hn).Run
      (fun i => (plan i).auditPhases (jobComm hsize i) (inputSize i) (outgoing i) (delivery i)) trace r ∧
      PhaseOutcome plan values (AuditPasses plan values) r := by
  have hloop : ∀ i, (plan i).candidateLoop (jobComm hsize i)
      (rows kLanes (delivery i).receive (delivery i).received) (replicate (jobComm hsize i).size 0) =
      some ({}, countsFor n (auditor n) (idsOf values i), values i) := by
    intro i
    have hspec := candidateLoop_spec hsize i (hplan i).globalCells (hplan i).processGrid (values i) (hvalid i)
      (howner i) fun _ => 0
    rw [hrows i]
    simp only [Nat.zero_add] at hspec
    rw [show replicate (jobComm hsize i).size 0 = (range n).map fun _ => 0 from replicate_zero_eq]
    exact hspec
  obtain ⟨trace₁, hcollect⟩ := settle_run_ok (migration_consensus hn hsize) hloop fun _ => rfl
  have hdest : ∀ j, ∀ id ∈ idsOf values j, auditor n id < n := fun _ id _ => auditor_lt hn id
  have hlocal : ∀ i, (idsOf values i).length ≤ (plan i).localCapacity := by
    intro i
    rw [idsOf, length_map]
    exact hfits i
  have hcapacity : ∀ i, (idsOf values i).length ≤ maxInt / 2 := by
    intro i
    have hle : maxInt / kLanes ≤ maxInt / 2 := by decide
    exact (hlocal i).trans ((hplan i).localCapacity.trans hle)
  have hroomy : ∀ i, (idsOf values i).length * 2 ≤ (delivery i).send.length := by
    intro i
    have hwire := (hplan i).sendWire
    have hitems := hlocal i
    have hk : kLanes = 24 := rfl
    rw [hk] at hwire
    rw [hsend i]
    omega
  by_cases hroom : ∀ i : Fin n, (routed (idsOf values) (auditor n) i).length ≤ (plan i).auditCapacity
  · obtain ⟨trace₂, audit, haudit, hdone⟩ := exchangePhase_run_ok (F := F) hn hsize (by decide : 0 < 2)
      (fun i => (hplan i).auditCapacity) hdest hcapacity length_encodeId hroomy (fun i => (hplan i).auditWire) hroom
    choose status hids hstatus using fun i => auditIds_spec (by
      have h := (hdone i).2.2.2
      exact h)
    by_cases hdist : ∀ i : Fin n, (routed (idsOf values) (auditor n) i).Nodup
    · obtain ⟨trace₃, hsettle⟩ := settle_run_ok (migration_consensus hn hsize) hids fun i => (hstatus i).mpr (hdist i)
      obtain ⟨trace₄, total, htotal⟩ := totalsPhase_run (F := F) hn hsum
      refine ⟨_, _, Network.Run.andThen_ok hcollect (Network.Run.andThen_ok haudit
        (Network.Run.andThen_ok hsettle (Network.Run.andThen_ok htotal (.done _)))),
        .succeeded _ ⟨hroom, hdist⟩ fun i => ⟨rfl, rfl, ?_, hreceive i, (hdone i).2.2.1⟩⟩
      exact (hdone i).2.1.trans (hsend i)
    · obtain ⟨trace₃, e, he, hsettle⟩ := settle_run_failed (migration_consensus hn hsize) hids
        fun h => hdist fun i => (hstatus i).mp (h i)
      exact ⟨_, _, Network.Run.andThen_ok hcollect (Network.Run.andThen_ok haudit
        (Network.Run.andThen_failed hsettle)), .failed e (fun h => hdist h.2) he⟩
  · obtain ⟨trace₂, e, he, haudit⟩ := exchangePhase_run_failed (F := F) hn hsize (by decide : 0 < 2)
      (fun i => (hplan i).auditCapacity) hdest hcapacity hroom
    exact ⟨_, _, Network.Run.andThen_ok hcollect (Network.Run.andThen_failed haudit),
      .failed e (fun h => hroom h.1) he⟩

/-- The condition under which the phases succeed. -/
structure Accepted (cells grid : Int3) (plan : Fin n → ParcelMigrationPlan F)
    (input : Fin n → Span (ParcelMigrationValue F)) : Prop where
  admissible : ∀ i, AdmissibleInput cells grid n (plan i).localCapacity (input i)
  receives : ∀ i : Fin n, (routed (fun j => (input j).values) (destinationOf cells grid n) i).length ≤
    (plan i).localCapacity
  audit : AuditPasses plan fun i => routed (fun j => (input j).values) (destinationOf cells grid n) i

lemma preparePhases_run (hg : PartitionOf cells n grid) (input : Fin n → Span (ParcelMigrationValue F)) :
    ∃ trace r, (mpiJob hn).Run (fun i => (plan i).preparePhases (jobComm hsize i) (input i)) trace r ∧
      PhaseOutcome plan (fun i => routed (fun j => (input j).values) (destinationOf cells grid n) i)
        (Accepted cells grid plan input) r := by
  choose status counts left hscan hok hcounts using
    fun i => scanInput_spec hg hsize i (hplan i).globalCells (hplan i).processGrid (input i)
  by_cases hadmissible : ∀ i, AdmissibleInput cells grid n (plan i).localCapacity (input i)
  · obtain ⟨trace₁, hsettle⟩ := settle_run_ok (migration_consensus hn hsize) hscan fun i => (hok i).mpr (hadmissible i)
    obtain rfl : counts = fun i => countsFor n (destinationOf cells grid n) (input i).values :=
      funext fun i => hcounts i ((hok i).mpr (hadmissible i))
    have hdest : ∀ j, ∀ v ∈ (input j).values, destinationOf cells grid n v < n :=
      fun j v hv => ((hadmissible j).values v hv).2
    have hlength : ∀ i, (input i).values.length ≤ (plan i).localCapacity := by
      intro i
      rw [← Span.size_eq_length (hadmissible i).readable]
      exact (hadmissible i).fits
    have hwhere : ∀ i, destinationOf (F := F) (plan i).globalCells (plan i).processGrid (jobComm hsize i).size =
        destinationOf cells grid n := by
      intro i
      rw [(hplan i).globalCells, (hplan i).processGrid]
      rfl
    have hbounded : ∀ i, (input i).values.length ≤ maxInt / kLanes :=
      fun i => (hlength i).trans (hplan i).localCapacity
    have hsend : ∀ i, (input i).values.length * kLanes ≤ (plan i).sendWire.length :=
      fun i => (Nat.mul_le_mul_right kLanes (hlength i)).trans (hplan i).sendWire
    by_cases hroom : ∀ i : Fin n,
        (routed (fun j => (input j).values) (destinationOf cells grid n) i).length ≤ (plan i).localCapacity
    · obtain ⟨trace₂, delivery, hdelivery, hdone⟩ := exchangePhase_run_ok (F := F) hn hsize
        (by decide : 0 < kLanes) (fun i => (hplan i).localCapacity) hdest hbounded length_encode hsend
        (fun i => (hplan i).receiveWire) hroom
      have hsum : ∑ i, (input i).size = ∑ i, (delivery i).received := by
        have hcards := congrArg Multiset.card (sum_routed hdest)
        simp only [Multiset.card_sum, Multiset.coe_card] at hcards
        simp only [(hdone _).1, hcards, Span.size_eq_length (hadmissible _).readable]
      have hrows : ∀ i, rows kLanes (delivery i).receive (delivery i).received =
          (routed (fun j => (input j).values) (destinationOf cells grid n) i).map ParcelMigrationValue.encode :=
        fun i => (hdone i).2.2.2
      obtain ⟨trace₃, r, haudit, houtcome⟩ := auditPhases_run hn hsize hplan (fun i => (input i).size) left hrows
        (fun i v hv => by
          obtain ⟨⟨j, hj⟩, -⟩ := mem_routed.mp hv
          exact ((hadmissible j).values v hj).1)
        (fun i v hv => (destinationOf_eq_iff hg v i.isLt).mp (mem_routed.mp hv).2) hroom
        (fun i => (hdone i).2.1) (fun i => (hdone i).2.2.1) hsum
      refine ⟨trace₁ ++ (trace₂ ++ trace₃), r, Network.Run.andThen_ok hsettle ?_, ?_⟩
      · simp only [hwhere]
        exact Network.Run.andThen_ok hdelivery haudit
      · cases houtcome with
        | succeeded done h hprepared => exact .succeeded done ⟨hadmissible, hroom, h⟩ hprepared
        | failed e h he => exact .failed e (fun hall => h hall.audit) he
    · obtain ⟨trace₂, e, he, hdelivery⟩ := exchangePhase_run_failed (F := F) hn hsize
        (by decide : 0 < kLanes) (fun i => (hplan i).localCapacity) hdest hbounded hroom
      refine ⟨trace₁ ++ (trace₂ ++ []), _, Network.Run.andThen_ok hsettle ?_,
        .failed e (fun hall => hroom hall.receives) he⟩
      simp only [hwhere]
      exact Network.Run.andThen_failed hdelivery
  · obtain ⟨trace₁, e, he, hsettle⟩ := settle_run_failed (migration_consensus hn hsize) hscan
      fun h => hadmissible fun i => (hok i).mp (h i)
    exact ⟨_, _, Network.Run.andThen_failed hsettle, .failed e (fun hall => hadmissible hall.admissible) he⟩

end HundunFlow.Proofs
