import HundunFlow.Proofs.MigrationOutcome

/-!
# Parcel migration conserves parcels

Any sequence of calls on a job leaves all ranks configured alike or none at all.
-/

namespace HundunFlow.Proofs

open Lib ParcelMigrationPlan Option Multiset

variable {F : Type} {n : ℕ} (hn : 0 < n) (hsize : n < 2 ^ 31)

structure ConfigureAccepted (input : Fin n → ConfigureInput) : Prop where
  check : ∀ i, ((input i).check (jobComm hsize i)).isOk = true
  dimensions : ∀ i j, (input i).dimensions = (input j).dimensions
  allocates : ∀ i, (input i).allocates = true

inductive ConfigureOutcome (s : Fin n → ParcelMigrationPlan F) (input : Fin n → ConfigureInput) :
    (Fin n → ParcelMigrationPlan F × Status) → Prop where
  | installed (h : ConfigureAccepted hsize input) :
      ConfigureOutcome s input fun i => ((input i).install (jobComm hsize i), {})
  | failed (status : Status) (h : ¬ ConfigureAccepted hsize input) (hstatus : status.isOk = false) :
      ConfigureOutcome s input fun i => (s i, status)

lemma allocate_isOk (input : ConfigureInput) : input.allocate.isOk = true ↔ input.allocates = true := by
  unfold ConfigureInput.allocate
  cases input.allocates <;> simp

lemma configurePhases_run (input : Fin n → ConfigureInput) :
    ∃ trace r, (mpiJob hn).Run (fun i => configurePhases (F := F) (jobComm hsize i) (input i)) trace r ∧
      ((ConfigureAccepted hsize input ∧ r = fun _ => .ok ()) ∨
        (¬ ConfigureAccepted hsize input ∧ ∃ status k, status.isOk = false ∧ r = fun _ => .failed (status, k))) := by
  obtain ⟨trace₁, hcheck⟩ := migrationCollective_run hn hsize
    fun i => (input i).check (jobComm hsize i)
  by_cases hok : ∀ i, ((input i).check (jobComm hsize i)).isOk = true
  · rw [consensusResult_ok hok] at hcheck
    obtain ⟨trace₂, hcompare⟩ := compareAll_run (F := F) hn (migrationMpiFailure, (-1 : ℤ))
      (invalidMigration MigrationDetail.invalidPlan, (-1 : ℤ)) (fun i => (input i).dimensions) 3 fun _ => rfl
    by_cases hdims : ∀ i j, (input i).dimensions = (input j).dimensions
    · simp only [if_pos hdims] at hcompare
      obtain ⟨trace₃, halloc⟩ := migrationCollective_run hn hsize fun i => (input i).allocate
      have hrun := Network.Run.andThen_ok hcheck (f := fun i _ => (input i).compare.andThen fun _ =>
        migrationCollective (jobComm hsize i) (input i).allocate) (Network.Run.andThen_ok hcompare halloc)
      by_cases hall : ∀ i, (input i).allocate.isOk = true
      · rw [consensusResult_ok hall] at hrun
        exact ⟨_, _, hrun, .inl ⟨⟨hok, hdims, fun i => (allocate_isOk _).mp (hall i)⟩, rfl⟩⟩
      · obtain ⟨k, hk, -, hresult⟩ := consensusResult_failed hall
        rw [hresult] at hrun
        exact ⟨_, _, hrun, .inr ⟨fun h => hall fun i => (allocate_isOk _).mpr (h.allocates i), _, k, hk, rfl⟩⟩
    · simp only [if_neg hdims] at hcompare
      exact ⟨_, _, Network.Run.andThen_ok hcheck (Network.Run.andThen_failed hcompare),
        .inr ⟨fun h => hdims h.dimensions, invalidMigration MigrationDetail.invalidPlan, -1, rfl, rfl⟩⟩
  · obtain ⟨k, hk, -, hresult⟩ := consensusResult_failed hok
    rw [hresult] at hcheck
    exact ⟨_, _, Network.Run.andThen_failed hcheck, .inr ⟨fun h => hok h.check, _, k, hk, rfl⟩⟩

lemma configure_run (s : Fin n → ParcelMigrationPlan F) (input : Fin n → ConfigureInput) :
    ∃ trace r, (mpiJob hn).Run (fun i => (s i).configure (some (jobComm hsize i)) (input i)) trace
        (fun i => some (r i)) ∧ ConfigureOutcome hsize s input r := by
  obtain ⟨trace, r, hrun, ⟨haccepted, rfl⟩ | ⟨hrefused, status, k, hstatus, rfl⟩⟩ :=
    configurePhases_run (F := F) hn hsize input
  · exact ⟨_, _, Network.Run.bind hrun (.done _), .installed haccepted⟩
  · exact ⟨_, _, Network.Run.bind hrun (.done _), .failed status hrefused hstatus⟩

lemma check_isOk {comm : RankComm} {input : ConfigureInput} (h : (input.check comm).isOk = true) :
    PartitionOf input.cells comm.size (chooseGrid input.cells comm.size).grid ∧
      input.patch.processGrid = (chooseGrid input.cells comm.size).grid ∧
      input.maximumLocal ≤ maxInt / kLanes ∧ input.maximumAudit ≤ maxInt / 2 := by
  unfold ConfigureInput.check at h
  cases hpatch : makeMeshPatch comm.rank comm.size input.cells with
  | error e => simp [hpatch, invalidMigration] at h
  | ok authoritative =>
    simp only [hpatch] at h
    split_ifs at h with hbad
    · simp [invalidMigration] at h
    · simp only [ne_eq, Bool.or_eq_true, decide_eq_true_eq, not_or, not_not, not_lt] at hbad
      obtain ⟨hg, h0, h1⟩ := makeMeshPatch_partition hpatch
      have hgrid := (hg.patch comm.rank h0 h1).symm.trans hpatch
      refine ⟨hg, ?_, hbad.1.2, hbad.2⟩
      rw [hbad.1.1, ← Except.ok.inj hgrid]
      rfl

include hn in
lemma configured_install {input : Fin n → ConfigureInput} (h : ConfigureAccepted hsize input) :
    ∃ cells grid, PartitionOf cells n grid ∧
      ∀ i, Configured (F := F) hsize cells grid i ((input i).install (jobComm hsize i)) := by
  have hcheck := fun i => check_isOk (h.check i)
  have hcells : ∀ i j, (input i).cells = (input j).cells := by
    intro i j
    have hi := (validCells_iff _).mp (hcheck i).1.cells_valid
    have hj := (validCells_iff _).mp (hcheck j).1.cells_valid
    have hdims := h.dimensions i j
    simp only [ConfigureInput.dimensions, List.cons.injEq, and_true] at hdims
    obtain ⟨hx, hy, hz⟩ := hdims
    rcases hc : (input i).cells with ⟨x, y, z⟩
    rcases hc' : (input j).cells with ⟨x', y', z'⟩
    rw [hc] at hi hx hy hz
    rw [hc'] at hj hx hy hz
    dsimp only at hi hj hx hy hz
    congr 1
    all_goals omega
  refine ⟨(input ⟨0, hn⟩).cells, (chooseGrid (input ⟨0, hn⟩).cells n).grid, (hcheck ⟨0, hn⟩).1, fun i => ?_⟩
  have hgrid := (hcheck i).2.1
  rw [hcells i ⟨0, hn⟩] at hgrid
  exact ⟨rfl, hcells i _, hgrid, (hcheck i).2.2.1, (hcheck i).2.2.2, by simp [ConfigureInput.install],
    by simp [ConfigureInput.install], by simp [ConfigureInput.install]⟩

section Prepare

variable [SprayReal F] {cells grid : Int3} {s : Fin n → ParcelMigrationPlan F}

/-- What `prepare` does on all ranks of a configured job. -/
inductive PrepareOutcome (cells grid : Int3) (s : Fin n → ParcelMigrationPlan F)
    (input : Fin n → Span (ParcelMigrationValue F)) :
    (Fin n → ParcelMigrationPlan F × ParcelMigrationReport) → Prop where
  | succeeded (r : Fin n → ParcelMigrationPlan F × ParcelMigrationReport) (h : Accepted cells grid s input)
      (hplan : ∀ i, Configured hsize cells grid i (r i).1) (hstatus : ∀ i, (r i).2.status = {})
      (hoffered : ∀ i : Fin n, (r i).1.offered = sortOn (·.parcel.id)
        (routed (fun j => (input j).values) (destinationOf cells grid n) i)) : PrepareOutcome cells grid s input r
  | failed (e : Status × ℤ) (h : ¬ Accepted cells grid s input) (hfailure : RankFailure n e) :
      PrepareOutcome cells grid s input fun i => ((s i).discard, { status := e.1, lowestFailingRank := e.2 })

variable {trace : List JobSignature}

omit [SprayReal F] in
lemma Configured.discard {i : Fin n} {plan : ParcelMigrationPlan F} (h : Configured hsize cells grid i plan) :
    Configured hsize cells grid i plan.discard :=
  ⟨h.communicator, h.globalCells, h.processGrid, h.localCapacity, h.auditCapacity, h.sendWire, h.receiveWire,
    h.auditWire⟩

lemma prepare_run (hg : PartitionOf cells n grid) (hs : ∀ i, Configured hsize cells grid i (s i))
    (input : Fin n → Span (ParcelMigrationValue F)) :
    ∃ trace r, (mpiJob hn).Run (fun i => (s i).prepare (input i)) trace (fun i => some (r i)) ∧
      PrepareOutcome hsize cells grid s input r := by
  obtain ⟨trace, stage, hrun, houtcome⟩ :=
    preparePhases_run hn hsize (fun i => (hs i).discard) hg input
  have hprogram : ∀ i, (s i).communicator = some (jobComm hsize i) := fun i => (hs i).communicator
  cases houtcome with
  | succeeded done h hdone =>
    refine ⟨trace ++ [], _, ?_, .succeeded (fun i =>
      ({ s i with
          sendWire := (done i).sendWire, receiveWire := (done i).receiveWire, auditWire := (done i).auditWire
          candidates := (done i).candidates, available := true }, (done i).report))
      ⟨h.admissible, h.receives, h.audit⟩ (fun i => ?_) (fun i => (hdone i).status)
      (fun i => (hdone i).candidates)⟩
    · simp only [ParcelMigrationPlan.prepare, hprogram]
      exact Network.Run.bind hrun (.done _)
    · have hi := hs i
      exact ⟨hi.communicator, hi.globalCells, hi.processGrid, hi.localCapacity, hi.auditCapacity,
        hi.sendWire.trans_eq (hdone i).sendWire.symm, hi.receiveWire.trans_eq (hdone i).receiveWire.symm,
        hi.auditWire.trans_eq (hdone i).auditWire.symm⟩
  | failed e h hfailure =>
    refine ⟨trace ++ [], _, ?_, .failed e (fun h' => h ⟨h'.admissible, h'.receives, h'.audit⟩) hfailure⟩
    simp only [ParcelMigrationPlan.prepare, hprogram]
    exact Network.Run.bind hrun (.done _)

def Unconfigured (s : Fin n → ParcelMigrationPlan F) : Prop := ∀ i, (s i).communicator = none

def JobConfigured (s : Fin n → ParcelMigrationPlan F) : Prop :=
  Unconfigured s ∨ ∃ cells grid, PartitionOf cells n grid ∧ ∀ i, Configured hsize cells grid i (s i)

lemma prepare_unconfigured (h : Unconfigured s) (input : Fin n → Span (ParcelMigrationValue F)) :
    (mpiJob hn).Run (fun i => (s i).prepare (input i)) [] (fun i => some ((s i).discard, {})) := by
  have hprogram : ∀ i, (s i).communicator = none := h
  simp only [ParcelMigrationPlan.prepare, hprogram]
  exact .done _

omit [SprayReal F] in
lemma JobConfigured.configure (hs : JobConfigured hsize s) {input : Fin n → ConfigureInput}
    {r : Fin n → ParcelMigrationPlan F × Status}
    (hrun : (mpiJob hn).Run (fun i => (s i).configure (some (jobComm hsize i)) (input i)) trace
      fun i => some (r i)) : JobConfigured hsize fun i => (r i).1 := by
  have : Nonempty (Fin n) := ⟨⟨0, hn⟩⟩
  obtain ⟨trace', r', hrun', houtcome⟩ := configure_run hn hsize s input
  have hsame := (hrun'.unique hrun).2
  have hr : r' = r := funext fun i => some.inj (congrFun hsame i)
  subst hr
  cases houtcome with
  | installed h => exact .inr (configured_install hn hsize h)
  | failed => exact hs

lemma JobConfigured.prepare (hs : JobConfigured hsize s) {input : Fin n → Span (ParcelMigrationValue F)}
    {r : Fin n → ParcelMigrationPlan F × ParcelMigrationReport}
    (hrun : (mpiJob hn).Run (fun i => (s i).prepare (input i)) trace fun i => some (r i)) :
    JobConfigured hsize fun i => (r i).1 := by
  have : Nonempty (Fin n) := ⟨⟨0, hn⟩⟩
  cases hs with
  | inl hnone =>
    have hsame := ((prepare_unconfigured hn hnone input).unique hrun).2
    have hr : (fun i => ((s i).discard, {})) = r := funext fun i => some.inj (congrFun hsame i)
    subst hr
    exact .inl hnone
  | inr hconf =>
    obtain ⟨cells, grid, hg, hs⟩ := hconf
    obtain ⟨trace', r', hrun', houtcome⟩ := prepare_run hn hsize hg hs input
    have hsame := (hrun'.unique hrun).2
    have hr : r' = r := funext fun i => some.inj (congrFun hsame i)
    subst hr
    refine .inr ⟨cells, grid, hg, ?_⟩
    cases houtcome with
    | succeeded _ _ hplan => exact hplan
    | failed => exact fun i => (hs i).discard

omit [SprayReal F] in
lemma JobConfigured.discard (hs : JobConfigured hsize s) (rank : Fin n) :
    JobConfigured hsize (Function.update s rank (s rank).discard) := by
  cases hs with
  | inl hnone =>
    exact .inl ((Function.forall_update_iff s fun _ plan => plan.communicator = none).mpr
      ⟨hnone rank, fun i _ => hnone i⟩)
  | inr hconf =>
    obtain ⟨cells, grid, hg, hs⟩ := hconf
    exact .inr ⟨cells, grid, hg, (Function.forall_update_iff s fun i plan => Configured hsize cells grid i plan).mpr
      ⟨(hs rank).discard, fun i _ => hs i⟩⟩

theorem reachable_configured (h : MigrationReachable hn hsize s) : JobConfigured hsize s := by
  induction h with
  | initial => exact .inl fun _ => rfl
  | configure s input trace r _ hrun ih => exact ih.configure hn hsize hrun
  | prepare s input trace r _ hrun ih => exact ih.prepare hn hsize hrun
  | discard s rank _ ih => exact ih.discard hsize rank

end Prepare

variable [SprayReal F]

/-- The rank that owns a parcel's cell in the partition of a plan, negative without an owner. -/
def ownerOf (plan : ParcelMigrationPlan F) (value : ParcelMigrationValue F) : ℤ :=
  owner plan.globalCells plan.processGrid value.parcel.ownerGlobalCell.toNat

/-- Nothing speaks against the migration. -/
structure MigrationAccepted (s : Fin n → ParcelMigrationPlan F)
    (input : Fin n → Span (ParcelMigrationValue F)) : Prop where
  configured : ∀ i, (s i).communicator ≠ none
  readable : ∀ i, (input i).isNull = true → (input i).size = 0
  fits : ∀ i, (input i).size ≤ (s i).localCapacity
  valid : ∀ v ∈ handedIn input, v.valid = true
  owned : ∀ i, ∀ v ∈ handedIn input, 0 ≤ ownerOf (s i) v
  receives : ∀ i, ((handedIn input).filter fun v => ownerOf (s i) v = i).card ≤ (s i).localCapacity
  audits : ∀ i : Fin n, ((handedIn input).filter fun v => auditor n v.parcel.id = i).card ≤ (s i).auditCapacity
  distinct : ((handedIn input).map (·.parcel.id)).Nodup

/-- Every rank has succeeded, and the ranks offer what was handed in, each parcel at its owner. -/
structure Migrated (s : Fin n → ParcelMigrationPlan F) (input : Fin n → Span (ParcelMigrationValue F))
    (r : Fin n → ParcelMigrationPlan F × ParcelMigrationReport) : Prop where
  succeeded : ∀ i, (r i).2.status = {}
  conserved : ∑ i, ((r i).1.offered : Multiset (ParcelMigrationValue F)) = handedIn input
  lanes : ∑ i, (((r i).1.offered.map ParcelMigrationValue.encode : List (List (Lane F))) : Multiset (List (Lane F))) =
    (handedIn input).map ParcelMigrationValue.encode
  owned : ∀ i : Fin n, ∃ patch, makeMeshPatch i n (s i).globalCells = .ok patch ∧
    ∀ v ∈ (r i).1.offered, Contains patch (cellOf (s i).globalCells v.parcel.ownerGlobalCell.toNat)
  distinct : (∑ i, (((r i).1.offered.map (·.parcel.id) : List ParcelId) : Multiset ParcelId)).Nodup
  sorted : ∀ i, (r i).1.offered.Pairwise fun v w => v.parcel.id < w.parcel.id
  fits : ∀ i, (r i).1.offered.length ≤ (s i).localCapacity

/-- All ranks have failed alike and offer nothing. -/
def MigrationRefused (r : Fin n → ParcelMigrationPlan F × ParcelMigrationReport) : Prop :=
  ∃ status failingRank, status.isOk = false ∧ ∀ i, (r i).2.status = status ∧
    (r i).2.lowestFailingRank = failingRank ∧ (r i).1.offered = []

variable {cells grid : Int3} {s : Fin n → ParcelMigrationPlan F} {input : Fin n → Span (ParcelMigrationValue F)}

variable {values : Fin n → List (ParcelMigrationValue F)}

omit [SprayReal F] in
lemma sum_idsOf (h : ∑ i, (values i : Multiset (ParcelMigrationValue F)) = handedIn input) :
    ∑ i, (idsOf values i : Multiset ParcelId) = (handedIn input).map (·.parcel.id) := by
  simp only [idsOf]
  rw [sum_map_coe, h]

omit [SprayReal F] in
include hn in
lemma auditPasses_iff (h : ∑ i, (values i : Multiset (ParcelMigrationValue F)) = handedIn input) :
    AuditPasses s values ↔
      (∀ i : Fin n, ((handedIn input).filter fun v => auditor n v.parcel.id = i).card ≤ (s i).auditCapacity) ∧
        ((handedIn input).map (·.parcel.id)).Nodup := by
  have hcard : ∀ i : Fin n, (routed (idsOf values) (auditor n) i).length =
      ((handedIn input).filter fun v => auditor n v.parcel.id = i).card := by
    intro i
    rw [length_routed_eq_card, sum_idsOf h, Multiset.filter_map, Multiset.card_map]
    rfl
  unfold AuditPasses
  simp only [hcard]
  rw [← nodup_sum_routed fun j id _ => auditor_lt hn id, sum_idsOf h]

include hn in
lemma accepted_iff (hg : PartitionOf cells n grid) (hs : ∀ i, Configured hsize cells grid i (s i)) :
    Accepted cells grid s input ↔ MigrationAccepted s input := by
  have howner : ∀ i v, ownerOf (s i) v = owner cells grid v.parcel.ownerGlobalCell.toNat := by
    intro i v
    rw [ownerOf, (hs i).globalCells, (hs i).processGrid]
  have hreceives : ∀ i : Fin n,
      (routed (fun j => (input j).values) (destinationOf cells grid n) i).length =
        ((handedIn input).filter fun v => ownerOf (s i) v = i).card := by
    intro i
    rw [length_routed_eq_card]
    congr 1
    apply filter_congr
    intro v _
    rw [howner]
    exact destinationOf_eq_iff hg v i.isLt
  have hcons : (∀ j, ∀ v ∈ (input j).values, destinationOf cells grid n v < n) →
      ∑ i : Fin n, (routed (fun j => (input j).values) (destinationOf cells grid n) i : Multiset _) =
        handedIn input := sum_routed
  constructor
  · intro h
    have hdest : ∀ j, ∀ v ∈ (input j).values, destinationOf cells grid n v < n :=
      fun j v hv => ((h.admissible j).values v hv).2
    obtain ⟨haudits, hdist⟩ := (auditPasses_iff hn (hcons hdest)).mp h.audit
    refine ⟨fun i => ?_, fun i => (h.admissible i).readable, fun i => (h.admissible i).fits, fun v hv => ?_,
      fun i v hv => ?_, fun i => ?_, haudits, hdist⟩
    · rw [(hs i).communicator]
      exact some_ne_none _
    · obtain ⟨j, hj⟩ := mem_handedIn.mp hv
      exact ((h.admissible j).values v hj).1
    · obtain ⟨j, hj⟩ := mem_handedIn.mp hv
      rw [howner]
      exact (destinationOf_lt_iff hg v).mp (hdest j v hj)
    · rw [← hreceives]
      exact h.receives i
  · intro h
    have hadmissible : ∀ i, AdmissibleInput cells grid n (s i).localCapacity (input i) := by
      intro i
      refine ⟨h.readable i, h.fits i, fun v hv => ?_⟩
      have hmem := mem_handedIn.mpr ⟨i, hv⟩
      have hpos := h.owned i v hmem
      rw [howner] at hpos
      exact ⟨h.valid v hmem, (destinationOf_lt_iff hg v).mpr hpos⟩
    have hdest : ∀ j, ∀ v ∈ (input j).values, destinationOf cells grid n v < n :=
      fun j v hv => ((hadmissible j).values v hv).2
    refine ⟨hadmissible, fun i => ?_, (auditPasses_iff hn (hcons hdest)).mpr ⟨h.audits, h.distinct⟩⟩
    rw [hreceives]
    exact h.receives i

omit [SprayReal F] in
lemma offered_discard (plan : ParcelMigrationPlan F) : plan.discard.offered = [] := rfl

include hn in
lemma migrated_of_succeeded (hg : PartitionOf cells n grid) (hs : ∀ i, Configured hsize cells grid i (s i))
    (h : Accepted cells grid s input) {r : Fin n → ParcelMigrationPlan F × ParcelMigrationReport}
    (hstatus : ∀ i, (r i).2.status = {})
    (hoffered : ∀ i : Fin n, (r i).1.offered = sortOn (·.parcel.id)
      (routed (fun j => (input j).values) (destinationOf cells grid n) i)) : Migrated s input r := by
  have hdest : ∀ j, ∀ v ∈ (input j).values, destinationOf cells grid n v < n :=
    fun j v hv => ((h.admissible j).values v hv).2
  have hperm : ∀ i : Fin n, ((r i).1.offered : Multiset (ParcelMigrationValue F)) =
      routed (fun j => (input j).values) (destinationOf cells grid n) i := by
    intro i
    rw [hoffered i, coe_eq_coe]
    exact sortOn_perm _ _
  have hcons : ∑ i, ((r i).1.offered : Multiset (ParcelMigrationValue F)) = handedIn input := by
    simp only [hperm]
    exact sum_routed hdest
  have hids := ((auditPasses_iff hn (sum_routed hdest)).mp h.audit).2
  have hdist : (∑ i, (((r i).1.offered.map (·.parcel.id) : List ParcelId) : Multiset ParcelId)).Nodup := by
    rw [sum_map_coe, hcons]
    exact hids
  refine ⟨hstatus, hcons, ?_, fun i => ?_, hdist, fun i => ?_, fun i => ?_⟩
  · rw [sum_map_coe, hcons]
  · refine ⟨_, by rw [(hs i).globalCells]; exact hg.patch i (Int.natCast_nonneg _) (by exact_mod_cast i.isLt),
      fun v hv => ?_⟩
    rw [hoffered i, (sortOn_perm _ _).mem_iff] at hv
    rw [(hs i).globalCells]
    exact contains_owner hg ((destinationOf_eq_iff hg v i.isLt).mp (mem_routed.mp hv).2)
  · rw [hoffered i]
    apply sortOn_pairwise_lt
    have hle : (((r i).1.offered.map (·.parcel.id) : List ParcelId) : Multiset ParcelId) ≤
        ∑ i, (((r i).1.offered.map (·.parcel.id) : List ParcelId) : Multiset ParcelId) :=
      Finset.single_le_sum (f := fun i => (((r i).1.offered.map (·.parcel.id) : List ParcelId) : Multiset ParcelId))
        (fun _ _ => Multiset.zero_le _) (Finset.mem_univ i)
    have hnodup := coe_nodup.mp (nodup_of_le hle hdist)
    rw [hoffered i] at hnodup
    exact ((sortOn_perm _ _).map _).nodup_iff.mp hnodup
  · rw [hoffered i, (sortOn_perm _ _).length_eq]
    exact h.receives i

/-- After any calls of a job, a migration has one result. When nothing speaks against it, all
ranks succeed and hold exactly what was handed in, each parcel once and at its owner. Otherwise
all ranks fail with one status and one failing rank, and offer nothing. -/
theorem migration_conserves_parcels (hs : MigrationReachable hn hsize s)
    (input : Fin n → Span (ParcelMigrationValue F)) :
    ∃ trace r, (mpiJob hn).Run (fun i => (s i).prepare (input i)) trace (fun i => some (r i)) ∧
      (∀ trace' r', (mpiJob hn).Run (fun i => (s i).prepare (input i)) trace' r' → r' = fun i => some (r i)) ∧
      ((MigrationAccepted s input ∧ Migrated s input r) ∨
        (¬ MigrationAccepted s input ∧ MigrationRefused r)) := by
  have : Nonempty (Fin n) := ⟨⟨0, hn⟩⟩
  cases reachable_configured hn hsize hs with
  | inl hnone =>
    have hrun := prepare_unconfigured hn hnone input
    refine ⟨_, _, hrun, fun _ _ hrun' => (hrun.unique hrun').2.symm, .inr ⟨fun h => ?_, ?_⟩⟩
    · exact h.configured ⟨0, hn⟩ (hnone _)
    · exact ⟨⟨.invalidPlan, MigrationDetail.invalidPlan⟩, -1, rfl, fun i => ⟨rfl, rfl, offered_discard (s i)⟩⟩
  | inr hconfigured =>
    obtain ⟨cells, grid, hg, hplan⟩ := hconfigured
    obtain ⟨trace, r, hrun, houtcome⟩ := prepare_run hn hsize hg hplan input
    refine ⟨trace, r, hrun, fun _ _ hrun' => (hrun.unique hrun').2.symm, ?_⟩
    cases houtcome with
    | succeeded _ h _ hstatus hoffered =>
      exact .inl ⟨(accepted_iff hn hsize hg hplan).mp h,
        migrated_of_succeeded hn hsize hg hplan h hstatus hoffered⟩
    | failed e h hfailure =>
      exact .inr ⟨mt (accepted_iff hn hsize hg hplan).mpr h, e.1, e.2, hfailure.1,
        fun i => ⟨rfl, rfl, offered_discard (s i)⟩⟩

/-- Numbers that are all finite. -/
instance : SprayReal ℕ := ⟨0, fun _ => true, fun left right => left < right⟩

def swapPatch (i : Fin 2) : MeshPatch := ⟨⟨i, 0, 0⟩, ⟨1, 1, 1⟩, ⟨2, 1, 1⟩, ⟨i, 0, 0⟩⟩

def swapConfigure (i : Fin 2) : ConfigureInput := ⟨⟨2, 1, 1⟩, swapPatch i, 4, 4, true⟩

/-- The parcel of rank `i`, which lies in the cell of the other rank. -/
def swapParcel (i : Fin 2) : ParcelMigrationValue ℕ where
  parcel := ⟨⟨1, UInt64.ofNat i⟩, ⟨0, 0, 0⟩, ⟨0, 0, 0⟩, 1, 1, 1, 300, 1, UInt64.ofNat (1 - i), 0⟩
  tabDeformation := 0
  tabDeformationRate := 0
  breakupOrdinal := 0
  sgs := ⟨0, ⟨0, 0, 0, 0, 0⟩⟩

theorem migration_conserves_parcels_swap :
    ∃ (s : Fin 2 → ParcelMigrationPlan ℕ) (r : Fin 2 → ParcelMigrationPlan ℕ × ParcelMigrationReport),
      Migrated s (fun i => .of [swapParcel i]) r := by
  have haccepted : ConfigureAccepted (by decide) swapConfigure :=
    ⟨by decide +kernel, by decide +kernel, by decide⟩
  obtain ⟨trace, r, hrun, houtcome⟩ :=
    configure_run (F := ℕ) (by decide : 0 < 2) (by decide) (fun _ => {}) swapConfigure
  have hreachable := MigrationReachable.configure _ _ _ _ .initial hrun
  have hinstalled : r = fun i => ((swapConfigure i).install (jobComm (by decide) i), {}) := by
    cases houtcome with
    | installed => rfl
    | failed _ h => exact absurd haccepted h
  subst hinstalled
  obtain ⟨trace', r, -, -, houtcome⟩ :=
    migration_conserves_parcels (by decide) (by decide) hreachable fun i => .of [swapParcel i]
  have hhanded : handedIn (fun i : Fin 2 => .of [swapParcel i]) = {swapParcel 0, swapParcel 1} := by decide
  cases houtcome with
  | inl hmigrated => exact ⟨_, r, hmigrated.2⟩
  | inr hrefused =>
    refine absurd ⟨fun i => by simp [ConfigureInput.install], fun i h => ?_, fun i => ?_, ?_, ?_, ?_, ?_, ?_⟩
      hrefused.1
    · exact absurd h (by simp [Span.isNull])
    · exact (by decide : 1 ≤ 4)
    all_goals rw [hhanded]
    all_goals decide +kernel

end HundunFlow.Proofs
