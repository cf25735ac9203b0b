import HundunFlow.CheckedMigration
import HundunFlow.Proofs.MigrationConservation

/-!
# Checked migration accepts located parcels only

The two questions to the geometry as conditions on the values, and what `prepare_checked` does
on all ranks of a job: all of them offer what was handed in, or none offers anything.
-/

namespace HundunFlow.Proofs

open Lib ParcelMigrationPlan Option

variable {F : Type}

variable (plan : ParcelMigrationPlan F)

variable (location : ParcelLocationProvider F)

variable (revision : Revision)

lemma firstRefusal_isOk {α : Type} (check : α → Status) (values : List α) :
    (firstRefusal check values).isOk = true ↔ ∀ v ∈ values, (check v).isOk = true := by
  induction values with
  | nil => simp [firstRefusal]
  | cons value rest ih =>
    unfold firstRefusal
    rw [List.forall_mem_cons, ← ih]
    split_ifs with hcheck
    · exact ⟨fun h => ⟨hcheck, h⟩, fun h => h.2⟩
    · exact ⟨fun h => absurd h hcheck, fun h => absurd h.1 hcheck⟩

def LocatedAt (location : ParcelLocationProvider F) (revision : Revision) (value : ParcelMigrationValue F)
    (rank : ℤ) : Prop :=
  location value.parcel.position revision = .ok ⟨revision, value.parcel.ownerGlobalCell.toNat, rank⟩

instance (location : ParcelLocationProvider F) (revision : Revision) (value : ParcelMigrationValue F)
    (rank : ℤ) : Decidable (LocatedAt location revision value rank) :=
  inferInstanceAs (Decidable (_ = Except.ok _))

lemma checkLocation_isOk (misplaced : ParcelLocation → Bool) (value : ParcelMigrationValue F) :
    (checkLocation location revision misplaced value).isOk = true ↔
      ∃ rank, LocatedAt location revision value rank ∧
        misplaced ⟨revision, value.parcel.ownerGlobalCell.toNat, rank⟩ = false := by
  unfold checkLocation LocatedAt
  cases hlocated : location value.parcel.position revision with
  | error status => simp [invalidMigration]
  | ok located =>
    rcases located with ⟨seen, cell, rank⟩
    dsimp only
    split_ifs with hrevision hcell
    · refine ⟨fun h => by simp [invalidMigration] at h, ?_⟩
      rintro ⟨_, h, -⟩
      exact absurd (congrArg ParcelLocation.revision (Except.ok.inj h)) hrevision
    · refine ⟨fun h => by simp [invalidMigration] at h, ?_⟩
      rintro ⟨rank', h, hplaced⟩
      rw [← Except.ok.inj h] at hplaced
      have hsame : cell = value.parcel.ownerGlobalCell.toNat :=
        congrArg ParcelLocation.globalCell (Except.ok.inj h)
      simp [hplaced, ← hsame] at hcell
    · simp only [ne_eq, not_not, Bool.or_eq_true, decide_eq_true_eq, not_or, Bool.not_eq_true] at hrevision hcell
      subst hrevision
      rw [← hcell.1]
      exact ⟨fun _ => ⟨rank, rfl, hcell.2⟩, fun _ => rfl⟩

lemma checkSent_isOk [SprayReal F] (value : ParcelMigrationValue F) : (plan.checkSent location revision value).isOk = true ↔
      value.valid = true ∧ 0 ≤ ownerOf plan value ∧
        LocatedAt location revision value (ownerOf plan value) := by
  unfold checkSent
  cases value.valid with
  | false => simp [invalidMigration]
  | true =>
    simp only [Bool.not_true, Bool.false_eq_true, if_false, checkLocation_isOk, true_and]
    constructor
    · rintro ⟨rank, hlocated, hplaced⟩
      simp only [ne_eq, Bool.or_eq_false_iff, decide_eq_false_iff_not, not_lt, not_not] at hplaced
      have hrank : rank = ownerOf plan value := hplaced.2
      rw [← hrank]
      exact ⟨hplaced.1, hlocated⟩
    · rintro ⟨howner, hlocated⟩
      refine ⟨_, hlocated, ?_⟩
      simp only [ne_eq, Bool.or_eq_false_iff, decide_eq_false_iff_not, not_lt, not_not]
      exact ⟨howner, rfl⟩

lemma checkReceived_isOk (comm : RankComm) (location : ParcelLocationProvider F) (revision : Revision)
    (value : ParcelMigrationValue F) :
    (checkReceived comm location revision value).isOk = true ↔ LocatedAt location revision value comm.rank := by
  unfold checkReceived
  rw [checkLocation_isOk]
  simp

lemma checkRequest_isOk (input : Span (ParcelMigrationValue F)) (revision : Revision) :
    (plan.checkRequest input revision).isOk = true ↔
      (input.isNull = true → input.size = 0) ∧ input.size ≤ plan.localCapacity ∧
        revision.algorithmVersion = 1 := by
  unfold checkRequest
  split_ifs with hbad
  · simp only [ne_eq, Bool.or_eq_true, Bool.and_eq_true, decide_eq_true_eq] at hbad
    refine ⟨fun h => by simp [invalidMigration] at h, fun h => ?_⟩
    obtain ⟨hreadable, hfits, hversion⟩ := h
    rcases hbad with (⟨hsize, hnull⟩ | hlarge) | hother
    · exact absurd (hreadable hnull) hsize
    · omega
    · exact absurd hversion hother
  · simp only [ne_eq, Bool.or_eq_true, Bool.and_eq_true, decide_eq_true_eq, not_or, not_and, not_not,
      not_lt] at hbad
    exact ⟨fun _ => ⟨fun h => by_contra fun hsize => absurd h (hbad.1.1 hsize), hbad.1.2, hbad.2⟩, fun _ => rfl⟩

lemma clockOf_injective {left right : Revision} (h : clockOf left = clockOf right) : left = right := by
  rcases left with ⟨step, input, version⟩
  rcases right with ⟨step', input', version'⟩
  simpa [clockOf] using h

section Job

variable [SprayReal F] {n : ℕ} (hn : 0 < n) (hsize : n < 2 ^ 31)

lemma prepare_discard (plan : ParcelMigrationPlan F) (input : Span (ParcelMigrationValue F)) :
    plan.discard.prepare input = plan.prepare input := rfl

lemma prepare_offers {plan : ParcelMigrationPlan F} {input : Span (ParcelMigrationValue F)}
    {prepared : ParcelMigrationPlan F} {report : ParcelMigrationReport} {ok : JobRequest (Lane F) Unit → JobReply (Lane F) Unit → Prop}
    (h : (plan.prepare input).Local ok (some (prepared, report))) :
    prepared.offered = prepared.candidates := by
  unfold ParcelMigrationPlan.prepare at h
  cases hcomm : plan.communicator with
  | none =>
    rw [hcomm, Prog.local_done_iff, some.injEq, Prod.mk.injEq] at h
    rw [h.1]
    rfl
  | some comm =>
    simp only [hcomm] at h
    rw [Prog.local_bind_iff] at h
    obtain ⟨stage, -, hstage⟩ := h
    cases stage with
    | fault => simp at hstage
    | failed e =>
      rw [Prog.local_done_iff, some.injEq, Prod.mk.injEq] at hstage
      rw [hstage.1]
      rfl
    | ok done =>
      rw [Prog.local_done_iff, some.injEq, Prod.mk.injEq] at hstage
      rw [hstage.1]
      rfl

omit [SprayReal F] in
lemma compareClocks_run (brought : Fin n → Status) (revision : Fin n → Revision) :
    ∃ trace, (mpiJob hn).Run (fun i => compareClocks (F := F) (brought i) (revision i)) trace fun i =>
      if ∀ j k, revision j = revision k then brought i
      else invalidMigration MigrationDetail.staleRevision := by
  have hlength : ∀ i, (clockOf (revision i)).length = 3 := fun _ => rfl
  have hmin := job_allreduceMany_min (W := Lane F) (D := Unit) hn (fun i => clockOf (revision i)) 3 hlength
  have hmax := job_allreduceMany_max (W := Lane F) (D := Unit) hn (fun i => clockOf (revision i)) 3 hlength
  have hequal := @minima_eq_maxima_iff n hn (fun i => clockOf (revision i)) 3 hlength
  refine ⟨[.allreduceMany .min 3] ++ ([.allreduceMany .max 3] ++ []), ?_⟩
  refine Network.Run.bind hmin (Network.Run.bind hmax ?_)
  by_cases hsame : ∀ j k, revision j = revision k
  · simp only [hequal.mpr fun j k => congrArg clockOf (hsame j k), if_pos hsame, ne_eq, not_true_eq_false, if_false]
    exact .done _
  · have hclocks : ¬ ∀ j k, clockOf (revision j) = clockOf (revision k) :=
      fun h => hsame fun j k => clockOf_injective (h j k)
    simp only [ne_eq, mt hequal.mp hclocks, not_false_eq_true, if_true, if_neg hsame]
    exact .done _

/-- Nothing speaks against the request of a rank before the exchange. -/
structure SendersAgree (s : Fin n → ParcelMigrationPlan F) (input : Fin n → Span (ParcelMigrationValue F))
    (location : Fin n → ParcelLocationProvider F) (revision : Fin n → Revision) : Prop where
  readable : ∀ i, (input i).isNull = true → (input i).size = 0
  fits : ∀ i, (input i).size ≤ (s i).localCapacity
  agreed : ∀ i j, revision i = revision j
  version : ∀ i, (revision i).algorithmVersion = 1
  valid : ∀ i, ∀ v ∈ (input i).values, v.valid = true
  owned : ∀ i, ∀ v ∈ (input i).values, 0 ≤ ownerOf (s i) v
  located : ∀ i, ∀ v ∈ (input i).values, LocatedAt (location i) (revision i) v (ownerOf (s i) v)

/-- Nothing speaks against a checked migration. -/
structure CheckedAccepted (s : Fin n → ParcelMigrationPlan F) (input : Fin n → Span (ParcelMigrationValue F))
    (location : Fin n → ParcelLocationProvider F) (revision : Fin n → Revision) : Prop where
  migration : MigrationAccepted s input
  agreed : ∀ i j, revision i = revision j
  version : ∀ i, (revision i).algorithmVersion = 1
  sent : ∀ i, ∀ v ∈ (input i).values, LocatedAt (location i) (revision i) v (ownerOf (s i) v)
  received : ∀ i : Fin n, ∀ v ∈ handedIn input, ownerOf (s i) v = i → LocatedAt (location i) (revision i) v i

/-- Every rank offers its candidates. The ranks have passed one revision, the senders have located
what was handed in, and the receivers what they offer. -/
structure CheckedMigrated (s : Fin n → ParcelMigrationPlan F) (input : Fin n → Span (ParcelMigrationValue F))
    (location : Fin n → ParcelLocationProvider F) (revision : Fin n → Revision)
    (r : Fin n → ParcelMigrationPlan F × Status × ParcelMigrationReport) : Prop where
  returned : ∀ i, (r i).2.1 = {}
  migrated : Migrated s input fun i => ((r i).1, (r i).2.2)
  agreed : ∀ i j, revision i = revision j
  sent : ∀ i, ∀ v ∈ (input i).values, LocatedAt (location i) (revision i) v (ownerOf (s i) v)
  received : ∀ i : Fin n, ∀ v ∈ (r i).1.offered, LocatedAt (location i) (revision i) v i

def CheckedRefused (r : Fin n → ParcelMigrationPlan F × Status × ParcelMigrationReport) : Prop :=
  ∃ status failingRank, status.isOk = false ∧ ∀ i, (r i).2.1 = status ∧ (r i).2.2.status = status ∧
    (r i).2.2.lowestFailingRank = failingRank ∧ (r i).1.available = false ∧ (r i).1.candidates = []

variable {cells grid : Int3} {s : Fin n → ParcelMigrationPlan F} {input : Fin n → Span (ParcelMigrationValue F)}
  {location : Fin n → ParcelLocationProvider F} {revision : Fin n → Revision}

def sentStatus (s : Fin n → ParcelMigrationPlan F) (input : Fin n → Span (ParcelMigrationValue F))
    (location : Fin n → ParcelLocationProvider F) (revision : Fin n → Revision) (brought : Fin n → Status)
    (i : Fin n) : Status :=
  if (brought i).isOk then firstRefusal ((s i).checkSent (location i) (revision i)) (input i).values
  else brought i

lemma sentStatus_isOk (brought : Fin n → Status) (i : Fin n) :
    (sentStatus s input location revision brought i).isOk = true ↔
      (brought i).isOk = true ∧ ∀ v ∈ (input i).values, v.valid = true ∧ 0 ≤ ownerOf (s i) v ∧
        LocatedAt (location i) (revision i) v (ownerOf (s i) v) := by
  unfold sentStatus
  split_ifs with hbrought
  · simp only [firstRefusal_isOk, checkSent_isOk, hbrought, true_and]
  · exact ⟨fun h => absurd h hbrought, fun h => absurd h.1 hbrought⟩

def comparedStatus (s : Fin n → ParcelMigrationPlan F) (input : Fin n → Span (ParcelMigrationValue F))
    (revision : Fin n → Revision) (i : Fin n) : Status :=
  if ∀ j k, revision j = revision k then (s i).checkRequest (input i) (revision i)
  else invalidMigration MigrationDetail.staleRevision

lemma sendersAgree_iff :
    (∀ i, (sentStatus s input location revision (comparedStatus s input revision) i).isOk = true) ↔
      SendersAgree s input location revision := by
  simp only [sentStatus_isOk, comparedStatus]
  by_cases hsame : ∀ j k, revision j = revision k
  · simp only [if_pos hsame, checkRequest_isOk]
    constructor
    · intro h
      exact ⟨fun i => (h i).1.1, fun i => (h i).1.2.1, hsame, fun i => (h i).1.2.2,
        fun i v hv => ((h i).2 v hv).1, fun i v hv => ((h i).2 v hv).2.1, fun i v hv => ((h i).2 v hv).2.2⟩
    · intro h i
      exact ⟨⟨h.readable i, h.fits i, h.version i⟩, fun v hv => ⟨h.valid i v hv, h.owned i v hv, h.located i v hv⟩⟩
  · simp only [if_neg hsame]
    refine ⟨fun h => ?_, fun h => absurd h.agreed hsame⟩
    obtain ⟨j, -⟩ := not_forall.mp hsame
    exact absurd (h j).1 (by simp [invalidMigration])

lemma CheckedAccepted.senders (h : CheckedAccepted s input location revision) :
    SendersAgree s input location revision :=
  ⟨h.migration.readable, h.migration.fits, h.agreed, h.version,
    fun i v hv => h.migration.valid v (mem_handedIn.mpr ⟨i, hv⟩),
    fun i v hv => h.migration.owned i v (mem_handedIn.mpr ⟨i, hv⟩), h.sent⟩

omit [SprayReal F] in
lemma mem_offered (hg : PartitionOf cells n grid) (hs : ∀ i, Configured hsize cells grid i (s i))
    {r : Fin n → ParcelMigrationPlan F × ParcelMigrationReport}
    (hoffered : ∀ i : Fin n, (r i).1.offered = sortOn (·.parcel.id)
      (routed (fun j => (input j).values) (destinationOf cells grid n) i)) (i : Fin n)
    (v : ParcelMigrationValue F) :
    v ∈ (r i).1.offered ↔ v ∈ handedIn input ∧ ownerOf (s i) v = i := by
  rw [hoffered i, (sortOn_perm _ _).mem_iff, mem_routed, mem_handedIn, destinationOf_eq_iff hg v i.isLt,
    ownerOf, (hs i).globalCells, (hs i).processGrid]

lemma prepareChecked_run (hg : PartitionOf cells n grid) (hs : ∀ i, Configured hsize cells grid i (s i))
    (input : Fin n → Span (ParcelMigrationValue F)) (location : Fin n → ParcelLocationProvider F)
    (revision : Fin n → Revision) :
    ∃ trace r, (mpiJob hn).Run (fun i => (s i).prepareChecked (input i) (location i) (revision i)) trace
        (fun i => some (r i)) ∧ (∀ i, Configured hsize cells grid i (r i).1) ∧
      ((CheckedAccepted s input location revision ∧ CheckedMigrated s input location revision r) ∨
        (¬ CheckedAccepted s input location revision ∧ CheckedRefused r)) := by
  have hprogram : ∀ i, (s i).communicator = some (jobComm hsize i) := fun i => (hs i).communicator
  obtain ⟨trace₁, hclocks⟩ := compareClocks_run (F := F) hn
    (fun i => (s i).checkRequest (input i) (revision i)) revision
  obtain ⟨trace₂, hsent⟩ := migrationCollective_run hn hsize
    (sentStatus s input location revision (comparedStatus s input revision))
  by_cases hsenders : SendersAgree s input location revision
  · rw [consensusResult_ok (sendersAgree_iff.mpr hsenders)] at hsent
    obtain ⟨trace₃, r, hprepare, houtcome⟩ := prepare_run hn hsize hg hs input
    cases houtcome with
    | succeeded _ haccepted hplan hstatus hoffered =>
      have hlocal : ∀ i, ((s i).prepare (input i)).Local (fun _ _ => True) (some (r i)) :=
        hprepare.toLocal (fun _ _ => trivial)
      have hmember := mem_offered hsize hg hs hoffered
      have hcandidates : ∀ i, (r i).1.offered = (r i).1.candidates := fun i => prepare_offers (hlocal i)
      have hmigration := (accepted_iff hn hsize hg hs).mp haccepted
      obtain ⟨trace₄, hreceived⟩ := migrationCollective_run hn hsize fun i =>
        firstRefusal (checkReceived (jobComm hsize i) (location i) (revision i)) (r i).1.candidates
      have hlocated : (∀ i, (firstRefusal (checkReceived (jobComm hsize i) (location i) (revision i))
            (r i).1.candidates).isOk = true) ↔
          ∀ i : Fin n, ∀ v ∈ (r i).1.offered, LocatedAt (location i) (revision i) v i := by
        simp only [firstRefusal_isOk, checkReceived_isOk, hcandidates]
        rfl
      by_cases hall : ∀ i : Fin n, ∀ v ∈ (r i).1.offered, LocatedAt (location i) (revision i) v i
      · rw [consensusResult_ok (hlocated.mpr hall)] at hreceived
        refine ⟨trace₁ ++ (trace₂ ++ (trace₃ ++ (trace₄ ++ []))), fun i => ((r i).1, {}, (r i).2), ?_, hplan,
          .inl ⟨⟨hmigration, hsenders.agreed, hsenders.version, hsenders.located,
              fun i v hv howner => hall i v ((hmember i v).mpr ⟨hv, howner⟩)⟩,
            ⟨fun _ => rfl, migrated_of_succeeded hn hsize hg hs haccepted hstatus hoffered, hsenders.agreed,
              hsenders.located, hall⟩⟩⟩
        simp only [prepareChecked, hprogram, prepare_discard]
        refine Network.Run.bind hclocks (Network.Run.bind hsent (Network.Run.bind hprepare ?_))
        simp only [hstatus]
        exact Network.Run.bind hreceived (.done _)
      · obtain ⟨k, hk, -, hresult⟩ := consensusResult_failed (mt hlocated.mp hall)
        rw [hresult] at hreceived
        refine ⟨trace₁ ++ (trace₂ ++ (trace₃ ++ (trace₄ ++ []))),
          fun i => (r i).1.withdraw _ (k : ℕ), ?_, fun i => (hplan i).discard,
          .inr ⟨fun h => hall fun i v hv => ?_, _, _, hk, fun i => ⟨rfl, rfl, rfl, rfl, rfl⟩⟩⟩
        · simp only [prepareChecked, hprogram, prepare_discard]
          refine Network.Run.bind hclocks (Network.Run.bind hsent (Network.Run.bind hprepare ?_))
          simp only [hstatus]
          exact Network.Run.bind hreceived (.done _)
        · exact h.received i v ((hmember i v).mp hv).1 ((hmember i v).mp hv).2
    | failed e hrefused hfailure =>
      refine ⟨trace₁ ++ (trace₂ ++ (trace₃ ++ [])),
        fun i => ((s i).discard, e.1, { status := e.1, lowestFailingRank := e.2 }), ?_, fun i => (hs i).discard,
        .inr ⟨fun h => hrefused ((accepted_iff hn hsize hg hs).mpr h.migration), e.1, e.2, hfailure.1,
          fun i => ⟨rfl, rfl, rfl, rfl, rfl⟩⟩⟩
      simp only [prepareChecked, hprogram, prepare_discard]
      refine Network.Run.bind hclocks (Network.Run.bind hsent (Network.Run.bind hprepare ?_))
      simp only [hfailure.1]
      exact .done _
  · obtain ⟨k, hk, -, hresult⟩ := consensusResult_failed (mt sendersAgree_iff.mp hsenders)
    rw [hresult] at hsent
    refine ⟨trace₁ ++ (trace₂ ++ []), fun i => (s i).withdraw _ (k : ℕ), ?_, fun i => (hs i).discard,
      .inr ⟨fun h => hsenders h.senders, _, _, hk, fun i => ⟨rfl, rfl, rfl, rfl, rfl⟩⟩⟩
    simp only [prepareChecked, hprogram]
    exact Network.Run.bind hclocks (Network.Run.bind hsent (.done _))

lemma prepareChecked_unconfigured (h : Unconfigured s) (input : Fin n → Span (ParcelMigrationValue F))
    (location : Fin n → ParcelLocationProvider F) (revision : Fin n → Revision) :
    (mpiJob hn).Run (fun i => (s i).prepareChecked (input i) (location i) (revision i)) []
      (fun i => some ((s i).discard, ({} : ParcelMigrationReport).status, {})) := by
  have hprogram : ∀ i, (s i).communicator = none := h
  simp only [prepareChecked, hprogram]
  exact .done _

lemma checkedReachable_configured (h : CheckedReachable hn hsize s) : JobConfigured hsize s := by
  have : Nonempty (Fin n) := ⟨⟨0, hn⟩⟩
  induction h with
  | initial => exact .inl fun _ => rfl
  | configure s input trace r _ hrun ih => exact ih.configure hn hsize hrun
  | prepare s input trace r _ hrun ih => exact ih.prepare hn hsize hrun
  | prepareChecked s input location revision trace r _ hrun ih =>
    cases ih with
    | inl hnone =>
      have hsame := ((prepareChecked_unconfigured hn hnone input location revision).unique hrun).2
      have hr := fun i => some.inj (congrFun hsame i)
      refine .inl fun i => ?_
      have hplan : (r i).1 = (s i).discard := (congrArg Prod.fst (hr i)).symm
      exact (congrArg ParcelMigrationPlan.communicator hplan).trans (hnone i)
    | inr hconf =>
      obtain ⟨cells, grid, hg, hs⟩ := hconf
      obtain ⟨trace', r', hrun', hplan, -⟩ := prepareChecked_run hn hsize hg hs input location revision
      have hsame := (hrun'.unique hrun).2
      have hr : r' = r := funext fun i => some.inj (congrFun hsame i)
      exact .inr ⟨cells, grid, hg, hr ▸ hplan⟩
  | discard s rank _ ih => exact ih.discard hsize rank

/-- After any calls of a job, a checked migration has one result. When nothing speaks against it, on
either side of the exchange, all ranks offer what was handed in. Otherwise all ranks fail with one
status and one failing rank, and no rank has candidates. -/
theorem checked_migration_located (hs : CheckedReachable hn hsize s) (input : Fin n → Span (ParcelMigrationValue F))
    (location : Fin n → ParcelLocationProvider F) (revision : Fin n → Revision) :
    ∃ trace r, (mpiJob hn).Run (fun i => (s i).prepareChecked (input i) (location i) (revision i)) trace
        (fun i => some (r i)) ∧
      (∀ trace' r', (mpiJob hn).Run (fun i => (s i).prepareChecked (input i) (location i) (revision i)) trace' r' →
        r' = fun i => some (r i)) ∧
      ((CheckedAccepted s input location revision ∧ CheckedMigrated s input location revision r) ∨
        (¬ CheckedAccepted s input location revision ∧ CheckedRefused r)) := by
  have : Nonempty (Fin n) := ⟨⟨0, hn⟩⟩
  cases checkedReachable_configured hn hsize hs with
  | inl hnone =>
    have hrun := prepareChecked_unconfigured hn hnone input location revision
    refine ⟨_, _, hrun, fun _ _ hrun' => (hrun.unique hrun').2.symm, .inr ⟨fun h => ?_, ?_⟩⟩
    · exact h.migration.configured ⟨0, hn⟩ (hnone _)
    · exact ⟨⟨.invalidPlan, MigrationDetail.invalidPlan⟩, -1, rfl, fun i => ⟨rfl, rfl, rfl, rfl, rfl⟩⟩
  | inr hconfigured =>
    obtain ⟨cells, grid, hg, hplan⟩ := hconfigured
    obtain ⟨trace, r, hrun, -, houtcome⟩ := prepareChecked_run hn hsize hg hplan input location revision
    exact ⟨trace, r, hrun, fun _ _ hrun' => (hrun.unique hrun').2.symm, houtcome⟩

end Job

/-- The parcel of rank `i`, which lies in the cell of the other rank and says so. -/
def locatedParcel (i : Fin 2) : ParcelMigrationValue ℕ :=
  { swapParcel i with parcel := { (swapParcel i).parcel with position := ⟨1 - i, 0, 0⟩ } }

/-- The cells of two ranks have width one and lie along the first axis. -/
def unitLocation (position : Vector3 ℕ) (revision : Revision) : Except Status ParcelLocation :=
  .ok ⟨revision, position.x, position.x⟩

theorem checked_migration_located_swap :
    ∃ (s : Fin 2 → ParcelMigrationPlan ℕ) (r : Fin 2 → ParcelMigrationPlan ℕ × Status × ParcelMigrationReport),
      CheckedMigrated s (fun i => .of [locatedParcel i]) (fun _ => unitLocation) (fun _ => ⟨5, 2, 1⟩) r := by
  have haccepted : ConfigureAccepted (by decide) swapConfigure :=
    ⟨by decide +kernel, by decide +kernel, by decide⟩
  obtain ⟨trace, r, hrun, houtcome⟩ :=
    configure_run (F := ℕ) (by decide : 0 < 2) (by decide) (fun _ => {}) swapConfigure
  have hreachable := CheckedReachable.configure _ _ _ _ .initial hrun
  have hinstalled : r = fun i => ((swapConfigure i).install (jobComm (by decide) i), {}) := by
    cases houtcome with
    | installed => rfl
    | failed _ h => exact absurd haccepted h
  subst hinstalled
  obtain ⟨trace', r, -, -, houtcome⟩ := checked_migration_located (by decide) (by decide) hreachable
    (fun i => .of [locatedParcel i]) (fun _ => unitLocation) (fun _ => ⟨5, 2, 1⟩)
  have hhanded : handedIn (fun i : Fin 2 => .of [locatedParcel i]) = {locatedParcel 0, locatedParcel 1} := by
    decide
  cases houtcome with
  | inl hmigrated => exact ⟨_, r, hmigrated.2⟩
  | inr hrefused =>
    refine absurd ⟨⟨fun i => by simp [ConfigureInput.install], fun i h => ?_, fun i => ?_, ?_, ?_, ?_, ?_, ?_⟩,
      fun _ _ => rfl, fun _ => rfl, ?_, ?_⟩ hrefused.1
    · exact absurd h (by simp [Span.isNull])
    · exact (by decide : 1 ≤ 4)
    all_goals try rw [hhanded]
    all_goals decide +kernel

end HundunFlow.Proofs
