import HundunFlow.ParcelMigration

/-!
# Checked migration

`prepare_checked` asks the geometry twice: every sender locates what it hands in before the
exchange, and every receiver locates what has arrived. Both times the ranks agree on the answer.
-/

namespace HundunFlow

open Lib

def MigrationDetail.locationMismatch : UInt32 := 26107

/-- `ParcelLocationProvider::locate` of one rank. -/
abbrev ParcelLocationProvider (F : Type) := Vector3 F → Revision → Except Status ParcelLocation

/-- The status of the first value that a loop with `break` refuses. -/
def firstRefusal {α : Type} (check : α → Status) : List α → Status
  | [] => {}
  | value :: rest => if (check value).isOk then firstRefusal check rest else check value

namespace ParcelMigrationPlan

variable {F : Type}

def checkLocation (location : ParcelLocationProvider F) (revision : Revision)
    (misplaced : ParcelLocation → Bool) (value : ParcelMigrationValue F) : Status :=
  match location value.parcel.position revision with
  | .error _ => invalidMigration MigrationDetail.locationUnavailable
  | .ok located =>
    if located.revision ≠ revision then invalidMigration MigrationDetail.staleRevision
    else if located.globalCell ≠ value.parcel.ownerGlobalCell.toNat || misplaced located then
      invalidMigration MigrationDetail.locationMismatch
    else {}

/-- What the first loop asks of a value that is handed in. -/
def checkSent [SprayReal F] (plan : ParcelMigrationPlan F) (location : ParcelLocationProvider F)
    (revision : Revision) (value : ParcelMigrationValue F) : Status :=
  if !value.valid then invalidMigration MigrationDetail.invalidValue
  else
    checkLocation location revision
      (fun located => located.ownerRank < 0 ||
        located.ownerRank ≠ owner plan.globalCells plan.processGrid located.globalCell) value

/-- What the second loop asks of a candidate. -/
def checkReceived (comm : RankComm) (location : ParcelLocationProvider F) (revision : Revision) :
    ParcelMigrationValue F → Status :=
  checkLocation location revision fun located => located.ownerRank ≠ comm.rank

def clockOf (revision : Revision) : List ℕ :=
  [revision.acceptedStep, revision.inputRevision, revision.algorithmVersion]

/-- The comparison of the clocks, with the status of the rank before and after it. A failed
reduction leaves zeros in its buffer, and a difference replaces every other status. -/
def compareClocks (brought : Status) (revision : Revision) : JobProg (Lane F) Unit Status :=
  (Job.allreduceMany .min (clockOf revision)).bind fun
  | none => .done migrationMpiFailure
  | some minimum =>
    (Job.allreduceMany .max (clockOf revision)).bind fun
    | none =>
      .done (if minimum ≠ [0, 0, 0] then invalidMigration MigrationDetail.staleRevision
        else migrationMpiFailure)
    | some maximum =>
      .done (if minimum ≠ maximum then invalidMigration MigrationDetail.staleRevision else brought)

def checkRequest (plan : ParcelMigrationPlan F) (input : Span (ParcelMigrationValue F))
    (revision : Revision) : Status :=
  if (input.size ≠ 0 && input.isNull) || plan.localCapacity < input.size ||
      revision.algorithmVersion ≠ 1 then
    invalidMigration MigrationDetail.invalidPlan
  else {}

section Checked

variable [SprayReal F]

/-- What `prepare_checked` leaves on a rank that fails. -/
def withdraw (plan : ParcelMigrationPlan F) (status : Status) (failingRank : ℤ) :
    ParcelMigrationPlan F × Status × ParcelMigrationReport :=
  (plan.discard, status, { status := status, lowestFailingRank := failingRank })

/-- The second half of `prepare_checked`: a receiver's geometry must agree too. -/
def confirmReceived (plan : ParcelMigrationPlan F) (comm : RankComm) (location : ParcelLocationProvider F)
    (revision : Revision) (report : ParcelMigrationReport) :
    JobProg (Lane F) Unit (Option (ParcelMigrationPlan F × Status × ParcelMigrationReport)) :=
  (migrationCollective comm (firstRefusal (checkReceived comm location revision) plan.candidates)).bind fun
  | .fault => .done none
  | .failed (status, failingRank) => .done (some (plan.withdraw status failingRank))
  | .ok _ => .done (some (plan, {}, report))

/-- What `prepare_checked` does on one rank: the plan, the status it returns and the report. -/
def prepareChecked (plan : ParcelMigrationPlan F) (input : Span (ParcelMigrationValue F))
    (location : ParcelLocationProvider F) (revision : Revision) :
    JobProg (Lane F) Unit (Option (ParcelMigrationPlan F × Status × ParcelMigrationReport)) :=
  match plan.communicator with
  | none => .done (some (plan.discard, ({} : ParcelMigrationReport).status, {}))
  | some comm =>
    (compareClocks (plan.checkRequest input revision) revision).bind fun brought =>
    (migrationCollective comm
      (if brought.isOk then firstRefusal (plan.checkSent location revision) input.values else brought)).bind fun
    | .fault => .done none
    | .failed (status, failingRank) => .done (some (plan.withdraw status failingRank))
    | .ok _ =>
      (plan.discard.prepare input).bind fun
      | none => .done none
      | some (prepared, report) =>
        if !report.status.isOk then .done (some (prepared, report.status, report))
        else prepared.confirmReceived comm location revision report

end Checked

end ParcelMigrationPlan

/-- The plans of a job of `n` ranks after any sequence of calls, checked migrations among them. -/
inductive CheckedReachable {F : Type} [SprayReal F] {n : ℕ} (hn : 0 < n) (hsize : n < 2 ^ 31) :
    (Fin n → ParcelMigrationPlan F) → Prop where
  | initial : CheckedReachable hn hsize fun _ => {}
  | configure (s : Fin n → ParcelMigrationPlan F) (input : Fin n → ParcelMigrationPlan.ConfigureInput)
      (trace : List JobSignature) (r : Fin n → ParcelMigrationPlan F × Status)
      (h : CheckedReachable hn hsize s)
      (hrun : (mpiJob hn).Run (fun i => (s i).configure (some (jobComm hsize i)) (input i)) trace
        fun i => some (r i)) : CheckedReachable hn hsize fun i => (r i).1
  | prepare (s : Fin n → ParcelMigrationPlan F) (input : Fin n → Span (ParcelMigrationValue F))
      (trace : List JobSignature) (r : Fin n → ParcelMigrationPlan F × ParcelMigrationReport)
      (h : CheckedReachable hn hsize s)
      (hrun : (mpiJob hn).Run (fun i => (s i).prepare (input i)) trace fun i => some (r i)) :
      CheckedReachable hn hsize fun i => (r i).1
  | prepareChecked (s : Fin n → ParcelMigrationPlan F) (input : Fin n → Span (ParcelMigrationValue F))
      (location : Fin n → ParcelLocationProvider F) (revision : Fin n → Revision)
      (trace : List JobSignature) (r : Fin n → ParcelMigrationPlan F × Status × ParcelMigrationReport)
      (h : CheckedReachable hn hsize s)
      (hrun : (mpiJob hn).Run (fun i => (s i).prepareChecked (input i) (location i) (revision i)) trace
        fun i => some (r i)) : CheckedReachable hn hsize fun i => (r i).1
  | discard (s : Fin n → ParcelMigrationPlan F) (rank : Fin n) (h : CheckedReachable hn hsize s) :
      CheckedReachable hn hsize (Function.update s rank (s rank).discard)

end HundunFlow
