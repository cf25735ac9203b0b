import HundunFlow.CellOwnership
import HundunFlow.ScatterExchange
import HundunFlow.Lib.Sorting

/-!
# Parcel migration

Sends every parcel to the rank that owns its cell. A first exchange delivers the parcels, a
second one sends the identities to auditors, who look for duplicates. Every phase ends with a
consensus, so that all ranks go on or none.
-/

namespace HundunFlow

open Lib

structure SgsBreakupHistory (F : Type) where
  meanDissipation : F
  dissipationAge : F
  meanRate : F
  rateAge : F
  poissonMultiplier : UInt8
  deriving DecidableEq

structure PersistentSgsBreakupState (F : Type) where
  version : UInt64
  history : SgsBreakupHistory F
  deriving DecidableEq

structure ParcelMigrationValue (F : Type) where
  parcel : SprayParcelState F
  tabDeformation : F
  tabDeformationRate : F
  breakupOrdinal : UInt64
  sgs : PersistentSgsBreakupState F
  deriving DecidableEq

/-- `kParcelMigrationWireLanes`. -/
def kLanes : ℕ := 24

section Wire

variable {F : Type}

def encodeSgsState (state : PersistentSgsBreakupState F) : List (Lane F) :=
  [.word state.version.toNat, .real state.history.meanDissipation, .real state.history.dissipationAge,
    .real state.history.meanRate, .real state.history.rateAge, .word state.history.poissonMultiplier.toNat]

def decodeSgsState : List (Lane F) → Option (PersistentSgsBreakupState F)
  | [.word version, .real meanDissipation, .real dissipationAge, .real meanRate, .real rateAge,
      .word poisson] =>
    some ⟨UInt64.ofNat version, ⟨meanDissipation, dissipationAge, meanRate, rateAge,
      if poisson ≤ 7 then UInt8.ofNat poisson else 8⟩⟩
  | _ => none

namespace ParcelMigrationValue

def encode (value : ParcelMigrationValue F) : List (Lane F) :=
  let p := value.parcel
  [.word p.id.high.toNat, .word p.id.low.toNat,
    .real p.position.x, .real p.position.y, .real p.position.z,
    .real p.velocity.x, .real p.velocity.y, .real p.velocity.z,
    .real p.dropletMass, .real p.dropletDiameter, .real p.multiplicity, .real p.temperature,
    .word p.liquidMaterialFingerprint.toNat, .word p.ownerGlobalCell.toNat, .real p.age,
    .real value.tabDeformation, .real value.tabDeformationRate, .word value.breakupOrdinal.toNat] ++
    encodeSgsState value.sgs

def decode : List (Lane F) → Option (ParcelMigrationValue F)
  | .word high :: .word low :: .real px :: .real py :: .real pz :: .real vx :: .real vy :: .real vz ::
      .real mass :: .real diameter :: .real multiplicity :: .real temperature :: .word fingerprint ::
      .word cell :: .real age :: .real deformation :: .real rate :: .word ordinal :: sgs =>
    (decodeSgsState sgs).map fun sgs =>
      { parcel :=
          { id := ⟨UInt64.ofNat high, UInt64.ofNat low⟩, position := ⟨px, py, pz⟩, velocity := ⟨vx, vy, vz⟩
            dropletMass := mass, dropletDiameter := diameter, multiplicity := multiplicity
            temperature := temperature, liquidMaterialFingerprint := UInt64.ofNat fingerprint
            ownerGlobalCell := UInt64.ofNat cell, age := age }
        tabDeformation := deformation, tabDeformationRate := rate, breakupOrdinal := UInt64.ofNat ordinal
        sgs := sgs }
  | _ => none

end ParcelMigrationValue

def encodeId (id : ParcelId) : List (Lane F) := [.word id.high.toNat, .word id.low.toNat]

def decodeId : List (Lane F) → Option ParcelId
  | [.word high, .word low] => some ⟨UInt64.ofNat high, UInt64.ofNat low⟩
  | _ => none

end Wire

section Validation

variable {F : Type} [SprayReal F]

/-- What the loop of `valid_sgs_state` asks of each number. -/
def validSgsNumber (version : UInt64) (value : F) : Bool :=
  SprayReal.isFinite value && !SprayReal.lt value SprayReal.zero &&
    !(version = 0 && (SprayReal.lt value SprayReal.zero || SprayReal.lt SprayReal.zero value))

def validSgsState (state : PersistentSgsBreakupState F) : Bool :=
  let h := state.history
  !(1 < state.version || 7 < h.poissonMultiplier) &&
    [h.meanDissipation, h.dissipationAge, h.meanRate, h.rateAge].all (validSgsNumber state.version) &&
    (state.version = 1 || h.poissonMultiplier = 0)

def ParcelMigrationValue.valid (value : ParcelMigrationValue F) : Bool :=
  validateParcelState value.parcel && SprayReal.isFinite value.tabDeformation &&
    SprayReal.isFinite value.tabDeformationRate && validSgsState value.sgs

end Validation

structure ParcelMigrationPlan (F : Type) where
  /-- none before a successful `configure`. -/
  communicator : Option RankComm := none
  globalCells : Int3 := ⟨0, 0, 0⟩
  processGrid : Int3 := ⟨0, 0, 0⟩
  localCapacity : ℕ := 0
  auditCapacity : ℕ := 0
  sendWire : List (Lane F) := []
  receiveWire : List (Lane F) := []
  auditWire : List (Lane F) := []
  candidates : List (ParcelMigrationValue F) := []
  available : Bool := false

structure ParcelMigrationReport where
  status : Status := ⟨.invalidPlan, MigrationDetail.invalidPlan⟩
  available : Bool := false
  lowestFailingRank : ℤ := -1
  inputParcels : ℕ := 0
  outputParcels : ℕ := 0
  outgoingParcels : ℕ := 0
  incomingParcels : ℕ := 0
  globalParcels : ℕ := 0
  deriving DecidableEq

/-- `invalid`. -/
def invalidMigration (detail : UInt32) : Status := ⟨.invalidPlan, detail⟩

def migrationMpiFailure : Status := ⟨.mpiFailure, MigrationDetail.communicationFailure⟩

abbrev MigrationStage (F α : Type) := ScatterStage F (Status × ℤ) α

def statusOfLanes {F : Type} : List (Lane F) → Option Status
  | [.word code, .word detail] => Status.ofWire [code, detail]
  | _ => none

/-- `collective`. -/
def migrationCollective {F : Type} (comm : RankComm) (brought : Status) : MigrationStage F Unit :=
  (Job.allreduce .min (if brought.isOk then maxInt else comm.rank)).bind fun
  | none => .done (.failed (migrationMpiFailure, -1))
  | some first =>
    if first = maxInt then .done (.ok ())
    else
      (Job.bcast first [.word brought.code.toWire, .word brought.detail.toNat]).bind fun
      | none => .done (.failed (migrationMpiFailure, first))
      | some wire =>
        match statusOfLanes wire with
        | none => .done .fault
        | some status => .done (.failed (status, first))

namespace ParcelMigrationPlan

variable {F : Type}

def destinationOf (globalCells processGrid : Int3) (ranks : ℕ) (value : ParcelMigrationValue F) : ℕ :=
  subscript ranks (owner globalCells processGrid value.parcel.ownerGlobalCell.toNat)

def auditor (ranks : ℕ) (id : ParcelId) : ℕ := (id.high ^^^ id.low).toNat % ranks

/-- The start of the loop in `counts`: the count must fit into what is left. -/
def countRefused (capacity r receives : ℕ) : Bool := capacity - min capacity receives < r

/-- The end of the loop in `counts`: neither sum may exceed its limit. -/
def sumsRefused (capacity lanes sends receives : ℕ) : Bool :=
  maxInt / lanes < sends || capacity < receives || maxInt / lanes < receives

/-- `counts`: the layout of an exchange, and how many items arrive. -/
def counts (comm : RankComm) (capacity lanes : ℕ) (sendCounts : List ℕ) :
    MigrationStage F (List Slot × ℕ) :=
  exchangeCounts (migrationMpiFailure, -1) (migrationCollective comm) {}
    (invalidMigration MigrationDetail.capacityExceeded) lanes (countRefused capacity)
    (sumsRefused capacity lanes) sendCounts

/-- The arguments of `configure` on one rank, and whether its allocations succeed. -/
structure ConfigureInput where
  cells : Int3
  patch : MeshPatch
  maximumLocal : ℕ
  maximumAudit : ℕ
  allocates : Bool

/-- The local checks of `configure`. -/
def ConfigureInput.check (input : ConfigureInput) (comm : RankComm) : Status :=
  match makeMeshPatch comm.rank comm.size input.cells with
  | .error _ => invalidMigration MigrationDetail.invalidPlan
  | .ok authoritative =>
    if input.patch ≠ authoritative || maxInt / kLanes < input.maximumLocal ||
        maxInt / 2 < input.maximumAudit then
      invalidMigration MigrationDetail.invalidPlan
    else {}

/-- The box as the ranks compare it. The numbers are positive when the check has passed. -/
def ConfigureInput.dimensions (input : ConfigureInput) : List ℕ :=
  [input.cells.x.toNat, input.cells.y.toNat, input.cells.z.toNat]

/-- The plan `configure` installs. One sentinel word makes an empty buffer a valid address. -/
def ConfigureInput.install (input : ConfigureInput) (comm : RankComm) : ParcelMigrationPlan F where
  communicator := some comm
  globalCells := input.cells
  processGrid := input.patch.processGrid
  localCapacity := input.maximumLocal
  auditCapacity := input.maximumAudit
  sendWire := List.replicate (max 1 (input.maximumLocal * kLanes)) (.word 0)
  receiveWire := List.replicate (max 1 (input.maximumLocal * kLanes)) (.word 0)
  auditWire := List.replicate (max 1 (input.maximumAudit * 2)) (.word 0)

/-- All ranks must name one box. -/
def ConfigureInput.compare (input : ConfigureInput) : MigrationStage F Unit :=
  compareAll (migrationMpiFailure, -1) (invalidMigration MigrationDetail.invalidPlan, -1) input.dimensions

def ConfigureInput.allocate (input : ConfigureInput) : Status :=
  if input.allocates then {} else ⟨.allocationFailure, MigrationDetail.allocationFailure⟩

def configurePhases (comm : RankComm) (input : ConfigureInput) : MigrationStage F Unit :=
  (migrationCollective comm (input.check comm)).andThen fun _ =>
  input.compare.andThen fun _ => migrationCollective comm input.allocate

/-- What `configure` does on one rank. A failure preserves the old plan. -/
def configure (plan : ParcelMigrationPlan F) (communicator : Option RankComm) (input : ConfigureInput) :
    JobProg (Lane F) Unit (Option (ParcelMigrationPlan F × Status)) :=
  match communicator with
  | none => .done (some (plan, invalidMigration MigrationDetail.invalidPlan))
  | some comm =>
    (configurePhases comm input).bind fun
    | .fault => .done none
    | .failed (status, _) => .done (some (plan, status))
    | .ok _ => .done (some (input.install comm, {}))

section Prepare

variable [SprayReal F]

def inputLoop (plan : ParcelMigrationPlan F) (comm : RankComm) :
    List (ParcelMigrationValue F) → List ℕ → ℕ → Option (Status × List ℕ × ℕ)
  | [], sendCounts, outgoing => some ({}, sendCounts, outgoing)
  | value :: rest, sendCounts, outgoing =>
    if !value.valid then some (invalidMigration MigrationDetail.invalidValue, sendCounts, outgoing)
    else
      let destination := owner plan.globalCells plan.processGrid value.parcel.ownerGlobalCell.toNat
      if destination < 0 then some (invalidMigration MigrationDetail.invalidOwner, sendCounts, outgoing)
      else
        match sendCounts[destination.toNat]? with
        | none => none
        | some count =>
          plan.inputLoop comm rest (sendCounts.set destination.toNat (count + 1))
            (if destination ≠ comm.rank then outgoing + 1 else outgoing)

def scanInput (plan : ParcelMigrationPlan F) (comm : RankComm) (input : Span (ParcelMigrationValue F)) :
    Option (Status × List ℕ × ℕ) :=
  let zeros := List.replicate comm.size 0
  if (input.size ≠ 0 && input.isNull) || plan.localCapacity < input.size then
    some (invalidMigration MigrationDetail.capacityExceeded, zeros, 0)
  else plan.inputLoop comm input.values zeros 0

def candidateLoop (plan : ParcelMigrationPlan F) (comm : RankComm) :
    List (List (Lane F)) → List ℕ → Option (Status × List ℕ × List (ParcelMigrationValue F))
  | [], sendCounts => some ({}, sendCounts, [])
  | row :: rest, sendCounts =>
    match ParcelMigrationValue.decode row with
    | none => none
    | some value =>
      if !value.valid ||
          owner plan.globalCells plan.processGrid value.parcel.ownerGlobalCell.toNat ≠ comm.rank then
        some (invalidMigration MigrationDetail.invalidOwner, sendCounts, [value])
      else
        match sendCounts[auditor comm.size value.parcel.id]? with
        | none => none
        | some count =>
          (plan.candidateLoop comm rest (sendCounts.set (auditor comm.size value.parcel.id) (count + 1))).map
            fun (status, counts, values) => (status, counts, value :: values)

def auditIds (auditWire : List (Lane F)) (audited : ℕ) : Option (Status × Unit) :=
  ((rows 2 auditWire audited).mapM decodeId).map fun ids =>
    (if adjacentEqual (sortOn id ids) then invalidMigration MigrationDetail.duplicateId else {}, ())

def exchangePhase {α : Type} (comm : RankComm) (capacity lanes : ℕ) (sendCounts : List ℕ) :
    (destination : α → ℕ) → (encode : α → List (Lane F)) → (items : List α) →
      (send receive : List (Lane F)) → MigrationStage F (Exchanged F) :=
  exchangeItems (migrationMpiFailure, -1) (counts comm capacity lanes sendCounts) lanes

/-- The sums over all ranks of the parcels handed in and of the parcels received. -/
def totalsPhase (input received : ℕ) : MigrationStage F ℕ :=
  (Job.allreduceSum [input, received]).bind fun
  | none => .done (.failed (migrationMpiFailure, -1))
  | some totals =>
    if totals.getD 0 0 ≠ totals.getD 1 0 then
      .done (.failed (invalidMigration MigrationDetail.invalidOwner, -1))
    else .done (.ok (totals.getD 0 0))

/-- What `prepare` leaves of the plan and reports when it succeeds. -/
structure Prepared (F : Type) where
  sendWire : List (Lane F)
  receiveWire : List (Lane F)
  auditWire : List (Lane F)
  candidates : List (ParcelMigrationValue F)
  report : ParcelMigrationReport

/-- `prepare` from the received parcels on. -/
def auditPhases (plan : ParcelMigrationPlan F) (comm : RankComm) (inputSize outgoing : ℕ)
    (delivery : Exchanged F) : MigrationStage F (Prepared F) :=
  (settle (migrationCollective comm) (plan.candidateLoop comm (rows kLanes delivery.receive delivery.received)
    (List.replicate comm.size 0))).andThen fun (sendCounts, candidates) =>
  (exchangePhase comm plan.auditCapacity 2 sendCounts (auditor comm.size) encodeId
    (candidates.map (·.parcel.id)) delivery.send plan.auditWire).andThen fun audit =>
  (settle (migrationCollective comm) (auditIds audit.receive audit.received)).andThen fun _ =>
  (totalsPhase inputSize delivery.received).andThen fun globalParcels =>
  .done (.ok
    { sendWire := audit.send, receiveWire := delivery.receive, auditWire := audit.receive
      candidates := sortOn (·.parcel.id) candidates
      report :=
        { status := {}, available := true, inputParcels := inputSize
          outputParcels := delivery.received, outgoingParcels := outgoing
          incomingParcels :=
            delivery.received - (delivery.slots.map (·.receiveCount)).getD comm.rank 0 / kLanes
          globalParcels := globalParcels } })

/-- The phases of `prepare`. -/
def preparePhases (plan : ParcelMigrationPlan F) (comm : RankComm) (input : Span (ParcelMigrationValue F)) :
    MigrationStage F (Prepared F) :=
  (settle (migrationCollective comm) (plan.scanInput comm input)).andThen fun (sendCounts, outgoing) =>
  (exchangePhase comm plan.localCapacity kLanes sendCounts
    (destinationOf plan.globalCells plan.processGrid comm.size) ParcelMigrationValue.encode input.values
    plan.sendWire plan.receiveWire).andThen fun delivery =>
  plan.auditPhases comm input.size outgoing delivery

/-- `discard`. -/
def discard (plan : ParcelMigrationPlan F) : ParcelMigrationPlan F :=
  { plan with available := false, candidates := [] }

def offered (plan : ParcelMigrationPlan F) : List (ParcelMigrationValue F) :=
  if plan.available then plan.candidates else []

/-- What `prepare` does on one rank; a fault has no result. The buffers of a plan that failed
keep their sizes, and nobody reads their words. -/
def prepare (plan : ParcelMigrationPlan F) (input : Span (ParcelMigrationValue F)) :
    JobProg (Lane F) Unit (Option (ParcelMigrationPlan F × ParcelMigrationReport)) :=
  match plan.communicator with
  | none => .done (some (plan.discard, {}))
  | some comm =>
    (plan.discard.preparePhases comm input).bind fun
    | .fault => .done none
    | .failed (status, failingRank) =>
      .done (some (plan.discard, { status := status, lowestFailingRank := failingRank }))
    | .ok done =>
      .done (some
        ({ plan with
            sendWire := done.sendWire, receiveWire := done.receiveWire, auditWire := done.auditWire
            candidates := done.candidates, available := true }, done.report))

end Prepare

end ParcelMigrationPlan

/-- The plans of a job of `n` ranks after any sequence of calls on its communicator. -/
inductive MigrationReachable {F : Type} [SprayReal F] {n : ℕ} (hn : 0 < n) (hsize : n < 2 ^ 31) :
    (Fin n → ParcelMigrationPlan F) → Prop where
  | initial : MigrationReachable hn hsize fun _ => {}
  | configure (s : Fin n → ParcelMigrationPlan F) (input : Fin n → ParcelMigrationPlan.ConfigureInput)
      (trace : List JobSignature) (r : Fin n → ParcelMigrationPlan F × Status)
      (h : MigrationReachable hn hsize s)
      (hrun : (mpiJob hn).Run (fun i => (s i).configure (some (jobComm hsize i)) (input i)) trace
        fun i => some (r i)) : MigrationReachable hn hsize fun i => (r i).1
  | prepare (s : Fin n → ParcelMigrationPlan F) (input : Fin n → Span (ParcelMigrationValue F))
      (trace : List JobSignature) (r : Fin n → ParcelMigrationPlan F × ParcelMigrationReport)
      (h : MigrationReachable hn hsize s)
      (hrun : (mpiJob hn).Run (fun i => (s i).prepare (input i)) trace fun i => some (r i)) :
      MigrationReachable hn hsize fun i => (r i).1
  | discard (s : Fin n → ParcelMigrationPlan F) (rank : Fin n) (h : MigrationReachable hn hsize s) :
      MigrationReachable hn hsize (Function.update s rank (s rank).discard)

end HundunFlow
