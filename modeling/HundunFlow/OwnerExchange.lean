import HundunFlow.ExchangeSegment

/-!
# Exchange with cell owners

Delivers exchange rows to the owners of their cells. A first exchange gathers the rows of each
stencil at one auditor, who checks it as a whole; a second one delivers the rows. Both use the
same buffers, with different capacities.
-/

namespace HundunFlow

open Lib

/-- What the exchange code does with a `double`, and with the `long double` it adds weights in. -/
class ExchangeReal (F : Type) where
  isFinite : F → Bool
  zero : F
  one : F
  lt : F → F → Bool
  equal : F → F → Bool
  Long : Type
  longZero : Long
  /-- The sum with a weight. -/
  longAdd : Long → F → Long
  /-- `abs(sum - 1) > 32 * epsilon`. -/
  farFromOne : Long → Bool

/-- Exact arithmetic, in which every number is finite. -/
instance exactExchange {F : Type} [Field F] [LinearOrder F] : ExchangeReal F where
  isFinite _ := true
  zero := 0
  one := 1
  lt a b := a < b
  equal a b := a = b
  Long := F
  longZero := 0
  longAdd sum weight := sum + weight
  farFromOne sum := 32 / 2 ^ 52 < |sum - 1|

abbrev OwnerStage (F α : Type) := ScatterStage F Portable.Status α

structure OwnerExchangeRoutingPlan (F : Type) where
  /-- none before a successful `configure`. -/
  comm : Option RankComm := none
  global : Int3 := ⟨0, 0, 0⟩
  grid : Int3 := ⟨0, 0, 0⟩
  localCapacity : ℕ := 0
  auditCapacity : ℕ := 0
  species : ℕ := 0
  ownedBytes : ℕ := 0
  generation : ℕ := 0
  revision : Revision := {}
  send : List (Lane F) := []
  receive : List (Lane F) := []
  /-- The size of the array of rows. -/
  valuesSize : ℕ := 0
  /-- The rows the array holds for the caller. -/
  values : List (ExchangeSegment F) := []
  available : Bool := false

/-- A borrowed certificate for delivered rows. -/
structure RoutedExchangeSegments (F : Type) where
  data : List (ExchangeSegment F)
  revision : Revision
  capturedGeneration : ℕ
  deriving DecidableEq

namespace OwnerExchangeRoutingPlan

variable {F : Type}

/-- `agree`. -/
def agree (comm : RankComm) (brought : Portable.Status) : OwnerStage F Unit :=
  (Job.allreduce .min (if brought = .success then maxInt else comm.rank)).bind fun
  | none => .done (.failed .providerFailure)
  | some failing =>
    if failing = maxInt then .done (.ok ())
    else
      (Job.bcast failing [.word brought.toWire]).bind fun
      | some [.word code] =>
        match Portable.Status.ofWire code with
        | some .success => .done (.ok ())
        | some status => .done (.failed status)
        | none => .done .fault
      | some _ => .done .fault
      | none => .done (.failed .providerFailure)

def destinationOf (global grid : Int3) (ranks : ℕ) (s : ExchangeSegment F) : ℕ :=
  subscript ranks (owner global grid s.globalCell.toNat)

/-- Only bucket selection is hashed; the complete integer tuple is compared. -/
def auditor (ranks : ℕ) (s : ExchangeSegment F) : ℕ :=
  let h := [s.parcelId.high, s.parcelId.low, s.segmentOrdinal].foldl
    (fun h v => (h ^^^ v) * 1099511628211) (14695981039346656037 : UInt64)
  h.toNat % ranks

def countRefused (capacity r received : ℕ) : Bool := capacity - received < r

/-- What one exchange hands over: both buffers and the rows in the array. -/
structure Delivery (F : Type) where
  send : List (Lane F)
  receive : List (Lane F)
  values : List (ExchangeSegment F)

/-- `exchange`. -/
def exchange (comm : RankComm) (capacity valuesSize : ℕ) (destination : ExchangeSegment F → ℕ)
    (input : List (ExchangeSegment F)) (send receive : List (Lane F)) : OwnerStage F (Delivery F) :=
  match tally comm.size destination input with
  | none => .done .fault
  | some sendCounts =>
    (exchangeItems .providerFailure
      (exchangeCounts .providerFailure (agree comm) .success .capacityExceeded ExchangeSegment.lanes
        (countRefused capacity) (fun _ _ => false) sendCounts)
      ExchangeSegment.lanes destination ExchangeSegment.encode input send receive).andThen fun done =>
    if valuesSize < done.received then .done .fault
    else
      match (rows ExchangeSegment.lanes done.receive done.received).mapM ExchangeSegment.decode with
      | none => .done .fault
      | some values => .done (.ok ⟨done.send, done.receive, values⟩)

def deliveryKey (s : ExchangeSegment F) : ℕ ×ₗ (ParcelId ×ₗ ℕ) := toLex (s.globalCell.toNat, s.key)

def agreeOnRevision (revision : Revision) : OwnerStage F Unit :=
  compareAll .providerFailure .staleRevision [revision.acceptedStep, revision.inputRevision]

/-- `discard`. -/
def discard (plan : OwnerExchangeRoutingPlan F) : OwnerExchangeRoutingPlan F :=
  { plan with generation := plan.generation + 1, available := false }

/-- `candidates`. -/
def candidates (plan : OwnerExchangeRoutingPlan F) : Option (RoutedExchangeSegments F) :=
  if plan.available then some ⟨plan.values, plan.revision, plan.generation⟩ else none

section Rows

variable [ExchangeReal F]

def sameBudget (a b : ExchangeSegment F) : Bool :=
  a.channel = b.channel && a.vaporSpeciesIndex = b.vaporSpeciesIndex &&
    ExchangeReal.equal a.delta.massDelta b.delta.massDelta &&
    ExchangeReal.equal a.delta.momentumDelta.x b.delta.momentumDelta.x &&
    ExchangeReal.equal a.delta.momentumDelta.y b.delta.momentumDelta.y &&
    ExchangeReal.equal a.delta.momentumDelta.z b.delta.momentumDelta.z &&
    ExchangeReal.equal a.delta.thermochemicalEnthalpyDelta b.delta.thermochemicalEnthalpyDelta &&
    ExchangeReal.equal a.delta.kineticEnergyDelta b.delta.kineticEnergyDelta &&
    ExchangeReal.equal a.delta.thermalExchangeToGas b.delta.thermalExchangeToGas

def finiteDelta (d : ParcelExchangeBudget F) : Bool :=
  [d.massDelta, d.momentumDelta.x, d.momentumDelta.y, d.momentumDelta.z, d.thermochemicalEnthalpyDelta,
    d.kineticEnergyDelta, d.thermalExchangeToGas].all ExchangeReal.isFinite

/-- The checks `prepare` makes of one row. -/
def rowStatus (plan : OwnerExchangeRoutingPlan F) (revision : Revision) (s : ExchangeSegment F) : Portable.Status :=
  if s.revision ≠ revision then .staleRevision
  else if owner plan.global plan.grid s.globalCell.toNat < 0 ||
      (s.parcelId.high = 0 && s.parcelId.low = 0) || !finiteDelta s.delta ||
      !ExchangeReal.isFinite s.depositionWeight || !ExchangeReal.lt ExchangeReal.zero s.depositionWeight ||
      ExchangeReal.lt ExchangeReal.one s.depositionWeight ||
      ExchangeChannel.external.toWire < s.channel.toWire || plan.species ≤ s.vaporSpeciesIndex.toNat ||
      (s.channel ≠ .interphase && !ExchangeReal.equal s.depositionWeight ExchangeReal.one) then
    .invalidInput
  else .success

def rowsStatus (plan : OwnerExchangeRoutingPlan F) (revision : Revision) : List (ExchangeSegment F) → Portable.Status
  | [] => .success
  | s :: rest =>
    match plan.rowStatus revision s with
    | .success => plan.rowsStatus revision rest
    | status => status

/-- The local checks of `prepare`. -/
def inputStatus (plan : OwnerExchangeRoutingPlan F) (revision : Revision) (input : Span (ExchangeSegment F)) :
    Portable.Status :=
  if plan.localCapacity < input.size then .capacityExceeded
  else if (input.size ≠ 0 && input.isNull) || revision.algorithmVersion ≠ 1 || revision.inputRevision = 0 then
    .invalidInput
  else plan.rowsStatus revision input.values

def stencilLoop (first : ExchangeSegment F) :
    Option (ExchangeSegment F) → List (ExchangeSegment F) → ExchangeReal.Long F → Option (ExchangeReal.Long F)
  | _, [], weight => some weight
  | previous, row :: rest, weight =>
    if !sameBudget first row ||
        previous.any (fun p => p.globalCell = row.globalCell || row.channel ≠ .interphase) then none
    else stencilLoop first (some row) rest (ExchangeReal.longAdd weight row.depositionWeight)

def stencilStatus : List (ExchangeSegment F) → Portable.Status
  | [] => .success
  | first :: rest =>
    match stencilLoop first none (first :: rest) ExchangeReal.longZero with
    | none => .invalidInput
    | some weight => if ExchangeReal.farFromOne weight then .conservationFailure else .success

def auditLoop : List (List (ExchangeSegment F)) → Portable.Status
  | [] => .success
  | stencil :: rest =>
    match stencilStatus stencil with
    | .success => auditLoop rest
    | status => status

/-- The rows an auditor has received, sorted and checked stencil by stencil. -/
def auditRows (values : List (ExchangeSegment F)) : Portable.Status :=
  auditLoop (runs ExchangeSegment.key (sortOn (fun s => toLex (s.key, s.globalCell.toNat)) values))

/-- `prepare` after the first exchange. -/
def deliverPhases (plan : OwnerExchangeRoutingPlan F) (comm : RankComm) (input : List (ExchangeSegment F))
    (audit : Delivery F) : OwnerStage F (Delivery F) :=
  (agree comm (auditRows audit.values)).andThen fun _ =>
  (exchange comm plan.localCapacity plan.valuesSize (destinationOf plan.global plan.grid comm.size) input
    audit.send audit.receive).andThen fun delivery =>
  let values := sortOn deliveryKey delivery.values
  (agree comm
    (if values.any fun s => owner plan.global plan.grid s.globalCell.toNat ≠ comm.rank then .invalidInput
    else .success)).andThen fun _ =>
  .done (.ok ⟨delivery.send, delivery.receive, values⟩)

/-- The phases of `prepare`. -/
def preparePhases (plan : OwnerExchangeRoutingPlan F) (comm : RankComm) (revision : Revision)
    (input : Span (ExchangeSegment F)) : OwnerStage F (Delivery F) :=
  (agree comm (plan.inputStatus revision input)).andThen fun _ =>
  (agreeOnRevision revision).andThen fun _ =>
  (exchange comm plan.auditCapacity plan.valuesSize (auditor comm.size) input.values plan.send
    plan.receive).andThen fun audit =>
  plan.deliverPhases comm input.values audit

/-- What `prepare` does on one rank; a fault has no result. Nobody reads the words and rows that
a failure leaves in the buffers. -/
def prepare (plan : OwnerExchangeRoutingPlan F) (revision : Revision) (input : Span (ExchangeSegment F)) :
    JobProg (Lane F) Unit (Option (OwnerExchangeRoutingPlan F × Portable.Status)) :=
  match plan.comm with
  | none => .done (some (plan.discard, .invalidInput))
  | some comm =>
    (plan.discard.preparePhases comm revision input).bind fun
    | .fault => .done none
    | .failed status => .done (some (plan.discard, status))
    | .ok done =>
      .done (some
        ({ plan.discard with
            send := done.send, receive := done.receive, values := done.values, revision := revision
            available := true }, .success))

end Rows

structure ObjectSizes where
  plan : ℕ
  int : ℕ
  segment : ℕ

/-- The arguments of `configure` on one rank, and whether its allocations succeed. -/
structure ConfigureInput where
  global : Int3
  patch : MeshPatch
  localCapacity : ℕ
  auditCapacity : ℕ
  species : ℕ
  maximumBytes : ℕ
  allocates : Bool

namespace ConfigureInput

/-- The local checks of `configure`. -/
def check (input : ConfigureInput) (comm : RankComm) : Portable.Status :=
  match makeMeshPatch comm.rank comm.size input.global with
  | .error _ => .invalidInput
  | .ok actual =>
    if actual ≠ input.patch || maxInt / ExchangeSegment.lanes < input.localCapacity ||
        maxInt / ExchangeSegment.lanes < input.auditCapacity || input.species = 0 || 255 < input.species then
      .invalidInput
    else .success

/-- What all ranks must have in common. The numbers are positive when the check has passed. -/
def signature (input : ConfigureInput) : List ℕ :=
  [input.global.x.toNat, input.global.y.toNat, input.global.z.toNat, input.species]

def capacity (input : ConfigureInput) : ℕ := max input.localCapacity input.auditCapacity

def sendWords (input : ConfigureInput) : ℕ := max 1 (input.localCapacity * ExchangeSegment.lanes)

def receiveWords (input : ConfigureInput) : ℕ := max 1 (input.capacity * ExchangeSegment.lanes)

def bytes (sizes : ObjectSizes) (comm : RankComm) (input : ConfigureInput) : ℕ :=
  sizes.plan + comm.size * 5 * sizes.int + (input.sendWords + input.receiveWords) * 8 +
    input.capacity * sizes.segment

/-- The plan `configure` installs. -/
def install (sizes : ObjectSizes) (input : ConfigureInput) (comm : RankComm) (generation : ℕ) :
    OwnerExchangeRoutingPlan F where
  comm := some comm
  global := input.global
  grid := input.patch.processGrid
  localCapacity := input.localCapacity
  auditCapacity := input.auditCapacity
  species := input.species
  ownedBytes := input.bytes sizes comm
  generation := generation + 1
  send := List.replicate input.sendWords (.word 0)
  receive := List.replicate input.receiveWords (.word 0)
  valuesSize := input.capacity

/-- All ranks must name one box and one number of species. -/
def compare (input : ConfigureInput) : ScatterStage F Status Unit :=
  compareAll ⟨.mpiFailure, 26201⟩ ⟨.invalidPlan, 26200⟩ input.signature

/-- `agree`, with the status the caller gets when the ranks do not. -/
def agreeOr (failure : Status) (comm : RankComm) (brought : Portable.Status) :
    ScatterStage F Status Unit :=
  (agree comm brought).bind fun
  | .fault => .done .fault
  | .failed _ => .done (.failed failure)
  | .ok _ => .done (.ok ())

def phases (sizes : ObjectSizes) (comm : RankComm) (input : ConfigureInput) :
    ScatterStage F Status Unit :=
  (agreeOr ⟨.invalidPlan, 26200⟩ comm (input.check comm)).andThen fun _ =>
  input.compare.andThen fun _ =>
  (agreeOr ⟨.allocationFailure, 26202⟩ comm
    (if input.maximumBytes < input.bytes sizes comm then .capacityExceeded else .success)).andThen fun _ =>
  agreeOr ⟨.allocationFailure, 26203⟩ comm (if input.allocates then .success else .capacityExceeded)

end ConfigureInput

/-- What `configure` does on one rank. A failure preserves the old plan. -/
def configure (sizes : ObjectSizes) (plan : OwnerExchangeRoutingPlan F) (communicator : Option RankComm)
    (input : ConfigureInput) : JobProg (Lane F) Unit (Option (OwnerExchangeRoutingPlan F × Status)) :=
  match communicator with
  | none => .done (some (plan, ⟨.invalidPlan, 26200⟩))
  | some comm =>
    (input.phases sizes comm).bind fun
    | .fault => .done none
    | .failed status => .done (some (plan, status))
    | .ok _ => .done (some (input.install sizes comm plan.generation, {}))

end OwnerExchangeRoutingPlan

/-- The plans of a job of `n` ranks after any sequence of calls on its communicator. -/
inductive OwnerReachable {F : Type} [ExchangeReal F] {n : ℕ} (hn : 0 < n) (hsize : n < 2 ^ 31)
    (sizes : OwnerExchangeRoutingPlan.ObjectSizes) : (Fin n → OwnerExchangeRoutingPlan F) → Prop where
  | initial : OwnerReachable hn hsize sizes fun _ => {}
  | configure (s : Fin n → OwnerExchangeRoutingPlan F)
      (input : Fin n → OwnerExchangeRoutingPlan.ConfigureInput) (trace : List JobSignature)
      (r : Fin n → OwnerExchangeRoutingPlan F × Status) (h : OwnerReachable hn hsize sizes s)
      (hrun : (mpiJob hn).Run (fun i => (s i).configure sizes (some (jobComm hsize i)) (input i)) trace
        fun i => some (r i)) : OwnerReachable hn hsize sizes fun i => (r i).1
  | prepare (s : Fin n → OwnerExchangeRoutingPlan F) (revision : Fin n → Revision)
      (input : Fin n → Span (ExchangeSegment F)) (trace : List JobSignature)
      (r : Fin n → OwnerExchangeRoutingPlan F × Portable.Status) (h : OwnerReachable hn hsize sizes s)
      (hrun : (mpiJob hn).Run (fun i => (s i).prepare (revision i) (input i)) trace fun i => some (r i)) :
      OwnerReachable hn hsize sizes fun i => (r i).1
  | discard (s : Fin n → OwnerExchangeRoutingPlan F) (rank : Fin n) (h : OwnerReachable hn hsize sizes s) :
      OwnerReachable hn hsize sizes (Function.update s rank (s rank).discard)

end HundunFlow
