import HundunFlow.MgTransfer
import HundunFlow.TimeControl

/-!
# The halo engine

`HaloEngine` reserves a plan for the ghost cells of a set of fields, and exchanges them in two
halves: `begin` packs what the neighbours need, `finish` unpacks what they have sent. Every half
ends in a consensus of the ranks. Messages are delivered, so that MPI itself does not fail in a
half; the failures of MPI and of allocation while reserving are handed in.
-/

namespace HundunFlow

open Lib
open MgWorkspace (component)

def kHaloState : UInt32 := 301
def kHaloInput : UInt32 := 302
def kHaloTopology : UInt32 := 303
def kHaloField : UInt32 := 304
def kHaloOverflow : UInt32 := 305

namespace HaloEngine

inductive Face where
  | xm | xp | ym | yp | zm | zp
  deriving DecidableEq

namespace Face

def all : List Face := [xm, xp, ym, yp, zm, zp]

/-- The number of the enumerator. -/
def index : Face → ℕ
  | xm => 0
  | xp => 1
  | ym => 2
  | yp => 3
  | zm => 4
  | zp => 5

/-- `face_axis`. -/
def axis : Face → Axis
  | xm | xp => .x
  | ym | yp => .y
  | zm | zp => .z

def minus : Face → Bool
  | xm | ym | zm => true
  | xp | yp | zp => false

def opposite : Face → Face
  | xm => xp
  | xp => xm
  | ym => yp
  | yp => ym
  | zm => zp
  | zp => zm

end Face

structure HaloFieldSpec where
  field : UInt16 := 0
  width : UInt8 := 0
  components : UInt8 := 0
  deriving DecidableEq

structure HaloTopology where
  periodicX : Bool := false
  periodicY : Bool := false
  periodicZ : Bool := false
  deriving DecidableEq

def periodic (topology : HaloTopology) : Axis → Bool
  | .x => topology.periodicX
  | .y => topology.periodicY
  | .z => topology.periodicZ

structure Section where
  fieldSlot : ℕ
  face : Face
  canonicalDestination : Face
  offset : ℕ
  count : ℕ
  deriving DecidableEq

structure Peer where
  rank : ℤ
  isLocal : Bool
  sendOffset : ℕ := 0
  receiveOffset : ℕ := 0
  count : ℕ := 0
  sends : List Section := []
  receives : List Section := []
  deriving DecidableEq

/-- `candidateBeginView` is the entry of `candidate_begin_views` for the slot. -/
structure FieldSlot where
  spec : HaloFieldSpec
  beginView : FieldView := {}
  finishView : FieldView := {}
  candidateBeginView : FieldView := {}
  pendingRevision : ℕ := 0
  ghostRevision : ℕ := 0
  seenGeneration : ℕ := 0
  deriving DecidableEq

/-- `validate_patch`. -/
def validatePatch (patch : MeshPatch) (rank size : ℤ) : Status :=
  let positive (v : Int3) : Bool := 0 < v.x && 0 < v.y && 0 < v.z
  if !positive patch.cells || !positive patch.processGrid || patch.begin.x < 0 || patch.begin.y < 0 ||
      patch.begin.z < 0 || patch.processCoord.x < 0 || patch.processCoord.y < 0 || patch.processCoord.z < 0 ||
      patch.processGrid.x ≤ patch.processCoord.x || patch.processGrid.y ≤ patch.processCoord.y ||
      patch.processGrid.z ≤ patch.processCoord.z then
    ⟨.invalidPlan, kHaloTopology⟩
  else
    let ranks := (checkedMultiply patch.processGrid.x.toNat patch.processGrid.y.toNat).bind
      fun xy => checkedMultiply xy patch.processGrid.z.toNat
    if ranks.all fun ranks => (ranks : ℤ) ≠ size then ⟨.invalidPlan, kHaloTopology⟩
    else if patch.processCoord.x + patch.processGrid.x * (patch.processCoord.y +
        patch.processGrid.y * patch.processCoord.z) ≠ rank then ⟨.invalidPlan, kHaloTopology⟩
    else {}

/-- The loop of `validate_specs`. -/
def validSpecs (patch : MeshPatch) : List HaloFieldSpec → List HaloFieldSpec → Bool
  | _, [] => true
  | prior, spec :: rest =>
    let width : ℤ := spec.width.toNat
    if spec.width = 0 || spec.components = 0 || patch.cells.x < width || patch.cells.y < width ||
        patch.cells.z < width || prior.any (fun p => p.field = spec.field) then false
    else validSpecs patch (prior ++ [spec]) rest

/-- `validate_specs`. -/
def validateSpecs (fields : Span HaloFieldSpec) (patch : MeshPatch) : Status :=
  if fields.isNull || fields.size = 0 || 2 ^ 16 < fields.size || !validSpecs patch [] fields.values then
    ⟨.invalidPlan, kHaloField⟩
  else {}

/-- `section_size`. -/
def sectionSize (patch : MeshPatch) (spec : HaloFieldSpec) (face : Face) : Option ℕ := do
  let nx := patch.cells.x.toNat
  let ny := patch.cells.y.toNat
  let nz := patch.cells.z.toNat
  let area ← match face.axis with
    | .x => checkedMultiply ny nz
    | .y => checkedMultiply nx nz
    | .z => checkedMultiply nx ny
  let layer ← checkedMultiply area spec.width.toNat
  let out ← checkedMultiply layer spec.components.toNat
  if out = 0 then none else some out

def faceSections (patch : MeshPatch) (specs : List HaloFieldSpec) (face destination : Face) : Option (List Section) :=
  specs.zipIdx.mapM fun (spec, slot) =>
    (sectionSize patch spec face).map fun count => ⟨slot, face, destination, 0, count⟩

def addFace (patch : MeshPatch) (topology : HaloTopology) (rank : ℤ) (specs : List HaloFieldSpec)
    (peers : List Peer) (face : Face) : Option (List Peer) :=
  match MgTransfer.neighborRank patch (periodic topology) face.axis face.minus with
  | none => some peers
  | some neighbor => do
    let sends ← faceSections patch specs face face.opposite
    let receives ← faceSections patch specs face face
    let peers := if peers.any fun p => p.rank = neighbor then peers else peers ++ [{ rank := neighbor, isLocal := neighbor = rank }]
    return peers.map fun p =>
      if p.rank = neighbor then { p with sends := p.sends ++ sends, receives := p.receives ++ receives } else p

/-- `section_less` by a key. -/
def sectionKey (specs : List HaloFieldSpec) (s : Section) : ℕ ×ₗ ℕ :=
  toLex (s.canonicalDestination.index, (specs.getD s.fieldSlot {}).field.toNat)

/-- Offsets for sections that follow each other, and the offset behind them. -/
def layoutSections : List Section → ℕ → Option (List Section × ℕ)
  | [], total => some ([], total)
  | s :: rest, total => do
    let behind ← checkedAdd total s.count
    let (sections, total') ← layoutSections rest behind
    return ({ s with offset := total } :: sections, total')

def layoutPeers (specs : List HaloFieldSpec) (maximumChunk maximumTag : ℕ) :
    List Peer → ℕ → ℕ → ℕ → Option (List Peer × ℕ × ℕ × ℕ)
  | [], chunks, sendTotal, receiveTotal => some ([], chunks, sendTotal, receiveTotal)
  | peer :: rest, chunks, sendTotal, receiveTotal => do
    let (sends, sendBehind) ← layoutSections (sortOn (sectionKey specs) peer.sends) sendTotal
    let (receives, receiveBehind) ← layoutSections (sortOn (sectionKey specs) peer.receives) receiveTotal
    let count := sendBehind - sendTotal
    if count ≠ receiveBehind - receiveTotal then none
    else
      let messages := if peer.isLocal then 0 else (count + (maximumChunk - 1)) / maximumChunk
      if maximumTag + 1 < messages then none
      else do
        let laid : Peer := { peer with
          sendOffset := sendTotal, receiveOffset := receiveTotal, count := count, sends := sends, receives := receives }
        let (peers, chunks, totals) ← layoutPeers specs maximumChunk maximumTag rest (chunks + messages) sendBehind
          receiveBehind
        return (laid :: peers, chunks, totals)

/-- `build_peers`: every way to fail is a failure of the plan. -/
def buildPeers (patch : MeshPatch) (topology : HaloTopology) (rank : ℤ) (specs : List HaloFieldSpec)
    (maximumChunk maximumTag : ℕ) : Option (List Peer × ℕ) := do
  let peers ← Face.all.foldlM (addFace patch topology rank specs) []
  let (peers, chunks, sendTotal, _) ← layoutPeers specs maximumChunk maximumTag (sortOn (·.rank) peers) 0 0 0
  if (2 ^ 31 - 1) / 2 < chunks then none
  else do
    let _ ← checkedMultiply sendTotal 8
    return (peers, chunks)

/-- `messages` is the number of chunks; there are requests when it is not zero. -/
structure HaloImplData (D : Type) where
  patch : MeshPatch
  topology : HaloTopology
  fields : List FieldSlot
  peers : List Peer
  messages : ℕ
  sendStorage : ℕ → D
  receiveStorage : ℕ → D
  identity : ℕ
  generation : ℕ := 0
  fieldVisitGeneration : ℕ := 0
  lowestFailingRank : ℤ := -1
  exchangeActive : Bool := false
  requestsActive : Bool := false
  poisoned : Bool := false
  preparedEpochActive : Bool := false

structure HaloTicket where
  engineIdentity : ℕ := 0
  generation : ℕ := 0
  stage : UInt16 := 0
  active : Bool := false
  deriving DecidableEq

def andThen (first next : Status) : Status := if first.isOk then next else first

/-- `raw_collective_status`: nothing when all ranks are well, and else the failure of the first rank
that is not. -/
def haloConsensus {n : ℕ} (locals : Fin n → Status) : Option (Status × Fin n) :=
  (List.finRange n).findSome? fun i => if (locals i).isOk then none else some (locals i, i)

/-- The failures of MPI and of allocation between the checks of `reserve`. -/
structure ReserveOutside where
  candidate : Status := {}
  duplicateControl : Status := {}
  controlHandler : Status := {}
  duplicateTransport : Status := {}
  transportHandler : Status := {}
  tagQuery : Status := {}
  storage : Status := {}
  contract : Status := {}
  wires : Status := {}
  sizes : Status := {}
  requests : Status := {}
  identity : Status := {}
  deriving DecidableEq

/-- The arguments of `reserve` on one rank. `tagUpperBound` is the attribute of its communicator,
`identity` the next identity of an engine. -/
structure ReserveCall where
  patch : MeshPatch
  fields : Span HaloFieldSpec
  topology : HaloTopology
  tagUpperBound : Option ℕ := none
  identity : ℕ := 1
  outside : ReserveOutside := {}
  deriving DecidableEq

def kMinimumTagUpperBound : ℕ := 32767
def kMaximumChunkDoubles : ℕ := 2 ^ 31 - 1

def canonicalSpecs (fields : List HaloFieldSpec) : List HaloFieldSpec := sortOn (fun spec => spec.field.toNat) fields

def contractHash (call : ReserveCall) (maximumTag : ℕ) : UInt64 :=
  let word (value : ℤ) : UInt64 := UInt64.ofNat value.toNat
  let flag (b : Bool) : UInt64 := if b then 1 else 0
  let specs := canonicalSpecs call.fields.values
  ([word call.patch.processGrid.x, word call.patch.processGrid.y, word call.patch.processGrid.z,
    flag call.topology.periodicX, flag call.topology.periodicY, flag call.topology.periodicZ,
    UInt64.ofNat kMaximumChunkDoubles, UInt64.ofNat maximumTag, UInt64.ofNat specs.length] ++
    specs.flatMap fun spec => [UInt64.ofNat spec.field.toNat, UInt64.ofNat spec.width.toNat,
      UInt64.ofNat spec.components.toNat]).foldl hashMix 1469598103934665603

section Reserve

variable {n : ℕ} {D : Type}

def maximumTag (call : Fin n → ReserveCall) : ℕ :=
  ((List.finRange n).map fun i => (call i).tagUpperBound.getD kMinimumTagUpperBound).foldl min (2 ^ 31 - 1)

def plannedPeers (call : Fin n → ReserveCall) (i : Fin n) : Option (List Peer × ℕ) :=
  buildPeers (call i).patch (call i).topology i (canonicalSpecs (call i).fields.values) kMaximumChunkDoubles
    (maximumTag call)

def plannedCount (call : Fin n → ReserveCall) (i : Fin n) (other : ℤ) : ℕ :=
  (((plannedPeers call i).bind fun planned => planned.1.find? fun p => p.rank = other).map (·.count)).getD 0

/-- The phases of `reserve`, each with the local status of every rank. -/
def reservePhases (s : Fin n → Option (HaloImplData D)) (call : Fin n → ReserveCall) : List (Fin n → Status) :=
  [fun i => andThen (call i).outside.candidate <| andThen (validatePatch (call i).patch i n) <|
      andThen (if (s i).any (·.exchangeActive) then ⟨.invalidPlan, kHaloState⟩ else {}) <|
        validateSpecs (call i).fields (call i).patch,
    fun i => (call i).outside.duplicateControl,
    fun i => (call i).outside.controlHandler,
    fun i => (call i).outside.duplicateTransport,
    fun i => (call i).outside.transportHandler,
    fun i => (call i).outside.tagQuery,
    fun i => (call i).outside.storage,
    fun i => andThen (call i).outside.contract <|
      if ∀ j k, contractHash (call j) (maximumTag call) = contractHash (call k) (maximumTag call) then {}
      else ⟨.invalidPlan, kHaloTopology⟩,
    fun i => if (plannedPeers call i).isNone then ⟨.invalidPlan, kHaloOverflow⟩ else {},
    fun i => (call i).outside.wires,
    fun i => andThen (call i).outside.sizes <|
      if ∀ j : Fin n, plannedCount call j i = plannedCount call i j then {} else ⟨.invalidPlan, kHaloTopology⟩,
    fun i => (call i).outside.requests,
    fun i => (call i).outside.identity]

/-- The engine of a rank behind a successful `reserve`. -/
def reservedData [Zero D] (call : ReserveCall) (planned : List Peer × ℕ) : HaloImplData D where
  patch := call.patch
  topology := call.topology
  fields := (canonicalSpecs call.fields.values).map fun spec => { spec := spec }
  peers := planned.1
  messages := planned.2
  sendStorage _ := 0
  receiveStorage _ := 0
  identity := call.identity

/-- `reserve` on all ranks. -/
def reserve [Zero D] (s : Fin n → Option (HaloImplData D)) (call : Fin n → ReserveCall) :
    (Fin n → Option (HaloImplData D)) × Status :=
  match (reservePhases s call).findSome? haloConsensus with
  | some (status, rank) => (fun i => (s i).map fun impl => { impl with lowestFailingRank := rank }, status)
  | none => (fun i => (plannedPeers call i).map (reservedData (call i)), {})

end Reserve

inductive CommRelation where
  | ident | congruent | similar | unequal
  deriving DecidableEq

structure ContractCommunicator where
  isNull : Bool := false
  live : Bool := true
  /-- `MPI_Comm_compare` with the engine's communicator. -/
  relation : Option CommRelation
  deriving DecidableEq

/-- The loop over the fields, against the order of the plan. -/
def sameFields : List HaloFieldSpec → List FieldSlot → Bool
  | [], _ => true
  | _ :: _, [] => false
  | actual :: rest, slot :: slots =>
    if actual.field ≠ slot.spec.field || actual.width ≠ slot.spec.width || actual.components ≠ slot.spec.components then
      false
    else sameFields rest slots

/-- `validate_contract`. -/
def validateContract {D : Type} (implementation : Option (HaloImplData D)) (communicator : ContractCommunicator)
    (patch : MeshPatch) (fields : Span HaloFieldSpec) (topology : HaloTopology) : Status :=
  match implementation with
  | none => ⟨.invalidPlan, kHaloInput⟩
  | some impl =>
    if communicator.isNull || fields.isNull || fields.size ≠ impl.fields.length then ⟨.invalidPlan, kHaloInput⟩
    else if !communicator.live then ⟨.invalidPlan, kHaloState⟩
    else
      match communicator.relation with
      | none => ⟨.mpiFailure, 306⟩
      | some relation =>
        if relation ≠ .ident && relation ≠ .congruent then ⟨.invalidPlan, kHaloTopology⟩
        else if patch ≠ impl.patch then ⟨.invalidPlan, kHaloTopology⟩
        else if topology ≠ impl.topology then ⟨.invalidPlan, kHaloTopology⟩
        else if !sameFields fields.values impl.fields then ⟨.invalidPlan, kHaloField⟩
        else {}

end HaloEngine

end HundunFlow
