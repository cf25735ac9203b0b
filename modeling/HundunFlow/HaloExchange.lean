import HundunFlow.HaloEngine

/-!
# One exchange of a halo engine

`begin` and `finish` of all ranks of a job, with the memory the views point to and the ticket
objects of the callers. A message is read from the storage of its sender when it is received.
-/

namespace HundunFlow

open Lib

namespace HaloEngine

variable {D : Type}

/-- `valid_view_shape`. -/
def validViewShape (view : FieldView) (slot : FieldSlot) (patch : MeshPatch) : Bool :=
  let width : ℤ := slot.spec.width.toNat
  if view.base.isNone || view.field ≠ slot.spec.field.toNat || view.interior ≠ patch.cells ||
      view.ghosts.x < width || view.ghosts.y < width || view.ghosts.z < width ||
      view.components ≠ slot.spec.components.toNat || view.revision = 0 || view.storageIdentity = 0 ||
      view.revisionDomain = 0 then false
  else
    let padded (interior ghosts : ℤ) : ℕ := interior.toNat + 2 * ghosts.toNat
    padded view.interior.x view.ghosts.x ≤ view.strideY &&
      (checkedMultiply view.strideY (padded view.interior.y view.ghosts.y)).any fun zMinimum =>
        zMinimum ≤ view.strideZ &&
          (checkedMultiply view.strideZ (padded view.interior.z view.ghosts.z)).any fun componentMinimum =>
            componentMinimum ≤ view.componentStride &&
              (checkedMultiply view.componentStride view.components).any fun extent => extent ≤ maxPtrdiff

/-- A view at `finish` is the one that was published at `begin`. -/
def sameSource (view source : FieldView) : Bool :=
  view.base = source.base && view.strideY = source.strideY && view.strideZ = source.strideZ &&
    view.componentStride = source.componentStride && view.replica = source.replica &&
    view.revision = source.revision && view.storageIdentity = source.storageIdentity &&
    view.revisionDomain = source.revisionDomain

/-- The loop over the views of a caller: every view finds its slot, and no slot is found twice. -/
def visitViews (accept : FieldView → FieldSlot → Bool) (record : FieldView → FieldSlot → FieldSlot) (visit : ℕ) :
    List FieldView → List FieldSlot → Bool × List FieldSlot
  | [], slots => (true, slots)
  | view :: rest, slots =>
    match slots.find? fun slot => slot.spec.field.toNat = view.field with
    | none => (false, slots)
    | some slot =>
      if slot.seenGeneration = visit || !accept view slot then (false, slots)
      else visitViews accept record visit rest (slots.map fun slot =>
        if slot.spec.field.toNat = view.field then { record view slot with seenGeneration := visit } else slot)

def nextVisit (impl : HaloImplData D) : HaloImplData D :=
  if impl.fieldVisitGeneration = maxU64 then
    { impl with
      fieldVisitGeneration := 1
      fields := impl.fields.map fun slot => { slot with seenGeneration := 0 } }
  else { impl with fieldVisitGeneration := impl.fieldVisitGeneration + 1 }

/-- `validate_begin_views` and `bind_finish_views`. -/
def bindViews (accept : FieldView → FieldSlot → Bool) (record : FieldView → FieldSlot → FieldSlot)
    (views : Span FieldView) (impl : HaloImplData D) : Status × HaloImplData D :=
  if views.isNull || views.size ≠ impl.fields.length then (⟨.invalidPlan, kHaloField⟩, impl)
  else
    let impl := nextVisit impl
    let (complete, fields) := visitViews accept record impl.fieldVisitGeneration views.values impl.fields
    (if complete then {} else ⟨.invalidPlan, kHaloField⟩, { impl with fields := fields })

def validateBeginViews (views : Span FieldView) (impl : HaloImplData D) : Status × HaloImplData D :=
  bindViews (fun view slot => validViewShape view slot impl.patch)
    (fun view slot => { slot with candidateBeginView := view }) views impl

def bindFinishViews (views : Span FieldView) (impl : HaloImplData D) : Status × HaloImplData D :=
  bindViews (fun view slot => validViewShape view slot impl.patch && sameSource view slot.beginView)
    (fun view slot => { slot with finishView := view }) views impl

/-- `unchecked`. -/
def element (view : FieldView) (x y z : ℤ) (component : ℕ) : ArenaAddress :=
  let base := view.base.getD ⟨0, 0, 0⟩
  { base with offset := base.offset + x + y * view.strideY + z * view.strideZ + component * view.componentStride }

/-- The elements of a section: cells next to a face, inside when they are packed, and in the
ghost layers when they are unpacked. -/
def sectionElements (view : FieldView) (spec : HaloFieldSpec) (face : Face) (ghost : Bool) : List ArenaAddress :=
  let nx := view.interior.x
  let ny := view.interior.y
  let nz := view.interior.z
  let width := spec.width.toNat
  let start (n : ℤ) : ℤ :=
    if ghost then (if face.minus then -width else n) else (if face.minus then 0 else n - width)
  (List.range spec.components.toNat).flatMap fun c =>
    match face.axis with
    | .x => (List.range nz.toNat).flatMap fun z => (List.range ny.toNat).flatMap fun y =>
        (List.range width).map fun offset => element view (start nx + offset) y z c
    | .y => (List.range nz.toNat).flatMap fun z => (List.range width).flatMap fun offset =>
        (List.range nx.toNat).map fun x => element view x (start ny + offset) z c
    | .z => (List.range width).flatMap fun offset => (List.range ny.toNat).flatMap fun y =>
        (List.range nx.toNat).map fun x => element view x y (start nz + offset) c

def writeStorage (storage : ℕ → D) (offset : ℕ) (values : List D) : ℕ → D := fun k =>
  if offset ≤ k then values.getD (k - offset) (storage k) else storage k

/-- `pack_section` for every section of every peer. -/
def packSections (memory : ArenaAddress → D) (impl : HaloImplData D) : HaloImplData D :=
  let pack (storage : ℕ → D) (s : Section) : ℕ → D :=
    let slot := impl.fields.getD s.fieldSlot { spec := {} }
    writeStorage storage s.offset ((sectionElements slot.candidateBeginView slot.spec s.face false).map memory)
  { impl with sendStorage := (impl.peers.flatMap (·.sends)).foldl pack impl.sendStorage }

/-- `copy_local_peers`. -/
def copyLocalPeers (impl : HaloImplData D) : HaloImplData D :=
  let copy (storage : ℕ → D) (peer : Peer) : ℕ → D :=
    if peer.isLocal then
      writeStorage storage peer.receiveOffset ((List.range peer.count).map fun k => impl.sendStorage (peer.sendOffset + k))
    else storage
  { impl with receiveStorage := impl.peers.foldl copy impl.receiveStorage }

/-- `unpack_section` for every section of every peer. -/
def unpackSections (impl : HaloImplData D) (memory : ArenaAddress → D) : ArenaAddress → D :=
  (impl.peers.flatMap (·.receives)).foldl (fun memory s =>
    let slot := impl.fields.getD s.fieldSlot { spec := {} }
    (sectionElements slot.finishView slot.spec s.face true).zipIdx.foldl
      (fun memory (address, k) => Function.update memory address (impl.receiveStorage (s.offset + k))) memory) memory

structure HaloRank (D : Type) where
  engine : HaloImplData D
  memory : ArenaAddress → D
  tickets : ℕ → HaloTicket

/-- The arguments of `begin` on one rank. -/
structure BeginCall where
  stage : UInt16
  fields : Span FieldView
  prerequisite : Status := {}
  ticket : ℕ
  deriving DecidableEq

/-- The arguments of `finish` on one rank. -/
structure FinishCall where
  ticket : ℕ
  fields : Span FieldView
  deriving DecidableEq

def HaloRank.setTicket (r : HaloRank D) (ticket : ℕ) (value : HaloTicket) : HaloRank D :=
  { r with tickets := Function.update r.tickets ticket value }

def invalidateCertificates (impl : HaloImplData D) : HaloImplData D :=
  { impl with fields := impl.fields.map fun slot => { slot with ghostRevision := 0 } }

/-- `recreate_requests`. -/
def recreateRequests (impl : HaloImplData D) : HaloImplData D :=
  { impl with requestsActive := false, poisoned := false }

/-- `publish_begin_views`. -/
def publishBeginViews (impl : HaloImplData D) : HaloImplData D :=
  { impl with fields := impl.fields.map fun slot =>
      { slot with beginView := slot.candidateBeginView, pendingRevision := slot.candidateBeginView.revision } }

/-- `begin` up to its first consensus: the local status and the engine. -/
def beginLocal (r : HaloRank D) (call : BeginCall) : Status × HaloImplData D :=
  let impl := if r.engine.exchangeActive then r.engine else invalidateCertificates r.engine
  let first : Status :=
    if impl.exchangeActive || (r.tickets call.ticket).active || impl.preparedEpochActive then
      ⟨.invalidPlan, kHaloState⟩
    else call.prerequisite
  if !first.isOk then (first, impl)
  else
    let impl := if impl.poisoned then recreateRequests impl else impl
    let (status, impl) := validateBeginViews call.fields impl
    if !status.isOk then (status, impl) else ({}, packSections r.memory impl)

/-- The end of a `begin` on which all ranks agree. -/
def opened (r : HaloRank D) (impl : HaloImplData D) (call : BeginCall) : HaloRank D :=
  let impl := publishBeginViews impl
  let generation := if impl.generation = maxU64 then 1 else impl.generation + 1
  let active := { impl with
    lowestFailingRank := -1
    requestsActive := impl.requestsActive || impl.messages ≠ 0
    generation := generation
    exchangeActive := true }
  { r with engine := active }.setTicket call.ticket
    { engineIdentity := impl.identity, generation := generation, stage := call.stage, active := true }

section Job

variable {n : ℕ}

/-- `begin` on all ranks. -/
def beginExchange (s : Fin n → HaloRank D) (call : Fin n → BeginCall) : (Fin n → HaloRank D) × Status :=
  match haloConsensus fun i => (beginLocal (s i) (call i)).1 with
  | some (status, rank) =>
    (fun i => { s i with engine := { (beginLocal (s i) (call i)).2 with lowestFailingRank := rank } }.setTicket
      (call i).ticket { (s i).tickets (call i).ticket with active := false }, status)
  | none => (fun i => opened (s i) (beginLocal (s i) (call i)).2 (call i), {})

/-- The preflight of `finish`. -/
def finishLocal (r : HaloRank D) (call : FinishCall) : Status × HaloImplData D :=
  let ticket := r.tickets call.ticket
  if !r.engine.exchangeActive || r.engine.poisoned || !ticket.active ||
      ticket.engineIdentity ≠ r.engine.identity || ticket.generation ≠ r.engine.generation then
    (⟨.invalidPlan, kHaloState⟩, r.engine)
  else bindFinishViews call.fields r.engine

def delivered (engines : Fin n → HaloImplData D) (i : Fin n) : ℕ → D :=
  (engines i).peers.foldl (fun storage peer =>
    if peer.isLocal then storage
    else match (List.finRange n).find? fun j : Fin n => ((j : ℕ) : ℤ) = peer.rank with
      | none => storage
      | some sender =>
        match (engines sender).peers.find? fun p => p.rank = ((i : ℕ) : ℤ) with
        | none => storage
        | some sending => writeStorage storage peer.receiveOffset
            ((List.range peer.count).map fun k => (engines sender).sendStorage (sending.sendOffset + k)))
    (engines i).receiveStorage

/-- `MPI_Waitall` on all ranks. -/
def waitAll (engines : Fin n → HaloImplData D) (i : Fin n) : HaloImplData D :=
  if (engines i).requestsActive then
    { engines i with receiveStorage := delivered engines i, requestsActive := false }
  else engines i

/-- `finish` on all ranks. -/
def finishExchange (s : Fin n → HaloRank D) (call : Fin n → FinishCall) : (Fin n → HaloRank D) × Status :=
  let engines := waitAll fun i => (finishLocal (s i) (call i)).2
  match haloConsensus fun i => (finishLocal (s i) (call i)).1 with
  | some (status, rank) =>
    (fun i =>
      let impl := { engines i with exchangeActive := false, requestsActive := false, lowestFailingRank := rank }
      { s i with engine := impl }.setTicket (call i).ticket {}, status)
  | none =>
    (fun i =>
      let impl := copyLocalPeers (engines i)
      let certified := { impl with
        fields := impl.fields.map fun slot => { slot with ghostRevision := slot.pendingRevision }
        lowestFailingRank := -1
        exchangeActive := false
        requestsActive := false }
      { s i with memory := unpackSections impl (s i).memory, engine := certified }.setTicket (call i).ticket {}, {})

end Job

end HaloEngine

end HundunFlow
