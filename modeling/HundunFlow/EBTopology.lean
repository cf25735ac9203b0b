import HundunFlow.MgWorkspace

/-!
# The solid and fluid cells around a patch

Every rank classifies its own cells and exchanges the regions four cells deep, axis by axis, so that
edges and corners come along. From the regions it lists the links from fluid to solid cells. Regions
are kept by index triples, which `flat` numbers. The checksums and the interface metric, which follow,
are left out.
-/

namespace HundunFlow

open Lib

inductive ImmersedFluidSide where
  | outside | inside
  deriving DecidableEq

structure ImmersedPlanLimits where
  maximumPersistentBytesPerRank : ℕ
  maximumPeakBytesPerRank : ℕ
  maximumLocalLinks : ℕ
  deriving DecidableEq

/-- `direction` is the number of an enumerator, `x_negative` to `z_positive`. -/
structure ImmersedLink where
  globalLink : ℕ
  fluidCell : ℕ
  solidCell : ℕ
  fluidGlobalIndex : Int3
  solidGlobalIndex : Int3
  fluidLocalIndex : Int3
  solidLocalIndex : Int3
  direction : Fin 6
  triangle : ℕ
  deriving DecidableEq

abbrev Region : Type := Int3 → ℕ

structure EBTopology where
  globalCells : Int3
  patch : MeshPatch
  periodicAxes : Axis → Bool
  regionHaloWidth : ℤ
  region : Region
  haloRegion : Region
  links : List ImmersedLink
  interfaceCells : List ℕ

namespace EBTopology

open MgWorkspace (component setComponent axes maxInt32)

def kTopologyInput : UInt32 := 13501
def kTopologyCollective : UInt32 := 13502
def kTopologyRegion : UInt32 := 13503
def kTopologyGeometry : UInt32 := 13504
def kTopologyLinks : UInt32 := 13505
def kTopologyAllocation : UInt32 := 13506
def kRegionHalo : ℤ := 4
def kHaloTagBase : ℕ := 17040

/-- `RegionFlag::solid`. -/
def solid : ℕ := 0

/-- `RegionFlag::fluid`. -/
def fluid : ℕ := 1

def invalid (detail : UInt32) : Status := ⟨.invalidPlan, detail⟩

def mpiFailure : Status := ⟨.mpiFailure, kTopologyCollective⟩

abbrev TopologyStage (α : Type) : Type := JobProg ℕ Unit (Stage (Status × ℤ) α)

def consensus (comm : RankComm) (brought : Status) : TopologyStage Unit :=
  (Job.allreduce .min (if brought.isOk then comm.size else comm.rank)).bind fun
  | none => .done (.failed (mpiFailure, -1))
  | some selected =>
    if selected = comm.size then .done (.ok ())
    else
      (Job.bcast selected (if comm.rank = selected then [brought.code.toWire, brought.detail.toNat] else [0, 0])).bind fun
      | some [code, detail] =>
        match StatusCode.ofWire code with
        | none => .done (.failed (mpiFailure, -1))
        | some code =>
          if 2 ^ 32 - 1 < detail then .done (.failed (mpiFailure, -1))
          else .done (.failed (⟨code, UInt32.ofNat detail⟩, selected))
      | _ => .done (.failed (mpiFailure, -1))

def checkedProduct (cells : Int3) : Option ℕ :=
  if cells.x ≤ 0 ∨ cells.y ≤ 0 ∨ cells.z ≤ 0 then none
  else
    let x := cells.x.toNat
    let y := cells.y.toNat
    let z := cells.z.toNat
    if maxU64 / y < x ∨ maxU64 / z < x * y then none else some (x * y * z)

def validPatch (globalCells : Int3) (patch : MeshPatch) (rank size : ℕ) : Bool :=
  if patch.processGrid.x ≤ 0 ∨ patch.processGrid.y ≤ 0 ∨ patch.processGrid.z ≤ 0 ∨ patch.processCoord.x < 0 ∨
      patch.processCoord.y < 0 ∨ patch.processCoord.z < 0 ∨ patch.processGrid.x ≤ patch.processCoord.x ∨
      patch.processGrid.y ≤ patch.processCoord.y ∨ patch.processGrid.z ≤ patch.processCoord.z then false
  else if checkedProduct patch.processGrid ≠ some size then false
  else if rankAt patch.processGrid patch.processCoord ≠ rank then false
  else
    let x := splitAxis globalCells.x patch.processGrid.x patch.processCoord.x
    let y := splitAxis globalCells.y patch.processGrid.y patch.processCoord.y
    let z := splitAxis globalCells.z patch.processGrid.z patch.processCoord.z
    patch.begin = ⟨x.1, y.1, z.1⟩ ∧ patch.cells = ⟨x.2, y.2, z.2⟩

def inside (cell globalCells : Int3) : Bool :=
  0 ≤ cell.x && 0 ≤ cell.y && 0 ≤ cell.z && cell.x < globalCells.x && cell.y < globalCells.y && cell.z < globalCells.z

def flat (shape cell : Int3) : ℕ := (flatIndex shape.x shape.y cell.x cell.y cell.z).toNat

def globalId (cell globalCells : Int3) : ℕ :=
  (flatIndex globalCells.x globalCells.y cell.x cell.y cell.z % 2 ^ 64).toNat

/-- The axes have so few cells on some rank that a slab may not come from the next one. -/
def narrow (patch : MeshPatch) (globalCells : Int3) (axis : Axis) : Bool :=
  component globalCells axis / component patch.processGrid axis < kRegionHalo

def alone (patch : MeshPatch) (periodic : Bool) (axis : Axis) : Bool :=
  component patch.processGrid axis = 1 && !periodic

/-- The planes of an exchange: `depth` of them, over the transverse axes as far as they are filled. -/
def exchangeCount (cells shape : Int3) (axis : Axis) (depth : ℤ) : Int3 :=
  match axis with
  | .x => ⟨depth, cells.y, cells.z⟩
  | .y => ⟨shape.x, depth, cells.z⟩
  | .z => ⟨shape.x, shape.y, depth⟩

def exchangeBegin : Axis → Int3
  | .x => ⟨0, kRegionHalo, kRegionHalo⟩
  | .y => ⟨0, 0, kRegionHalo⟩
  | .z => ⟨0, 0, 0⟩

def exchangeBufferElements (patch : MeshPatch) (globalCells shape : Int3) (periodic : Bool) (axis : Axis) : Option ℕ :=
  if alone patch periodic axis then some 0
  else
    match checkedProduct (exchangeCount patch.cells shape axis (if narrow patch globalCells axis then 1 else kRegionHalo)) with
    | none => none
    | some elements => if elements ≤ maxInt32 then some elements else none

def neighborRank (patch : MeshPatch) (axis : Axis) (sign : ℤ) (periodic : Bool) : Option ℤ :=
  let extent := component patch.processGrid axis
  let selected := component patch.processCoord axis + sign
  if selected < 0 ∨ extent ≤ selected then
    if periodic then
      some (rankAt patch.processGrid (setComponent patch.processCoord axis ((selected + extent) % extent)))
    else none
  else some (rankAt patch.processGrid (setComponent patch.processCoord axis selected))

/-- The cells of a box in the order of the loops over `z`, `y` and `x`. -/
def boxIndices (count : Int3) : List Int3 :=
  (List.range count.z.toNat).flatMap fun z : ℕ => (List.range count.y.toNat).flatMap fun y : ℕ =>
    (List.range count.x.toNat).map fun x : ℕ => ⟨x, y, z⟩

def setHalo (halo : Region) (index : Int3) (value : ℕ) : Region := fun other => if other = index then value else halo other

/-- The stores of the second loop of an exchange, in their order. -/
def planeStores (lower upper : Option ℕ) (lowerTarget upperTarget : Int3 → Int3) :
    List Int3 → List ℕ → List ℕ → List (Int3 × ℕ)
  | [], _, _ => []
  | index :: rest, receiveLower, receiveUpper =>
    (if lower.isSome then [(lowerTarget index, receiveLower.headD 0)] else []) ++
      (if upper.isSome then [(upperTarget index, receiveUpper.headD 0)] else []) ++
      planeStores lower upper lowerTarget upperTarget rest receiveLower.tail receiveUpper.tail

/-- Both sends and receives of an exchange, with the cells that are sent and stored. -/
def exchangePlanes (lower upper : Option ℕ) (tag : ℕ) (indices : List Int3)
    (lowerSource upperSource lowerTarget upperTarget : Int3 → Int3) (halo : Region) : JobProg ℕ Unit (Option Region) :=
  let sendLower := indices.map fun index => halo (lowerSource index)
  let sendUpper := indices.map fun index => halo (upperSource index)
  (Job.sendrecv ⟨sendLower, lower, upper, indices.length, tag⟩).bind fun receiveUpper =>
  (Job.sendrecv ⟨sendUpper, upper, lower, indices.length, tag + 1⟩).bind fun receiveLower =>
  match receiveLower, receiveUpper with
  | some receiveLower, some receiveUpper =>
    .done (some ((planeStores lower upper lowerTarget upperTarget indices receiveLower receiveUpper).foldl
      (fun halo store => setHalo halo store.1 store.2) halo))
  | _, _ => .done none

def axisNumber : Axis → ℕ
  | .x => 0
  | .y => 1
  | .z => 2

section Exchange

variable (patch : MeshPatch) (shape : Int3) (periodic : Bool) (axis : Axis)

def lowerRank : Option ℕ := (neighborRank patch axis (-1) periodic).map Int.toNat

def upperRank : Option ℕ := (neighborRank patch axis 1 periodic).map Int.toNat

/-- The cell of an exchange on the plane `plane`. -/
def onPlane (index : Int3) (plane : ℤ) : Int3 :=
  let begin_ := exchangeBegin axis
  setComponent ⟨begin_.x + index.x, begin_.y + index.y, begin_.z + index.z⟩ axis plane

/-- The planes `depth` to `3`, one at a time, so that planes received before can be passed on. -/
def exchangePlaneByPlane : ℕ → ℕ → Region → JobProg ℕ Unit (Status × Region)
  | 0, _, halo => .done ({}, halo)
  | remaining + 1, depth, halo =>
    let extent := component patch.cells axis
    (exchangePlanes (lowerRank patch periodic axis) (upperRank patch periodic axis)
        (kHaloTagBase + 8 * axisNumber axis + 2 * depth) (boxIndices (exchangeCount patch.cells shape axis 1))
        (fun index => onPlane axis index (kRegionHalo + depth))
        (fun index => onPlane axis index (kRegionHalo + extent - 1 - depth))
        (fun index => onPlane axis index (kRegionHalo - 1 - depth))
        (fun index => onPlane axis index (kRegionHalo + extent + depth)) halo).bind fun
    | none => .done (mpiFailure, halo)
    | some halo => exchangePlaneByPlane remaining (depth + 1) halo

def exchangeSlab (halo : Region) : JobProg ℕ Unit (Status × Region) :=
  let extent := component patch.cells axis
  (exchangePlanes (lowerRank patch periodic axis) (upperRank patch periodic axis) (kHaloTagBase + 2 * axisNumber axis)
      (boxIndices (exchangeCount patch.cells shape axis kRegionHalo))
      (fun index => onPlane axis index (kRegionHalo + component index axis))
      (fun index => onPlane axis index (kRegionHalo + (extent - kRegionHalo + component index axis)))
      (fun index => onPlane axis index (component index axis))
      (fun index => onPlane axis index (kRegionHalo + extent + component index axis)) halo).bind fun
  | none => .done (mpiFailure, halo)
  | some halo => .done ({}, halo)

def exchangeAxis (globalCells : Int3) (bufferSize : ℕ) (halo : Region) : JobProg ℕ Unit (Status × Region) :=
  if alone patch periodic axis then .done ({}, halo)
  else
    match checkedProduct
        (exchangeCount patch.cells shape axis (if narrow patch globalCells axis then 1 else kRegionHalo)) with
    | none => .done (invalid kTopologyRegion, halo)
    | some elements =>
      if maxInt32 < elements ∨ bufferSize < elements then .done (invalid kTopologyRegion, halo)
      else if narrow patch globalCells axis then exchangePlaneByPlane patch shape periodic axis kRegionHalo.toNat 0 halo
      else exchangeSlab patch shape periodic axis halo

end Exchange

def exchangeAxes (patch : MeshPatch) (shape : Int3) (periodicAxes : Axis → Bool) (globalCells : Int3) (bufferSize : ℕ) :
    List Axis → Region → JobProg ℕ Unit (Status × Region)
  | [], halo => .done ({}, halo)
  | axis :: rest, halo =>
    (exchangeAxis patch shape (periodicAxes axis) axis globalCells bufferSize halo).bind fun (status, halo) =>
      if status.isOk then exchangeAxes patch shape periodicAxes globalCells bufferSize rest halo
      else .done (status, halo)

def isFluidGlobal (topology : EBTopology) (globalIndex : Int3) : Bool :=
  if (!topology.periodicAxes .x && (globalIndex.x < 0 || topology.globalCells.x ≤ globalIndex.x)) ||
      (!topology.periodicAxes .y && (globalIndex.y < 0 || topology.globalCells.y ≤ globalIndex.y)) ||
      (!topology.periodicAxes .z && (globalIndex.z < 0 || topology.globalCells.z ≤ globalIndex.z)) then false
  else
    let h := topology.regionHaloWidth
    let cells := topology.patch.cells
    let local_ : Int3 := ⟨globalIndex.x - topology.patch.begin.x, globalIndex.y - topology.patch.begin.y,
      globalIndex.z - topology.patch.begin.z⟩
    if local_.x < -h ∨ local_.y < -h ∨ local_.z < -h ∨ cells.x + h ≤ local_.x ∨ cells.y + h ≤ local_.y ∨
        cells.z + h ≤ local_.z then false
    else topology.haloRegion ⟨local_.x + h, local_.y + h, local_.z + h⟩ = fluid

/-- `kDirectionDelta`. -/
def directionDelta : Fin 6 → Int3
  | 0 => ⟨-1, 0, 0⟩
  | 1 => ⟨1, 0, 0⟩
  | 2 => ⟨0, -1, 0⟩
  | 3 => ⟨0, 1, 0⟩
  | 4 => ⟨0, 0, -1⟩
  | 5 => ⟨0, 0, 1⟩

def addIndex (left right : Int3) : Int3 := ⟨left.x + right.x, left.y + right.y, left.z + right.z⟩

def subIndex (left right : Int3) : Int3 := ⟨left.x - right.x, left.y - right.y, left.z - right.z⟩

def haloIndex (cell : Int3) : Int3 := addIndex cell ⟨kRegionHalo, kRegionHalo, kRegionHalo⟩

/-- What a rank hands in. The intersection of a segment between two cells is a status and, when there
is one, a triangle. -/
structure TopologyInput where
  geometryFingerprint : UInt64
  topologyRevision : UInt64
  scanFingerprint : UInt64
  surfaceFingerprint : UInt64
  scanTriangleFingerprint : UInt64
  sourceTriangleFingerprint : UInt64
  globalCells : Int3
  patch : MeshPatch
  fluidSide : ImmersedFluidSide
  limits : ImmersedPlanLimits
  lowerImages : Axis → Bool
  upperImages : Axis → Bool
  contract : ℕ
  allocatesBuffers : Bool
  classify : Status × Region
  allocatesLinks : Bool
  firstSegmentIntersection : Int3 → Int3 → Status × Option ℕ

namespace TopologyInput

variable (input : TopologyInput)

def periodicAxes : Axis → Bool := input.lowerImages

def haloShape : Int3 :=
  ⟨input.patch.cells.x + 2 * kRegionHalo, input.patch.cells.y + 2 * kRegionHalo, input.patch.cells.z + 2 * kRegionHalo⟩

def check (comm : RankComm) : Status :=
  let globalCount := checkedProduct input.globalCells
  let localCount := checkedProduct input.patch.cells
  if input.geometryFingerprint = 0 ∨ input.topologyRevision = 0 ∨ input.scanFingerprint = 0 ∨
      input.surfaceFingerprint = 0 ∨ input.scanTriangleFingerprint = 0 ∨
      input.sourceTriangleFingerprint ≠ input.scanTriangleFingerprint ∨
      globalCount = none ∨ (maxU64 - 5) / 6 < globalCount.getD 0 ∨ localCount = none ∨
      validPatch input.globalCells input.patch comm.rank comm.size = false ∨
      input.limits.maximumPersistentBytesPerRank = 0 ∨ input.limits.maximumPeakBytesPerRank = 0 ∨
      input.limits.maximumPeakBytesPerRank < input.limits.maximumPersistentBytesPerRank ∨
      input.limits.maximumLocalLinks = 0 ∨ 2 ^ 32 - 1 < input.limits.maximumLocalLinks ∨
      2 ^ 32 - 1 < localCount.getD 0 ∨ ∃ axis ∈ axes, input.lowerImages axis ≠ input.upperImages axis then
    invalid kTopologyInput
  else {}

structure Sizes where
  maximumExchangeElements : ℕ
  persistentBytes : ℕ
  peakBytes : ℕ

def sizes : Option Sizes := do
  let shape := input.haloShape
  if maxInt32 < shape.x ∨ maxInt32 < shape.y ∨ maxInt32 < shape.z then none
  else
    let elements ← axes.mapM fun axis =>
      exchangeBufferElements input.patch input.globalCells shape (input.periodicAxes axis) axis
    let maximum := elements.foldl max 0
    let haloCount ← checkedProduct shape
    let localCount ← checkedProduct input.patch.cells
    let persistent ← MgWorkspace.checkedAdd localCount haloCount
    let exchange ← MgWorkspace.checkedMultiply maximum 4
    let peak ← MgWorkspace.checkedAdd persistent exchange
    if input.limits.maximumPersistentBytesPerRank < persistent ∨ input.limits.maximumPeakBytesPerRank < peak then none
    else some ⟨maximum, persistent, peak⟩

def selectedFluid (raw : ℕ) (side : ImmersedFluidSide) : Bool :=
  let outside := raw = fluid
  match side with
  | .outside => outside
  | .inside => !outside

def selectedRegion (raw : ℕ) (side : ImmersedFluidSide) : ℕ := if selectedFluid raw side then fluid else solid

def region : Region := fun cell => selectedRegion (input.classify.2 cell) input.fluidSide

/-- The halo region before the exchange: the own regions, and solid cells around them. -/
def initialHalo : Region :=
  (boxIndices input.patch.cells).foldl (fun halo cell => setHalo halo (haloIndex cell) (input.region cell)) fun _ => solid

def linkDirections (halo : Region) (cell : Int3) : List (Fin 6) :=
  (List.finRange 6).filter fun direction =>
    inside (addIndex (addIndex input.patch.begin cell) (directionDelta direction)) input.globalCells &&
      halo (addIndex (haloIndex cell) (directionDelta direction)) = solid

def fluidCells : List Int3 := (boxIndices input.patch.cells).filter fun cell => input.region cell = fluid

/-- `sizeof(ImmersedLink)`. -/
def sizeofLink : ℕ := 168

def linkCount (halo : Region) : ℕ := (input.fluidCells.map fun cell => (input.linkDirections halo cell).length).sum

def interfaceCount (halo : Region) : ℕ := input.fluidCells.countP fun cell => !(input.linkDirections halo cell).isEmpty

def linksFit (sizes : Sizes) (halo : Region) : Status :=
  let links := input.linkCount halo
  let interfaces := input.interfaceCount halo
  let bytes := do
    let linkBytes ← MgWorkspace.checkedMultiply links sizeofLink
    let interfaceBytes ← MgWorkspace.checkedMultiply interfaces 4
    MgWorkspace.checkedAdd (← MgWorkspace.checkedAdd sizes.persistentBytes linkBytes) interfaceBytes
  match bytes with
  | none => invalid kTopologyLinks
  | some bytes =>
    if input.limits.maximumLocalLinks < links ∨ 2 ^ 32 - 1 < links ∨ 2 ^ 32 - 1 < interfaces ∨
        input.limits.maximumPersistentBytesPerRank < bytes ∨
        input.limits.maximumPeakBytesPerRank < max sizes.peakBytes bytes then invalid kTopologyLinks
    else {}

def makeLink (cell : Int3) (direction : Fin 6) (triangle : ℕ) : ImmersedLink :=
  let fluidIndex := addIndex input.patch.begin cell
  let solidIndex := addIndex fluidIndex (directionDelta direction)
  { globalLink := (6 * globalId fluidIndex input.globalCells + direction) % 2 ^ 64
    fluidCell := globalId fluidIndex input.globalCells
    solidCell := globalId solidIndex input.globalCells
    fluidGlobalIndex := fluidIndex
    solidGlobalIndex := solidIndex
    fluidLocalIndex := cell
    solidLocalIndex := subIndex solidIndex input.patch.begin
    direction := direction
    triangle := triangle }

def directionLoop (cell : Int3) : List (Fin 6) → List ImmersedLink → Status × List ImmersedLink
  | [], links => ({}, links)
  | direction :: rest, links =>
    if input.limits.maximumLocalLinks ≤ links.length then (invalid kTopologyLinks, links)
    else
      let fluidIndex := addIndex input.patch.begin cell
      match input.firstSegmentIntersection fluidIndex (addIndex fluidIndex (directionDelta direction)) with
      | (status, triangle) =>
        if !status.isOk then (status, links)
        else
          match triangle with
          | none => (invalid kTopologyGeometry, links)
          | some triangle => directionLoop cell rest (links ++ [input.makeLink cell direction triangle])

def linkLoop (halo : Region) : List Int3 → List ImmersedLink → List ℕ → Status × List ImmersedLink × List ℕ
  | [], links, interfaceCells => ({}, links, interfaceCells)
  | cell :: rest, links, interfaceCells =>
    match input.directionLoop cell (input.linkDirections halo cell) links with
    | (status, links) =>
      let interfaceCells := if (input.linkDirections halo cell).isEmpty then interfaceCells
        else interfaceCells ++ [flat input.patch.cells cell]
      if status.isOk then linkLoop halo rest links interfaceCells else (status, links, interfaceCells)

def buildLinks (halo : Region) : Status × List ImmersedLink × List ℕ :=
  let built := input.linkLoop halo input.fluidCells [] []
  if built.1.isOk && (built.2.1.length ≠ input.linkCount halo || built.2.2.length ≠ input.interfaceCount halo) then
    (invalid kTopologyLinks, built.2)
  else built

end TopologyInput

def okUnless (failed : Bool) (status : Status) : Status := if failed then status else {}

/-- `EBTopologyCompiler::compile` up to the links. -/
def compile (comm : RankComm) (input : TopologyInput) : TopologyStage EBTopology :=
  (consensus comm (input.check comm)).andThen fun _ =>
  (Job.bcast 0 [input.contract]).bind fun rootContract =>
  let contractStatus := match rootContract with
    | none => mpiFailure
    | some rootContract => okUnless (rootContract ≠ [input.contract]) (invalid kTopologyInput)
  (consensus comm contractStatus).andThen fun _ =>
  (consensus comm (okUnless input.sizes.isNone (invalid kTopologyRegion))).andThen fun _ =>
  (consensus comm (okUnless (!input.allocatesBuffers) ⟨.allocationFailure, kTopologyAllocation⟩)).andThen fun _ =>
  (consensus comm input.classify.1).andThen fun _ =>
  match input.sizes with
  | none => .done .fault
  | some sizes =>
    (exchangeAxes input.patch input.haloShape input.periodicAxes input.globalCells sizes.maximumExchangeElements axes
      input.initialHalo).bind fun (status, halo) =>
    (consensus comm status).andThen fun _ =>
    (consensus comm (input.linksFit sizes halo)).andThen fun _ =>
    (consensus comm (okUnless (!input.allocatesLinks) ⟨.allocationFailure, kTopologyAllocation⟩)).andThen fun _ =>
    let built := input.buildLinks halo
    (consensus comm built.1).andThen fun _ =>
    .done (.ok {
      globalCells := input.globalCells
      patch := input.patch
      periodicAxes := input.periodicAxes
      regionHaloWidth := kRegionHalo
      region := input.region
      haloRegion := halo
      links := built.2.1
      interfaceCells := built.2.2 })

end EBTopology

end HundunFlow
