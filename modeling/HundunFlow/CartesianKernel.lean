import HundunFlow.FaceFluxStorage
import HundunFlow.StateLayers

/-!
# Face reconstruction and divergence on kernel boxes

A kernel runs on one box of the cells of a patch. `reconstruct_mass_flux` computes the mass flux
on the faces that the box owns, and `cartesian_provisional_face_divergence` the divergence of a
flux in the cells of the box. Cell fields and face fluxes lie in storages of their own.
-/

namespace HundunFlow

open Lib

/-- What the kernels compute with: the `double`s of the source, or the elements of a field. -/
class KernelArithmetic (F : Type) extends FaceValue F, Add F, Sub F, Mul F, Div F where
  half : F
  ofInt : ℤ → F

/-- Exact arithmetic: every value is finite. -/
instance exactKernelArithmetic {𝕜 : Type} [Field 𝕜] : KernelArithmetic 𝕜 where
  zero := 0
  isFinite _ := true
  half := 1 / 2
  ofInt i := i

def kFaceKernel : UInt32 := 915
def kFaceNumerical : UInt32 := 916
def kKernelInvocation : UInt32 := 902

inductive GeometryKind where
  | uniform | tensorStretched | runtimeAxesV1
  deriving DecidableEq

structure KernelBox where
  begin : Int3 := {}
  cells : Int3 := {}
  deriving DecidableEq

structure KernelCounters where
  invocations : ℕ := 0
  cells : ℕ := 0
  faces : ℕ := 0
  logicalBytesRead : ℕ := 0
  logicalBytesWritten : ℕ := 0
  deriving DecidableEq

structure KernelInvocation where
  reads : Span FieldView := .null 0
  writes : Span FieldView := .null 0
  box : KernelBox := {}
  writeComponentBegin : ℕ := 0
  componentCount : ℕ := 1
  requiredFaceFluxRevision : ℕ := 0
  counters : Option KernelCounters := none

def validKernelBox (box : KernelBox) (cells : Int3) : Bool :=
  if !validCells box.cells || box.begin.x < 0 || box.begin.y < 0 || box.begin.z < 0 || !validCells cells then false
  else
    box.begin.x + box.cells.x ≤ cells.x && box.begin.y + box.cells.y ≤ cells.y &&
      box.begin.z + box.cells.z ≤ cells.z

def boxCellCount (box : KernelBox) : ℕ :=
  if !validCells box.cells then 0
  else
    let x := box.cells.x.toNat
    let y := box.cells.y.toNat
    let z := box.cells.z.toNat
    if maxU64 / y < x || maxU64 / z < x * y then 0 else x * y * z

/-- `checked_counter_add`. -/
def checkedCounterAdd (destination increment : ℕ) : Option ℕ :=
  if maxU64 - destination < increment then none else some (destination + increment)

def addKernelCounterTotals (counters : KernelCounters) (cells faces reads writes : ℕ) :
    Except Status KernelCounters :=
  if cells = 0 then .error ⟨.invalidPlan, kKernelInvocation⟩
  else if maxU64 / 8 < reads || maxU64 / 8 < writes then .error ⟨.invalidPlan, kKernelInvocation⟩
  else
    let candidate : Option KernelCounters := do
      let invocations ← checkedCounterAdd counters.invocations 1
      let cells ← checkedCounterAdd counters.cells cells
      let faces ← checkedCounterAdd counters.faces faces
      let logicalBytesRead ← checkedCounterAdd counters.logicalBytesRead (reads * 8)
      let logicalBytesWritten ← checkedCounterAdd counters.logicalBytesWritten (writes * 8)
      return ⟨invocations, cells, faces, logicalBytesRead, logicalBytesWritten⟩
    match candidate with
    | none => .error ⟨.invalidPlan, kKernelInvocation⟩
    | some candidate => .ok candidate

def addKernelCounters (counters : KernelCounters) (box : KernelBox)
    (facesPerCell readDoublesPerCell writtenDoublesPerCell : ℕ) : Except Status KernelCounters :=
  let cells := boxCellCount box
  if cells = 0 || maxU64 / cells < facesPerCell || maxU64 / cells < readDoublesPerCell ||
      maxU64 / cells < writtenDoublesPerCell then .error ⟨.invalidPlan, kKernelInvocation⟩
  else
    addKernelCounterTotals counters cells (cells * facesPerCell) (cells * readDoublesPerCell)
      (cells * writtenDoublesPerCell)

/-- `field_storage_interval`: whether the doubles of the view form an interval. An owner's memory
never wraps around the address space, so only the extent itself is checked for overflow. -/
def fieldStorageInterval (view : FieldView) : Option (ArenaAddress × ℕ × ℕ) := do
  let base ← view.base
  guard (0 < view.interior.x ∧ 0 < view.interior.y ∧ 0 < view.interior.z)
  guard (0 ≤ view.ghosts.x ∧ 0 ≤ view.ghosts.y ∧ 0 ≤ view.ghosts.z)
  guard (view.components ≠ 0 ∧ view.strideY ≠ 0 ∧ view.strideZ ≠ 0 ∧ view.componentStride ≠ 0)
  let gx := view.ghosts.x.toNat
  let gy := view.ghosts.y.toNat
  let gz := view.ghosts.z.toNat
  let nx := view.interior.x.toNat
  let ny := view.interior.y.toNat
  let nz := view.interior.z.toNat
  let paddedX ← checkedAdd nx (← checkedMultiply gx 2)
  let paddedY ← checkedAdd ny (← checkedMultiply gy 2)
  let paddedZ ← checkedAdd nz (← checkedMultiply gz 2)
  guard (paddedX ≤ view.strideY)
  let minimumStrideZ ← checkedMultiply view.strideY paddedY
  guard (minimumStrideZ ≤ view.strideZ)
  let minimumComponentStride ← checkedMultiply view.strideZ paddedZ
  guard (minimumComponentStride ≤ view.componentStride)
  let storageSpan ← checkedMultiply view.componentStride view.components
  let prefixY ← checkedMultiply gy view.strideY
  let prefixZ ← checkedMultiply gz view.strideZ
  let before ← checkedAdd gx prefixY
  let before ← checkedAdd before prefixZ
  let lastX ← checkedAdd nx gx
  let lastYIndex ← checkedAdd ny gy
  let lastZIndex ← checkedAdd nz gz
  let lastY ← checkedMultiply (lastYIndex - 1) view.strideY
  let lastZ ← checkedMultiply (lastZIndex - 1) view.strideZ
  let lastComponent ← checkedMultiply (view.components - 1) view.componentStride
  let maximumOffset ← checkedAdd (lastX - 1) lastY
  let maximumOffset ← checkedAdd maximumOffset lastZ
  let maximumOffset ← checkedAdd maximumOffset lastComponent
  let endOffset ← checkedAdd maximumOffset 1
  guard (view.strideY ≤ maxPtrdiff ∧ view.strideZ ≤ maxPtrdiff ∧ view.componentStride ≤ maxPtrdiff ∧
    before ≤ maxPtrdiff ∧ maximumOffset ≤ maxPtrdiff ∧ storageSpan ≠ 0)
  let _ ← checkedMultiply before 8
  let _ ← checkedMultiply endOffset 8
  return (base, before, endOffset)

def validCellView (view : FieldView) (cells : Int3) (componentBegin componentCount requiredGhostWidth : ℕ) : Bool :=
  (fieldStorageInterval view).isSome && sameCells view.interior cells && view.components ≠ 0 &&
    componentCount ≠ 0 && componentBegin + componentCount ≤ view.components && view.strideY ≠ 0 &&
    view.strideZ ≠ 0 && view.componentStride ≠ 0 && view.revision ≠ 0 && view.storageIdentity ≠ 0 &&
    view.revisionDomain ≠ 0 && requiredGhostWidth ≤ view.ghosts.x && requiredGhostWidth ≤ view.ghosts.y &&
    requiredGhostWidth ≤ view.ghosts.z

/-- `&view.unchecked(index, component)` of a view that has a base. -/
def FieldView.at (view : FieldView) (base : ArenaAddress) (index : Int3) (component : ℕ) : ArenaAddress :=
  { base with offset := base.offset + (index.x + index.y * view.strideY + index.z * view.strideZ +
      component * view.componentStride) }

def axisIndex : CartesianAxis → Int3 → ℤ
  | .x, value => value.x
  | .y, value => value.y
  | .z, value => value.z

def setAxis : CartesianAxis → Int3 → ℤ → Int3
  | .x, value, selected => { value with x := selected }
  | .y, value, selected => { value with y := selected }
  | .z, value, selected => { value with z := selected }

def CartesianAxis.index : CartesianAxis → ℕ
  | .x => 0
  | .y => 1
  | .z => 2

def FaceFluxView.select (flux : FaceFluxView) : CartesianAxis → FaceFieldView
  | .x => flux.x
  | .y => flux.y
  | .z => flux.z

structure CartesianFaceMetric (F : Type) where
  leftDistance : F
  rightDistance : F
  inverseDistance : F

structure CartesianMetricPacket (F : Type) where
  faces : List F := []
  centres : List F := []
  widths : List F := []
  inverseWidths : List F := []
  cells : ℕ := 0
  globalBegin : ℤ := 0
  localFaceOrigin : F
  localCentreOrigin : F
  uniformWidth : F
  uniformInverseWidth : F
  faceGeometry : List (CartesianFaceMetric F) := []

structure CartesianKernelPlan (F : Type) where
  cells : Int3
  geometryKind : GeometryKind
  physicalInletMaterialMask : ℕ := 0
  fingerprint : ℕ
  metric : CartesianAxis → CartesianMetricPacket F

namespace CartesianKernelPlan

variable {F : Type} [KernelArithmetic F]

def uniform (plan : CartesianKernelPlan F) : Bool := plan.geometryKind = .uniform

def physicalInletMaterial (plan : CartesianKernelPlan F) (axis : CartesianAxis) (face : ℤ) : Bool :=
  let n := axisIndex axis plan.cells
  if face ≠ 0 ∧ face ≠ n then false
  else plan.physicalInletMaterialMask.testBit (2 * axis.index + if face = n then 1 else 0)

def entry (values : List F) (index : ℤ) : F := values.getD index.toNat FaceValue.zero

def metricWidth (plan : CartesianKernelPlan F) (axis : CartesianAxis) (localIndex : ℤ) : F :=
  let metric := plan.metric axis
  if plan.uniform then metric.uniformWidth else entry metric.widths (metric.globalBegin + localIndex)

def metricInverseWidth (plan : CartesianKernelPlan F) (axis : CartesianAxis) (localIndex : ℤ) : F :=
  let metric := plan.metric axis
  if plan.uniform then metric.uniformInverseWidth else entry metric.inverseWidths (metric.globalBegin + localIndex)

/-- `metric_centre<false>`. -/
def metricCentre (plan : CartesianKernelPlan F) (axis : CartesianAxis) (localIndex : ℤ) : F :=
  let metric := plan.metric axis
  let global := metric.globalBegin + localIndex
  if global < 0 then entry metric.centres 0 + KernelArithmetic.ofInt global * entry metric.widths 0
  else if (metric.cells : ℤ) ≤ global then
    let last : ℤ := (metric.cells : ℤ) - 1
    entry metric.centres last + KernelArithmetic.ofInt (global - last) * entry metric.widths last
  else entry metric.centres global

/-- `metric_face<false>`. -/
def metricFace (plan : CartesianKernelPlan F) (axis : CartesianAxis) (localFace : ℤ) : F :=
  let metric := plan.metric axis
  let global := metric.globalBegin + localFace
  if global < 0 then entry metric.faces 0 + KernelArithmetic.ofInt global * entry metric.widths 0
  else if (metric.cells : ℤ) < global then
    entry metric.faces metric.cells +
      KernelArithmetic.ofInt (global - metric.cells) * entry metric.widths ((metric.cells : ℤ) - 1)
  else entry metric.faces global

def cachedFaceMetric (plan : CartesianKernelPlan F) (axis : CartesianAxis) (localFace : ℤ) :
    Option (CartesianFaceMetric F) :=
  let metric := plan.metric axis
  let index := metric.globalBegin + localFace
  if 0 ≤ index ∧ index ≤ metric.cells then metric.faceGeometry[index.toNat]? else none

def metricInterpolateFace (plan : CartesianKernelPlan F) (axis : CartesianAxis) (localFace : ℤ) (left right : F) : F :=
  if plan.uniform then KernelArithmetic.half * (left + right)
  else
    match plan.cachedFaceMetric axis localFace with
    | some metric => left + metric.leftDistance * metric.inverseDistance * (right - left)
    | none =>
      let face := plan.metricFace axis localFace
      let leftDistance := face - plan.metricCentre axis (localFace - 1)
      let rightDistance := plan.metricCentre axis localFace - face
      left + leftDistance / (leftDistance + rightDistance) * (right - left)

def metricInverseVolume (plan : CartesianKernelPlan F) (cell : Int3) : F :=
  plan.metricInverseWidth .x cell.x * plan.metricInverseWidth .y cell.y * plan.metricInverseWidth .z cell.z

def metricFaceArea (plan : CartesianKernelPlan F) (axis : CartesianAxis) (face : Int3) : F :=
  match axis with
  | .x => plan.metricWidth .y face.y * plan.metricWidth .z face.z
  | .y => plan.metricWidth .x face.x * plan.metricWidth .z face.z
  | .z => plan.metricWidth .x face.x * plan.metricWidth .y face.y

def cellVolume (plan : CartesianKernelPlan F) (cell : Int3) : F :=
  plan.metricWidth .x cell.x * plan.metricWidth .y cell.y * plan.metricWidth .z cell.z

end CartesianKernelPlan

structure AxisMetricData (F : Type) where
  faces : List F
  centres : List F
  widths : List F
  inverseWidths : List F
  uniform : Bool
  uniformWidth : F
  uniformInverseWidth : F

def kFocusCellCount : UInt32 := 102
def kFocusSpacing : UInt32 := 103

section Metrics

variable {𝕜 : Type} [Field 𝕜] [LinearOrder 𝕜]

/-- `finish_axis_metrics` in exact arithmetic; the distances of the centres are left out. -/
def finishAxisMetrics (faces : List 𝕜) : Except Status (AxisMetricData 𝕜) :=
  let widths := List.zipWith (fun left right => right - left) faces faces.tail
  match widths with
  | [] => .error ⟨.invalidPlan, kFocusCellCount⟩
  | uniformWidth :: _ =>
    if widths.all fun width => 0 < width then
      let tolerance := 64 * (1 / 2 ^ 52) * max 1 |uniformWidth|
      let uniform := widths.all fun width => |width - uniformWidth| ≤ tolerance
      .ok {
        faces := faces
        centres := List.zipWith (fun left width => left + 1 / 2 * width) faces widths
        widths := widths
        inverseWidths := widths.map fun width => 1 / width
        uniform := uniform
        uniformWidth := if uniform then uniformWidth else 0
        uniformInverseWidth := if uniform then 1 / uniformWidth else 0 }
    else .error ⟨.invalidPlan, kFocusSpacing⟩

/-- The metric of one axis in `CartesianKernelPlan::compile`, before the face geometry is cached:
the slice of the axis that the patch and its ghosts reach, wrapped where a stretched axis is
periodic. -/
def compileMetric (kind : GeometryKind) (metric : AxisMetricData 𝕜) (begin cells : ℤ) (reach : ℕ) (periodic : Bool) :
    Option (CartesianMetricPacket 𝕜) :=
  let n : ℤ := metric.centres.length
  if n = 0 || metric.faces.length ≠ n + 1 || metric.widths.length ≠ n || metric.inverseWidths.length ≠ n ||
      n ≤ begin then none
  else
    let requestedBegin := begin - reach
    let requestedEnd := begin + cells + reach
    let sliceBegin := max 0 requestedBegin
    let sliceEnd := min n requestedEnd
    if sliceEnd ≤ sliceBegin || begin < sliceBegin then none
    else
      let entries (values : List 𝕜) (count : ℕ) := (List.range count).map fun i : ℕ =>
        CartesianKernelPlan.entry values (sliceBegin + i)
      let wrapped (values : List 𝕜) (count : ℕ) := (List.range count).map fun i : ℕ =>
        CartesianKernelPlan.entry values ((requestedBegin + i) % n)
      let shifted (values : List 𝕜) (count : ℕ) := (List.range count).map fun i : ℕ =>
        CartesianKernelPlan.entry values ((requestedBegin + i) % n) +
          ((requestedBegin + i) / n : ℤ) *
            (CartesianKernelPlan.entry metric.faces n - CartesianKernelPlan.entry metric.faces 0)
      let count := (sliceEnd - sliceBegin).toNat
      let packet : CartesianMetricPacket 𝕜 := {
        faces := entries metric.faces (count + 1)
        centres := entries metric.centres count
        widths := entries metric.widths count
        inverseWidths := entries metric.inverseWidths count
        cells := count
        globalBegin := begin - sliceBegin
        localFaceOrigin := CartesianKernelPlan.entry metric.faces begin
        localCentreOrigin := CartesianKernelPlan.entry metric.centres begin
        uniformWidth := metric.uniformWidth
        uniformInverseWidth := metric.uniformInverseWidth }
      if kind ≠ .uniform ∧ periodic then
        let count := (requestedEnd - requestedBegin).toNat
        some { packet with
          faces := shifted metric.faces (count + 1)
          centres := shifted metric.centres count
          widths := wrapped metric.widths count
          inverseWidths := wrapped metric.inverseWidths count
          cells := count
          globalBegin := reach }
      else some packet

end Metrics

variable {F : Type} [KernelArithmetic F]

/-- `unchecked` of a view of cells. -/
def FieldView.unchecked (cells : Memory ArenaAddress F) (view : FieldView) (index : Int3) (component : ℕ) : F :=
  match view.base with
  | none => FaceValue.zero
  | some base => cells (view.at base index component)

/-- `unchecked` of a view of faces. -/
def FaceFieldView.unchecked (faces : Memory Address F) (view : FaceFieldView) (index : Int3) : F :=
  match view.base with
  | none => FaceValue.zero
  | some base => faces (view.at base index)

/-- The payload of the face fluxes, with a record of the faces that were stored to. -/
structure FaceStores (F : Type) where
  memory : Memory Address F
  written : List (CartesianAxis × Int3) := []

/-- `output.unchecked(face) = rate`. -/
def FaceStores.store (s : FaceStores F) (axis : CartesianAxis) (output : FaceFieldView) (face : Int3) (rate : F) :
    FaceStores F :=
  match output.base with
  | none => s
  | some base => ⟨Function.update s.memory (output.at base face) rate, s.written ++ [(axis, face)]⟩

def cellProduct (cells : Memory ArenaAddress F) (density velocity : FieldView) (index : Int3) (component : ℕ) : F :=
  density.unchecked cells index 0 * velocity.unchecked cells index component

/-- The rate that `reconstruct_axis` computes for a face. -/
def faceRate (plan : CartesianKernelPlan F) (cells : Memory ArenaAddress F) (density velocity : FieldView)
    (axis : CartesianAxis) (face : Int3) : F :=
  let normal := axisIndex axis face
  let left := setAxis axis face (normal - 1)
  if plan.physicalInletMaterial axis normal then
    let ghost := if normal = 0 then left else face
    density.unchecked cells ghost 0 *
      plan.metricInterpolateFace axis normal (velocity.unchecked cells left axis.index)
        (velocity.unchecked cells face axis.index) * plan.metricFaceArea axis face
  else
    plan.metricInterpolateFace axis normal (cellProduct cells density velocity left axis.index)
      (cellProduct cells density velocity face axis.index) * plan.metricFaceArea axis face

/-- The faces from `first` to `last`, without `last`, in the order of the loops: x innermost. -/
def loopIndices (first last : Int3) : List Int3 :=
  (faceIndices ⟨last.x - first.x, last.y - first.y, last.z - first.z⟩).map fun i =>
    ⟨first.x + i.x, first.y + i.y, first.z + i.z⟩

def axisFaces (axis : CartesianAxis) (box : KernelBox) : List Int3 :=
  let cellEnd : Int3 := ⟨box.begin.x + box.cells.x, box.begin.y + box.cells.y, box.begin.z + box.cells.z⟩
  let first := axisIndex axis box.begin
  loopIndices (setAxis axis box.begin (if first = 0 then 0 else first + 1))
    (setAxis axis cellEnd (axisIndex axis cellEnd + 1))

/-- The loop of `reconstruct_axis`: it stops at a rate that is not finite. -/
def storeRates (axis : CartesianAxis) (output : FaceFieldView) (rate : Int3 → F) (s : FaceStores F) :
    List Int3 → Status × FaceStores F
  | [] => ({}, s)
  | face :: rest =>
    if FaceValue.isFinite (rate face) then storeRates axis output rate (s.store axis output face (rate face)) rest
    else (⟨.numericalFailure, kFaceNumerical⟩, s)

def reconstructAxis (plan : CartesianKernelPlan F) (cells : Memory ArenaAddress F) (density velocity : FieldView)
    (axis : CartesianAxis) (box : KernelBox) (output : FaceFieldView) (s : FaceStores F) : Status × FaceStores F :=
  storeRates axis output (faceRate plan cells density velocity axis) s (axisFaces axis box)

def reconstructAllAxes (plan : CartesianKernelPlan F) (cells : Memory ArenaAddress F) (density velocity : FieldView)
    (box : KernelBox) (flux : FaceFluxView) (s : FaceStores F) : Status × FaceStores F :=
  let (status, s) := reconstructAxis plan cells density velocity .x box flux.x s
  if !status.isOk then (status, s)
  else
    let (status, s) := reconstructAxis plan cells density velocity .y box flux.y s
    if !status.isOk then (status, s)
    else reconstructAxis plan cells density velocity .z box flux.z s

def checkedFaceCount (box : KernelBox) : Option ℕ := do
  let cx := box.cells.x.toNat
  let cy := box.cells.y.toNat
  let cz := box.cells.z.toNat
  let bx := if box.begin.x = 0 then 1 else 0
  let bY := if box.begin.y = 0 then 1 else 0
  let bz := if box.begin.z = 0 then 1 else 0
  let xFaces ← checkedMultiply (cx + bx) cy
  let xFaces ← checkedMultiply xFaces cz
  let yFaces ← checkedMultiply cx (cy + bY)
  let yFaces ← checkedMultiply yFaces cz
  let zFaces ← checkedMultiply cx cy
  let zFaces ← checkedMultiply zFaces (cz + bz)
  let sum ← checkedAdd xFaces yFaces
  checkedAdd sum zFaces

def FaceFluxCertificate.valid (certificate : FaceFluxCertificate) : Bool :=
  certificate.revision ≠ 0 && certificate.authority ≠ 0 && certificate.storage ≠ 0 &&
    certificate.revisionDomain ≠ 0 && certificate.xBase.isSome && certificate.yBase.isSome &&
    certificate.zBase.isSome && 0 < certificate.cells.x && 0 < certificate.cells.y && 0 < certificate.cells.z

/-- The checks of `reconstruct_mass_flux`; the views of density and velocity that passed. -/
def massFluxReads (plan : CartesianKernelPlan F) (invocation : KernelInvocation) (flux : FaceFluxView) :
    Option (FieldView × FieldView) :=
  match invocation.reads with
  | .of [density, velocity] =>
    if plan.fingerprint = 0 || invocation.writes.size ≠ 0 || !validKernelBox invocation.box plan.cells ||
        !validCellView density plan.cells 0 1 1 || !validCellView velocity plan.cells 0 3 1 ||
        !validFluxView flux plan.cells flux.revision || flux.certificate.valid ||
        invocation.componentCount ≠ 1 || invocation.requiredFaceFluxRevision ≠ 0 then none
    else some (density, velocity)
  | _ => none

/-- `reconstruct_mass_flux`; the counters are written at the end only. -/
def reconstructMassFlux (plan : CartesianKernelPlan F) (cells : Memory ArenaAddress F) (invocation : KernelInvocation)
    (flux : FaceFluxView) (s : FaceStores F) : Status × FaceStores F × Option KernelCounters :=
  match massFluxReads plan invocation flux with
  | none => (⟨.invalidPlan, kFaceKernel⟩, s, invocation.counters)
  | some (density, velocity) =>
    match checkedFaceCount invocation.box with
    | none => (⟨.invalidPlan, kFaceKernel⟩, s, invocation.counters)
    | some faces =>
      if maxU64 / 4 < faces then (⟨.invalidPlan, kFaceKernel⟩, s, invocation.counters)
      else
        match invocation.counters.mapM fun counters =>
            addKernelCounterTotals counters (boxCellCount invocation.box) faces (4 * faces) faces with
        | .error status => (status, s, invocation.counters)
        | .ok prepared =>
          let (status, s) := reconstructAllAxes plan cells density velocity invocation.box flux s
          if !status.isOk then (status, s, invocation.counters) else (status, s, prepared)

/-- The runs of `reconstruct_mass_flux` on boxes, one after the other, up to the first that fails. -/
def reconstructBoxes (plan : CartesianKernelPlan F) (cells : Memory ArenaAddress F) (invocation : KernelInvocation)
    (flux : FaceFluxView) (s : FaceStores F) (counters : Option KernelCounters) :
    List KernelBox → Status × FaceStores F × Option KernelCounters
  | [] => ({}, s, counters)
  | box :: rest =>
    let (status, s, counters) :=
      reconstructMassFlux plan cells { invocation with box := box, counters := counters } flux s
    if !status.isOk then (status, s, counters) else reconstructBoxes plan cells invocation flux s counters rest

/-- What `divergence_kernel` stores in a cell. -/
def cellDivergence (plan : CartesianKernelPlan F) (faces : Memory Address F) (flux : FaceFluxView) (cell : Int3) : F :=
  let raw := flux.x.unchecked faces { cell with x := cell.x + 1 } - flux.x.unchecked faces cell +
      flux.y.unchecked faces { cell with y := cell.y + 1 } - flux.y.unchecked faces cell +
      flux.z.unchecked faces { cell with z := cell.z + 1 } - flux.z.unchecked faces cell
  raw * plan.metricInverseVolume cell

def kernelCells (box : KernelBox) : List Int3 :=
  loopIndices box.begin ⟨box.begin.x + box.cells.x, box.begin.y + box.cells.y, box.begin.z + box.cells.z⟩

/-- The loop of `divergence_kernel`: it stops at a value that is not finite. -/
def storeCells (output : FieldView) (component : ℕ) (value : Int3 → F) (cells : Memory ArenaAddress F) :
    List Int3 → Status × Memory ArenaAddress F
  | [] => ({}, cells)
  | cell :: rest =>
    if FaceValue.isFinite (value cell) then
      match output.base with
      | none => storeCells output component value cells rest
      | some base =>
        storeCells output component value (Function.update cells (output.at base cell component) (value cell)) rest
    else (⟨.numericalFailure, kFaceNumerical⟩, cells)

/-- The checks of `cartesian_provisional_face_divergence`; the view to write that passed. -/
def divergenceOutput (plan : CartesianKernelPlan F) (flux : FaceFluxView) (invocation : KernelInvocation) :
    Option FieldView :=
  match invocation.writes with
  | .of [output] =>
    if plan.fingerprint = 0 || invocation.reads.size ≠ 0 || invocation.componentCount ≠ 1 ||
        invocation.requiredFaceFluxRevision = 0 || !validKernelBox invocation.box plan.cells ||
        !validFluxView flux plan.cells invocation.requiredFaceFluxRevision ||
        !validCellView output plan.cells invocation.writeComponentBegin 1 0 then none
    else some output
  | _ => none

def cartesianProvisionalFaceDivergence (plan : CartesianKernelPlan F) (faces : Memory Address F) (flux : FaceFluxView)
    (invocation : KernelInvocation) (cells : Memory ArenaAddress F) :
    Status × Memory ArenaAddress F × Option KernelCounters :=
  match divergenceOutput plan flux invocation with
  | none => (⟨.invalidPlan, kFaceKernel⟩, cells, invocation.counters)
  | some output =>
    match invocation.counters.mapM fun counters => addKernelCounters counters invocation.box 6 6 1 with
    | .error status => (status, cells, invocation.counters)
    | .ok prepared =>
      let (status, cells) := storeCells output invocation.writeComponentBegin (cellDivergence plan faces flux) cells
        (kernelCells invocation.box)
      if !status.isOk then (status, cells, invocation.counters) else (status, cells, prepared)

/-- The runs of `cartesian_provisional_face_divergence` on boxes, up to the first that fails. -/
def divergenceBoxes (plan : CartesianKernelPlan F) (faces : Memory Address F) (flux : FaceFluxView)
    (invocation : KernelInvocation) (cells : Memory ArenaAddress F) (counters : Option KernelCounters) :
    List KernelBox → Status × Memory ArenaAddress F × Option KernelCounters
  | [] => ({}, cells, counters)
  | box :: rest =>
    let (status, cells, counters) :=
      cartesianProvisionalFaceDivergence plan faces flux { invocation with box := box, counters := counters } cells
    if !status.isOk then (status, cells, counters) else divergenceBoxes plan faces flux invocation cells counters rest

end HundunFlow
