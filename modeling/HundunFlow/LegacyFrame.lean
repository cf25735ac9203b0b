import HundunFlow.EBTopology

/-!
# Legacy VisIt frames

Every rank writes the points of its patch and one layer more on the upper sides inside the box. The
layers come from the neighbours, axis by axis, in planes as wide as the layers received before. The
arrays of a rank are kept by index triples and components. The index of the frames, the directory and
the files themselves are left out: the statuses of these steps are handed in.
-/

namespace HundunFlow

open Lib

inductive SnapshotSource where
  | registeredField | sgsKinematicViscosity | sgsKineticEnergy | sgsDissipationVolume | sgsDissipationSpecific
  | esfMeanEosDensity | esfStatisticalDensity | esfAuxiliaryDensity | esfAuxiliaryTemperature
  | esfAuxiliaryEnthalpy | esfAuxiliarySpecies
  deriving DecidableEq

structure SnapshotFieldView (D : Type) where
  stableName : String
  components : ℕ
  source : SnapshotSource
  values : Int3 → ℕ → D

/-- What a frame needs of doubles: their bits, their sums, and the text with 17 digits. -/
structure DoubleFormat (D : Type) where
  bits : D → UInt64
  add : D → D → D
  text : D → String
  zero : D

namespace LegacyFrame

open EBTopology (boxIndices)
open MgWorkspace (component setComponent axes)

def kOutputInput : UInt32 := 10401
def kOutputCapacity : UInt32 := 10402
def kOutputCollective : UInt32 := 10403

def invalid (detail : UInt32) : Status := ⟨.invalidPlan, detail⟩

def mpiFailure : Status := ⟨.mpiFailure, kOutputCollective⟩

/-- `INT_MAX`. -/
def intMax : ℕ := 2 ^ 31 - 1

abbrev Box : Type := Int3 × Int3

inductive LegacyRequest (D : Type) where
  | stage (status : Status)
  | allgather (own : Box)
  | allreduceMax (count : ℕ)
  | sendrecv (message : SendrecvMessage D)

inductive LegacyReply (D : Type) where
  | verdict (status : Status)
  | boxes (boxes : List Box)
  | maximum (count : ℕ)
  | words (values : List D)
  | failure

inductive LegacySignature where
  | stage
  | allgather
  | allreduceMax
  | sendrecv (tag : ℕ)
  deriving DecidableEq

abbrev LegacyProg (D α : Type) : Type := Prog (LegacyRequest D) (LegacyReply D) (Stage Status α)

section Collectives

variable {D : Type}

/-- `output_collective_stage`, with the status of the local work. -/
def collectiveStage (status : Status) : LegacyProg D Unit :=
  .call (.stage status) fun
    | .verdict status => .done (if status.isOk then .ok () else .failed status)
    | _ => .done (.failed mpiFailure)

def allgather (own : Box) : LegacyProg D (List Box) :=
  .call (.allgather own) fun
    | .boxes boxes => .done (.ok boxes)
    | _ => .done (.failed mpiFailure)

def allreduceMax (count : ℕ) : LegacyProg D ℕ :=
  .call (.allreduceMax count) fun
    | .maximum count => .done (.ok count)
    | _ => .done (.failed mpiFailure)

def sendrecv (message : SendrecvMessage D) : LegacyProg D (List D) :=
  .call (.sendrecv message) fun
    | .words values => (collectiveStage {}).andThen fun _ => .done (.ok values)
    | _ => (collectiveStage mpiFailure).andThen fun _ => .done .fault

end Collectives

def aligned (own other : Box) (axis : Axis) : Bool :=
  axes.all fun a => a = axis || (component other.1 a = component own.1 a && component other.2 a = component own.2 a)

/-- The last rank whose box satisfies `p`. -/
def lastRank (boxes : List Box) (p : Box → Bool) : Option ℕ :=
  (List.range boxes.length).foldl (fun found r =>
    match boxes[r]? with
    | some other => if p other then some r else found
    | none => found) none

def lowRank (own : Box) (boxes : List Box) (axis : Axis) : Option ℕ :=
  lastRank boxes fun other => aligned own other axis && component other.1 axis + component other.2 axis = component own.1 axis

def highRank (own : Box) (boxes : List Box) (axis : Axis) : Option ℕ :=
  lastRank boxes fun other => aligned own other axis && component own.1 axis + component own.2 axis = component other.1 axis

def planePoints (dims : Int3) (axis : Axis) (plane : ℤ) : List Int3 :=
  (boxIndices (setComponent dims axis 1)).map fun point => setComponent point axis plane

abbrev Values (D : Type) : Type := Int3 → ℕ → D

def setValue {D : Type} (values : Values D) (point : Int3) (c : ℕ) (value : D) : Values D :=
  fun other d => if other = point ∧ d = c then value else values other d

def slots (points : List Int3) (components : ℕ) : List (Int3 × ℕ) :=
  points.flatMap fun point => (List.range components).map fun c => (point, c)

/-- The offsets of the messages, which hold at most `INT_MAX` values. -/
def chunkOffsets (maximumCount : ℕ) : List ℕ := (List.range ((maximumCount + (intMax - 1)) / intMax)).map (· * intMax)

inductive Header where
  | preamble (pressureReference : String) (dims : Int3) (points : ℕ)
  | pointData (points : ℕ)
  | scalars (name : String) (width : ℕ)
  | vectors (name : String)
  | fieldData (name : String) (width points : ℕ)
  | ghostType
  deriving DecidableEq

namespace Header

def text : Header → String
  | preamble pressureReference dims points =>
    "# vtk DataFile Version 3.0\nHundun accepted cell centres; SI; p_ref=" ++ pressureReference ++
      "\nBINARY\nDATASET STRUCTURED_GRID\nDIMENSIONS " ++ toString dims.x ++ " " ++ toString dims.y ++ " " ++ toString dims.z ++
      "\nPOINTS " ++ toString points ++ " double\n"
  | pointData points => "\nPOINT_DATA " ++ toString points ++ "\n"
  | scalars name width => "SCALARS " ++ name ++ " double " ++ toString width ++ "\nLOOKUP_TABLE default\n"
  | vectors name => "VECTORS " ++ name ++ " double\n"
  | fieldData name width points =>
    "FIELD FieldData 1\n" ++ name ++ " " ++ toString width ++ " " ++ toString points ++ " double\n"
  | ghostType => "SCALARS vtkGhostType unsigned_char 1\nLOOKUP_TABLE default\n"

/-- The bytes a header announces in a file of `points` points: doubles have 8 bytes. -/
def announces (points : ℕ) : Header → ℕ
  | preamble _ _ count => count * 3 * 8
  | pointData _ => 0
  | scalars _ width => points * width * 8
  | vectors _ => points * 3 * 8
  | fieldData _ width count => count * width * 8
  | ghostType => points

/-- The line end behind the binary data; the first two sections have none. -/
def ending : Header → String
  | preamble .. => ""
  | pointData _ => ""
  | _ => "\n"

end Header

structure FileSection where
  header : Header
  payload : List UInt8
  deriving DecidableEq

/-- `ascii`: every character stands for one byte. -/
def ascii (text : String) : List UInt8 := text.toList.map fun c => UInt8.ofNat c.toNat

def FileSection.bytes (s : FileSection) : List UInt8 := ascii s.header.text ++ s.payload ++ ascii s.header.ending

def fieldName (name : String) : String :=
  if name = "U" then "Velocity"
  else if name = "pi" then "PressureGauge"
  else if name = "T" then "Temperature"
  else if name = "rho" then "Density"
  else if name = "h" then "Enthalpy"
  else if name = "rho_mean_eos" then "DensityMeanEOS"
  else if name = "rho_pdf_mean" then "DensityStatistical"
  else if name = "rho_field0" then "DensityField0"
  else if name = "T_field0" then "TemperatureField0"
  else if name = "h_field0" then "EnthalpyField0"
  else if name = "Y_field0" then "MassFractionsField0"
  else String.ofList (name.toList.map fun c => if c.isAlphanum || c = '_' then c else '_')

def fieldHeader (name : String) (width : ℕ) (source : SnapshotSource) (points : ℕ) : Header :=
  if source = .esfAuxiliarySpecies then .fieldData (fieldName name) width points
  else if width = 3 then .vectors (fieldName name)
  else if width ≤ 4 then .scalars (fieldName name) width
  else .fieldData (fieldName name) width points

/-- `real`: the bits of a double, the highest byte first. -/
def real {D : Type} (format : DoubleFormat D) (value : D) : List UInt8 :=
  [56, 48, 40, 32, 24, 16, 8, 0].map fun i : UInt64 => (format.bits value >>> i).toUInt8

/-- What a rank hands in. The last five are the statuses of the parts that are left out. -/
structure LegacyInput (D : Type) where
  fields : List (SnapshotFieldView D)
  patch : MeshPatch
  globalCells : Int3
  centres : Axis → ℤ → D
  pressureReference : D
  capacity : ℕ
  validated : Status
  indexed : Status
  created : Status
  written : Status
  published : Status

namespace LegacyInput

variable {D : Type} (format : DoubleFormat D) (input : LegacyInput D)

def validateOutputSnapshot : Status :=
  if input.patch.cells.x ≤ 0 ∨ input.patch.cells.y ≤ 0 ∨ input.patch.cells.z ≤ 0 ∨
      ∃ field ∈ input.fields, field.stableName = "" ∨ field.components = 0 then
    invalid kOutputInput
  else input.validated

def own : Box := (input.patch.begin, input.patch.cells)

def extent (axis : Axis) : ℤ :=
  component input.patch.cells axis +
    if component input.patch.begin axis + component input.patch.cells axis < component input.globalCells axis then 1 else 0

def dims : Int3 := ⟨input.extent .x, input.extent .y, input.extent .z⟩

def components : ℕ := (input.fields.map SnapshotFieldView.components).sum

/-- The number of points, unless 64 bits do not hold it. -/
def checkedPoints : Option ℕ :=
  axes.foldlM (fun points axis =>
    let extent := (component input.dims axis).toNat
    if maxU64 / points < extent then none else some (points * extent)) 1

def points : ℕ := input.dims.x.toNat * input.dims.y.toNat * input.dims.z.toNat

def stagingStatus : Status :=
  match input.checkedPoints with
  | none => invalid kOutputCapacity
  | some points =>
    if maxU64 - 6 < input.components ∨ input.capacity / (5 * (input.components + 6) * 8) < points then invalid kOutputCapacity
    else {}

def reserved : ℕ := input.points * (input.components + 6) * 8 + 16384

def cellValues (cell : Int3) : List D :=
  input.fields.flatMap fun field => (List.range field.components).map fun d => field.values cell d

def initialValues : Values D :=
  (boxIndices input.patch.cells).foldl (fun values cell =>
    (input.cellValues cell).zipIdx.foldl (fun values entry => setValue values cell entry.2 entry.1) values)
    fun _ _ => format.zero

def neighbourStatus (boxes : List Box) (axis : Axis) : Status :=
  if (0 < component input.patch.begin axis ∧ lowRank input.own boxes axis = none) ∨
      (component input.patch.begin axis + component input.patch.cells axis < component input.globalCells axis ∧
        highRank input.own boxes axis = none) then
    invalid kOutputInput
  else {}

def sent (axis : Axis) (values : Values D) : List D :=
  (slots (planePoints input.dims axis 0) input.components).map fun slot => values slot.1 slot.2

/-- The messages of a plane. What has been received fills the buffer from its start. -/
def exchangeChunks (tag : ℕ) (low high : Option ℕ) (send : List D) : List ℕ → List D → LegacyProg D (List D)
  | [], received => .done (.ok received)
  | offset :: rest, received =>
    let start := min offset send.length
    let count := min (send.length - start) intMax
    (sendrecv ⟨(send.drop start).take count, low, high, count, tag⟩).andThen fun words =>
      exchangeChunks tag low high send rest (received ++ words)

def storePlane (axis : Axis) (received : List D) (values : Values D) : Values D :=
  ((slots (planePoints input.dims axis (component input.dims axis - 1)) input.components).zip received).foldl
    (fun values entry => setValue values entry.1.1 entry.1.2 entry.2) values

def axisTag : Axis → ℕ
  | .x => 180
  | .y => 181
  | .z => 182

def exchangeAxis (boxes : List Box) (axis : Axis) (values : Values D) : LegacyProg D (Values D) :=
  let low := lowRank input.own boxes axis
  let high := highRank input.own boxes axis
  (collectiveStage (input.neighbourStatus boxes axis)).andThen fun _ =>
    let send := input.sent axis values
    (allreduceMax send.length).andThen fun maximumCount =>
      (exchangeChunks (axisTag axis) low high send (chunkOffsets maximumCount) []).andThen fun received =>
        .done (.ok (if high.isSome then input.storePlane axis received values else values))

def exchangeAxes (boxes : List Box) : List Axis → Values D → LegacyProg D (Values D)
  | [], values => .done (.ok values)
  | axis :: rest, values => (input.exchangeAxis boxes axis values).andThen fun values => exchangeAxes boxes rest values

def pointList : List Int3 := boxIndices input.dims

def coordinates (point : Int3) : List UInt8 :=
  real format (input.centres .x (input.patch.begin.x + point.x)) ++ real format (input.centres .y (input.patch.begin.y + point.y)) ++
    real format (input.centres .z (input.patch.begin.z + point.z))

/-- The sections of the fields, whose components begin at `offset`. -/
def fieldSections (values : Values D) : ℕ → List (SnapshotFieldView D) → List FileSection
  | _, [] => []
  | offset, field :: rest =>
    let main : FileSection := ⟨fieldHeader field.stableName field.components field.source input.points,
      input.pointList.flatMap fun point => (List.range field.components).flatMap fun c => real format (values point (offset + c))⟩
    let pressure : List FileSection :=
      if field.stableName = "pi" then
        [⟨.scalars "Pressure" 1, input.pointList.flatMap fun point =>
          real format (format.add input.pressureReference (values point offset))⟩]
      else []
    main :: pressure ++ fieldSections values (offset + field.components) rest

def ghost (point : Int3) : UInt8 :=
  if input.patch.cells.x ≤ point.x ∨ input.patch.cells.y ≤ point.y ∨ input.patch.cells.z ≤ point.z then 1 else 0

def sections (values : Values D) : List FileSection :=
  ⟨.preamble (format.text input.pressureReference) input.dims input.points, input.pointList.flatMap (input.coordinates format)⟩ ::
    ⟨.pointData input.points, []⟩ :: (input.fieldSections format values 0 input.fields ++
      [⟨.ghostType, input.pointList.map input.ghost⟩])

def encode (values : Values D) : List UInt8 := (input.sections format values).flatMap FileSection.bytes

def writeStatus (bytes : List UInt8) : Status := if input.capacity < bytes.length then invalid kOutputCapacity else input.written

/-- `VisitWriter::write_legacy`: the bytes of the file. -/
def writeLegacy : LegacyProg D (List UInt8) :=
  (collectiveStage input.validateOutputSnapshot).andThen fun _ =>
    (collectiveStage input.indexed).andThen fun _ =>
      (collectiveStage input.stagingStatus).andThen fun _ =>
        (allgather input.own).andThen fun boxes =>
          (input.exchangeAxes boxes axes (input.initialValues format)).andThen fun values =>
            (collectiveStage input.created).andThen fun _ =>
              let bytes := input.encode format values
              (collectiveStage (input.writeStatus bytes)).andThen fun _ =>
                (collectiveStage input.published).andThen fun _ => .done (.ok bytes)

end LegacyInput

namespace LegacyRequest

variable {D : Type}

def signature : LegacyRequest D → LegacySignature
  | .stage _ => .stage
  | .allgather _ => .allgather
  | .allreduceMax _ => .allreduceMax
  | .sendrecv message => .sendrecv message.tag

def status : LegacyRequest D → Status
  | .stage status => status
  | _ => {}

def box : LegacyRequest D → Box
  | .allgather own => own
  | _ => ({}, {})

def count : LegacyRequest D → ℕ
  | .allreduceMax count => count
  | _ => 0

/-- What a rank sends to rank `r`. -/
def sendTo (r : ℕ) : LegacyRequest D → Option (List D)
  | .sendrecv message => if message.destination = some r then some message.send else none
  | _ => none

end LegacyRequest

/-- Collectives and messages without faults. A message that is not sent or does not fit is a failure. -/
def legacyNetwork {D : Type} {n : ℕ} (hn : 0 < n) : Network (Fin n) (LegacyRequest D) (LegacyReply D) LegacySignature where
  sig := LegacyRequest.signature
  reply q i :=
    match q i with
    | .stage _ => .verdict (agreed fun j => (q j).status).1
    | .allgather _ => .boxes (List.ofFn fun j => (q j).box)
    | .allreduceMax _ => .maximum (rankMax hn fun j => (q j).count)
    | .sendrecv message =>
      match message.source with
      | none => .words []
      | some s =>
        if h : s < n then
          match (q ⟨s, h⟩).sendTo i with
          | none => .failure
          | some sent => if sent.length ≤ message.receiveCount then .words sent else .failure
        else .failure

end LegacyFrame

end HundunFlow
