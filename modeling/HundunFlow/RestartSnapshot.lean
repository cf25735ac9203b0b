import HundunFlow.RestartFormat

/-!
# Snapshots and their sizes

A snapshot borrows the state that a rank writes. The writer computes the length of a rank block
before it encodes one, and the reader computes it from the manifest before it reads one.
-/

namespace HundunFlow

open Lib

namespace Restart

/-- A field as the caller lends it, with the ranges of a `FieldId` and of a count of components. -/
structure RestartFieldView where
  role : RestartFieldRole := .velocity
  values : FieldView := {}
  field_lt : values.field < 2 ^ 16 := by decide
  components_lt : values.components < 2 ^ 8 := by decide
  deriving DecidableEq

structure RestartCellRecordsView where
  identity : UInt64 := 0
  recordBytes : UInt32 := 0
  values : Span UInt8 := .null 0
  variableCellBytes : Span UInt32 := .null 0
  deriving DecidableEq

/-- The range of an `int`. -/
def IsI32 (value : ℤ) : Prop := -maxI32 - 1 ≤ value ∧ value ≤ maxI32

instance (value : ℤ) : Decidable (IsI32 value) := inferInstanceAs (Decidable (_ ∧ _))

structure RestartSnapshot where
  globalCells : Int3 := {}
  patch : MeshPatch := {}
  plan : UInt64 := 0
  schema : UInt64 := 0
  geometry : UInt64 := 0
  time : Binary64 := {}
  dt : Binary64 := {}
  pressureReference : Binary64 := {}
  step : UInt64 := 0
  controllerState : UInt64 := 0
  fields : Span RestartFieldView := .null 0
  finalMassFlux : FaceFluxView := {}
  previousFields : Span RestartFieldView := .null 0
  acceptedRateFields : Span RestartFieldView := .null 0
  previousRateFields : Span RestartFieldView := .null 0
  previousMassFlux : FaceFluxView := {}
  previousPressureReference : Binary64 := {}
  closedMassTarget : Binary64 := {}
  methodHistorySignature : UInt64 := 0
  cellRecords : RestartCellRecordsView := {}
  globalCells_range : IsI32 globalCells.x ∧ IsI32 globalCells.y ∧ IsI32 globalCells.z := by decide
  finalRevision_lt : finalMassFlux.revision < 2 ^ 64 := by decide
  previousRevision_lt : previousMassFlux.revision < 2 ^ 64 := by decide

/-- `FaceFluxCertificate::valid`. -/
def certificateValid (certificate : FaceFluxCertificate) : Bool :=
  certificate.revision ≠ 0 && certificate.authority ≠ 0 && certificate.storage ≠ 0 &&
    certificate.revisionDomain ≠ 0 && certificate.xBase.isSome && certificate.yBase.isSome &&
    certificate.zBase.isSome && 0 < certificate.cells.x && 0 < certificate.cells.y && 0 < certificate.cells.z

/-- `FaceFluxCertificate::matches`. -/
def certificateMatches (certificate : FaceFluxCertificate) (flux : FaceFluxView) : Bool :=
  certificateValid certificate && flux.certificate = certificate && flux.revision = certificate.revision &&
    flux.x.storageIdentity = certificate.storage && flux.y.storageIdentity = certificate.storage &&
    flux.z.storageIdentity = certificate.storage && flux.x.revisionDomain = certificate.revisionDomain &&
    flux.y.revisionDomain = certificate.revisionDomain && flux.z.revisionDomain = certificate.revisionDomain &&
    flux.x.base = certificate.xBase && flux.y.base = certificate.yBase && flux.z.base = certificate.zBase &&
    flux.x.axis = .x && flux.y.axis = .y && flux.z.axis = .z &&
    flux.x.strideY = certificate.xStrideY && flux.x.strideZ = certificate.xStrideZ &&
    flux.y.strideY = certificate.yStrideY && flux.y.strideZ = certificate.yStrideZ &&
    flux.z.strideY = certificate.zStrideY && flux.z.strideZ = certificate.zStrideZ &&
    flux.x.extents = { certificate.cells with x := increment certificate.cells.x } &&
    flux.y.extents = { certificate.cells with y := increment certificate.cells.y } &&
    flux.z.extents = { certificate.cells with z := increment certificate.cells.z }

def expectedFaceExtents (flux : FaceFluxView) (cells : Int3) : Bool :=
  flux.revision ≠ 0 && certificateValid flux.certificate && certificateMatches flux.certificate flux &&
    flux.x.extents = { cells with x := increment cells.x } && flux.y.extents = { cells with y := increment cells.y } &&
    flux.z.extents = { cells with z := increment cells.z } && flux.x.axis = .x && flux.y.axis = .y && flux.z.axis = .z

/-- The roles of which a catalog has one field at most, as far as they have been met. -/
structure CatalogSeen where
  velocity : Bool := false
  pressure : Bool := false
  enthalpy : Bool := false
  enthalpyRate : Bool := false
  auxiliary : Bool := false
  density : Bool := false
  deriving DecidableEq

/-- The `switch` of `valid_field_catalog`. -/
def CatalogSeen.meet (seen : CatalogSeen) (rates : Bool) (role : RestartFieldRole) (components : ℕ) :
    Option CatalogSeen :=
  match role with
  | .velocity => if rates || seen.velocity || components ≠ 3 then none else some { seen with velocity := true }
  | .pressurePerturbation | .pressureAbsolute =>
    if rates || seen.pressure || components ≠ 1 then none else some { seen with pressure := true }
  | .enthalpy => if rates || seen.enthalpy || components ≠ 1 then none else some { seen with enthalpy := true }
  | .carrierDensity => if rates || seen.density || components ≠ 1 then none else some { seen with density := true }
  | .independentSpecies | .transportedScalar => if rates || components ≠ 1 then none else some seen
  | .stochasticAuxiliary => if rates || seen.auxiliary || components < 2 then none else some { seen with auxiliary := true }
  | .stochasticField => if rates || components < 2 then none else some seen
  | .stochasticTransport => if rates || components ≠ 2 && components ≠ 4 then none else some seen
  | .enthalpyNonadvectiveRate =>
    if !rates || seen.enthalpyRate || components ≠ 1 then none else some { seen with enthalpyRate := true }
  | .scalarNonadvectiveRate => if !rates || components ≠ 1 then none else some seen

/-- The loop of `valid_field_catalog`; `prior` are the entries before. -/
def catalogLoop (cells : Int3) (rates : Bool) :
    List RestartFieldView → List RestartFieldView → CatalogSeen → Option CatalogSeen
  | [], _, seen => some seen
  | field :: rest, prior, seen =>
    if (fieldStorageInterval field.values).isNone || field.values.interior ≠ cells || field.values.revision = 0 ||
        prior.any fun entry => entry.values.field = field.values.field then none
    else do
      let seen ← seen.meet rates field.role field.values.components
      catalogLoop cells rates rest (prior ++ [field]) seen

def validFieldCatalog (fields : Span RestartFieldView) (cells : Int3) (rates : Bool) : Bool :=
  if fields.isNull || fields.size = 0 || 64 < fields.size then false
  else
    match catalogLoop cells rates fields.values [] {} with
    | none => false
    | some seen => if rates then seen.enthalpyRate else seen.velocity && seen.pressure && seen.enthalpy

def RestartFieldView.meta (field : RestartFieldView) : FieldMeta :=
  ⟨field.role, UInt16.ofNat field.values.field, UInt8.ofNat field.values.components⟩

def sameFieldLayout (left right : Span RestartFieldView) : Bool :=
  if left.size ≠ right.size || left.isNull || right.isNull then false
  else
    (left.values.zip right.values).all fun (l, r) =>
      l.role = r.role && l.values.field = r.values.field && l.values.components = r.values.components

namespace RestartSnapshot

def hasExactHistory (snapshot : RestartSnapshot) : Bool :=
  snapshot.previousFields.size ≠ 0 || snapshot.acceptedRateFields.size ≠ 0 || snapshot.previousRateFields.size ≠ 0 ||
    snapshot.previousMassFlux.revision ≠ 0 || !snapshot.previousPressureReference.isZero ||
    !snapshot.closedMassTarget.isZero || snapshot.methodHistorySignature ≠ 0

/-- `snapshot_format`. -/
def format (snapshot : RestartSnapshot) : UInt32 :=
  if snapshot.cellRecords.identity ≠ 0 && !snapshot.hasExactHistory then kCurrentCellRecordFormatVersion
  else if snapshot.cellRecords.identity ≠ 0 then
    if snapshot.cellRecords.recordBytes = 0 then kVariableCellRecordFormatVersion else kCellRecordFormatVersion
  else if !snapshot.hasExactHistory then kLegacyFormatVersion
  else if snapshot.methodHistorySignature ≠ 0 then kSignedHistoryFormatVersion
  else kExactHistoryFormatVersion

/-- The checks of the cell records in `valid_snapshot`. -/
def validCellRecords (snapshot : RestartSnapshot) : Bool :=
  let records := snapshot.cellRecords
  if records.identity ≠ 0 then
    if snapshot.hasExactHistory && snapshot.methodHistorySignature = 0 then false
    else if !snapshot.hasExactHistory && records.recordBytes = 0 then false
    else
      match cellCount snapshot.patch.cells with
      | none => false
      | some cells =>
        let bytes :=
          if records.recordBytes = 0 then
            if records.variableCellBytes.size ≠ cells || records.variableCellBytes.isNull then none
            else totalLength records.variableCellBytes.values 0
          else if records.variableCellBytes.size ≠ 0 || !records.variableCellBytes.isNull then none
          else checkedMultiply cells records.recordBytes.toNat
        match bytes with
        | none => false
        | some bytes => records.values.size = bytes && (bytes = 0 || !records.values.isNull)
  else
    records.recordBytes = 0 && records.values.size = 0 && records.values.isNull &&
      records.variableCellBytes.size = 0 && records.variableCellBytes.isNull

/-- `valid_snapshot`. -/
def valid (snapshot : RestartSnapshot) : Bool :=
  validGlobalPatch snapshot.globalCells snapshot.patch && snapshot.plan ≠ 0 && snapshot.schema ≠ 0 &&
    snapshot.geometry ≠ 0 && snapshot.time.isFinite && snapshot.dt.isFinite && snapshot.dt.positive &&
    snapshot.pressureReference.isFinite && snapshot.step ≠ 0 &&
    validFieldCatalog snapshot.fields snapshot.patch.cells false &&
    expectedFaceExtents snapshot.finalMassFlux snapshot.patch.cells && snapshot.validCellRecords &&
    (!snapshot.hasExactHistory ||
      snapshot.controllerState ≠ 0 && validFieldCatalog snapshot.previousFields snapshot.patch.cells false &&
        sameFieldLayout snapshot.fields snapshot.previousFields &&
        validFieldCatalog snapshot.acceptedRateFields snapshot.patch.cells true &&
        validFieldCatalog snapshot.previousRateFields snapshot.patch.cells true &&
        sameFieldLayout snapshot.acceptedRateFields snapshot.previousRateFields &&
        expectedFaceExtents snapshot.previousMassFlux snapshot.patch.cells &&
        snapshot.previousMassFlux.revision < snapshot.finalMassFlux.revision &&
        snapshot.finalMassFlux.revision ≠ maxU64 && snapshot.previousPressureReference.isFinite &&
        snapshot.closedMassTarget.isFinite && snapshot.closedMassTarget.positive)

/-- What a snapshot says of itself, as `encode_common` reads it. -/
def common (snapshot : RestartSnapshot) : Manifest where
  formatVersion := snapshot.format
  globalCells := snapshot.globalCells
  plan := snapshot.plan
  schema := snapshot.schema
  geometry := snapshot.geometry
  time := snapshot.time
  dt := snapshot.dt
  pressureReference := snapshot.pressureReference
  step := snapshot.step
  controllerState := snapshot.controllerState
  previousPressureReference := snapshot.previousPressureReference
  closedMassTarget := snapshot.closedMassTarget
  finalMassFluxRevision := UInt64.ofNat snapshot.finalMassFlux.revision
  previousMassFluxRevision := UInt64.ofNat snapshot.previousMassFlux.revision
  methodHistorySignature := snapshot.methodHistorySignature
  fields := snapshot.fields.values.map (·.meta)
  rateFields := snapshot.acceptedRateFields.values.map (·.meta)
  cellRecordIdentity := snapshot.cellRecords.identity
  cellRecordBytes := snapshot.cellRecords.recordBytes

def encodeCommon (snapshot : RestartSnapshot) : List UInt8 := Restart.encodeCommon snapshot.common snapshot.format

/-- The bytes of which `snapshot_signature` is the hash. -/
def signed (snapshot : RestartSnapshot) : List UInt8 := Encoder.u32 snapshot.format ++ snapshot.encodeCommon

end RestartSnapshot

/-- The `add_values` of `rank_block_size`. -/
def addValues (bytes count : ℕ) : Option ℕ := do
  let payload ← checkedMultiply count 8
  guard (bytes ≤ maxU64 - 8 ∧ payload ≤ maxU64 - bytes - 8)
  return bytes + (8 + payload)

def addFields (cells : ℕ) (fields : List RestartFieldView) (bytes : ℕ) : Option ℕ :=
  fields.foldlM (fun bytes field => do addValues bytes (← checkedMultiply cells field.values.components)) bytes

def addFaces (global : Int3) (patch : MeshPatch) (bytes : ℕ) : Option ℕ :=
  axes.foldlM (fun bytes axis => do addValues bytes (← cellCount (ownedExtents global patch axis))) bytes

/-- The end of `rank_block_size`: the records of the cells. -/
def addRecords (snapshot : RestartSnapshot) (cells bytes : ℕ) : Option ℕ :=
  if snapshot.cellRecords.identity ≠ 0 then do
    guard (bytes ≤ maxU64 - 8 ∧ snapshot.cellRecords.values.size ≤ maxU64 - bytes - 8)
    let bytes := bytes + (8 + snapshot.cellRecords.values.size)
    if snapshot.format = kVariableCellRecordFormatVersion then do
      let lengths ← checkedMultiply cells 4
      guard (lengths ≤ maxU64 - bytes)
      return bytes + lengths
    else return bytes
  else return bytes

def rankBlockSize (snapshot : RestartSnapshot) : Option ℕ := do
  -- Magic, version/size/rank, patch, and trailing integrity.
  let bytes := snapshot.encodeCommon.length + 8 + 12 + 24 + 8
  let cells ← cellCount snapshot.patch.cells
  let bytes ← addFields cells snapshot.fields.values bytes
  if snapshot.hasExactHistory then do
    let bytes ← addFields cells snapshot.previousFields.values bytes
    let bytes ← addFields cells snapshot.acceptedRateFields.values bytes
    let bytes ← addFields cells snapshot.previousRateFields.values bytes
    let bytes ← addFaces snapshot.globalCells snapshot.patch bytes
    let bytes ← addFaces snapshot.globalCells snapshot.patch bytes
    addRecords snapshot cells bytes
  else do
    let bytes ← addFaces snapshot.globalCells snapshot.patch bytes
    addRecords snapshot cells bytes

/-- The encoder returns a status, or its reservation throws a `std::length_error`. -/
inductive EncodeFailure where
  | status (status : Status)
  | lengthError
  deriving DecidableEq

/-- `std::vector<std::uint8_t>::max_size`. -/
def kMaximumVectorBytes : ℕ := 2 ^ 63 - 1

/-- `view.unchecked(index, component)`; no view with a null base is read. -/
def readCell (memory : Memory ArenaAddress Binary64) (view : FieldView) (index : Int3) (component : ℕ) : Binary64 :=
  match view.base with
  | none => {}
  | some base => memory (view.at base index component)

def readFace (memory : Memory Address Binary64) (view : FaceFieldView) (index : Int3) : Binary64 :=
  match view.base with
  | none => {}
  | some base => memory (view.at base index)

def orInvalid (value : Option ℕ) : Except EncodeFailure ℕ :=
  match value with
  | none => .error (.status ⟨.invalidPlan, kRestartInput⟩)
  | some value => .ok value

def encodeValues (count : ℕ) (read : List Binary64) : Except EncodeFailure (List UInt8) :=
  if read.all Binary64.isFinite then .ok (Encoder.u64 (UInt64.ofNat count) ++ read.flatMap Encoder.real)
  else .error (.status ⟨.numericalFailure, kRestartInput⟩)

/-- The values of a view in the order of the loops: components innermost, then x. -/
def viewValues (memory : Memory ArenaAddress Binary64) (view : FieldView) : List Binary64 :=
  (faceIndices view.interior).flatMap fun index => (List.range view.components).map (readCell memory view index)

def encodeEach {α : Type} (encode : α → Except EncodeFailure (List UInt8)) : List α → Except EncodeFailure (List UInt8)
  | [] => .ok []
  | a :: rest => do
    let bytes ← encode a
    let others ← encodeEach encode rest
    return bytes ++ others

def encodeFields (memory : Memory ArenaAddress Binary64) (cells : ℕ) (fields : List RestartFieldView) :
    Except EncodeFailure (List UInt8) :=
  encodeEach (fun field => do
    let values ← orInvalid (checkedMultiply cells field.values.components)
    encodeValues values (viewValues memory field.values)) fields

def encodeFlux (memory : Memory Address Binary64) (snapshot : RestartSnapshot) (flux : FaceFluxView) :
    Except EncodeFailure (List UInt8) :=
  encodeEach (fun axis => do
    let owned := ownedExtents snapshot.globalCells snapshot.patch axis
    let values ← orInvalid (cellCount owned)
    encodeValues values ((faceIndices owned).map (readFace memory (flux.select axis)))) axes

structure RankMemory where
  cells : Memory ArenaAddress Binary64
  faces : Memory Address Binary64

def encodeArrays (memory : RankMemory) (snapshot : RestartSnapshot) (cells : ℕ) : Except EncodeFailure (List UInt8) :=
  if hasTemporalHistory snapshot.format then do
    let fields ← encodeFields memory.cells cells snapshot.fields.values
    let previous ← encodeFields memory.cells cells snapshot.previousFields.values
    let accepted ← encodeFields memory.cells cells snapshot.acceptedRateFields.values
    let prior ← encodeFields memory.cells cells snapshot.previousRateFields.values
    let flux ← encodeFlux memory.faces snapshot snapshot.finalMassFlux
    let previousFlux ← encodeFlux memory.faces snapshot snapshot.previousMassFlux
    return fields ++ previous ++ accepted ++ prior ++ flux ++ previousFlux
  else do
    let fields ← encodeFields memory.cells cells snapshot.fields.values
    let flux ← encodeFlux memory.faces snapshot snapshot.finalMassFlux
    return fields ++ flux

def encodeRecords (snapshot : RestartSnapshot) : List UInt8 :=
  if kCellRecordFormatVersion ≤ snapshot.format then
    Encoder.u64 (UInt64.ofNat snapshot.cellRecords.values.size) ++
      (if snapshot.format = kVariableCellRecordFormatVersion then
        snapshot.cellRecords.variableCellBytes.values.flatMap Encoder.u32 else []) ++
      snapshot.cellRecords.values.values
  else []

/-- `encode_rank_block`. -/
def encodeRankBlock (memory : RankMemory) (snapshot : RestartSnapshot) (size rank : ℕ) (maximumBytes : ℕ) :
    Except EncodeFailure (List UInt8) := do
  let bytes ← orInvalid (rankBlockSize snapshot)
  if maximumBytes ≠ 0 && maximumBytes < bytes then .error (.status ⟨.allocationFailure, kRestartRankFile⟩)
  else if kMaximumVectorBytes < bytes then .error .lengthError
  else do
    let cells ← orInvalid (cellCount snapshot.patch.cells)
    let arrays ← encodeArrays memory snapshot cells
    let data := Encoder.appendIntegrity (kRankMagic ++ Encoder.u32 snapshot.format ++
      Encoder.u32 (UInt32.ofNat size) ++ Encoder.u32 (UInt32.ofNat rank) ++ snapshot.encodeCommon ++
      Encoder.int3 snapshot.patch.begin ++ Encoder.int3 snapshot.patch.cells ++ arrays ++ encodeRecords snapshot)
    if data.length ≠ bytes then .error (.status ⟨.invalidPlan, kRestartRankFile⟩) else return data

/-- The entry of the manifest for a block that a rank has written. -/
def rankRecordOf (snapshot : RestartSnapshot) (data : List UInt8) : RankRecord :=
  ⟨snapshot.patch.begin, snapshot.patch.cells, UInt64.ofNat data.length, hashBytes data⟩

/-- `BulkBytes::add`. -/
def BulkBytes.add (value count : ℕ) (width : ℕ := 1) : Option ℕ := do
  let bytes ← checkedMultiply count width
  checkedAdd value bytes

structure ReadLayout where
  owned : ℕ := 0
  encoded : ℕ := 0
  coverage : ℕ := 0
  deriving DecidableEq

/-- The counters of `read_layout`. -/
structure LayoutBytes where
  values : ℕ := 0
  descriptors : ℕ := 0
  vectors : ℕ := 0
  coverage : ℕ := 0
  deriving DecidableEq

/-- `sizeof(RestartImageField)`. -/
def kImageFieldBytes : ℕ := 32

/-- `sizeof(FieldMeta)`. -/
def kFieldMetaBytes : ℕ := 6

/-- `sizeof(RankRecord)`. -/
def kRankRecordBytes : ℕ := 40

def kCommonMetadataBound : ℕ := 128 * kFieldMetaBytes

namespace LayoutBytes

def fields (cells copies : ℕ) (catalog : List FieldMeta) (bytes : LayoutBytes) : Option LayoutBytes := do
  let values ← catalog.foldlM (fun values field => do
    let count ← checkedMultiply cells field.components.toNat
    BulkBytes.add values count (8 * copies)) bytes.values
  let descriptors ← BulkBytes.add bytes.descriptors catalog.length (kImageFieldBytes * copies)
  let vectors ← BulkBytes.add bytes.vectors catalog.length copies
  return { bytes with values := values, descriptors := descriptors, vectors := vectors }

def faces (global : Int3) (patch : MeshPatch) (target : Bool) (layers : ℕ) (bytes : LayoutBytes) (axis : CartesianAxis) :
    Option LayoutBytes := do
  let extent := axisIndex axis patch.cells
  let partition := target || axisIndex axis patch.begin + extent = axisIndex axis global
  guard (!(partition && extent = maxI32))
  let faces ← cellCount (if partition then setAxis axis patch.cells (extent + 1) else patch.cells)
  let values ← BulkBytes.add bytes.values faces (8 * layers)
  let vectors ← BulkBytes.add bytes.vectors layers
  let coverage ← BulkBytes.add bytes.coverage faces
  return { bytes with values := values, vectors := vectors, coverage := coverage }

def records (manifest : Manifest) (cells : ℕ) (bytes : LayoutBytes) : Option LayoutBytes :=
  if kCellRecordFormatVersion ≤ manifest.formatVersion then do
    let values ← BulkBytes.add bytes.values cells manifest.cellRecordBytes.toNat
    let vectors ← BulkBytes.add bytes.vectors 1
    let values ← if manifest.formatVersion = kVariableCellRecordFormatVersion then BulkBytes.add values cells 4
      else some values
    return { bytes with values := values, vectors := vectors }
  else some bytes

end LayoutBytes

/-- The part of a block's header that the version and the rates decide. -/
def headerBytes (manifest : Manifest) : Option ℕ := do
  let encoded := 52 + 80 + manifest.fields.length * 4
  let encoded ← if hasTemporalHistory manifest.formatVersion then do
      let encoded ← BulkBytes.add encoded 36
      BulkBytes.add encoded manifest.rateFields.length 4
    else some encoded
  let encoded ← if hasMethodSignature manifest.formatVersion then BulkBytes.add encoded 8 else some encoded
  if kCellRecordFormatVersion ≤ manifest.formatVersion then BulkBytes.add encoded 12 else some encoded

def readLayout (manifest : Manifest) (patch : MeshPatch) (target : Bool) : Option ReadLayout := do
  let cells ← cellCount patch.cells
  let exact := hasTemporalHistory manifest.formatVersion
  let layers := if exact then 2 else 1
  let coverage ← BulkBytes.add 0 cells
  let bytes ← LayoutBytes.fields cells layers manifest.fields { coverage := coverage }
  let bytes ← if exact then LayoutBytes.fields cells 2 manifest.rateFields bytes else some bytes
  let bytes ← axes.foldlM (LayoutBytes.faces manifest.globalCells patch target layers) bytes
  let bytes ← LayoutBytes.records manifest cells bytes
  let owned ← BulkBytes.add bytes.values bytes.descriptors
  let isVariable := manifest.formatVersion = kVariableCellRecordFormatVersion
  let coverage ← if isVariable && target then BulkBytes.add bytes.coverage (cells + 1) 8 else some bytes.coverage
  let owned ← if isVariable && !target then BulkBytes.add owned (cells + 1) 8 else some owned
  let encoded ← headerBytes manifest
  let encoded ← BulkBytes.add encoded bytes.vectors 8
  let encoded ← BulkBytes.add encoded bytes.values
  return ⟨owned, encoded, if target then coverage else 0⟩

structure ManifestCapacity where
  fields : ℕ := 0
  rateFields : ℕ := 0
  ranks : ℕ := 0
  deriving DecidableEq

/-- The counters of a `RestartReadReport` that the plan of the reader writes. -/
structure BulkReport where
  newImageBytes : ℕ := 0
  peakBulkBytes : ℕ := 0
  deriving DecidableEq

def budgetFailure : Status := ⟨.allocationFailure, kRestartReadBudget⟩

/-- The layout of the block of a record, from which the length that the record gives must follow. -/
def sourceLayout (manifest : Manifest) (record : RankRecord) : Except Status ReadLayout :=
  match readLayout manifest ⟨record.begin, record.cells, {}, {}⟩ false with
  | none => .error ⟨.ioFailure, kRestartManifest⟩
  | some source =>
    if manifest.formatVersion = kVariableCellRecordFormatVersion then
      if record.bytes.toNat < source.encoded || maxU64 < record.bytes.toNat ||
          maxU64 - source.owned < record.bytes.toNat - source.encoded then .error ⟨.ioFailure, kRestartManifest⟩
      else .ok { source with
        owned := source.owned + (record.bytes.toNat - source.encoded)
        encoded := record.bytes.toNat }
    else if record.bytes.toNat ≠ source.encoded then .error ⟨.ioFailure, kRestartManifest⟩
    else .ok source

/-- `checked` arithmetic of a budget. -/
def orBudget (value : Option ℕ) : Except Status ℕ :=
  match value with
  | none => .error budgetFailure
  | some value => .ok value

/-- The loop over the records: the largest number of bytes that one block needs at once. -/
def largestBlock (manifest : Manifest) : List RankRecord → ℕ → Except Status ℕ
  | [], largest => .ok largest
  | record :: rest, largest => do
    let source ← sourceLayout manifest record
    let block ← orBudget do BulkBytes.add (← BulkBytes.add source.encoded source.owned) kCommonMetadataBound
    largestBlock manifest rest (max largest block)

/-- The new image and the peak of the bytes held. -/
def planBytes (manifest : Manifest) (capacity : ManifestCapacity) (targetPatch : MeshPatch)
    (retained variableTargetBytes : ℕ) : Except Status (ℕ × ℕ) :=
  match readLayout manifest targetPatch true with
  | none => .error budgetFailure
  | some target =>
    if maxU64 - target.owned < variableTargetBytes then .error budgetFailure
    else do
      let owned := target.owned + variableTargetBytes
      let largest ← largestBlock manifest manifest.ranks 0
      let peak ← orBudget do
        let peak ← BulkBytes.add retained capacity.fields kFieldMetaBytes
        let peak ← BulkBytes.add peak capacity.rateFields kFieldMetaBytes
        let peak ← BulkBytes.add peak capacity.ranks kRankRecordBytes
        let peak ← BulkBytes.add peak owned
        let peak ← BulkBytes.add peak target.coverage
        BulkBytes.add peak largest
      return (owned, peak)

def planReadBulk (manifest : Manifest) (capacity : ManifestCapacity) (targetPatch : MeshPatch) (retained : ℕ)
    (maximumBulkBytes : ℕ) (report : BulkReport) (variableTargetBytes : ℕ) : Status × BulkReport :=
  match planBytes manifest capacity targetPatch retained variableTargetBytes with
  | .error status => (status, report)
  | .ok (owned, peak) =>
    let report : BulkReport := ⟨owned, max report.peakBulkBytes peak⟩
    if report.peakBulkBytes ≤ maximumBulkBytes then ({}, report) else (budgetFailure, report)

end Restart

end HundunFlow
