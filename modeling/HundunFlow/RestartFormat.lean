import HundunFlow.CartesianKernel
import HundunFlow.Lib.Codec

/-!
# The restart format

A restart is a manifest and one block for each rank of the writer. Both end in a checksum of the
bytes before it. The format has six versions: 2 to 5 carry the history of the time scheme, 3 to 5 a
signature of the method, and 4 to 6 records of the cells, of one length or, in 5, of many.
-/

namespace HundunFlow

open Lib

namespace Restart

def kRestartInput : UInt32 := 10301
def kRestartRankFile : UInt32 := 10304
def kRestartManifest : UInt32 := 10305
def kRestartIntegrity : UInt32 := 10306
def kRestartMismatch : UInt32 := 10307
def kRestartReadBudget : UInt32 := 10310
def kLegacyFormatVersion : UInt32 := 1
def kExactHistoryFormatVersion : UInt32 := 2
def kSignedHistoryFormatVersion : UInt32 := 3
def kCellRecordFormatVersion : UInt32 := 4
def kVariableCellRecordFormatVersion : UInt32 := 5
def kCurrentCellRecordFormatVersion : UInt32 := 6

def hasTemporalHistory (version : UInt32) : Bool :=
  kExactHistoryFormatVersion ≤ version && version ≤ kVariableCellRecordFormatVersion

def hasMethodSignature (version : UInt32) : Bool :=
  kSignedHistoryFormatVersion ≤ version && version ≤ kVariableCellRecordFormatVersion

def knownVersion (version : UInt32) : Bool :=
  version = kLegacyFormatVersion || version = kExactHistoryFormatVersion ||
    version = kSignedHistoryFormatVersion || version = kCellRecordFormatVersion ||
      version = kVariableCellRecordFormatVersion || version = kCurrentCellRecordFormatVersion

/-- `H4RANK01`. -/
def kRankMagic : List UInt8 := [72, 52, 82, 65, 78, 75, 48, 49]

/-- `H4MANI01`. -/
def kManifestMagic : List UInt8 := [72, 52, 77, 65, 78, 73, 48, 49]

/-- A `double` by its bits. -/
structure Binary64 where
  bits : UInt64 := 0
  deriving DecidableEq

namespace Binary64

def isFinite (x : Binary64) : Bool := x.bits &&& 0x7ff0000000000000 ≠ 0x7ff0000000000000

/-- `x > 0.0`. -/
def positive (x : Binary64) : Bool := x.bits ≠ 0 && x.bits ≤ 0x7ff0000000000000

/-- `x == 0.0`; there are two zeros. -/
def isZero (x : Binary64) : Bool := x.bits = 0 || x.bits = 0x8000000000000000

def isNan (x : Binary64) : Bool := 0x7ff0000000000000 < x.bits &&& 0x7fffffffffffffff

/-- `x == y`. -/
def same (x y : Binary64) : Bool := !x.isNan && !y.isNan && (x.bits = y.bits || x.isZero && y.isZero)

end Binary64

inductive RestartFieldRole where
  | velocity | pressurePerturbation | pressureAbsolute | enthalpy | independentSpecies | transportedScalar
  | enthalpyNonadvectiveRate | scalarNonadvectiveRate | stochasticField | stochasticTransport
  | stochasticAuxiliary | carrierDensity
  deriving DecidableEq

namespace RestartFieldRole

def toRaw : RestartFieldRole → UInt8
  | velocity => 0
  | pressurePerturbation => 1
  | pressureAbsolute => 2
  | enthalpy => 3
  | independentSpecies => 4
  | transportedScalar => 5
  | enthalpyNonadvectiveRate => 6
  | scalarNonadvectiveRate => 7
  | stochasticField => 8
  | stochasticTransport => 9
  | stochasticAuxiliary => 10
  | carrierDensity => 11

def all : List RestartFieldRole :=
  [velocity, pressurePerturbation, pressureAbsolute, enthalpy, independentSpecies, transportedScalar,
    enthalpyNonadvectiveRate, scalarNonadvectiveRate, stochasticField, stochasticTransport, stochasticAuxiliary,
    carrierDensity]

def ofRaw (raw : UInt8) : Option RestartFieldRole := all[raw.toNat]?

def isRate : RestartFieldRole → Bool
  | enthalpyNonadvectiveRate | scalarNonadvectiveRate => true
  | _ => false

end RestartFieldRole

structure FieldMeta where
  role : RestartFieldRole := .velocity
  field : UInt16 := 0
  components : UInt8 := 0
  deriving DecidableEq

structure RankRecord where
  begin : Int3 := {}
  cells : Int3 := {}
  bytes : UInt64 := 0
  hash : UInt64 := 0
  deriving DecidableEq

structure Manifest where
  formatVersion : UInt32 := kLegacyFormatVersion
  rankCount : UInt32 := 0
  globalCells : Int3 := {}
  plan : UInt64 := 0
  schema : UInt64 := 0
  geometry : UInt64 := 0
  time : Binary64 := {}
  dt : Binary64 := {}
  pressureReference : Binary64 := {}
  step : UInt64 := 0
  controllerState : UInt64 := 0
  previousPressureReference : Binary64 := {}
  closedMassTarget : Binary64 := {}
  finalMassFluxRevision : UInt64 := 0
  previousMassFluxRevision : UInt64 := 0
  methodHistorySignature : UInt64 := 0
  fields : List FieldMeta := []
  rateFields : List FieldMeta := []
  ranks : List RankRecord := []
  cellRecordIdentity : UInt64 := 0
  cellRecordBytes : UInt32 := 0
  deriving DecidableEq

structure RestartImageField where
  role : RestartFieldRole := .velocity
  field : UInt16 := 0
  components : UInt8 := 0
  values : List Binary64 := []
  deriving DecidableEq

structure RankBlock where
  rankCount : UInt32 := 0
  rank : UInt32 := 0
  common : Manifest := {}
  patch : MeshPatch := {}
  fields : List RestartImageField := []
  previousFields : List RestartImageField := []
  acceptedRateFields : List RestartImageField := []
  previousRateFields : List RestartImageField := []
  flux : List (List Binary64) := []
  previousFlux : List (List Binary64) := []
  cellRecords : List UInt8 := []
  cellRecordLengths : List UInt32 := []
  cellRecordOffsets : List ℕ := []
  deriving DecidableEq

def validGlobalPatch (global : Int3) (patch : MeshPatch) : Bool :=
  if global.x ≤ 0 || global.y ≤ 0 || global.z ≤ 0 || patch.begin.x < 0 || patch.begin.y < 0 || patch.begin.z < 0 ||
      patch.cells.x ≤ 0 || patch.cells.y ≤ 0 || patch.cells.z ≤ 0 then false
  else
    patch.begin.x ≤ global.x - patch.cells.x && patch.begin.y ≤ global.y - patch.cells.y &&
      patch.begin.z ≤ global.z - patch.cells.z

def cellCount (cells : Int3) : Option ℕ :=
  if cells.x ≤ 0 || cells.y ≤ 0 || cells.z ≤ 0 then none
  else do
    let plane ← checkedMultiply cells.x.toNat cells.y.toNat
    checkedMultiply plane cells.z.toNat

/-- `++value` of an `int`; past the maximum the result is no extent. -/
def increment (value : ℤ) : ℤ := if value = maxI32 then -maxI32 - 1 else value + 1

/-- The faces of an axis that a patch owns: the last plane too, where it touches the boundary. -/
def ownedExtents (global : Int3) (patch : MeshPatch) (axis : CartesianAxis) : Int3 :=
  if axisIndex axis patch.begin + axisIndex axis patch.cells = axisIndex axis global then
    setAxis axis patch.cells (increment (axisIndex axis patch.cells))
  else patch.cells

def axes : List CartesianAxis := [.x, .y, .z]

def kFnvOffset : UInt64 := 1469598103934665603
def kFnvPrime : UInt64 := 1099511628211

def hashBytes (data : List UInt8) : UInt64 :=
  let hash := data.foldl (fun hash byte => (hash ^^^ byte.toUInt64) * kFnvPrime) kFnvOffset
  if hash = 0 then 1 else hash

def verifiedIntegrity (bytes : List UInt8) : Bool :=
  if bytes.length < 8 then false
  else
    UInt64.ofNat (leValue (bytes.drop (bytes.length - 8))) = hashBytes (bytes.take (bytes.length - 8))

namespace Encoder

def u8 (value : UInt8) : List UInt8 := leBytes 1 value.toNat
def u16 (value : UInt16) : List UInt8 := leBytes 2 value.toNat
def u32 (value : UInt32) : List UInt8 := leBytes 4 value.toNat
def u64 (value : UInt64) : List UInt8 := leBytes 8 value.toNat

/-- `static_cast<std::uint32_t>` of the value, then its bytes. -/
def i32 (value : ℤ) : List UInt8 := leBytes 4 (value % 2 ^ 32).toNat

def real (value : Binary64) : List UInt8 := u64 value.bits
def int3 (value : Int3) : List UInt8 := i32 value.x ++ i32 value.y ++ i32 value.z

def appendIntegrity (data : List UInt8) : List UInt8 := data ++ u64 (hashBytes data)

def fieldMeta (field : FieldMeta) : List UInt8 := u8 field.role.toRaw ++ u16 field.field ++ u8 field.components

def rankRecord (record : RankRecord) : List UInt8 :=
  int3 record.begin ++ int3 record.cells ++ u64 record.bytes ++ u64 record.hash

def values (values : List Binary64) : List UInt8 := u64 (UInt64.ofNat values.length) ++ values.flatMap real

end Encoder

open Encoder in
/-- `encode_common`: what a snapshot says of itself is a manifest without its ranks. -/
def encodeCommon (common : Manifest) (version : UInt32) : List UInt8 :=
  int3 common.globalCells ++ u64 common.plan ++ u64 common.schema ++ u64 common.geometry ++ real common.time ++
    real common.dt ++ real common.pressureReference ++ u64 common.step ++ u64 common.controllerState ++
    u32 (UInt32.ofNat common.fields.length) ++ common.fields.flatMap fieldMeta ++
    (if hasTemporalHistory version then
      real common.previousPressureReference ++ real common.closedMassTarget ++ u64 common.finalMassFluxRevision ++
        u64 common.previousMassFluxRevision ++ u32 (UInt32.ofNat common.rateFields.length) ++
        common.rateFields.flatMap fieldMeta
    else []) ++
    (if hasMethodSignature version then u64 common.methodHistorySignature else []) ++
    (if kCellRecordFormatVersion ≤ version then u64 common.cellRecordIdentity ++ u32 common.cellRecordBytes else [])

open Encoder in
/-- `encode_manifest`. -/
def encodeManifest (common : Manifest) (version size : UInt32) (records : List RankRecord) : List UInt8 :=
  appendIntegrity (kManifestMagic ++ u32 version ++ u32 size ++ encodeCommon common version ++ records.flatMap rankRecord)

/-- A manifest in the layout of the writer. -/
def Manifest.encode (manifest : Manifest) : List UInt8 :=
  encodeManifest manifest manifest.formatVersion manifest.rankCount manifest.ranks

/-- The arrays of a rank block, as far as the version has them. -/
structure Payload where
  fields : List (List Binary64) := []
  previousFields : List (List Binary64) := []
  acceptedRateFields : List (List Binary64) := []
  previousRateFields : List (List Binary64) := []
  flux : List (List Binary64) := []
  previousFlux : List (List Binary64) := []
  lengths : List UInt32 := []
  records : List UInt8 := []
  deriving DecidableEq

open Encoder in
/-- The layout of `encode_rank_block`, before the checksum. -/
def rankBlockBody (version size rank : UInt32) (common : Manifest) (patch : MeshPatch) (payload : Payload) : List UInt8 :=
  kRankMagic ++ u32 version ++ u32 size ++ u32 rank ++ encodeCommon common version ++ int3 patch.begin ++
    int3 patch.cells ++ payload.fields.flatMap values ++
    (if hasTemporalHistory version then
      payload.previousFields.flatMap values ++ payload.acceptedRateFields.flatMap values ++
        payload.previousRateFields.flatMap values
    else []) ++
    payload.flux.flatMap values ++
    (if hasTemporalHistory version then payload.previousFlux.flatMap values else []) ++
    (if kCellRecordFormatVersion ≤ version then
      u64 (UInt64.ofNat payload.records.length) ++
        (if version = kVariableCellRecordFormatVersion then payload.lengths.flatMap u32 else []) ++ payload.records
    else [])

/-- A rank block in the layout of the writer. -/
def RankBlock.encode (block : RankBlock) : List UInt8 :=
  Encoder.appendIntegrity (rankBlockBody block.common.formatVersion block.rankCount block.rank block.common block.patch {
    fields := block.fields.map (·.values)
    previousFields := block.previousFields.map (·.values)
    acceptedRateFields := block.acceptedRateFields.map (·.values)
    previousRateFields := block.previousRateFields.map (·.values)
    flux := block.flux
    previousFlux := block.previousFlux
    lengths := block.cellRecordLengths
    records := block.cellRecords })

inductive RestartArray where
  | fieldMeta | rateMeta | rankDirectory | imageFields | values | recordLengths | recordOffsets | recordBytes
  deriving DecidableEq

abbrev Reader := Decoder RestartArray Unit
abbrev Parser := Decoder RestartArray Status

namespace Reader

open Decoder

def integer (count : ℕ) : Reader ℕ := do
  let read ← bytes count ()
  return leValue read

def u8 : Reader UInt8 := do
  let wide ← integer 1
  return UInt8.ofNat wide

def u16 : Reader UInt16 := do
  let wide ← integer 2
  return UInt16.ofNat wide

def u32 : Reader UInt32 := do
  let wide ← integer 4
  return UInt32.ofNat wide

def u64 : Reader UInt64 := do
  let wide ← integer 8
  return UInt64.ofNat wide

/-- `static_cast<std::int32_t>` of the four bytes. -/
def i32 : Reader ℤ := do
  let bits ← integer 4
  return if bits < 2 ^ 31 then (bits : ℤ) else (bits : ℤ) - 2 ^ 32

def real : Reader Binary64 := do
  let bits ← u64
  return ⟨bits⟩

def int3 : Reader Int3 := do
  let x ← i32
  let y ← i32
  let z ← i32
  return ⟨x, y, z⟩

def finite : Reader Binary64 := do
  let value ← real
  require value.isFinite ()
  return value

/-- The entry of a catalog, with the checks of its loop in `decode_common`. -/
def fieldMeta (rates : Bool) : Reader FieldMeta := do
  let role ← u8
  let field ← u16
  let components ← u8
  match RestartFieldRole.ofRaw role with
  | none => refuse ()
  | some role =>
    require (role.isRate = rates && if rates then components = 1 else components ≠ 0) ()
    return ⟨role, field, components⟩

def rankRecord (globalCells : Int3) : Reader RankRecord := do
  let begin ← int3
  let cells ← int3
  let bytes ← u64
  let hash ← u64
  require (16 ≤ bytes && hash ≠ 0 && validGlobalPatch globalCells ⟨begin, cells, {}, {}⟩) ()
  return ⟨begin, cells, bytes, hash⟩

end Reader

open Decoder in
def decodeHistory (version : UInt32) (manifest : Manifest) : Reader Manifest :=
  if hasTemporalHistory version then do
    let previousPressureReference ← Reader.real
    let closedMassTarget ← Reader.real
    let finalMassFluxRevision ← Reader.u64
    let previousMassFluxRevision ← Reader.u64
    let rateCount ← Reader.u32
    require (rateCount ≠ 0 && rateCount ≤ 64 && manifest.controllerState ≠ 0 && previousPressureReference.isFinite &&
      closedMassTarget.isFinite && closedMassTarget.positive && previousMassFluxRevision ≠ 0 &&
      previousMassFluxRevision < finalMassFluxRevision && finalMassFluxRevision.toNat ≠ maxU64) ()
    allocate .rateMeta rateCount.toNat 4
    let rateFields ← times (Reader.fieldMeta true) rateCount.toNat
    return { manifest with
      previousPressureReference := previousPressureReference
      closedMassTarget := closedMassTarget
      finalMassFluxRevision := finalMassFluxRevision
      previousMassFluxRevision := previousMassFluxRevision
      rateFields := rateFields }
  else do
    require (version = kLegacyFormatVersion || version = kCurrentCellRecordFormatVersion) ()
    return manifest

open Decoder in
def decodeSignature (version : UInt32) (manifest : Manifest) : Reader Manifest :=
  if hasMethodSignature version then do
    let methodHistorySignature ← Reader.u64
    require (methodHistorySignature ≠ 0) ()
    return { manifest with methodHistorySignature := methodHistorySignature }
  else return manifest

open Decoder in
def decodeCellRecord (version : UInt32) (manifest : Manifest) : Reader Manifest :=
  if kCellRecordFormatVersion ≤ version then do
    let cellRecordIdentity ← Reader.u64
    let cellRecordBytes ← Reader.u32
    require (cellRecordIdentity ≠ 0 &&
      if version = kVariableCellRecordFormatVersion then cellRecordBytes = 0 else cellRecordBytes ≠ 0) ()
    return { manifest with cellRecordIdentity := cellRecordIdentity, cellRecordBytes := cellRecordBytes }
  else return manifest

open Decoder in
def decodeCommon (version : UInt32) (manifest : Manifest) : Reader Manifest := do
  let globalCells ← Reader.int3
  let plan ← Reader.u64
  let schema ← Reader.u64
  let geometry ← Reader.u64
  let time ← Reader.real
  let dt ← Reader.real
  let pressureReference ← Reader.real
  let step ← Reader.u64
  let controllerState ← Reader.u64
  let fieldCount ← Reader.u32
  require (3 ≤ fieldCount && fieldCount ≤ 64 && plan ≠ 0 && schema ≠ 0 && geometry ≠ 0 && time.isFinite &&
    dt.isFinite && dt.positive && pressureReference.isFinite && step ≠ 0) ()
  allocate .fieldMeta fieldCount.toNat 4
  let fields ← times (Reader.fieldMeta false) fieldCount.toNat
  let manifest ← decodeHistory version { manifest with
    formatVersion := version
    globalCells := globalCells
    plan := plan
    schema := schema
    geometry := geometry
    time := time
    dt := dt
    pressureReference := pressureReference
    step := step
    controllerState := controllerState
    fields := fields }
  let manifest ← decodeSignature version manifest
  decodeCellRecord version manifest

open Decoder in
/-- The decoder of `parse_manifest`. -/
def manifestReader (maximumRanks : UInt32) : Reader Manifest := do
  let magic ← bytes 8 ()
  require (magic = kManifestMagic) ()
  let version ← Reader.u32
  require (knownVersion version) ()
  let rankCount ← Reader.u32
  require (rankCount ≠ 0 && rankCount ≤ maximumRanks) ()
  let candidate ← decodeCommon version { rankCount := rankCount }
  require (validGlobalPatch candidate.globalCells ⟨{}, candidate.globalCells, {}, {}⟩) ()
  let left ← remaining
  require (8 ≤ left && rankCount.toNat = (left - 8) / 40 && (left - 8) % 40 = 0) ()
  allocate .rankDirectory rankCount.toNat 40
  let ranks ← times (Reader.rankRecord candidate.globalCells) rankCount.toNat
  let _ ← Reader.u64
  let left ← remaining
  require (left = 0) ()
  return { candidate with ranks := ranks }

def parseManifest (bytes : List UInt8) (maximumRanks : UInt32) : Decoded RestartArray Status Manifest :=
  if !verifiedIntegrity bytes then .refused ⟨.ioFailure, kRestartIntegrity⟩ ⟨bytes, []⟩
  else (manifestReader maximumRanks).refusing ⟨.ioFailure, kRestartManifest⟩ ⟨bytes, []⟩

def sameCommon (left right : Manifest) : Bool :=
  left.formatVersion = right.formatVersion && left.globalCells = right.globalCells && left.plan = right.plan &&
    left.schema = right.schema && left.geometry = right.geometry && left.time.same right.time &&
    left.dt.same right.dt && left.pressureReference.same right.pressureReference && left.step = right.step &&
    left.controllerState = right.controllerState &&
    left.previousPressureReference.same right.previousPressureReference &&
    left.closedMassTarget.same right.closedMassTarget &&
    left.methodHistorySignature = right.methodHistorySignature &&
    left.cellRecordIdentity = right.cellRecordIdentity && left.cellRecordBytes = right.cellRecordBytes &&
    left.finalMassFluxRevision = right.finalMassFluxRevision &&
    left.previousMassFluxRevision = right.previousMassFluxRevision && left.fields = right.fields &&
    left.rateFields = right.rateFields

open Decoder in
def decodeValues (expected : Option ℕ) : Reader (List Binary64) :=
  match expected with
  | none => refuse ()
  | some expectedValues => do
    let storedValues ← Reader.u64
    require (storedValues.toNat = expectedValues) ()
    let left ← remaining
    require (expectedValues ≤ left / 8) ()
    allocate .values expectedValues 8
    times Reader.finite expectedValues

def decodeField (cells : ℕ) (entry : FieldMeta) : Reader RestartImageField := do
  let values ← decodeValues (checkedMultiply cells entry.components.toNat)
  return ⟨entry.role, entry.field, entry.components, values⟩

open Decoder in
def decodeFields (cells : ℕ) (metadata : List FieldMeta) : Reader (List RestartImageField) := do
  allocate .imageFields metadata.length 4
  forEach (decodeField cells) metadata

def decodeFlux (global : Int3) (patch : MeshPatch) : Reader (List (List Binary64)) :=
  Decoder.forEach (fun axis => decodeValues (cellCount (ownedExtents global patch axis))) axes

/-- Where the record of each cell begins, and where the last one ends. -/
def recordOffsets : List UInt32 → ℕ → List ℕ
  | [], total => [total]
  | length :: rest, total => total :: recordOffsets rest (total + length.toNat)

def totalLength : List UInt32 → ℕ → Option ℕ
  | [], total => some total
  | length :: rest, total => do
    let total ← checkedAdd total length.toNat
    totalLength rest total

open Decoder in
/-- The lengths of the records, their offsets, and their number of bytes unless it overflows. -/
def decodeLengths (version : UInt32) (cells : ℕ) (recordBytes : UInt32) : Reader (List UInt32 × List ℕ × Option ℕ) :=
  if version = kVariableCellRecordFormatVersion then do
    let left ← remaining
    require (cells ≤ left / 4) ()
    allocate .recordLengths cells 4
    allocate .recordOffsets (cells + 1) 4
    let lengths ← times Reader.u32 cells
    return (lengths, recordOffsets lengths 0, totalLength lengths 0)
  else return ([], [], checkedMultiply cells recordBytes.toNat)

open Decoder in
def decodeBytes (encodedBytes : UInt64) (expectedBytes : Option ℕ) : Reader (List UInt8) :=
  match expectedBytes with
  | none => refuse ()
  | some expectedBytes => do
    let left ← remaining
    require (encodedBytes.toNat = expectedBytes && expectedBytes ≤ left) ()
    allocate .recordBytes expectedBytes 1
    bytes expectedBytes ()

def decodeCellRecords (version : UInt32) (cells : ℕ) (recordBytes : UInt32) :
    Reader (List UInt8 × List UInt32 × List ℕ) :=
  if kCellRecordFormatVersion ≤ version then do
    let encodedBytes ← Reader.u64
    let found ← decodeLengths version cells recordBytes
    let records ← decodeBytes encodedBytes found.2.2
    return (records, found.1, found.2.1)
  else return ([], [], [])

open Decoder in
def rankHeader : Reader RankBlock := do
  let magic ← bytes 8 ()
  require (magic = kRankMagic) ()
  let version ← Reader.u32
  require (knownVersion version) ()
  let rankCount ← Reader.u32
  require (rankCount ≠ 0) ()
  let rank ← Reader.u32
  require (rank < rankCount) ()
  let common ← decodeCommon version {}
  let begin ← Reader.int3
  let cells ← Reader.int3
  require (validGlobalPatch common.globalCells ⟨begin, cells, {}, {}⟩) ()
  return { rankCount := rankCount, rank := rank, common := common, patch := ⟨begin, cells, {}, {}⟩ }

def decodeHistoryFields (version : UInt32) (cells : ℕ) (common : Manifest) :
    Reader (List RestartImageField × List RestartImageField × List RestartImageField) :=
  if hasTemporalHistory version then do
    let previousFields ← decodeFields cells common.fields
    let acceptedRateFields ← decodeFields cells common.rateFields
    let previousRateFields ← decodeFields cells common.rateFields
    return (previousFields, acceptedRateFields, previousRateFields)
  else return ([], [], [])

def decodePreviousFlux (version : UInt32) (global : Int3) (patch : MeshPatch) : Reader (List (List Binary64)) :=
  if hasTemporalHistory version then decodeFlux global patch else return []

open Decoder in
def rankPayload (candidate : RankBlock) : Reader RankBlock :=
  match cellCount candidate.patch.cells with
  | none => refuse ()
  | some cells => do
    let version := candidate.common.formatVersion
    let fields ← decodeFields cells candidate.common.fields
    let history ← decodeHistoryFields version cells candidate.common
    let flux ← decodeFlux candidate.common.globalCells candidate.patch
    let previousFlux ← decodePreviousFlux version candidate.common.globalCells candidate.patch
    let records ← decodeCellRecords version cells candidate.common.cellRecordBytes
    let _ ← Reader.u64
    let left ← remaining
    require (left = 0) ()
    return { candidate with
      fields := fields
      previousFields := history.1
      acceptedRateFields := history.2.1
      previousRateFields := history.2.2
      flux := flux
      previousFlux := previousFlux
      cellRecords := records.1
      cellRecordLengths := records.2.1
      cellRecordOffsets := records.2.2 }

/-- A read of `expected.ranks[source]`, whether it is there or not. -/
def expectedRecord (expected : Manifest) (source : ℕ) : Parser RankRecord := fun s =>
  match expected.ranks[source]? with
  | none => .overrun
  | some record => .value record s

open Decoder in
def rankParser (expected : Manifest) (source : ℕ) : Parser RankBlock := do
  let candidate ← rankHeader.refusing ⟨.ioFailure, kRestartRankFile⟩
  let record ← expectedRecord expected source
  require (candidate.rank.toNat = source && candidate.rankCount = expected.rankCount &&
    candidate.patch.begin = record.begin && candidate.patch.cells = record.cells &&
    sameCommon candidate.common expected) ⟨.ioFailure, kRestartMismatch⟩
  (rankPayload candidate).refusing ⟨.ioFailure, kRestartRankFile⟩

def parseRankBlock (bytes : List UInt8) (expected : Manifest) (source : ℕ) : Decoded RestartArray Status RankBlock :=
  if !verifiedIntegrity bytes then .refused ⟨.ioFailure, kRestartIntegrity⟩ ⟨bytes, []⟩
  else rankParser expected source ⟨bytes, []⟩

end Restart

end HundunFlow
