import HundunFlow.FaceFluxStorage

/-!
# Face storage in machine words

The sizes of a face storage once more, as `std::size_t` and `std::ptrdiff_t` compute them: every sum
and product wraps around, and only the checks of `checked_add` and `checked_multiply` keep it from
doing so. Addresses are counted in bytes here.
-/

namespace HundunFlow

def checkedAddWord (left right : UInt64) : Option UInt64 :=
  if UInt64.ofNat maxU64 - left < right then none else some (left + right)

def checkedMultiplyWord (left right : UInt64) : Option UInt64 :=
  if left ≠ 0 && UInt64.ofNat maxU64 / left < right then none else some (left * right)

def checkedAlignWord (value alignment : UInt64) : Option UInt64 :=
  if alignment = 0 || alignment &&& (alignment - 1) ≠ 0 then none
  else (checkedAddWord value (alignment - 1)).map fun candidate => candidate &&& ~~~(alignment - 1)

/-- `checked_align` of the face storage. -/
def alignWord (value : UInt64) : Option UInt64 := checkedAlignWord value (UInt64.ofNat kDoublesPerCacheLine)

structure AxisWords where
  extents : Int3 := {}
  strideY : UInt64 := 0
  strideZ : UInt64 := 0
  offset : UInt64 := 0
  deriving DecidableEq

structure FaceStorageWords where
  x : AxisWords := {}
  y : AxisWords := {}
  z : AxisWords := {}
  replicaStride : UInt64 := 0
  doubles : UInt64 := 0
  bytes : UInt64 := 0
  deriving DecidableEq

/-- One more, as `std::int32_t` computes it. -/
def successorI32 (value : ℤ) : ℤ := (value + 1).bmod (2 ^ 32)

def axisLayoutWords (extents : Int3) (cursor : UInt64) : Option (AxisWords × UInt64) := do
  guard (validCells extents)
  let strideY ← alignWord (UInt64.ofInt extents.x)
  let strideZ ← checkedMultiplyWord strideY (UInt64.ofInt extents.y)
  let offset ← alignWord cursor
  let block ← checkedMultiplyWord strideZ (UInt64.ofInt extents.z)
  let cursor ← checkedAddWord offset block
  return (⟨extents, strideY, strideZ, offset⟩, cursor)

def faceStorageLayoutWords (cells : Int3) (replicas : UInt64) : Option FaceStorageWords := do
  guard (validCells cells ∧ replicas ≠ 0 ∧ cells.x ≠ maxI32 ∧ cells.y ≠ maxI32 ∧ cells.z ≠ maxI32)
  let (x, cursor) ← axisLayoutWords { cells with x := successorI32 cells.x } 0
  let (y, cursor) ← axisLayoutWords { cells with y := successorI32 cells.y } cursor
  let (z, cursor) ← axisLayoutWords { cells with z := successorI32 cells.z } cursor
  let replicaStride ← alignWord cursor
  let doubles ← checkedMultiplyWord replicaStride replicas
  let bytes ← checkedMultiplyWord doubles 8
  guard (bytes ≠ 0)
  return ⟨x, y, z, replicaStride, doubles, bytes⟩

def AxisWords.exact (words : AxisWords) : AxisLayout :=
  ⟨words.extents, words.strideY.toNat, words.strideZ.toNat, words.offset.toNat⟩

def FaceStorageWords.exact (words : FaceStorageWords) : FaceStorageLayout :=
  ⟨words.x.exact, words.y.exact, words.z.exact, words.replicaStride.toNat, words.doubles.toNat, words.bytes.toNat⟩

def FaceStorageLayout.axis (layout : FaceStorageLayout) : CartesianAxis → AxisLayout
  | .x => layout.x
  | .y => layout.y
  | .z => layout.z

def FaceStorageWords.axis (words : FaceStorageWords) : CartesianAxis → AxisWords
  | .x => words.x
  | .y => words.y
  | .z => words.z

def FaceFluxView.face (flux : FaceFluxView) : CartesianAxis → FaceFieldView
  | .x => flux.x
  | .y => flux.y
  | .z => flux.z

/-- The subscript of `unchecked`, in `std::ptrdiff_t`. -/
def AxisWords.subscript (words : AxisWords) (index : Int3) : Int64 :=
  Int64.ofInt index.x + Int64.ofInt index.y * words.strideY.toInt64 + Int64.ofInt index.z * words.strideZ.toInt64

/-- The byte address of a face: `view_impl` adds the replica and the axis to `data_`, and `unchecked`
the subscript to the pointer of the view. -/
def FaceStorageWords.address (words : FaceStorageWords) (data replica : UInt64) (axis : CartesianAxis) (index : Int3) :
    UInt64 :=
  data + 8 * (replica * words.replicaStride) + 8 * (words.axis axis).offset +
    8 * ((words.axis axis).subscript index).toUInt64

namespace FaceFluxStorage

def allocateWorkspace (cells : Int3) (replicas : ℕ) (next : ℕ) (memory : Bool) (out : FaceFluxStorage) :
    FaceFluxStorage × ℕ × Status :=
  allocateImpl cells replicas false next memory out

/-- `workspace_view`, and `view` for reading. -/
def workspaceView (storage : FaceFluxStorage) (ref replica revision : ℕ) : Except Status FaceFluxView :=
  if storage.finalStorage then .error ⟨.invalidPlan, kFaceAuthority⟩ else storage.viewImpl ref replica revision

end FaceFluxStorage

end HundunFlow
