import HundunFlow.FaceStorageWords

/-!
# Storage intervals

The bytes between the first and the last double of a view, in machine words: `std::size_t`,
`std::ptrdiff_t` and `std::uintptr_t` have 64 bits.
-/

namespace HundunFlow

/-- `Int3` with its members of type `std::int32_t`. -/
structure Int3Word where
  x : Int32 := 0
  y : Int32 := 0
  z : Int32 := 0
  deriving DecidableEq

/-- A `BasicFieldView` whose base is an address, 0 for the null pointer. -/
structure FieldViewWords where
  base : UInt64
  interior : Int3Word
  ghosts : Int3Word
  components : UInt8
  strideY : UInt64
  strideZ : UInt64
  componentStride : UInt64
  deriving DecidableEq

/-- A `BasicFaceFieldView`. -/
structure FaceViewWords where
  base : UInt64
  extents : Int3Word
  strideY : UInt64
  strideZ : UInt64
  deriving DecidableEq

structure FieldStorageInterval where
  begin : UInt64
  stop : UInt64
  deriving DecidableEq

/-- `static_cast<std::size_t>`. -/
def sizeWord (value : Int32) : UInt64 := value.toInt64.toUInt64

def ptrdiffMax : UInt64 := 0x7fffffffffffffff

/-- The end of both functions: the extents in doubles become addresses. -/
def intervalAt (base before endOffset : UInt64) : Option FieldStorageInterval := do
  let beforeBytes ← checkedMultiplyWord before 8
  let endBytes ← checkedMultiplyWord endOffset 8
  guard (beforeBytes ≤ base ∧ endBytes ≤ UInt64.ofNat maxU64 - base)
  guard (base - beforeBytes < base + endBytes)
  return ⟨base - beforeBytes, base + endBytes⟩

/-- `field_storage_interval`. -/
def fieldStorageIntervalWords (view : FieldViewWords) : Option FieldStorageInterval := do
  guard (view.base ≠ 0 ∧ 0 < view.interior.x ∧ 0 < view.interior.y ∧ 0 < view.interior.z ∧ 0 ≤ view.ghosts.x ∧
    0 ≤ view.ghosts.y ∧ 0 ≤ view.ghosts.z ∧ view.components ≠ 0 ∧ view.strideY ≠ 0 ∧ view.strideZ ≠ 0 ∧
    view.componentStride ≠ 0)
  let gx := sizeWord view.ghosts.x
  let gy := sizeWord view.ghosts.y
  let gz := sizeWord view.ghosts.z
  let nx := sizeWord view.interior.x
  let ny := sizeWord view.interior.y
  let nz := sizeWord view.interior.z
  let paddedX ← checkedAddWord nx (← checkedMultiplyWord gx 2)
  let paddedY ← checkedAddWord ny (← checkedMultiplyWord gy 2)
  let paddedZ ← checkedAddWord nz (← checkedMultiplyWord gz 2)
  guard (paddedX ≤ view.strideY)
  let minimumStrideZ ← checkedMultiplyWord view.strideY paddedY
  guard (minimumStrideZ ≤ view.strideZ)
  let minimumComponentStride ← checkedMultiplyWord view.strideZ paddedZ
  guard (minimumComponentStride ≤ view.componentStride)
  let storageSpan ← checkedMultiplyWord view.componentStride view.components.toUInt64
  let beforeY ← checkedMultiplyWord gy view.strideY
  let beforeZ ← checkedMultiplyWord gz view.strideZ
  let before ← checkedAddWord (← checkedAddWord gx beforeY) beforeZ
  let lastX ← checkedAddWord nx gx
  let lastYIndex ← checkedAddWord ny gy
  let lastZIndex ← checkedAddWord nz gz
  guard (lastX ≠ 0 ∧ lastYIndex ≠ 0 ∧ lastZIndex ≠ 0)
  let lastY ← checkedMultiplyWord (lastYIndex - 1) view.strideY
  let lastZ ← checkedMultiplyWord (lastZIndex - 1) view.strideZ
  let lastComponent ← checkedMultiplyWord (view.components.toUInt64 - 1) view.componentStride
  let maximumOffset ← checkedAddWord (← checkedAddWord (← checkedAddWord (lastX - 1) lastY) lastZ) lastComponent
  let endOffset ← checkedAddWord maximumOffset 1
  guard (view.strideY ≤ ptrdiffMax ∧ view.strideZ ≤ ptrdiffMax ∧ view.componentStride ≤ ptrdiffMax ∧
    before ≤ ptrdiffMax ∧ maximumOffset ≤ ptrdiffMax ∧ storageSpan ≠ 0)
  intervalAt view.base before endOffset

/-- `face_storage_interval`. -/
def faceStorageIntervalWords (view : FaceViewWords) : Option FieldStorageInterval := do
  guard (view.base ≠ 0 ∧ 0 < view.extents.x ∧ 0 < view.extents.y ∧ 0 < view.extents.z ∧ view.strideY ≠ 0 ∧
    view.strideZ ≠ 0)
  let nx := sizeWord view.extents.x
  let ny := sizeWord view.extents.y
  let nz := sizeWord view.extents.z
  guard (nx ≤ view.strideY)
  let minimumStrideZ ← checkedMultiplyWord view.strideY ny
  guard (minimumStrideZ ≤ view.strideZ)
  let storageSpan ← checkedMultiplyWord view.strideZ nz
  let lastY ← checkedMultiplyWord (ny - 1) view.strideY
  let lastZ ← checkedMultiplyWord (nz - 1) view.strideZ
  let maximumOffset ← checkedAddWord (← checkedAddWord (nx - 1) lastY) lastZ
  let endOffset ← checkedAddWord maximumOffset 1
  guard (view.strideY ≤ ptrdiffMax ∧ view.strideZ ≤ ptrdiffMax ∧ maximumOffset ≤ ptrdiffMax ∧ storageSpan ≠ 0)
  intervalAt view.base 0 endOffset

def storageIntervalsOverlap (left right : FieldStorageInterval) : Bool :=
  left.begin < right.stop && right.begin < left.stop

/-- What the overlap predicates make of two intervals, each absent where its function returns false. -/
def intervalsOverlap (left right : Option FieldStorageInterval) : Bool :=
  match left, right with
  | some left, some right => storageIntervalsOverlap left right
  | _, _ => true

def fieldViewsOverlapWords (left right : FieldViewWords) : Bool :=
  intervalsOverlap (fieldStorageIntervalWords left) (fieldStorageIntervalWords right)

def cellFaceViewsOverlapWords (cell : FieldViewWords) (face : FaceViewWords) : Bool :=
  intervalsOverlap (fieldStorageIntervalWords cell) (faceStorageIntervalWords face)

def faceViewsOverlapWords (left right : FaceViewWords) : Bool :=
  intervalsOverlap (faceStorageIntervalWords left) (faceStorageIntervalWords right)

/-- The subscript of `unchecked`, in `std::ptrdiff_t`. -/
def FieldViewWords.subscript (view : FieldViewWords) (index : Int3) (component : ℕ) : Int64 :=
  Int64.ofInt index.x + Int64.ofInt index.y * view.strideY.toInt64 + Int64.ofInt index.z * view.strideZ.toInt64 +
    Int64.ofNat component * view.componentStride.toInt64

def FaceViewWords.subscript (view : FaceViewWords) (index : Int3) : Int64 :=
  Int64.ofInt index.x + Int64.ofInt index.y * view.strideY.toInt64 + Int64.ofInt index.z * view.strideZ.toInt64

/-- `&base[subscript]`. -/
def elementAddress (base : UInt64) (subscript : Int64) : UInt64 := base + 8 * subscript.toUInt64

end HundunFlow
