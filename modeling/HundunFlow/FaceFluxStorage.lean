import HundunFlow.ArenaLayout
import HundunFlow.Lib.Memory

/-!
# Storage of face fluxes

A `FaceFluxStorage` holds a number of replicas of the three directional face fields in one
aligned payload. `face_storage_layout` places the replicas and `view_impl` hands out a view
of one. The payload of a storage object is a memory block of its own; addresses are counted
in doubles.
-/

namespace HundunFlow

open Lib

inductive CartesianAxis where
  | x | y | z
  deriving DecidableEq

/-- The payload of a storage object, or memory of the rest of the program. -/
inductive Block where
  | storage (ref : ℕ)
  | external (id : ℕ)
  deriving DecidableEq

structure Address where
  block : Block
  offset : ℕ
  deriving DecidableEq

/-- What the code does with a `double` here: test it, and fill with zero. -/
class FaceValue (F : Type) where
  zero : F
  isFinite : F → Bool

def kFaceStorage : UInt32 := 911
def kFaceExtent : UInt32 := 912
def kFaceAuthority : UInt32 := 913
def kFaceTransaction : UInt32 := 914
def kFinalFaceFluxReplicas : ℕ := 3

/-- `BasicFaceFieldView`; a null `base` is `none`. -/
structure FaceFieldView where
  base : Option Address := none
  extents : Int3 := {}
  strideY : ℕ := 0
  strideZ : ℕ := 0
  axis : CartesianAxis := .x
  storageIdentity : ℕ := 0
  revisionDomain : ℕ := 0
  deriving DecidableEq

structure FaceFluxCertificate where
  revision : ℕ := 0
  authority : ℕ := 0
  storage : ℕ := 0
  revisionDomain : ℕ := 0
  xBase : Option Address := none
  yBase : Option Address := none
  zBase : Option Address := none
  xStrideY : ℕ := 0
  xStrideZ : ℕ := 0
  yStrideY : ℕ := 0
  yStrideZ : ℕ := 0
  zStrideY : ℕ := 0
  zStrideZ : ℕ := 0
  cells : Int3 := {}
  deriving DecidableEq

structure FaceFluxView where
  x : FaceFieldView := {}
  y : FaceFieldView := {}
  z : FaceFieldView := {}
  revision : ℕ := 0
  certificate : FaceFluxCertificate := {}
  deriving DecidableEq

def FaceFluxView.faces (flux : FaceFluxView) : List FaceFieldView := [flux.x, flux.y, flux.z]

/-- `face_storage_interval`: first and one past the last double of the view. A block never
wraps around the address space, so only the extent itself is checked for overflow. -/
def faceStorageInterval (view : FaceFieldView) : Option (Address × ℕ) := do
  let base ← view.base
  guard (0 < view.extents.x ∧ 0 < view.extents.y ∧ 0 < view.extents.z)
  guard (view.strideY ≠ 0 ∧ view.strideZ ≠ 0)
  let nx := view.extents.x.toNat
  let ny := view.extents.y.toNat
  let nz := view.extents.z.toNat
  guard (nx ≤ view.strideY)
  let minimumStrideZ ← checkedMultiply view.strideY ny
  guard (minimumStrideZ ≤ view.strideZ)
  let storageSpan ← checkedMultiply view.strideZ nz
  let lastY ← checkedMultiply (ny - 1) view.strideY
  let lastZ ← checkedMultiply (nz - 1) view.strideZ
  let maximumOffset ← checkedAdd (nx - 1) lastY
  let maximumOffset ← checkedAdd maximumOffset lastZ
  let endOffset ← checkedAdd maximumOffset 1
  let ptrdiffMax := 2 ^ 63 - 1
  guard (view.strideY ≤ ptrdiffMax ∧ view.strideZ ≤ ptrdiffMax ∧ maximumOffset ≤ ptrdiffMax ∧
    storageSpan ≠ 0)
  let _ ← checkedMultiply endOffset 8
  return (base, base.offset + endOffset)

def faceViewsOverlap (left right : FaceFieldView) : Bool :=
  match faceStorageInterval left, faceStorageInterval right with
  | some (l, lEnd), some (r, rEnd) => l.block = r.block && l.offset < rEnd && r.offset < lEnd
  | _, _ => true

def sameCells (left right : Int3) : Bool := left.x = right.x && left.y = right.y && left.z = right.z

def validFace (view : FaceFieldView) (expected : CartesianAxis) (extents : Int3) : Bool :=
  (faceStorageInterval view).isSome && view.axis = expected && sameCells view.extents extents &&
    view.storageIdentity ≠ 0 && view.revisionDomain ≠ 0

def validFluxView (flux : FaceFluxView) (cells : Int3) (requiredRevision : ℕ) : Bool :=
  if !validCells cells || cells.x = maxI32 || cells.y = maxI32 || cells.z = maxI32 then false
  else
    flux.revision ≠ 0 && (requiredRevision = 0 || flux.revision = requiredRevision) &&
      validFace flux.x .x { cells with x := cells.x + 1 } &&
      validFace flux.y .y { cells with y := cells.y + 1 } &&
      validFace flux.z .z { cells with z := cells.z + 1 } &&
      !faceViewsOverlap flux.x flux.y && !faceViewsOverlap flux.x flux.z &&
      !faceViewsOverlap flux.y flux.z &&
      flux.x.storageIdentity = flux.y.storageIdentity &&
      flux.x.storageIdentity = flux.z.storageIdentity &&
      flux.x.revisionDomain = flux.y.revisionDomain && flux.x.revisionDomain = flux.z.revisionDomain

/-- The faces of a box in the order of the loops: x innermost. -/
def faceIndices (extents : Int3) : List Int3 :=
  (List.range extents.z.toNat).flatMap fun z =>
    (List.range extents.y.toNat).flatMap fun y =>
      (List.range extents.x.toNat).map fun x => Int3.mk (x : ℕ) (y : ℕ) (z : ℕ)

lemma mem_faceIndices (extents i : Int3) : i ∈ faceIndices extents ↔
    (0 ≤ i.x ∧ i.x < extents.x) ∧ (0 ≤ i.y ∧ i.y < extents.y) ∧ (0 ≤ i.z ∧ i.z < extents.z) := by
  rcases i with ⟨x, y, z⟩
  simp only [faceIndices, List.mem_flatMap, List.mem_map, List.mem_range, Int3.mk.injEq]
  constructor
  · rintro ⟨k, hk, j, hj, i, hi, rfl, rfl, rfl⟩
    omega
  · rintro ⟨⟨hx, hx'⟩, ⟨hy, hy'⟩, hz, hz'⟩
    exact ⟨z.toNat, by omega, y.toNat, by omega, x.toNat, by omega, by omega, by omega, by omega⟩

/-- `&view.unchecked(index)` of a view that has a base. -/
def FaceFieldView.at (view : FaceFieldView) (base : Address) (i : Int3) : Address :=
  { base with offset := base.offset + i.x.toNat + i.y.toNat * view.strideY + i.z.toNat * view.strideZ }

section Loops

variable {F : Type}

def allFinite [FaceValue F] (m : Memory Address F) (view : FaceFieldView) : Bool :=
  match view.base with
  | none => false
  | some base => (faceIndices view.extents).all fun i => FaceValue.isFinite (m (view.at base i))

/-- `output.unchecked(i) = input.unchecked(i)` over the extents of the input. -/
def copyFace (m : Memory Address F) (input output : FaceFieldView) : Memory Address F :=
  match input.base, output.base with
  | some source, some target =>
    storeLoop (output.at target) (fun m i => m (input.at source i)) m (faceIndices input.extents)
  | _, _ => m

def copyFlux (m : Memory Address F) (source destination : FaceFluxView) : Memory Address F :=
  copyFace (copyFace (copyFace m source.x destination.x) source.y destination.y) source.z destination.z

end Loops

structure AxisLayout where
  extents : Int3 := {}
  strideY : ℕ := 0
  strideZ : ℕ := 0
  offset : ℕ := 0
  deriving DecidableEq

structure FaceStorageLayout where
  x : AxisLayout := {}
  y : AxisLayout := {}
  z : AxisLayout := {}
  replicaStride : ℕ := 0
  doubles : ℕ := 0
  bytes : ℕ := 0
  deriving DecidableEq

/-- One turn of the loop over the axes: the axis placed at `cursor`, and the next cursor. -/
def axisLayout (extents : Int3) (cursor : ℕ) : Option (AxisLayout × ℕ) := do
  guard (validCells extents)
  let strideY ← checkedAlign extents.x.toNat
  let strideZ ← checkedMultiply strideY extents.y.toNat
  let offset ← checkedAlign cursor
  let block ← checkedMultiply strideZ extents.z.toNat
  let cursor ← checkedAdd offset block
  return (⟨extents, strideY, strideZ, offset⟩, cursor)

def faceStorageLayout (cells : Int3) (replicas : ℕ) : Option FaceStorageLayout := do
  guard (validCells cells ∧ replicas ≠ 0 ∧ cells.x ≠ maxI32 ∧ cells.y ≠ maxI32 ∧ cells.z ≠ maxI32)
  let (x, cursor) ← axisLayout { cells with x := cells.x + 1 } 0
  let (y, cursor) ← axisLayout { cells with y := cells.y + 1 } cursor
  let (z, cursor) ← axisLayout { cells with z := cells.z + 1 } cursor
  let replicaStride ← checkedAlign cursor
  let doubles ← checkedMultiply replicaStride replicas
  let bytes ← checkedMultiply doubles 8
  guard (bytes ≠ 0)
  return ⟨x, y, z, replicaStride, doubles, bytes⟩

/-- `data` says whether a payload is allocated, and `pendingWriter` whether the pointer to
the leasing writer is set. The counters have no reader among the operations here. -/
structure FaceFluxStorage where
  alive : Bool := true
  data : Bool := false
  cells : Int3 := {}
  layout : FaceStorageLayout := {}
  replicas : ℕ := 0
  identity : ℕ := 0
  revisionDomain : ℕ := 0
  authorityIdentity : ℕ := 0
  pendingWriterIdentity : ℕ := 0
  pendingAttemptIdentity : ℕ := 0
  pendingWriter : Bool := false
  finalStorage : Bool := false
  deriving DecidableEq

namespace FaceFluxStorage

/-- `allocate_impl` with the allocator's answer. The identities are drawn from `next` once
the payload is there. -/
def allocateImpl (cells : Int3) (replicas : ℕ) (finalStorage : Bool) (next : ℕ) (memory : Bool)
    (out : FaceFluxStorage) : FaceFluxStorage × ℕ × Status :=
  if out.data || out.authorityIdentity ≠ 0 then (out, next, ⟨.invalidPlan, kFaceExtent⟩)
  else
    match faceStorageLayout cells replicas with
    | none => (out, next, ⟨.invalidPlan, kFaceExtent⟩)
    | some layout =>
      if !memory then (out, next, ⟨.allocationFailure, 0⟩)
      else
        let (identity, next) := issueIdentity next
        let (revisionDomain, next) := issueIdentity next
        if identity = 0 || revisionDomain = 0 then (out, next, ⟨.invalidPlan, kFaceStorage⟩)
        else if maxU64 / 3 < replicas then (out, next, ⟨.invalidPlan, kFaceExtent⟩)
        else ({ data := true, cells, layout, replicas, identity, revisionDomain, finalStorage }, next, {})

def allocateFinal (cells : Int3) (next : ℕ) (memory : Bool) (out : FaceFluxStorage) :
    FaceFluxStorage × ℕ × Status :=
  allocateImpl cells kFinalFaceFluxReplicas true next memory out

def axisView (storage : FaceFluxStorage) (ref replica : ℕ) (axis : CartesianAxis)
    (layout : AxisLayout) : FaceFieldView where
  base := some ⟨.storage ref, replica * storage.layout.replicaStride + layout.offset⟩
  extents := layout.extents
  strideY := layout.strideY
  strideZ := layout.strideZ
  axis := axis
  storageIdentity := storage.identity
  revisionDomain := storage.revisionDomain

/-- `view_impl` of the storage object `ref`. -/
def viewImpl (storage : FaceFluxStorage) (ref replica revision : ℕ) : Except Status FaceFluxView :=
  if !storage.data || storage.replicas ≤ replica || revision = 0 || storage.identity = 0 ||
      storage.revisionDomain = 0 then .error ⟨.invalidPlan, kFaceStorage⟩
  else .ok
    { x := storage.axisView ref replica .x storage.layout.x
      y := storage.axisView ref replica .y storage.layout.y
      z := storage.axisView ref replica .z storage.layout.z
      revision }

end FaceFluxStorage

end HundunFlow
