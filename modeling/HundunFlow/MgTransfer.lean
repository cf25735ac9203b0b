import HundunFlow.EBTopology

/-!
# Transfers between two levels

`restrict_residual` and `prolongate_add` of the multigrid cycle in exact arithmetic. They are written
for all ranks at once, an exchange as what it leaves on the ranks when every message arrives: cells are
packed before any cell is unpacked. The fields have one ghost cell on each side.
-/

namespace HundunFlow

open Lib

inductive MgBoundaryKind where
  | dirichlet | neumann | periodic
  deriving DecidableEq

inductive MgNullSpace where
  | none | constant
  deriving DecidableEq

structure MgBoundarySet where
  minimum : Axis → MgBoundaryKind := fun _ => .dirichlet
  maximum : Axis → MgBoundaryKind := fun _ => .dirichlet

namespace MgTransfer

open MgWorkspace (component setComponent axes)
open EBTopology (boxIndices addIndex subIndex)

abbrev LevelSlot (F : Type) : Type := Int3 → F

/-- `halo_topology`. -/
def periodicAxes (boundaries : MgBoundarySet) (axis : Axis) : Bool := boundaries.minimum axis = .periodic

/-- `neighbor_rank` of the halo engine. -/
def neighborRank (patch : MeshPatch) (periodic : Axis → Bool) (axis : Axis) (minus : Bool) : Option ℤ :=
  let coordinate := component patch.processCoord axis
  let grid := component patch.processGrid axis
  let selected : Option ℤ :=
    if minus then
      if coordinate = 0 then if periodic axis then some (grid - 1) else none
      else some (coordinate - 1)
    else if coordinate + 1 = grid then if periodic axis then some 0 else none
    else some (coordinate + 1)
  selected.map fun coordinate => rankAt patch.processGrid (setComponent patch.processCoord axis coordinate)

/-- `neighbor` of the extension. -/
def neighbor (patch : MeshPatch) (periodic : Axis → Bool) (axis : Axis) (minus : Bool) : Option ℤ :=
  let coordinate := component patch.processCoord axis + if minus then -1 else 1
  let grid := component patch.processGrid axis
  if coordinate < 0 ∨ grid ≤ coordinate then
    if periodic axis then
      some (rankAt patch.processGrid (setComponent patch.processCoord axis (if coordinate < 0 then grid - 1 else 0)))
    else none
  else some (rankAt patch.processGrid (setComponent patch.processCoord axis coordinate))

/-- The cells of a plane, which reaches over the sides of the patch by `reach`. -/
def inPlane (patch : MeshPatch) (axis : Axis) (plane : ℤ) (reach : Axis → ℤ) (index : Int3) : Bool :=
  axes.all fun other => if other = axis then component index other = plane
    else -reach other ≤ component index other ∧ component index other < component patch.cells other + reach other

section Exchange

variable {F : Type} {n : ℕ}

def ghostPlane (patch : MeshPatch) (axis : Axis) (minus : Bool) : ℤ :=
  if minus then -1 else component patch.cells axis

/-- What a rank has after a plane has arrived from one side: the last plane of the rank below, or the
first one of the rank above. -/
def unpackPlane (patch : Fin n → MeshPatch) (neighborOf : MeshPatch → Axis → Bool → Option ℤ) (axis : Axis)
    (reach : Axis → ℤ) (packed : Fin n → LevelSlot F) (i : Fin n) (minus : Bool) (own : LevelSlot F) : LevelSlot F :=
  fun index =>
    match neighborOf (patch i) axis minus with
    | none => own index
    | some rank =>
      if h : rank.toNat < n then
        let sender : Fin n := ⟨rank.toNat, h⟩
        if inPlane (patch i) axis (ghostPlane (patch i) axis minus) reach index then
          packed sender (setComponent index axis (if minus then component (patch sender).cells axis - 1 else 0))
        else own index
      else own index

def receivePlanes (patch : Fin n → MeshPatch) (neighborOf : MeshPatch → Axis → Bool → Option ℤ) (axis : Axis)
    (reach : Axis → ℤ) (packed current : Fin n → LevelSlot F) (i : Fin n) : LevelSlot F :=
  let unpack := unpackPlane patch neighborOf axis reach packed i
  unpack false (unpack true (current i))

/-- An exchange of the halo engine: the six faces, one cell deep and as wide as the patch. -/
def exchangeFaces (patch : Fin n → MeshPatch) (periodic : Axis → Bool) (slots : Fin n → LevelSlot F) : Fin n → LevelSlot F :=
  axes.foldl (fun current axis =>
    receivePlanes patch (fun patch => neighborRank patch periodic) axis (fun _ => 0) slots current) slots

/-- The loop over the axes: each sends planes over the sides that the axes before it have filled. -/
def extensionLoop (patch : Fin n → MeshPatch) (periodic active : Axis → Bool) :
    List Axis → (Axis → Bool) → Bool → (Fin n → LevelSlot F) → Fin n → LevelSlot F
  | [], _, _, slots => slots
  | axis :: rest, prior, first, slots =>
    if !active axis then extensionLoop patch periodic active rest prior first slots
    else
      let priorNext := fun other => prior other || decide (other = axis)
      if first then extensionLoop patch periodic active rest priorNext false slots
      else
        extensionLoop patch periodic active rest priorNext false
          (receivePlanes patch (fun patch => neighbor patch periodic) axis (fun other => if prior other then 1 else 0)
            slots slots)

/-- The axes on which the prolongation reads ghost cells. -/
def activeAxes (mask : AxisMask) (processGrid : Int3) (periodic : Axis → Bool) (axis : Axis) : Bool :=
  mask.has axis && (1 < component processGrid axis || periodic axis)

/-- `extend_prolongation_face_halos`, for the process grid that the ranks share. -/
def extendProlongationFaceHalos (mask : AxisMask) (processGrid : Int3) (patch : Fin n → MeshPatch)
    (periodic : Axis → Bool) (solution : Fin n → LevelSlot F) : Fin n → LevelSlot F :=
  let active := activeAxes mask processGrid periodic
  if axes.countP active < 2 then solution
  else extensionLoop patch periodic active axes (fun _ => false) true solution

end Exchange

def interior (cells index : Int3) : Bool :=
  axes.all fun axis => 0 ≤ component index axis ∧ component index axis < component cells axis

/-- The local indices of the children of a coarse cell, as far as they are in the box. -/
def children (fine coarse : MgWorkspaceLevelRequirements) (cell : Int3) : List Int3 :=
  let begin_ := addIndex coarse.patch.begin cell
  let mask := fine.coarsenAxisMask
  let base (axis : Axis) : ℤ := if mask.has axis then 2 * component begin_ axis else component begin_ axis
  let count (axis : Axis) : ℤ := if mask.has axis then 2 else 1
  ((boxIndices ⟨count .x, count .y, count .z⟩).map (addIndex ⟨base .x, base .y, base .z⟩)).filterMap fun global =>
    if fine.globalShape.x ≤ global.x ∨ fine.globalShape.y ≤ global.y ∨ fine.globalShape.z ≤ global.z then none
    else some (subIndex global fine.patch.begin)

section Restriction

variable {F : Type} [Field F] [LinearOrder F] {n : ℕ}

def writeCells (cells : Int3) (value : Int3 → F) (slot : LevelSlot F) : LevelSlot F := fun index =>
  if interior cells index then value index else slot index

/-- `project_constant`: the mean over all ranks is taken off, unless there is no volume. -/
def projectConstant (cells : Fin n → Int3) (volumes field : Fin n → LevelSlot F) : Option (Fin n → LevelSlot F) :=
  let weighted := ∑ i, ((boxIndices (cells i)).map fun cell => volumes i cell * field i cell).sum
  let volume := ∑ i, ((boxIndices (cells i)).map (volumes i)).sum
  if 0 < volume then
    some fun i => writeCells (cells i)
      (fun cell => if 0 < volumes i cell then field i cell - weighted / volume else 0) (field i)
  else none

/-- The right-hand sides and solutions of the coarse level after `restrict_residual`; `none` is a
numerical failure. -/
def restrictResidual (fine coarse : Fin n → MgWorkspaceLevelRequirements) (boundaries : MgBoundarySet)
    (nullSpace : MgNullSpace) (coarseVolumes residual rhs solution : Fin n → LevelSlot F) :
    Option ((Fin n → LevelSlot F) × (Fin n → LevelSlot F)) :=
  let residual := exchangeFaces (fun i => (fine i).patch) (periodicAxes boundaries) residual
  let rhs := fun i => writeCells (coarse i).patch.cells
    (fun cell => (children (fine i) (coarse i) cell).foldl (fun sum child => sum + residual i child) 0) (rhs i)
  let solution := fun i => writeCells (coarse i).patch.cells (fun _ => 0) (solution i)
  match nullSpace with
  | .none => some (rhs, solution)
  | .constant => (projectConstant (fun i => (coarse i).patch.cells) coarseVolumes rhs).map (·, solution)

/-- Both coarse cells of a fine one on an axis, with the weight of the second. -/
structure Interpolation (F : Type) where
  left : ℤ
  right : ℤ
  rightWeight : F

def interpolation (fineGlobal : ℤ) (coarsened : Bool) (coarseExtent : ℤ) (periodic : Bool) : Interpolation F :=
  if !coarsened then ⟨fineGlobal, fineGlobal, 0⟩
  else
    let parent := fineGlobal / 2
    let found : Interpolation F := if fineGlobal % 2 = 0 then ⟨parent - 1, parent, 3 / 4⟩ else ⟨parent, parent + 1, 1 / 4⟩
    if !periodic && found.left < 0 then ⟨0, 0, 0⟩
    else if !periodic && coarseExtent ≤ found.right then ⟨coarseExtent - 1, coarseExtent - 1, 0⟩
    else found

def Interpolation.rounds (terms : Interpolation F) : List (ℤ × F) :=
  if terms.left = terms.right then [(terms.left, 1 - terms.rightWeight)]
  else [(terms.left, 1 - terms.rightWeight), (terms.right, terms.rightWeight)]

def prolongation (fine coarse : MgWorkspaceLevelRequirements) (periodic : Axis → Bool) (solution : LevelSlot F)
    (cell : Int3) : F :=
  let global := addIndex fine.patch.begin cell
  let terms (axis : Axis) : List (ℤ × F) :=
    (interpolation (component global axis) (fine.coarsenAxisMask.has axis) (component coarse.globalShape axis)
      (periodic axis)).rounds
  (terms .z).foldl (fun value z => (terms .y).foldl (fun value y => (terms .x).foldl (fun value x =>
    value + x.2 * y.2 * z.2 * solution (subIndex ⟨x.1, y.1, z.1⟩ coarse.patch.begin)) value) value) 0

/-- The solutions of the fine level after `prolongate_add`. -/
def prolongateAdd (fine coarse : Fin n → MgWorkspaceLevelRequirements) (boundaries : MgBoundarySet) (processGrid : Int3)
    (fluidVolumes solution coarseSolution : Fin n → LevelSlot F) : Fin n → LevelSlot F :=
  let patch := fun i => (coarse i).patch
  let exchanged := exchangeFaces patch (periodicAxes boundaries) coarseSolution
  fun i =>
    let extended := extendProlongationFaceHalos (fine i).coarsenAxisMask processGrid patch (periodicAxes boundaries) exchanged
    writeCells (fine i).patch.cells (fun cell =>
      if fluidVolumes i cell = 0 then 0
      else solution i cell + prolongation (fine i) (coarse i) (periodicAxes boundaries) (extended i) cell) (solution i)

end Restriction

end MgTransfer

end HundunFlow
