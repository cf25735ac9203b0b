import HundunFlow.MeshDecomposition
import HundunFlow.ScatterExchange

/-!
# The workspace of the multigrid hierarchy

Every rank halves its own patch level by level. Which axes are halved is voted on, the storage
each level needs is a matter of the rank alone. An integer beyond `int` is a fault.
-/

namespace HundunFlow

open Lib

/-- What is asked of a floating-point number besides arithmetic: its bits and whether it is finite. -/
class DoubleWord (F : Type) where
  toBits : F → UInt64
  isFinite : F → Bool

structure AxisMetrics (F : Type) where
  widths : Span F

structure CartesianGeometryPlan (F : Type) where
  globalCells : Int3
  x : AxisMetrics F
  y : AxisMetrics F
  z : AxisMetrics F
  fingerprint : UInt64

/-- `cycle` is the number of an enumerator: 0 for `v_cycle`, 1 for `f_cycle`. -/
structure MgHierarchyPolicy (F : Type) where
  anisotropyThreshold : F
  maximumLevels : UInt8 := 32
  minimumCoarseExtent : UInt8 := 3
  cycle : UInt8 := 0

inductive Axis where
  | x | y | z
  deriving DecidableEq

/-- The bits `kAxisX`, `kAxisY` and `kAxisZ`. -/
structure AxisMask where
  x : Bool := false
  y : Bool := false
  z : Bool := false
  deriving DecidableEq

inductive CoarseningKind where
  | fullXyz | semiXy | semiXz | semiYz | xOnly | yOnly | zOnly
  deriving DecidableEq

structure MgWorkspaceLevelRequirements where
  globalShape : Int3 := {}
  patch : MeshPatch := {}
  coarsening : CoarseningKind := .fullXyz
  coarsenAxisMask : AxisMask := {}
  lineAxisMask : AxisMask := {}
  offsetDoubles : ℕ := 0
  slotStrideDoubles : ℕ := 0
  strideY : ℕ := 0
  strideZ : ℕ := 0
  deriving DecidableEq

/-- `level_count` is the length of `levels`. -/
structure MgWorkspaceRequirements where
  levels : List MgWorkspaceLevelRequirements := []
  arenaShape : Int3 := {}
  ghostWidth : ℕ := 1
  slotsPerLevel : ℕ := 4
  totalDoubles : ℕ := 0
  executionRevision : UInt64 := 0
  collectiveFingerprint : UInt64 := 0
  fingerprint : UInt64 := 0
  deriving DecidableEq

namespace AxisMask

def all : AxisMask := ⟨true, true, true⟩

def none : AxisMask := {}

def has (mask : AxisMask) : Axis → Bool
  | .x => mask.x
  | .y => mask.y
  | .z => mask.z

def add (mask : AxisMask) : Axis → AxisMask
  | .x => { mask with x := true }
  | .y => { mask with y := true }
  | .z => { mask with z := true }

/-- `all & ~mask`. -/
def others (mask : AxisMask) : AxisMask := ⟨!mask.x, !mask.y, !mask.z⟩

/-- `(mask & (mask - 1)) != 0`. -/
def severalAxes (mask : AxisMask) : Bool := (mask.x && mask.y) || (mask.x && mask.z) || (mask.y && mask.z)

def word (mask : AxisMask) : UInt64 :=
  (if mask.x then 1 else 0) + (if mask.y then 2 else 0) + if mask.z then 4 else 0

end AxisMask

namespace MgWorkspace

def plan : Status := ⟨.invalidPlan, 7301⟩

def collective : Status := ⟨.mpiFailure, 7302⟩

def maximumLevels : ℕ := 32

def alignmentDoubles : ℕ := 8

def slotsPerLevel : ℕ := 4

def ghostWidth : ℕ := 1

/-- The largest `std::int32_t`. -/
def maxInt32 : ℕ := 2 ^ 31 - 1

/-- A result as a `std::int32_t`. -/
def asInt32 (value : ℤ) : Option ℤ := if -2 ^ 31 ≤ value ∧ value ≤ maxInt32 then some value else none

/-- `static_cast<std::size_t>(value)`. -/
def sizeOf (value : ℤ) : ℕ := (value % 2 ^ 64).toNat

def positive (value : Int3) : Bool := 0 < value.x && 0 < value.y && 0 < value.z

def validCycle (cycle : UInt8) : Bool := cycle = 0 || cycle = 1

def checkedAdd (left right : ℕ) : Option ℕ := if 2 ^ 64 - 1 - right < left then none else some (left + right)

def checkedMultiply (left right : ℕ) : Option ℕ :=
  if left ≠ 0 ∧ (2 ^ 64 - 1) / left < right then none else some (left * right)

/-- `candidate & ~(kAlignmentDoubles - 1)`. -/
def checkedAlign (value : ℕ) : Option ℕ :=
  (checkedAdd value (alignmentDoubles - 1)).map fun candidate => candidate / alignmentDoubles * alignmentDoubles

def mix (hash value : UInt64) : UInt64 := (hash ^^^ value) * 1099511628211

def finish (hash : UInt64) : UInt64 := if hash = 0 then 1 else hash

/-- `static_cast<std::uint32_t>(value)`. -/
def word32 (value : ℤ) : UInt64 := UInt64.ofNat (value % 2 ^ 32).toNat

def hashInt3 (hash : UInt64) (value : Int3) : UInt64 :=
  mix (mix (mix hash (word32 value.x)) (word32 value.y)) (word32 value.z)

section Strategy

variable {F : Type} [Field F] [LinearOrder F]

structure AxisSpacing (F : Type) where
  minimum : Option F
  maximum : F
  representative : F

def spacing (axis : AxisMetrics F) : AxisSpacing F :=
  let widths := axis.widths.values
  if axis.widths.isNull ∨ widths = [] then ⟨none, 0, 0⟩
  else
    { minimum := widths.foldl (fun least width => some (least.elim width (min · width))) none
      maximum := widths.foldl max 0
      representative := widths.foldl (· + ·) 0 / widths.length }

/-- `internally_strong || cross_axis_strong`. -/
def strong (threshold largest : F) (axis : AxisSpacing F) : Bool :=
  -- a quotient by infinity is zero
  (match axis.minimum with
    | none => decide (threshold ≤ 0)
    | some minimum => 0 < minimum && threshold ≤ axis.maximum / minimum) ||
  (0 < axis.representative && threshold ≤ largest / axis.representative)

def strategyMask (geometry : CartesianGeometryPlan F) (policy : MgHierarchyPolicy F) : AxisMask × AxisMask :=
  let x := spacing geometry.x
  let y := spacing geometry.y
  let z := spacing geometry.z
  let largest := max (max x.representative y.representative) z.representative
  let lineMask : AxisMask :=
    ⟨strong policy.anisotropyThreshold largest x, strong policy.anisotropyThreshold largest y,
      strong policy.anisotropyThreshold largest z⟩
  if lineMask.severalAxes then (.all, lineMask)
  else if lineMask.others = .none then (.all, lineMask)
  else (lineMask.others, lineMask)

end Strategy

def kind (mask : AxisMask) : CoarseningKind :=
  match mask with
  | ⟨true, true, true⟩ => .fullXyz
  | ⟨true, true, false⟩ => .semiXy
  | ⟨true, false, true⟩ => .semiXz
  | ⟨false, true, true⟩ => .semiYz
  | ⟨true, false, false⟩ => .xOnly
  | ⟨false, true, false⟩ => .yOnly
  | ⟨false, false, true⟩ => .zOnly
  | ⟨false, false, false⟩ => .fullXyz

def component (value : Int3) : Axis → ℤ
  | .x => value.x
  | .y => value.y
  | .z => value.z

def setComponent (value : Int3) (axis : Axis) (selected : ℤ) : Int3 :=
  match axis with
  | .x => { value with x := selected }
  | .y => { value with y := selected }
  | .z => { value with z := selected }

structure Grid where
  shape : Int3
  patch : MeshPatch
  deriving DecidableEq

def coarsenAxis (grid : Grid) (axis : Axis) (minimumExtent : ℕ) (next : Grid) : Option (Option Grid) :=
  let extent := component grid.shape axis
  let begin_ := component grid.patch.begin axis
  match asInt32 (begin_ + component grid.patch.cells axis) with
  | none => none
  | some end_ =>
    if extent ≤ minimumExtent then some none
    else
      match asInt32 (begin_ + 1), asInt32 (end_ + 1), asInt32 (extent + 1) with
      | some begin_, some end_, some extent =>
        let coarseBegin := begin_.tdiv 2
        let coarseEnd := end_.tdiv 2
        if coarseEnd ≤ coarseBegin then some none
        else
          some (some {
            shape := setComponent next.shape axis (extent.tdiv 2)
            patch := { next.patch with
              begin := setComponent next.patch.begin axis coarseBegin
              cells := setComponent next.patch.cells axis (coarseEnd - coarseBegin) } })
      | _, _, _ => none

/-- The loop over the axes in `wanted`: the axes that can be coarsened, and the grid after it. -/
def coarsenAxes (grid : Grid) (minimumExtent : ℕ) (wanted : AxisMask) :
    List Axis → AxisMask → Grid → Option (AxisMask × Grid)
  | [], mask, next => some (mask, next)
  | axis :: rest, mask, next =>
    if wanted.has axis then
      match coarsenAxis grid axis minimumExtent next with
      | none => none
      | some none => coarsenAxes grid minimumExtent wanted rest mask next
      | some (some next) => coarsenAxes grid minimumExtent wanted rest (mask.add axis) next
    else coarsenAxes grid minimumExtent wanted rest mask next

def axes : List Axis := [.x, .y, .z]

/-- The level with its storage behind `cursor`, and the cursor behind it. -/
def appendStorage (level : MgWorkspaceLevelRequirements) (cursor : ℕ) : Option (MgWorkspaceLevelRequirements × ℕ) := do
  let paddedX ← checkedAdd (sizeOf level.patch.cells.x) (2 * ghostWidth)
  let paddedY ← checkedAdd (sizeOf level.patch.cells.y) (2 * ghostWidth)
  let paddedZ ← checkedAdd (sizeOf level.patch.cells.z) (2 * ghostWidth)
  let strideY ← checkedAlign paddedX
  let strideZ ← checkedMultiply strideY paddedY
  let slotStride ← checkedMultiply strideZ paddedZ
  let offset ← checkedAlign cursor
  let levelSpan ← checkedMultiply slotStride slotsPerLevel
  let cursor ← checkedAdd offset levelSpan
  some ({ level with
    offsetDoubles := offset, slotStrideDoubles := slotStride, strideY := strideY, strideZ := strideZ }, cursor)

/-- The loop of `valid_requirements` over the levels. -/
def validLevels : List MgWorkspaceLevelRequirements → ℕ → Option ℕ
  | [], expected => some expected
  | level :: rest, expected =>
    if positive level.globalShape && positive level.patch.cells then
      match appendStorage level expected with
      | none => none
      | some (checked, expected) => if level = checked then validLevels rest expected else none
    else none

def validRequirements (requirements : MgWorkspaceRequirements) : Bool :=
  if requirements.levels.length < 2 || maximumLevels < requirements.levels.length ||
      requirements.ghostWidth ≠ ghostWidth || requirements.slotsPerLevel ≠ slotsPerLevel ||
      requirements.totalDoubles = 0 || maxInt32 < requirements.totalDoubles ||
      requirements.arenaShape.x ≠ requirements.totalDoubles || requirements.arenaShape.y ≠ 1 ||
      requirements.arenaShape.z ≠ 1 || requirements.executionRevision = 0 ||
      requirements.collectiveFingerprint = 0 || requirements.fingerprint = 0 then false
  else validLevels requirements.levels 0 = some requirements.totalDoubles

structure LevelState where
  grid : Grid
  cursor : ℕ := 0
  levels : List MgWorkspaceLevelRequirements := []

structure LevelPlan where
  maximumLevels : ℕ
  minimumExtent : ℕ
  preferredMask : AxisMask
  lineMask : AxisMask

inductive LevelEnd where
  | failed (s : Status)
  | last (levels : List MgWorkspaceLevelRequirements) (cursor : ℕ)
  | next (s : LevelState)

def ballot (p : LevelPlan) (s : LevelState) : Option (AxisMask × Grid) :=
  coarsenAxes s.grid p.minimumExtent p.preferredMask axes .none s.grid

/-- The grid of the next level, when all ranks coarsen the axes in `actual`. -/
def nextGrid (p : LevelPlan) (s : LevelState) (localMask actual : AxisMask) (next : Grid) : Option Grid :=
  if actual ≠ localMask then
    (coarsenAxes s.grid p.minimumExtent actual axes .none s.grid).map Prod.snd
  else some next

def makeLevel (p : LevelPlan) (s : LevelState) (actual : AxisMask) : MgWorkspaceLevelRequirements where
  globalShape := s.grid.shape
  patch := s.grid.patch
  lineAxisMask := p.lineMask
  coarsening := kind (if actual = .none then p.preferredMask else actual)
  coarsenAxisMask := actual

def finishLevel (p : LevelPlan) (s : LevelState) (actual : AxisMask) (next : Grid) : LevelEnd :=
  match appendStorage (makeLevel p s actual) s.cursor with
  | none => .failed plan
  | some (level, cursor) =>
    let levels := s.levels ++ [level]
    if actual = .none ∨ levels.length = p.maximumLevels then .last levels cursor
    else .next ⟨next, cursor, levels⟩

/-- The loop, with `remaining` levels to go at most. -/
def levelLoop (p : LevelPlan) : ℕ → LevelState →
    JobProg Unit Unit (Stage Status (List MgWorkspaceLevelRequirements × ℕ))
  | 0, s => .done (.ok (s.levels, s.cursor))
  | remaining + 1, s =>
    match ballot p s with
    | none => .done .fault
    | some (localMask, next) =>
      (Job.allreduceMany .min [localMask.x.toNat, localMask.y.toNat, localMask.z.toNat]).bind fun
      | none => .done (.failed collective)
      | some globalMasks =>
        let actual : AxisMask :=
          ⟨globalMasks.getD 0 0 ≠ 0, globalMasks.getD 1 0 ≠ 0, globalMasks.getD 2 0 ≠ 0⟩
        match nextGrid p s localMask actual next with
        | none => .done .fault
        | some next =>
          match finishLevel p s actual next with
          | .failed status => .done (.failed status)
          | .last levels cursor => .done (.ok (levels, cursor))
          | .next s => levelLoop p remaining s

section Make

variable {F : Type} [Field F] [LinearOrder F] [DoubleWord F]

/-- What is known before the first collective. -/
def localValid (geometry : CartesianGeometryPlan F) (finestPatch : MeshPatch) (policy : MgHierarchyPolicy F)
    (executionRevision : UInt64) : Bool :=
  positive geometry.globalCells && positive finestPatch.cells && executionRevision ≠ 0 &&
    DoubleWord.isFinite policy.anisotropyThreshold && 1 < policy.anisotropyThreshold &&
    2 ≤ policy.maximumLevels && policy.maximumLevels.toNat ≤ maximumLevels && 2 ≤ policy.minimumCoarseExtent &&
    validCycle policy.cycle

def semantic (geometry : CartesianGeometryPlan F) (policy : MgHierarchyPolicy F) (executionRevision : UInt64) :
    UInt64 :=
  [geometry.fingerprint, executionRevision, policy.maximumLevels.toUInt64, policy.minimumCoarseExtent.toUInt64,
    policy.cycle.toUInt64, DoubleWord.toBits policy.anisotropyThreshold].foldl mix 1469598103934665603

def collectiveHash (hash : UInt64) (level : MgWorkspaceLevelRequirements) : UInt64 :=
  mix (mix (hashInt3 hash level.globalShape) level.coarsenAxisMask.word) level.lineAxisMask.word

def localHash (hash : UInt64) (level : MgWorkspaceLevelRequirements) : UInt64 :=
  let hash := hashInt3 (hashInt3 (hashInt3 hash level.globalShape) level.patch.begin) level.patch.cells
  let hash := mix (mix hash level.coarsenAxisMask.word) level.lineAxisMask.word
  mix (mix hash (UInt64.ofNat level.offsetDoubles)) (UInt64.ofNat level.slotStrideDoubles)

/-- The requirements, when there are levels enough and the arena fits. -/
def makeRequirements (semantic executionRevision : UInt64) (levels : List MgWorkspaceLevelRequirements)
    (cursor : ℕ) : Option MgWorkspaceRequirements :=
  if levels.length < 2 || cursor = 0 || maxInt32 < cursor then none
  else
    let hash := mix semantic (UInt64.ofNat levels.length)
    some {
      levels := levels
      arenaShape := ⟨cursor, 1, 1⟩
      ghostWidth := ghostWidth
      slotsPerLevel := slotsPerLevel
      totalDoubles := cursor
      executionRevision := executionRevision
      collectiveFingerprint := finish (levels.foldl collectiveHash hash)
      fingerprint := finish (levels.foldl localHash hash) }

def levelPlan (geometry : CartesianGeometryPlan F) (policy : MgHierarchyPolicy F) : LevelPlan where
  maximumLevels := policy.maximumLevels.toNat
  minimumExtent := policy.minimumCoarseExtent.toNat
  preferredMask := (strategyMask geometry policy).1
  lineMask := (strategyMask geometry policy).2

def makeMgWorkspaceRequirements (communicator : MpiComm) (geometry : CartesianGeometryPlan F)
    (finestPatch : MeshPatch) (policy : MgHierarchyPolicy F) (executionRevision : UInt64) :
    JobProg Unit Unit (Stage Status MgWorkspaceRequirements) :=
  match communicator with
  | .null => .done (.failed plan)
  | _ =>
    (Job.allreduce .min (localValid geometry finestPatch policy executionRevision).toNat).bind fun
    | none => .done (.failed collective)
    | some globalOk =>
      if globalOk = 0 then .done (.failed plan)
      else
        let own := semantic geometry policy executionRevision
        (Job.allreduce .min own.toNat).bind fun minimum =>
        (Job.allreduce .max own.toNat).bind fun maximum =>
        match minimum, maximum with
        | some minimum, some maximum =>
          if minimum ≠ maximum then .done (.failed plan)
          else
            (levelLoop (levelPlan geometry policy) policy.maximumLevels.toNat
              { grid := ⟨geometry.globalCells, finestPatch⟩ }).andThen fun (levels, cursor) =>
            match makeRequirements own executionRevision levels cursor with
            | none => .done (.failed plan)
            | some requirements => .done (.ok requirements)
        | _, _ => .done (.failed collective)

end Make

inductive MgWorkspaceSlot where
  | solution | rhs | residual | temporary
  deriving DecidableEq

def MgWorkspaceSlot.index : MgWorkspaceSlot → ℕ
  | .solution => 0
  | .rhs => 1
  | .residual => 2
  | .temporary => 3

/-- A view of the arena; `base` counts from its first number. -/
structure ArenaView where
  base : ℕ
  interior : Int3
  ghosts : ℕ
  strideY : ℕ
  strideZ : ℕ
  componentStride : ℕ
  deriving DecidableEq

/-- `MgWorkspace::level` of a workspace that has been bound to the requirements. -/
def level (requirements : MgWorkspaceRequirements) (levelIndex : ℕ) (slot : MgWorkspaceSlot) : Option ArenaView :=
  match requirements.levels[levelIndex]? with
  | none => none
  | some level =>
    if requirements.slotsPerLevel ≤ slot.index then none
    else
      let ghost := requirements.ghostWidth
      some {
        base := level.offsetDoubles + slot.index * level.slotStrideDoubles + ghost + ghost * level.strideY +
          ghost * level.strideZ
        interior := level.patch.cells
        ghosts := ghost
        strideY := level.strideY
        strideZ := level.strideZ
        componentStride := level.slotStrideDoubles }

end MgWorkspace

end HundunFlow
