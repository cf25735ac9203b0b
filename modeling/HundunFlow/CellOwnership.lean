import HundunFlow.SprayParcel
import HundunFlow.MeshDecomposition
import Mathlib.Data.Rat.Floor

/-!
# Owner of a global cell

The three computations that send a global cell to a rank: the parcel migration plan, the
exchange routing plan, and the Cartesian location provider, which starts from a position.
Each inverts the partition of `makeMeshPatch` with its own division formula.
-/

namespace HundunFlow

open Lib

/-- `owner_coordinate` of the migration plan. -/
def ownerCoordinate (index cells partitions : ℤ) : ℤ :=
  let ordinary := cells / partitions
  let extra := cells % partitions
  let extended := (ordinary + 1) * extra
  if index < extended then index / (ordinary + 1) else extra + (index - extended) / ordinary

/-- `ParcelMigrationPlan::owner`; `-1` for an id outside the box. -/
def ParcelMigrationPlan.owner (globalCells processGrid : Int3) (cell : ℕ) : ℤ :=
  let x := (cell : ℤ) % globalCells.x
  let rest := (cell : ℤ) / globalCells.x
  let y := rest % globalCells.y
  let z := rest / globalCells.y
  if z ≥ globalCells.z then -1
  else
    ownerCoordinate x globalCells.x processGrid.x + processGrid.x *
      (ownerCoordinate y globalCells.y processGrid.y + processGrid.y *
        ownerCoordinate z globalCells.z processGrid.z)

/-- `owner_axis` of the exchange plan. -/
def ownerAxis (i cells parts : ℤ) : ℤ :=
  let base := cells / parts
  let extra := cells % parts
  let extended := (base + 1) * extra
  if i < extended then i / (base + 1) else extra + (i - extended) / base

/-- `OwnerExchangeRoutingPlan::owner`. -/
def OwnerExchangeRoutingPlan.owner (global grid : Int3) (id : ℕ) : ℤ :=
  let x := (id : ℤ) % global.x
  let id := (id : ℤ) / global.x
  let y := id % global.y
  let id := id / global.y
  if id ≥ global.z then -1
  else
    ownerAxis x global.x grid.x + grid.x *
      (ownerAxis y global.y grid.y + grid.y * ownerAxis id global.z grid.z)

/-- The arithmetic of cell coordinates: subtraction and division as the machine rounds them,
comparison with small integers, and `static_cast<int>(std::floor(q))`. The laws are the ones
binary64 has for integers of 32 bits; exact arithmetic has them too. -/
structure CoordinateArithmetic (R : Type) where
  sub : R → R → R
  div : R → R → R
  isFinite : R → Bool
  ofInt : ℤ → R
  less : R → R → Bool
  floor : R → ℤ
  less_mono : ∀ q c d, 0 ≤ c → c ≤ d → d < 2 ^ 31 → less q (ofInt c) = true → less q (ofInt d) = true
  floor_eq : ∀ q c, 0 ≤ c → c + 1 < 2 ^ 31 → isFinite q = true → less q (ofInt c) = false →
    less q (ofInt (c + 1)) = true → floor q = c

/-- `portable::Revision`. -/
structure Revision where
  acceptedStep : ℕ := 0
  inputRevision : ℕ := 0
  algorithmVersion : ℕ := 0
  deriving DecidableEq

structure CartesianParcelLocationInput (R : Type) where
  revision : Revision
  origin : Vector3 R
  cellWidth : Vector3 R
  globalCells : Int3
  rankCount : ℤ

structure ParcelLocation where
  revision : Revision := {}
  globalCell : ℕ := 0
  ownerRank : ℤ := -1
  deriving DecidableEq

namespace MigrationDetail

def invalidPlan : UInt32 := 26100
def invalidValue : UInt32 := 26101
def invalidOwner : UInt32 := 26102
def capacityExceeded : UInt32 := 26103
def duplicateId : UInt32 := 26104
def communicationFailure : UInt32 := 26105
def allocationFailure : UInt32 := 26106
def staleRevision : UInt32 := 26108
def locationUnavailable : UInt32 := 26109

end MigrationDetail

section Locate

variable {R : Type} (A : CoordinateArithmetic R)

def CoordinateArithmetic.coordinate (position origin width : R) : R :=
  A.div (A.sub position origin) width

/-- One turn of the axis loop: the cell and its owner coordinate. -/
def locateAxis (position origin width : R) (count partitions : ℤ) : Except Status (ℤ × ℤ) :=
  if !A.isFinite position || !A.isFinite origin || !A.isFinite width || !A.less (A.ofInt 0) width then
    .error ⟨.invalidPlan, MigrationDetail.invalidValue⟩
  else
    let coordinate := A.coordinate position origin width
    if !A.isFinite coordinate || A.less coordinate (A.ofInt 0) || !A.less coordinate (A.ofInt count) then
      .error ⟨.invalidPlan, MigrationDetail.locationUnavailable⟩
    else
      let cell := A.floor coordinate
      .ok (cell, ownerCoordinate cell count partitions)

/-- `CartesianParcelLocationProvider::locate`. The flat id is formed in 64-bit arithmetic. -/
def CartesianParcelLocationProvider.locate (input : CartesianParcelLocationInput R)
    (position : Vector3 R) (revision : Revision) : Except Status ParcelLocation :=
  if revision ≠ input.revision then .error ⟨.invalidPlan, MigrationDetail.staleRevision⟩
  else if revision.algorithmVersion ≠ 1 then .error ⟨.invalidPlan, MigrationDetail.invalidPlan⟩
  else
    match makeMeshPatch 0 input.rankCount input.globalCells with
    | .error _ => .error ⟨.invalidPlan, MigrationDetail.invalidPlan⟩
    | .ok patch => do
      let grid := patch.processGrid
      let x ← locateAxis A position.x input.origin.x input.cellWidth.x input.globalCells.x grid.x
      let y ← locateAxis A position.y input.origin.y input.cellWidth.y input.globalCells.y grid.y
      let z ← locateAxis A position.z input.origin.z input.cellWidth.z input.globalCells.z grid.z
      let globalCell := (x.1 + input.globalCells.x * (y.1 + input.globalCells.y * z.1)) % 2 ^ 64
      let ownerRank := x.2 + grid.x * (y.2 + grid.y * z.2)
      .ok ⟨revision, globalCell.toNat, ownerRank⟩

/-- The position lies in cell `c` of an axis: everything the axis reads is finite, the width is
positive, and the scaled coordinate is at least `c` and less than `c + 1`. -/
structure InsideAxis (position origin width : R) (c : ℤ) : Prop where
  finite_position : A.isFinite position = true
  finite_origin : A.isFinite origin = true
  finite_width : A.isFinite width = true
  width_pos : A.less (A.ofInt 0) width = true
  finite : A.isFinite (A.coordinate position origin width) = true
  lower : A.less (A.coordinate position origin width) (A.ofInt c) = false
  upper : A.less (A.coordinate position origin width) (A.ofInt (c + 1)) = true

/-- The position lies inside the global cell `c` of the provider's box. -/
structure InsideCell (input : CartesianParcelLocationInput R) (position : Vector3 R) (c : Int3) : Prop where
  x : InsideAxis A position.x input.origin.x input.cellWidth.x c.x
  y : InsideAxis A position.y input.origin.y input.cellWidth.y c.y
  z : InsideAxis A position.z input.origin.z input.cellWidth.z c.z

variable {A}

lemma locateAxis_inside {position origin width : R} {c count : ℤ} (partitions : ℤ) (hc : 0 ≤ c)
    (hc' : c < count) (hcount : count < maxI32) (h : InsideAxis A position origin width c) :
    locateAxis A position origin width count partitions =
      .ok (c, ownerCoordinate c count partitions) := by
  have hmax : maxI32 = 2 ^ 31 - 1 := rfl
  have hneg : A.less (A.coordinate position origin width) (A.ofInt 0) = false := by
    by_contra hlt
    have := A.less_mono _ 0 c le_rfl hc (by omega) (by simpa using hlt)
    rw [h.lower] at this
    exact Bool.false_ne_true this
  have hup : A.less (A.coordinate position origin width) (A.ofInt count) = true :=
    A.less_mono _ (c + 1) count (by omega) (by omega) (by omega) h.upper
  have hfloor := A.floor_eq _ c hc (by omega) h.finite h.lower h.upper
  simp [locateAxis, h.finite_position, h.finite_origin, h.finite_width, h.width_pos, h.finite, hneg,
    hup, hfloor]

end Locate

/-- Exact rational arithmetic, in which `InsideAxis` is the half-open interval of the cell. -/
def exactArithmetic : CoordinateArithmetic ℚ where
  sub := fun a b => a - b
  div := fun a b => a / b
  isFinite := fun _ => true
  ofInt := fun c => (c : ℚ)
  less := fun a b => decide (a < b)
  floor := fun q => ⌊q⌋
  less_mono := by
    intro q c d _ hcd _ h
    have hcast : (c : ℚ) ≤ d := by exact_mod_cast hcd
    simpa using (of_decide_eq_true h).trans_le hcast
  floor_eq := by
    intro q c _ _ _ hlow hup
    have hlow' := of_decide_eq_false hlow
    have hup' := of_decide_eq_true hup
    push_cast at hup'
    exact Int.floor_eq_iff.mpr ⟨not_lt.mp hlow', hup'⟩

lemma insideAxis_exact {position origin width : ℚ} {c : ℤ} (hw : 0 < width) :
    InsideAxis exactArithmetic position origin width c ↔
      origin + c * width ≤ position ∧ position < origin + (c + 1) * width := by
  have hlow : (position - origin) / width < c ↔ position < origin + c * width := by
    rw [div_lt_iff₀ hw, sub_lt_iff_lt_add']
  have hup : (position - origin) / width < c + 1 ↔ position < origin + (c + 1) * width := by
    rw [div_lt_iff₀ hw, sub_lt_iff_lt_add']
  constructor
  · intro h
    have h1 := of_decide_eq_false h.lower
    have h2 := of_decide_eq_true h.upper
    simp only [CoordinateArithmetic.coordinate, exactArithmetic, Int.cast_add, Int.cast_one] at h1 h2
    exact ⟨not_lt.mp (hlow.not.mp h1), hup.mp h2⟩
  · rintro ⟨h1, h2⟩
    refine ⟨rfl, rfl, rfl, decide_eq_true (by simpa [exactArithmetic] using hw), rfl,
      decide_eq_false ?_, decide_eq_true ?_⟩
    · simp only [CoordinateArithmetic.coordinate, exactArithmetic]
      exact hlow.not.mpr (not_lt.mpr h1)
    · simp only [CoordinateArithmetic.coordinate, exactArithmetic, Int.cast_add, Int.cast_one]
      exact hup.mpr h2

/-- The two plans use one formula. -/
theorem owner_plans_eq (cells grid : Int3) (id : ℕ) :
    OwnerExchangeRoutingPlan.owner cells grid id = ParcelMigrationPlan.owner cells grid id := rfl

end HundunFlow
