import HundunFlow.CartesianKernel
import HundunFlow.EBTopology
import Mathlib.Algebra.Order.Field.Basic

/-!
# The pressure of a closed mass

`ClosedMassPlan::solve` and `solve_fields` find the reference pressure at which the gas of all ranks has
a given mass. The arithmetic is that of an ordered field, in which every number is finite. The laws of the
gas are an argument: what `evaluate_thermal_impl` returns for an enthalpy and a composition.
-/

namespace HundunFlow.ClosedMass

open Lib

def kClosedMassInput : UInt32 := 821
def kClosedMassCollective : UInt32 := 822
def kClosedMassConvergence : UInt32 := 823

inductive PressureReferenceKind where
  | boundaryAbsolute | closedMass | outOfRange
  deriving DecidableEq

/-- The members of `ThermophysicalSpec` that the plan reads. -/
structure ClosedMassSpec (F : Type) where
  relativeTolerance : F
  maximumRelativeStep : F
  maximumIterations : ℕ

section Plan

variable (F : Type) [Field F] [LinearOrder F]

structure ClosedMassPlan where
  authority : PressureReferenceKind
  relativeTolerance : F
  maximumRelativeStep : F
  maximumIterations : ℕ
  fingerprint : ℕ
  tolerance_pos : 0 < relativeTolerance
  tolerance_lt : relativeTolerance < 1
  step_pos : 0 < maximumRelativeStep
  step_lt : maximumRelativeStep < 1
  iterations : maximumIterations ≠ 0 ∧ maximumIterations ≤ 256

variable {F}

def ClosedMassPlan.compile (authority : PressureReferenceKind) (spec : ClosedMassSpec F)
    (hash : PressureReferenceKind → ClosedMassSpec F → ℕ) : Except Status (ClosedMassPlan F) :=
  if h : authority ≠ .outOfRange ∧ (0 < spec.relativeTolerance ∧ spec.relativeTolerance < 1) ∧
      (0 < spec.maximumRelativeStep ∧ spec.maximumRelativeStep < 1) ∧
      spec.maximumIterations ≠ 0 ∧ spec.maximumIterations ≤ 256 then
    .ok {
      authority := authority
      relativeTolerance := spec.relativeTolerance
      maximumRelativeStep := spec.maximumRelativeStep
      maximumIterations := spec.maximumIterations
      fingerprint := hash authority spec
      tolerance_pos := h.2.1.1
      tolerance_lt := h.2.1.2
      step_pos := h.2.2.1.1
      step_lt := h.2.2.1.2
      iterations := h.2.2.2 }
  else .error ⟨.invalidPlan, kClosedMassInput⟩

end Plan

/-- The gas: `drho_dp_hY` of the thermal state at an enthalpy and independent mass fractions. -/
structure Thermodynamics (F : Type) where
  fingerprint : ℕ
  independentSpeciesCount : ℕ
  evaluateThermal : F → List F → Except Status F
  refused : ∀ h y status, evaluateThermal h y = .error status → status.isOk = false

structure ClosedMassResult (F : Type) where
  pressureReference : F
  mass : F
  residual : F
  iterations : ℕ
  lowestFailingRank : ℤ := -1
  deriving DecidableEq

/-- The words all ranks must have in common. The bits of positive numbers are ordered as the numbers. -/
structure JobIdentity (F : Type) where
  words : List ℕ
  target : F
  pressure : F
  deriving DecidableEq

inductive MassRequest (F : Type) where
  | allreduceMin (value : ℕ)
  | bcast (root : ℕ) (wire : List ℕ)
  | identity (op : ReduceOp) (identity : JobIdentity F)
  | sum (slope intercept : F)

inductive MassReply (F : Type) where
  | value (v : ℕ)
  | words (w : List ℕ)
  | identity (identity : JobIdentity F)
  | sums (slope intercept : F)
  | failure

inductive MassSignature where
  | allreduceMin
  | bcast (root count : ℕ)
  | identity (op : ReduceOp) (count : ℕ)
  | sum
  deriving DecidableEq

abbrev MassProg (F α : Type) : Type := Prog (MassRequest F) (MassReply F) α

def collectiveStatus (code : StatusCode) : Status := ⟨code, kClosedMassCollective⟩

/-- `collective_failure`: the status of the lowest failing rank. -/
def collectiveFailure {F : Type} (comm : RankComm) (brought : Status) : MassProg F Status :=
  .call (.allreduceMin (if brought.isOk then maxU64 else comm.rank)) fun
    | .value selected =>
      if selected = maxU64 then .done {}
      else if comm.size ≤ selected then .done (collectiveStatus .mpiFailure)
      else
        .call (.bcast selected (if comm.rank = selected then brought.toWire else [0, 0])) fun
          | .words wire => .done ((Status.ofWire wire).getD (collectiveStatus .mpiFailure))
          | _ => .done (collectiveStatus .mpiFailure)
    | _ => .done (collectiveStatus .mpiFailure)

def compareIdentity {F : Type} [DecidableEq F] (identity : JobIdentity F) : MassProg F Status :=
  .call (.identity .min identity) fun least =>
    .call (.identity .max identity) fun greatest =>
      match least, greatest with
      | .identity least, .identity greatest =>
        .done (if least = greatest then {} else collectiveStatus .invalidPlan)
      | _, _ => .done (collectiveStatus .mpiFailure)

variable {F : Type} [Field F] [LinearOrder F]

structure CompensatedSum (F : Type) where
  sum : F
  correction : F

namespace CompensatedSum

def zero : CompensatedSum F := ⟨0, 0⟩

def add (s : CompensatedSum F) (value : F) : CompensatedSum F :=
  let tentative := s.sum + value
  { sum := tentative
    correction :=
      if |value| ≤ |s.sum| then s.correction + ((s.sum - tentative) + value)
      else s.correction + ((value - tentative) + s.sum) }

def value (s : CompensatedSum F) : F := s.sum + s.correction

end CompensatedSum

structure LocalSums (F : Type) where
  slope : CompensatedSum F
  intercept : CompensatedSum F

def LocalSums.zero : LocalSums F := ⟨.zero, .zero⟩

def LocalSums.add (sums : LocalSums F) (slope intercept : F) : LocalSums F :=
  ⟨sums.slope.add slope, sums.intercept.add intercept⟩

structure Cell (F : Type) where
  active : ℕ
  volume : F
  enthalpy : F
  pressurePerturbation : F
  composition : List F

def cellCoefficients (gas : Thermodynamics F) (pressure : F) (cell : Cell F) : Except Status (Option (F × F)) :=
  if 1 < cell.active then .error ⟨.invalidPlan, kClosedMassInput⟩
  else if cell.active = 0 then .ok none
  else if cell.volume ≤ 0 ∨ pressure + cell.pressurePerturbation ≤ 0 then
    .error ⟨.numericalFailure, kClosedMassInput⟩
  else
    match gas.evaluateThermal cell.enthalpy cell.composition with
    | .error status => .error status
    | .ok drhoDp =>
      let slope := cell.volume * drhoDp
      if slope ≤ 0 then .error ⟨.numericalFailure, kClosedMassInput⟩
      else .ok (some (slope, cell.pressurePerturbation * slope))

/-- The loop over the cells of a rank, to the first that is refused. -/
def scanCells (gas : Thermodynamics F) (pressure : F) : List (Cell F) → LocalSums F → Status × LocalSums F
  | [], sums => ({}, sums)
  | cell :: rest, sums =>
    match cellCoefficients gas pressure cell with
    | .error status => (status, sums)
    | .ok none => scanCells gas pressure rest sums
    | .ok (some (slope, intercept)) => scanCells gas pressure rest (sums.add slope intercept)

def finalStatus (pressure : F) (cells : List (Cell F)) : Status :=
  if cells.any fun cell => cell.active ≠ 0 && pressure + cell.pressurePerturbation ≤ 0 then
    ⟨.numericalFailure, kClosedMassConvergence⟩
  else {}

structure Converged (F : Type) where
  pressure : F
  mass : F
  iterations : ℕ
  deriving DecidableEq

def pressureStep (plan : ClosedMassPlan F) (derivative residual pressure : F) : F :=
  let limit := plan.maximumRelativeStep * pressure
  max (-limit) (min limit (-residual / derivative))

/-- The loop, for the iterations that remain. `solve` looks at the derivative again in every turn. -/
def iterate (plan : ClosedMassPlan F) (again : Bool) (derivative intercept target : F) :
    ℕ → ℕ → F → Except Status (Converged F)
  | 0, _, _ => .error ⟨.numericalFailure, kClosedMassConvergence⟩
  | remaining + 1, iteration, pressure =>
    let mass := pressure * derivative + intercept
    let residual := mass - target
    if mass ≤ 0 ∨ (again = true ∧ derivative ≤ 0) then .error ⟨.numericalFailure, kClosedMassInput⟩
    else if |residual| ≤ plan.relativeTolerance * target then .ok ⟨pressure, mass, iteration + 1⟩
    else
      let step := pressureStep plan derivative residual pressure
      let next := pressure + step
      if next ≤ 0 ∨ step = 0 then .error ⟨.numericalFailure, kClosedMassConvergence⟩
      else iterate plan again derivative intercept target remaining (iteration + 1) next

def solveCells (comm : RankComm) (plan : ClosedMassPlan F) (again : Bool) (gas : Thermodynamics F) (cells : List (Cell F))
    (target pressure : F) : MassProg F (Status × Option (ClosedMassResult F)) :=
  let scanned := scanCells gas pressure cells .zero
  (collectiveFailure comm scanned.1).bind fun status =>
    if !status.isOk then .done (status, none)
    else
      .call (.sum scanned.2.slope.value scanned.2.intercept.value) fun
        | .sums derivative intercept =>
          if derivative ≤ 0 then .done (⟨.numericalFailure, kClosedMassInput⟩, none)
          else
            match iterate plan again derivative intercept target plan.maximumIterations 0 pressure with
            | .error status => .done (status, none)
            | .ok found =>
              (collectiveFailure comm (finalStatus found.pressure cells)).bind fun status =>
                if !status.isOk then .done (status, none)
                else .done ({}, some ⟨found.pressure, found.mass, found.mass - target, found.iterations, -1⟩)
        | _ => .done (collectiveStatus .mpiFailure, none)

structure ArrayView (α : Type) where
  data : Option (ℕ → α) := none
  size : ℕ := 0

def ArrayView.get [Zero α] (view : ArrayView α) (i : ℕ) : α := (view.data.map fun data => data i).getD 0

structure ClosedMassCellView (F : Type) where
  pressurePerturbation : ArrayView F
  enthalpy : ArrayView F
  /-- Species `s` starts at `s` times the number of cells. -/
  independentMassFractions : ArrayView F
  volume : ArrayView F
  active : ArrayView ℕ

namespace ClosedMassCellView

def count (view : ClosedMassCellView F) : ℕ := view.enthalpy.size

def scalarShape (view : ClosedMassCellView F) : Bool :=
  view.pressurePerturbation.size = view.count && view.volume.size = view.count && view.active.size = view.count &&
    0 < view.count

def pointerShape (view : ClosedMassCellView F) (independent : ℕ) : Bool :=
  view.pressurePerturbation.data.isSome && view.enthalpy.data.isSome && view.volume.data.isSome &&
    view.active.data.isSome && (independent = 0 || view.independentMassFractions.data.isSome)

def compositionShape (view : ClosedMassCellView F) (independent : ℕ) : Bool :=
  if independent = 0 then view.independentMassFractions.size = 0
  else view.count ≤ maxU64 / independent && view.independentMassFractions.size = view.count * independent

def cell (view : ClosedMassCellView F) (independent i : ℕ) : Cell F where
  active := view.active.get i
  volume := view.volume.get i
  enthalpy := view.enthalpy.get i
  pressurePerturbation := view.pressurePerturbation.get i
  composition := (List.range independent).map fun species => view.independentMassFractions.get (species * view.count + i)

def cells (view : ClosedMassCellView F) (independent : ℕ) : List (Cell F) :=
  (List.range view.count).map (view.cell independent)

end ClosedMassCellView

/-- The arguments `solve` refuses. -/
abbrev SolveRefuses (plan : ClosedMassPlan F) (gas : Thermodynamics F) (view : ClosedMassCellView F) (target pressure : F) :
    Prop :=
  plan.authority ≠ .closedMass ∨ gas.fingerprint = 0 ∨ target ≤ 0 ∨ pressure ≤ 0 ∨ view.scalarShape = false ∨
    view.pointerShape gas.independentSpeciesCount = false ∨ view.compositionShape gas.independentSpeciesCount = false

/-- `ClosedMassPlan::solve`. Without a result the output is left as it was. -/
def ClosedMassPlan.solve (plan : ClosedMassPlan F) (comm : RankComm) (gas : Thermodynamics F) (view : ClosedMassCellView F)
    (target pressure : F) : MassProg F (Status × Option (ClosedMassResult F)) :=
  let independent := gas.independentSpeciesCount
  let brought : Status := if SolveRefuses plan gas view target pressure then ⟨.invalidPlan, kClosedMassInput⟩ else {}
  (collectiveFailure comm brought).bind fun status =>
    if !status.isOk then .done (status, none)
    else
      (compareIdentity ⟨[gas.fingerprint, plan.fingerprint], target, pressure⟩).bind fun status =>
        if !status.isOk then .done (status, none)
        else solveCells comm plan true gas (view.cells independent) target pressure

structure Geometry (F : Type) where
  fingerprint : ℕ
  globalCells : Int3
  widths : Axis → ℕ → F

structure ScalarField (F : Type) where
  view : FieldView
  unchecked : Int3 → F

/-- `valid_scalar_field`. -/
def ScalarField.valid (field : ScalarField F) (shape : Int3) : Bool :=
  field.view.base.isSome && field.view.interior.x = shape.x && field.view.interior.y = shape.y &&
    field.view.interior.z = shape.z && field.view.components = 1 && field.view.revision ≠ 0 &&
    field.view.storageIdentity ≠ 0 && field.view.revisionDomain ≠ 0 && (fieldStorageInterval field.view).isSome

structure ClosedMassFieldView (F : Type) where
  pressurePerturbation : ScalarField F
  enthalpy : ScalarField F
  independentMassFractions : ArrayView (ScalarField F)
  geometry : Option (Geometry F)
  patch : MeshPatch
  /-- When empty, every cell is active. -/
  active : ArrayView ℕ

namespace ClosedMassFieldView

/-- The number of cells, when there are any and 64 bits hold it. -/
def count (view : ClosedMassFieldView F) : Option ℕ :=
  let shape := view.patch.cells
  if 0 < shape.x ∧ 0 < shape.y ∧ 0 < shape.z ∧ shape.x.toNat ≤ maxU64 / shape.y.toNat ∧
      shape.x.toNat * shape.y.toNat ≤ maxU64 / shape.z.toNat then
    some (shape.x.toNat * shape.y.toNat * shape.z.toNat)
  else none

def speciesValid (view : ClosedMassFieldView F) (independent : ℕ) : Bool :=
  view.independentMassFractions.size = independent &&
    match view.independentMassFractions.data with
    | none => independent = 0
    | some data => (List.range independent).all fun species => (data species).valid view.patch.cells

def patchValid (view : ClosedMassFieldView F) : Bool :=
  match view.geometry with
  | none => false
  | some geometry =>
    geometry.fingerprint ≠ 0 && 0 ≤ view.patch.begin.x && 0 ≤ view.patch.begin.y && 0 ≤ view.patch.begin.z &&
      view.patch.begin.x ≤ geometry.globalCells.x - view.patch.cells.x &&
      view.patch.begin.y ≤ geometry.globalCells.y - view.patch.cells.y &&
      view.patch.begin.z ≤ geometry.globalCells.z - view.patch.cells.z

def activeValid (view : ClosedMassFieldView F) : Bool :=
  view.active.size = 0 || (view.active.data.isSome && view.count = some view.active.size)

def volume (view : ClosedMassFieldView F) (geometry : Geometry F) (index : Int3) : F :=
  geometry.widths .x (view.patch.begin.x + index.x).toNat * geometry.widths .y (view.patch.begin.y + index.y).toNat *
    geometry.widths .z (view.patch.begin.z + index.z).toNat

def composition (view : ClosedMassFieldView F) (independent : ℕ) (index : Int3) : List F :=
  match view.independentMassFractions.data with
  | none => []
  | some data => (List.range independent).map fun species => (data species).unchecked index

def cell (view : ClosedMassFieldView F) (geometry : Geometry F) (independent : ℕ) (index : Int3) (flat : ℕ) : Cell F where
  active := if view.active.size ≠ 0 then view.active.get flat else 1
  volume := view.volume geometry index
  enthalpy := view.enthalpy.unchecked index
  pressurePerturbation := view.pressurePerturbation.unchecked index
  composition := view.composition independent index

def cells (view : ClosedMassFieldView F) (geometry : Geometry F) (independent : ℕ) : List (Cell F) :=
  (EBTopology.boxIndices view.patch.cells).zipIdx.map fun entry => view.cell geometry independent entry.1 entry.2

end ClosedMassFieldView

/-- The arguments `solve_fields` refuses. -/
abbrev SolveFieldsRefuses (plan : ClosedMassPlan F) (gas : Thermodynamics F) (view : ClosedMassFieldView F)
    (target pressure : F) : Prop :=
  plan.authority ≠ .closedMass ∨ gas.fingerprint = 0 ∨ target ≤ 0 ∨ pressure ≤ 0 ∨ view.count = none ∨
    view.patchValid = false ∨ view.pressurePerturbation.valid view.patch.cells = false ∨
    view.enthalpy.valid view.patch.cells = false ∨ view.speciesValid gas.independentSpeciesCount = false ∨
    view.activeValid = false

/-- `ClosedMassPlan::solve_fields`. -/
def ClosedMassPlan.solveFields (plan : ClosedMassPlan F) (comm : RankComm) (gas : Thermodynamics F)
    (view : ClosedMassFieldView F) (target pressure : F) : MassProg F (Status × Option (ClosedMassResult F)) :=
  let independent := gas.independentSpeciesCount
  let brought : Status := if SolveFieldsRefuses plan gas view target pressure then ⟨.invalidPlan, kClosedMassInput⟩ else {}
  (collectiveFailure comm brought).bind fun status =>
    if !status.isOk then .done (status, none)
    else
      match view.geometry with
      | none => .done (status, none)
      | some geometry =>
        (compareIdentity ⟨[gas.fingerprint, plan.fingerprint, geometry.fingerprint], target, pressure⟩).bind fun status =>
          if !status.isOk then .done (status, none)
          else solveCells comm plan false gas (view.cells geometry independent) target pressure

namespace MassRequest

def signature : MassRequest F → MassSignature
  | .allreduceMin _ => .allreduceMin
  | .bcast root wire => .bcast root wire.length
  | .identity op own => .identity op own.words.length
  | .sum _ _ => .sum

def value : MassRequest F → ℕ
  | .allreduceMin value => value
  | _ => 0

def wire : MassRequest F → List ℕ
  | .bcast _ wire => wire
  | _ => []

def shared : MassRequest F → JobIdentity F
  | .identity _ own => own
  | _ => ⟨[], 0, 0⟩

def slope : MassRequest F → F
  | .sum slope _ => slope
  | _ => 0

def intercept : MassRequest F → F
  | .sum _ intercept => intercept
  | _ => 0

end MassRequest

def rankMaxDouble {n : ℕ} (hn : 0 < n) (v : Fin n → F) : F :=
  Finset.univ.sup' (nonempty_ranks hn) v

def leastIdentity {n : ℕ} (hn : 0 < n) (count : ℕ) (identity : Fin n → JobIdentity F) : JobIdentity F where
  words := (List.range count).map fun k => rankMin hn fun j => (identity j).words.getD k 0
  target := rankMinDouble hn fun j => (identity j).target
  pressure := rankMinDouble hn fun j => (identity j).pressure

def greatestIdentity {n : ℕ} (hn : 0 < n) (count : ℕ) (identity : Fin n → JobIdentity F) : JobIdentity F where
  words := (List.range count).map fun k => rankMax hn fun j => (identity j).words.getD k 0
  target := rankMaxDouble hn fun j => (identity j).target
  pressure := rankMaxDouble hn fun j => (identity j).pressure

def massNetwork {n : ℕ} (hn : 0 < n) : Network (Fin n) (MassRequest F) (MassReply F) MassSignature where
  sig := MassRequest.signature
  reply q i :=
    match q i with
    | .allreduceMin _ => .value (rankMin hn fun j => (q j).value)
    | .bcast root _ => if h : root < n then .words (q ⟨root, h⟩).wire else .failure
    | .identity .min identity => .identity (leastIdentity hn identity.words.length fun j => (q j).shared)
    | .identity .max identity => .identity (greatestIdentity hn identity.words.length fun j => (q j).shared)
    | .sum _ _ => .sums (∑ j, (q j).slope) (∑ j, (q j).intercept)

end HundunFlow.ClosedMass
