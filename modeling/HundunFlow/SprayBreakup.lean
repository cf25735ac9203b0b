import HundunFlow.Injector
import HundunFlow.ParcelMigration

/-!
# Breakup into child parcels

Three ways to replace a parcel by children: children of one supplied diameter, the two daughters of the
subgrid model, and the pairs of the oscillator model, which fly apart across the breakup axis. One
audit compares what the children carry with what the parent carried. Arithmetic is exact.
-/

namespace HundunFlow

def kMaximumBreakupChildParcels : ℕ := 16

inductive BreakupChildStatus where
  | success | invalidInput | breakupNotRequested | inconsistentParentGeometry | childIdCollision
  | nonFiniteOutput | conservationFailure
  deriving DecidableEq

inductive BreakupEnergyDisposition where
  | balanced | suppliedDeformationEnergyDeficit | suppliedDeformationEnergySurplus
  deriving DecidableEq

inductive TabKernelStatus where
  | success | invalidInput | eventSearchUnavailable | nonFiniteOutput
  deriving DecidableEq

structure TabDeformationCandidate (F : Type) where
  available : Bool
  deformation : F
  deformationRate : F
  deriving DecidableEq

structure TabBreakupReport (F : Type) where
  status : TabKernelStatus
  modelId : String
  forcing : F
  damping : F
  stiffness : F
  breakupRequested : Bool
  eventTime : F
  advancedDuration : F
  candidate : TabDeformationCandidate F
  deriving DecidableEq

structure SuppliedDiameterSplitParameters (F : Type) where
  childParcelCount : ℕ
  maximumChildParcels : ℕ
  suppliedUniformChildDiameter : F
  liquidDensity : F
  surfaceTension : F
  liquidAbsoluteThermochemicalEnthalpy : F
  suppliedDeformationEnergyPerParentDroplet : F
  deriving DecidableEq

/-- The budget of a split. The minimum starts above every temperature. -/
structure BreakupConservationReport (F : Type) where
  parentTotalMass : F
  childrenTotalMass : F
  massResidual : F
  parentTotalMomentum : Vector3 F
  childrenTotalMomentum : Vector3 F
  momentumResidual : Vector3 F
  parentBulkKineticEnergy : F
  childrenBulkKineticEnergy : F
  bulkKineticEnergyResidual : F
  parentThermochemicalEnthalpy : F
  childrenThermochemicalEnthalpy : F
  thermochemicalEnthalpyResidual : F
  parentTemperature : F
  minimumChildTemperature : WithTop F
  maximumChildTemperature : F
  parentMultiplicity : F
  expectedChildrenTotalMultiplicity : F
  childrenTotalMultiplicity : F
  multiplicityResidual : F
  parentSphericalSurfaceEnergy : F
  childrenSphericalSurfaceEnergy : F
  surfaceEnergyIncrease : F
  suppliedDeformationEnergy : F
  unassignedDeformationEnergy : F
  energyDisposition : BreakupEnergyDisposition

structure BreakupChildInput (F : Type) where
  parent : SprayParcelState F
  tabTrigger : TabBreakupReport F
  acceptedStep : UInt64
  breakupOrdinal : UInt64
  parameters : SuppliedDiameterSplitParameters F

structure BreakupChildCandidate (F : Type) where
  available : Bool := false
  children : List (SprayParcelState F) := []

structure BreakupChildReport (F : Type) where
  status : BreakupChildStatus := .invalidInput
  modelId : String := "conservative_supplied_uniform_diameter_split_v1"
  triggerModelId : String := ""
  rngModelId : String := ""
  parentId : ParcelId := {}
  acceptedStep : UInt64 := 0
  breakupOrdinal : UInt64 := 0
  candidate : BreakupChildCandidate F := {}
  conservation : BreakupConservationReport F

def BreakupChildReport.succeeded {F : Type} (report : BreakupChildReport F) : Bool :=
  report.status = .success && report.candidate.available

structure SgsBreakupReport (F : Type) where
  /-- The status is success. -/
  succeeded : Bool
  modelId : String
  candidate : SgsBreakupHistory F
  rateActive : Bool
  breakupRequested : Bool
  weberNumber : F
  criticalDiameter : F
  kolmogorovLength : F
  deterministicRate : F
  stochasticRate : F
  minimumDiameterRatio : F
  maximumDiameterRatio : F
  distributionLambda : F
  daughterDiameterRatios : F × F

structure SgsChildInput (F : Type) where
  parent : SprayParcelState F
  trigger : SgsBreakupReport F
  acceptedStep : UInt64
  breakupOrdinal : UInt64
  liquidDensity : F
  surfaceTension : F
  liquidAbsoluteThermochemicalEnthalpy : F

structure TabRepresentativeSplitInput (F : Type) where
  parent : SprayParcelState F
  tabTrigger : TabBreakupReport F
  acceptedStep : UInt64
  breakupOrdinal : UInt64
  childParcelCount : ℕ
  liquidDensity : F
  surfaceTension : F
  liquidAbsoluteThermochemicalEnthalpy : F
  breakupAxis : Vector3 F

structure TabRepresentativeSplitReport (F : Type) where
  status : BreakupChildStatus := .invalidInput
  modelId : String := "tab_representative_equal_children_v1"
  oscillationEnergyMultiplier : F
  deformationThreshold : F
  displacementScale : F
  stiffnessCoefficient : F
  representativeDiameter : F
  transverseSpeed : F
  deformationEnergy : F
  transverseKineticEnergy : F
  totalEnergyResidual : F
  split : BreakupChildReport F

def TabRepresentativeSplitReport.succeeded {F : Type} (report : TabRepresentativeSplitReport F) : Bool :=
  report.status = .success && report.split.succeeded

variable {F : Type} [Field F] [LinearOrder F] [SprayMath F]

/-- The default member values. -/
instance : Inhabited (BreakupConservationReport F) where
  default :=
    ⟨0, 0, 0, ⟨0, 0, 0⟩, ⟨0, 0, 0⟩, ⟨0, 0, 0⟩, 0, 0, 0, 0, 0, 0, 0, ((0 : F) : WithTop F), 0, 0, 0, 0, 0, 0, 0,
      0, 0, 0, .balanced⟩

instance : Inhabited (BreakupChildReport F) where
  default := { conservation := default }

instance : Inhabited (TabRepresentativeSplitReport F) where
  default :=
    { oscillationEnergyMultiplier := 10 / 3, deformationThreshold := 1, displacementScale := 1 / 2
      stiffnessCoefficient := 8, representativeDiameter := 0, transverseSpeed := 0, deformationEnergy := 0
      transverseKineticEnergy := 0, totalEnergyResidual := 0, split := default }

def kRelativeTolerance : F := 1 / 10 ^ 12
def kAbsoluteMassTolerance : F := 1 / 10 ^ 24
def kAbsoluteMomentumTolerance : F := 1 / 10 ^ 22
def kAbsoluteEnergyTolerance : F := 1 / 10 ^ 18

def dot (left right : Vector3 F) : F := left.x * right.x + left.y * right.y + left.z * right.z

/-- A loop over the components. -/
def Vector3.combine (f : F → F → F) (left right : Vector3 F) : Vector3 F :=
  ⟨f left.x right.x, f left.y right.y, f left.z right.z⟩

def withinTolerance (residual left right absoluteTolerance : F) : Bool :=
  |residual| ≤ absoluteTolerance + kRelativeTolerance * (|left| + |right|)

def breakupFailure (status : BreakupChildStatus) : BreakupChildReport F :=
  { (default : BreakupChildReport F) with status := status }

def sphereMass (liquidDensity diameter : F) : F := liquidDensity * kPi / 6 * diameter * diameter * diameter

def parentGeometryConsistent (parent : SprayParcelState F) (liquidDensity : F) : Bool :=
  let geometricMass := sphereMass liquidDensity parent.dropletDiameter
  finitePositive geometricMass &&
    withinTolerance (geometricMass - parent.dropletMass) geometricMass parent.dropletMass kAbsoluteMassTolerance

def childId (parent : SprayParcelState F) (acceptedStep breakupOrdinal : UInt64) (childIndex : ℕ) : ParcelId :=
  let address : ParcelRandomAddress :=
    ⟨parent.id.high, acceptedStep, parent.id.low, breakupOrdinal, .breakupChild⟩
  let firstLane : UInt64 := UInt64.ofNat childIndex * 2
  ⟨parcelRandomU64 address firstLane, parcelRandomU64 address (firstLane + 1)⟩

def validTabTrigger (trigger : TabBreakupReport F) : Bool :=
  trigger.status = .success && trigger.candidate.available && trigger.modelId = "tab_linear_oscillator_v1" &&
    finiteNonNegative trigger.forcing && finiteNonNegative trigger.damping &&
    finiteNonNegative trigger.stiffness && finiteNonNegative trigger.eventTime &&
    finiteNonNegative trigger.advancedDuration && SprayMath.isFinite trigger.candidate.deformation &&
    SprayMath.isFinite trigger.candidate.deformationRate

def childrenTotal (children : List (SprayParcelState F)) (term : SprayParcelState F → F) : F :=
  children.foldl (fun total child => total + term child) 0

def representedMass (parcel : SprayParcelState F) : F := parcel.dropletMass * parcel.multiplicity

def childrenMomentum (children : List (SprayParcelState F)) : Vector3 F :=
  ⟨childrenTotal children fun child => representedMass child * child.velocity.x,
    childrenTotal children fun child => representedMass child * child.velocity.y,
    childrenTotal children fun child => representedMass child * child.velocity.z⟩

def childrenKinetic (children : List (SprayParcelState F)) : F :=
  childrenTotal children fun child => 1 / 2 * representedMass child * dot child.velocity child.velocity

def childrenSurface (surfaceTension : F) (children : List (SprayParcelState F)) : F :=
  childrenTotal children fun child =>
    child.multiplicity * surfaceTension * kPi * child.dropletDiameter * child.dropletDiameter

def energyDisposition (unassigned supplied increase : F) : BreakupEnergyDisposition :=
  if |unassigned| ≤ kAbsoluteEnergyTolerance + kRelativeTolerance * (|supplied| + |increase|) then .balanced
  else if unassigned < 0 then .suppliedDeformationEnergyDeficit
  else .suppliedDeformationEnergySurplus

/-- What `audit_children` adds up before it decides. -/
def childrenBudget (parent : SprayParcelState F)
    (surfaceTension liquidEnthalpy deformationEnergyPerDroplet expectedChildrenMultiplicity : F)
    (children : List (SprayParcelState F)) : BreakupConservationReport F :=
  let parentTotalMass := parent.dropletMass * parent.multiplicity
  let childrenMass := childrenTotal children representedMass
  let childrenEnthalpy := childrenTotal children fun child => representedMass child * liquidEnthalpy
  let childrenMultiplicity := childrenTotal children fun child => child.multiplicity
  let parentMomentum : Vector3 F :=
    ⟨parentTotalMass * parent.velocity.x, parentTotalMass * parent.velocity.y,
      parentTotalMass * parent.velocity.z⟩
  let parentKinetic := 1 / 2 * parentTotalMass * dot parent.velocity parent.velocity
  let parentSurface :=
    parent.multiplicity * surfaceTension * kPi * parent.dropletDiameter * parent.dropletDiameter
  let increase := childrenSurface surfaceTension children - parentSurface
  let supplied := deformationEnergyPerDroplet * parent.multiplicity
  { parentTotalMass := parentTotalMass
    childrenTotalMass := childrenMass
    massResidual := childrenMass - parentTotalMass
    parentTotalMomentum := parentMomentum
    childrenTotalMomentum := childrenMomentum children
    momentumResidual := (childrenMomentum children).combine (· - ·) parentMomentum
    parentBulkKineticEnergy := parentKinetic
    childrenBulkKineticEnergy := childrenKinetic children
    bulkKineticEnergyResidual := childrenKinetic children - parentKinetic
    parentThermochemicalEnthalpy := parentTotalMass * liquidEnthalpy
    childrenThermochemicalEnthalpy := childrenEnthalpy
    thermochemicalEnthalpyResidual := childrenEnthalpy - parentTotalMass * liquidEnthalpy
    parentTemperature := parent.temperature
    minimumChildTemperature := children.foldl (fun least child => min least (child.temperature : WithTop F)) ⊤
    maximumChildTemperature := children.foldl (fun greatest child => max greatest child.temperature) 0
    parentMultiplicity := parent.multiplicity
    expectedChildrenTotalMultiplicity := expectedChildrenMultiplicity
    childrenTotalMultiplicity := childrenMultiplicity
    multiplicityResidual := childrenMultiplicity - expectedChildrenMultiplicity
    parentSphericalSurfaceEnergy := parentSurface
    childrenSphericalSurfaceEnergy := childrenSurface surfaceTension children
    surfaceEnergyIncrease := increase
    suppliedDeformationEnergy := supplied
    unassignedDeformationEnergy := supplied - increase
    energyDisposition := energyDisposition (supplied - increase) supplied increase }

def finiteConservation (budget : BreakupConservationReport F) : Bool :=
  [budget.parentTotalMass, budget.childrenTotalMass, budget.massResidual, budget.parentBulkKineticEnergy,
      budget.childrenBulkKineticEnergy, budget.bulkKineticEnergyResidual, budget.parentThermochemicalEnthalpy,
      budget.childrenThermochemicalEnthalpy, budget.thermochemicalEnthalpyResidual, budget.parentTemperature,
      budget.maximumChildTemperature, budget.parentMultiplicity, budget.expectedChildrenTotalMultiplicity,
      budget.childrenTotalMultiplicity, budget.multiplicityResidual, budget.parentSphericalSurfaceEnergy,
      budget.childrenSphericalSurfaceEnergy, budget.surfaceEnergyIncrease, budget.suppliedDeformationEnergy,
      budget.unassignedDeformationEnergy].all SprayMath.isFinite &&
    (match budget.minimumChildTemperature with
      | ⊤ => false
      | some least => SprayMath.isFinite (least : F)) &&
    finiteVector budget.parentTotalMomentum && finiteVector budget.childrenTotalMomentum &&
    finiteVector budget.momentumResidual

def momentumWithinTolerance (budget : BreakupConservationReport F) : Bool :=
  withinTolerance budget.momentumResidual.x budget.childrenTotalMomentum.x budget.parentTotalMomentum.x
      kAbsoluteMomentumTolerance &&
    withinTolerance budget.momentumResidual.y budget.childrenTotalMomentum.y budget.parentTotalMomentum.y
      kAbsoluteMomentumTolerance &&
    withinTolerance budget.momentumResidual.z budget.childrenTotalMomentum.z budget.parentTotalMomentum.z
      kAbsoluteMomentumTolerance

def conservative (parent : SprayParcelState F) (budget : BreakupConservationReport F) : Bool :=
  withinTolerance budget.massResidual budget.childrenTotalMass budget.parentTotalMass kAbsoluteMassTolerance &&
    withinTolerance budget.bulkKineticEnergyResidual budget.childrenBulkKineticEnergy
      budget.parentBulkKineticEnergy kAbsoluteEnergyTolerance &&
    withinTolerance budget.thermochemicalEnthalpyResidual budget.childrenThermochemicalEnthalpy
      budget.parentThermochemicalEnthalpy kAbsoluteEnergyTolerance &&
    withinTolerance budget.multiplicityResidual budget.childrenTotalMultiplicity
      budget.expectedChildrenTotalMultiplicity doubleEpsilon &&
    budget.minimumChildTemperature = (parent.temperature : WithTop F) &&
    budget.maximumChildTemperature = parent.temperature && momentumWithinTolerance budget

/-- `audit_children`. -/
def auditChildren (parent : SprayParcelState F)
    (surfaceTension liquidEnthalpy deformationEnergyPerDroplet expectedChildrenMultiplicity : F)
    (report : BreakupChildReport F) : BreakupChildReport F :=
  let budget := childrenBudget parent surfaceTension liquidEnthalpy deformationEnergyPerDroplet
    expectedChildrenMultiplicity report.candidate.children
  if !finiteConservation budget then breakupFailure .nonFiniteOutput
  else if !conservative parent budget then breakupFailure .conservationFailure
  else
    { report with
      conservation := budget, candidate := { report.candidate with available := true }, status := .success }

/-- The loop over the children, which `make` fills in: no identity twice, and only valid parcels. -/
def childLoop (parent : SprayParcelState F) (make : ℕ → SprayParcelState F) :
    ℕ → List (SprayParcelState F) → Except BreakupChildStatus (List (SprayParcelState F))
  | 0, children => .ok children
  | remaining + 1, children =>
    let child := make children.length
    if (child.id.high = 0 && child.id.low = 0) || child.id = parent.id then .error .childIdCollision
    else if children.any fun previous => child.id = previous.id then .error .childIdCollision
    else if !validateParcelState child then .error .nonFiniteOutput
    else childLoop parent make remaining (children ++ [child])

/-- The fields both generators fill in before the loop. -/
def startedReport (modelId triggerModelId : String) (parent : SprayParcelState F)
    (acceptedStep breakupOrdinal : UInt64) : BreakupChildReport F :=
  { (default : BreakupChildReport F) with
    modelId := modelId
    triggerModelId := triggerModelId
    rngModelId := "parcel_counter_splitmix64_v1:breakup_child"
    parentId := parent.id
    acceptedStep := acceptedStep
    breakupOrdinal := breakupOrdinal }

namespace BreakupChildInput

variable (input : BreakupChildInput F)

/-- The first guard of `generate_supplied_diameter_children`. -/
def refused : Bool :=
  let parameters := input.parameters
  !validateParcelState input.parent || !validTabTrigger input.tabTrigger ||
    decide (parameters.childParcelCount < 2) || decide (parameters.maximumChildParcels < 2) ||
    decide (kMaximumBreakupChildParcels < parameters.maximumChildParcels) ||
    decide (parameters.maximumChildParcels < parameters.childParcelCount) ||
    !finitePositive parameters.suppliedUniformChildDiameter ||
    !decide (parameters.suppliedUniformChildDiameter < input.parent.dropletDiameter) ||
    !finitePositive parameters.liquidDensity || !finiteNonNegative parameters.surfaceTension ||
    !SprayMath.isFinite parameters.liquidAbsoluteThermochemicalEnthalpy ||
    !finiteNonNegative parameters.suppliedDeformationEnergyPerParentDroplet

def childMass : F := sphereMass input.parameters.liquidDensity input.parameters.suppliedUniformChildDiameter

def expectedChildrenMultiplicity : F :=
  input.parent.dropletMass * input.parent.multiplicity / input.childMass

def childMultiplicity : F := input.expectedChildrenMultiplicity / input.parameters.childParcelCount

def child (index : ℕ) : SprayParcelState F :=
  { input.parent with
    id := childId input.parent input.acceptedStep input.breakupOrdinal index
    dropletMass := input.childMass
    dropletDiameter := input.parameters.suppliedUniformChildDiameter
    multiplicity := input.childMultiplicity }

end BreakupChildInput

def generateSuppliedDiameterChildren (input : BreakupChildInput F) : BreakupChildReport F :=
  if input.refused then breakupFailure .invalidInput
  else if !input.tabTrigger.breakupRequested then breakupFailure .breakupNotRequested
  else if !parentGeometryConsistent input.parent input.parameters.liquidDensity then
    breakupFailure .inconsistentParentGeometry
  else if !finitePositive input.childMass || !finitePositive (input.parent.dropletMass * input.parent.multiplicity) ||
      !finitePositive input.expectedChildrenMultiplicity || !finitePositive input.childMultiplicity then
    breakupFailure .nonFiniteOutput
  else
    match childLoop input.parent input.child input.parameters.childParcelCount [] with
    | .error status => breakupFailure status
    | .ok children =>
      let started := startedReport "conservative_supplied_uniform_diameter_split_v1" input.tabTrigger.modelId
        input.parent input.acceptedStep input.breakupOrdinal
      auditChildren input.parent input.parameters.surfaceTension
        input.parameters.liquidAbsoluteThermochemicalEnthalpy
        input.parameters.suppliedDeformationEnergyPerParentDroplet input.expectedChildrenMultiplicity
        { started with candidate := { started.candidate with children := children } }

namespace SgsChildInput

variable (input : SgsChildInput F)

def modelId : String := "conservative_sgs_binary_split_v1"

/-- `fail`. -/
def fail (status : BreakupChildStatus) : BreakupChildReport F :=
  { (breakupFailure status : BreakupChildReport F) with modelId := modelId }

/-- The guards before the request is looked at. -/
def refused : Bool :=
  let trigger := input.trigger
  let history := trigger.candidate
  !finitePositive input.liquidDensity || !finitePositive input.surfaceTension ||
    !([history.meanDissipation, history.dissipationAge, history.meanRate, history.rateAge, trigger.weberNumber,
        trigger.criticalDiameter, trigger.kolmogorovLength, trigger.deterministicRate, trigger.stochasticRate,
        trigger.minimumDiameterRatio, trigger.maximumDiameterRatio, trigger.distributionLambda].all
      finiteNonNegative) ||
    !validateParcelState input.parent || !SprayMath.isFinite input.liquidAbsoluteThermochemicalEnthalpy ||
    !trigger.succeeded || trigger.modelId ≠ "deterministic_sgs_martinez_bazan_20_v1" ||
    decide (7 < history.poissonMultiplier)

def validRatio (ratio : F) : Bool := finitePositive ratio && !decide (1 < ratio)

def eventRefused : Bool :=
  let history := input.trigger.candidate
  let ratios := input.trigger.daughterDiameterRatios
  (!input.trigger.rateActive || history.poissonMultiplier = 0 || !decide (0 < history.meanRate) ||
      !decide (1 / ((history.poissonMultiplier.toNat : F) * history.meanRate) ≤ history.rateAge)) ||
    !validRatio ratios.1 || !validRatio ratios.2 ||
    decide (64 * doubleEpsilon <
      |ratios.1 * ratios.1 * ratios.1 + ratios.2 * ratios.2 * ratios.2 - 1|)

def masses : F × F :=
  let ratios := input.trigger.daughterDiameterRatios
  if ratios.1 ≤ ratios.2 then
    let small := input.parent.dropletMass * ratios.1 * ratios.1 * ratios.1
    (small, input.parent.dropletMass - small)
  else
    let small := input.parent.dropletMass * ratios.2 * ratios.2 * ratios.2
    (input.parent.dropletMass - small, small)

def child (index : ℕ) : SprayParcelState F :=
  { input.parent with
    id := childId input.parent input.acceptedStep input.breakupOrdinal index
    dropletDiameter := input.parent.dropletDiameter *
      if index = 0 then input.trigger.daughterDiameterRatios.1 else input.trigger.daughterDiameterRatios.2
    dropletMass := if index = 0 then input.masses.1 else input.masses.2 }

end SgsChildInput

def generateSgsChildren (input : SgsChildInput F) : BreakupChildReport F :=
  if input.refused then SgsChildInput.fail .invalidInput
  else if !input.trigger.breakupRequested then SgsChildInput.fail .breakupNotRequested
  else if input.eventRefused then SgsChildInput.fail .invalidInput
  else if !parentGeometryConsistent input.parent input.liquidDensity then
    SgsChildInput.fail .inconsistentParentGeometry
  else
    match childLoop input.parent input.child 2 [] with
    | .error status => SgsChildInput.fail status
    | .ok children =>
      let started := startedReport SgsChildInput.modelId input.trigger.modelId input.parent input.acceptedStep
        input.breakupOrdinal
      let report := auditChildren input.parent input.surfaceTension input.liquidAbsoluteThermochemicalEnthalpy 0
        (2 * input.parent.multiplicity) { started with candidate := { started.candidate with children := children } }
      if !report.succeeded then SgsChildInput.fail report.status else report

namespace TabRepresentativeSplitInput

variable (input : TabRepresentativeSplitInput F)

def radius : F := 1 / 2 * input.parent.dropletDiameter

def stiffness : F :=
  8 * input.surfaceTension / (input.liquidDensity * input.radius * input.radius * input.radius)

def axisLength : F := SprayMath.sqrt (dot input.breakupAxis input.breakupAxis)

/-- The returns before the children are made. -/
def refused : Bool :=
  !validTabTrigger input.tabTrigger || !input.tabTrigger.breakupRequested ||
    decide (input.childParcelCount < 2) || input.childParcelCount % 2 ≠ 0 ||
    decide (kMaximumBreakupChildParcels < input.childParcelCount) || !finitePositive input.liquidDensity ||
    !finitePositive input.surfaceTension || !finiteVector input.breakupAxis || !finitePositive input.radius ||
    decide (1 / 10 ^ 10 < |input.tabTrigger.candidate.deformation - 1|) ||
    !withinTolerance (input.tabTrigger.stiffness - input.stiffness) input.tabTrigger.stiffness input.stiffness
      (1 / 10 ^ 10) ||
    !finitePositive input.axisLength

def normal : Vector3 F :=
  let axis := normalized input.breakupAxis
  normalized (cross axis (if |axis.x| < 4 / 5 then ⟨1, 0, 0⟩ else ⟨0, 1, 0⟩))

def rate : F := input.tabTrigger.candidate.deformationRate

def inverseSizeRatio : F :=
  7 / 3 + input.liquidDensity * input.radius * input.radius * input.radius * input.rate * input.rate /
    (8 * input.surfaceTension)

def energyPerDrop : F :=
  10 / 3 * kPi / 5 * input.liquidDensity * input.radius ^ 5 * (input.rate * input.rate + input.stiffness)

/-- The split the children start from. -/
def supplied : BreakupChildInput F where
  parent := input.parent
  tabTrigger := input.tabTrigger
  acceptedStep := input.acceptedStep
  breakupOrdinal := input.breakupOrdinal
  parameters :=
    { childParcelCount := input.childParcelCount, maximumChildParcels := kMaximumBreakupChildParcels
      suppliedUniformChildDiameter := 2 * input.radius / input.inverseSizeRatio
      liquidDensity := input.liquidDensity, surfaceTension := input.surfaceTension
      liquidAbsoluteThermochemicalEnthalpy := input.liquidAbsoluteThermochemicalEnthalpy
      suppliedDeformationEnergyPerParentDroplet := input.energyPerDrop }

def transverseSpeed : F := 1 / 2 * input.radius * input.rate

/-- A child leaves the axis to one side or the other. -/
def disperse (index : ℕ) (child : SprayParcelState F) : SprayParcelState F :=
  { child with
    velocity := child.velocity.combine
      (fun velocity normal => velocity + (if index % 2 = 1 then -1 else 1) * input.transverseSpeed * normal)
      input.normal }

end TabRepresentativeSplitInput

def dispersedBudget (budget : BreakupConservationReport F) (children : List (SprayParcelState F)) :
    BreakupConservationReport F :=
  { budget with
    childrenTotalMomentum := childrenMomentum children
    momentumResidual := (childrenMomentum children).combine (· - ·) budget.parentTotalMomentum
    childrenBulkKineticEnergy := childrenKinetic children
    bulkKineticEnergyResidual := childrenKinetic children - budget.parentBulkKineticEnergy }

def generateTabRepresentativeChildren (input : TabRepresentativeSplitInput F) : TabRepresentativeSplitReport F :=
  let report : TabRepresentativeSplitReport F := default
  if input.refused then report
  else
    let split := generateSuppliedDiameterChildren input.supplied
    if !split.succeeded then { report with status := split.status }
    else
      let children := split.candidate.children.mapIdx input.disperse
      if !children.all validateParcelState then report
      else
        let budget := dispersedBudget split.conservation children
        if !momentumWithinTolerance budget then { report with status := .conservationFailure }
        else
          let dispersion := 1 / 2 * budget.parentTotalMass * input.transverseSpeed * input.transverseSpeed
          let residual := budget.surfaceEnergyIncrease + dispersion - budget.suppliedDeformationEnergy
          if !SprayMath.isFinite residual ||
              !withinTolerance residual (budget.surfaceEnergyIncrease + dispersion) budget.suppliedDeformationEnergy
                kAbsoluteEnergyTolerance ||
              !withinTolerance (budget.bulkKineticEnergyResidual - dispersion) budget.childrenBulkKineticEnergy
                budget.parentBulkKineticEnergy kAbsoluteEnergyTolerance then
            { report with status := .conservationFailure }
          else
            { report with
              status := .success
              representativeDiameter := input.supplied.parameters.suppliedUniformChildDiameter
              transverseSpeed := |input.transverseSpeed|
              deformationEnergy := budget.suppliedDeformationEnergy
              transverseKineticEnergy := dispersion
              totalEnergyResidual := residual
              split :=
                { split with
                  modelId := report.modelId
                  candidate := { split.candidate with children := children }
                  conservation :=
                    { budget with unassignedDeformationEnergy := -residual, energyDisposition := .balanced } } }

end HundunFlow
