import HundunFlow.ParcelContainer
import Mathlib.Algebra.Order.Floor.Ring
import Mathlib.Data.List.Sort

/-!
# The deterministic injector

Parcels released by mass: a trial turns the residual mass and the mass of the step into a
whole number of parcels and leaves the rest for the next step. Arithmetic on numbers of the
flow is exact; which numbers count as finite, and the elementary functions, are parameters.
-/

namespace HundunFlow

/-- The functions of `<cmath>` the injector calls. -/
class SprayMath (F : Type) where
  isFinite : F → Bool
  sqrt : F → F
  cos : F → F
  sin : F → F

instance {F : Type} [Field F] [LinearOrder F] [SprayMath F] : SprayReal F where
  zero := 0
  isFinite := SprayMath.isFinite
  lt left right := left < right

inductive ParcelRandomPurpose where
  | stableId | injectionDirection | breakupChild | breakupLifetime | breakupQuantile
  deriving DecidableEq

def ParcelRandomPurpose.value : ParcelRandomPurpose → UInt64
  | stableId => 0
  | injectionDirection => 1
  | breakupChild => 2
  | breakupLifetime => 3
  | breakupQuantile => 4

structure ParcelRandomAddress where
  seed : UInt64 := 0
  acceptedStep : UInt64 := 0
  streamIdentity : UInt64 := 0
  ordinal : UInt64 := 0
  purpose : ParcelRandomPurpose := .stableId
  deriving DecidableEq

def splitmix64 (value : UInt64) : UInt64 :=
  let value := value + 0x9e3779b97f4a7c15
  let value := (value ^^^ (value >>> 30)) * 0xbf58476d1ce4e5b9
  let value := (value ^^^ (value >>> 27)) * 0x94d049bb133111eb
  value ^^^ (value >>> 31)

def parcelRandomU64 (address : ParcelRandomAddress) (lane : UInt64) : UInt64 :=
  splitmix64 (address.seed + address.acceptedStep * 0xd2b74407b1ce6e93 +
    address.streamIdentity * 0xca5a826395121157 + address.ordinal * 0x9e3779b185ebca87 +
    address.purpose.value * 0x8cb92ba72f3d8dd7 + lane * 0xdb4f0b9175ae2165)

def makeStableParcelId (address : ParcelRandomAddress) : ParcelId :=
  let idAddress := { address with purpose := .stableId }
  let result : ParcelId := ⟨parcelRandomU64 idAddress 0, parcelRandomU64 idAddress 1⟩
  if result.high = 0 && result.low = 0 then { result with low := 1 } else result

/-- `other` is a value outside the enumeration. -/
inductive InjectorShape where
  | point | cone | other (value : UInt8)
  deriving DecidableEq

structure InjectorSpec (F : Type) where
  seed : UInt64 := 0
  injectorId : UInt64 := 0
  shape : InjectorShape := .point
  origin : Vector3 F
  axis : Vector3 F
  coneHalfAngle : F
  injectionSpeed : F
  massFlowRate : F
  representedMassPerParcel : F
  dropletMass : F
  dropletDiameter : F
  temperature : F
  liquidMaterialFingerprint : UInt64 := 0
  ownerGlobalCell : UInt64 := 0
  deriving DecidableEq

structure InjectorCommittedState (F : Type) where
  residualMass : F
  nextOrdinal : UInt64 := 0
  deriving DecidableEq

inductive InjectionStatus where
  | success | invalidInput | notConfigured | trialAlreadyActive | capacityExceeded
  | counterOverflow | nonFiniteOutput
  deriving DecidableEq

structure InjectionReport (F : Type) where
  status : InjectionStatus := .invalidInput
  modelId : String := "deterministic_point_cone_injector_v1"
  acceptedStep : UInt64 := 0
  injectorId : UInt64 := 0
  firstOrdinal : UInt64 := 0
  nextOrdinal : UInt64 := 0
  parcelCount : ℕ := 0
  requestedMass : F
  injectedMass : F
  residualMassBefore : F
  residualMassAfter : F
  deriving DecidableEq

/-- `candidatesCapacity` is the least `capacity()` among the candidate arrays. -/
structure DeterministicInjector (F : Type) where
  spec : InjectorSpec F
  committed : InjectorCommittedState F
  trialState : InjectorCommittedState F
  candidates : ParcelSoASnapshot F := {}
  candidateIdScratch : List ParcelId := []
  candidateCapacity : ℕ := 0
  candidatesCapacity : ℕ := 0
  configured : Bool := false
  trialActive : Bool := false
  report : InjectionReport F
  deriving DecidableEq

section

variable {F : Type} [Field F] [LinearOrder F] [SprayMath F]

/-- The default member values. -/
instance : Inhabited (InjectorSpec F) where
  default :=
    { origin := ⟨0, 0, 0⟩, axis := ⟨1, 0, 0⟩, coneHalfAngle := 0, injectionSpeed := 0,
      massFlowRate := 0, representedMassPerParcel := 0, dropletMass := 0, dropletDiameter := 0,
      temperature := 0 }

instance : Inhabited (InjectionReport F) where
  default :=
    { requestedMass := 0, injectedMass := 0, residualMassBefore := 0, residualMassAfter := 0 }

instance : Inhabited (DeterministicInjector F) where
  default :=
    { spec := default, committed := { residualMass := 0 }, trialState := { residualMass := 0 },
      report := default }

def kPi : F := 3141592653589793238462643383279502884 / 10 ^ 36

def kMaximumExactlyRepresentableCount : F := 9007199254740991

/-- `std::numeric_limits<double>::epsilon()`. -/
def doubleEpsilon : F := 1 / 2 ^ 52

def parcelUniform01 (address : ParcelRandomAddress) (lane : UInt64) : F :=
  ((parcelRandomU64 address lane >>> 11).toNat : F) * (1 / 9007199254740992)

def finiteNonNegative (value : F) : Bool := SprayMath.isFinite value && decide (0 ≤ value)

def validInjectorSpec (spec : InjectorSpec F) (initial : InjectorCommittedState F) : Bool :=
  let axisNormSquared := spec.axis.x * spec.axis.x + spec.axis.y * spec.axis.y + spec.axis.z * spec.axis.z
  let validShape := spec.shape = .point || spec.shape = .cone
  validShape && finiteVector spec.origin && finiteVector spec.axis &&
    finitePositive axisNormSquared &&
    finiteNonNegative spec.coneHalfAngle && decide (spec.coneHalfAngle ≤ kPi) &&
    finiteNonNegative spec.injectionSpeed && finiteNonNegative spec.massFlowRate &&
    finitePositive spec.representedMassPerParcel && finitePositive spec.dropletMass &&
    finitePositive spec.dropletDiameter && finitePositive spec.temperature &&
    spec.liquidMaterialFingerprint ≠ 0 &&
    finiteNonNegative initial.residualMass &&
    decide (initial.residualMass < spec.representedMassPerParcel)

def normalized (value : Vector3 F) : Vector3 F :=
  let magnitude := SprayMath.sqrt (value.x * value.x + value.y * value.y + value.z * value.z)
  ⟨value.x / magnitude, value.y / magnitude, value.z / magnitude⟩

def cross (left right : Vector3 F) : Vector3 F :=
  ⟨left.y * right.z - left.z * right.y, left.z * right.x - left.x * right.z,
    left.x * right.y - left.y * right.x⟩

def injectionDirection (spec : InjectorSpec F) (acceptedStep ordinal : UInt64) : Vector3 F :=
  let axis := normalized spec.axis
  if spec.shape = .point || spec.coneHalfAngle = 0 then axis
  else
    let address : ParcelRandomAddress :=
      ⟨spec.seed, acceptedStep, spec.injectorId, ordinal, .injectionDirection⟩
    let polarUniform : F := parcelUniform01 address 0
    let azimuthUniform : F := parcelUniform01 address 1
    let minimumCosine := SprayMath.cos spec.coneHalfAngle
    let cosine := 1 - polarUniform * (1 - minimumCosine)
    let sine := SprayMath.sqrt (max 0 (1 - cosine * cosine))
    let azimuth := 2 * kPi * azimuthUniform
    let reference : Vector3 F := if |axis.z| < 9 / 10 then ⟨0, 0, 1⟩ else ⟨1, 0, 0⟩
    let tangent := normalized (cross reference axis)
    let bitangent := cross axis tangent
    ⟨cosine * axis.x + sine * (SprayMath.cos azimuth * tangent.x + SprayMath.sin azimuth * bitangent.x),
      cosine * axis.y + sine * (SprayMath.cos azimuth * tangent.y + SprayMath.sin azimuth * bitangent.y),
      cosine * axis.z + sine * (SprayMath.cos azimuth * tangent.z + SprayMath.sin azimuth * bitangent.z)⟩

def baseReport (spec : InjectorSpec F) (committed : InjectorCommittedState F) (acceptedStep : UInt64) :
    InjectionReport F where
  acceptedStep := acceptedStep
  injectorId := spec.injectorId
  firstOrdinal := committed.nextOrdinal
  nextOrdinal := committed.nextOrdinal
  requestedMass := 0
  injectedMass := 0
  residualMassBefore := committed.residualMass
  residualMassAfter := committed.residualMass

/-- The parcel the loop of `begin_trial` makes for an ordinal. -/
def injectedParcel (spec : InjectorSpec F) (acceptedStep : UInt64) (multiplicity : F)
    (ordinal : UInt64) : SprayParcelState F :=
  let direction := injectionDirection spec acceptedStep ordinal
  { id := makeStableParcelId ⟨spec.seed, acceptedStep, spec.injectorId, ordinal, .stableId⟩
    position := spec.origin
    velocity := ⟨direction.x * spec.injectionSpeed, direction.y * spec.injectionSpeed,
      direction.z * spec.injectionSpeed⟩
    dropletMass := spec.dropletMass
    dropletDiameter := spec.dropletDiameter
    multiplicity := multiplicity
    temperature := spec.temperature
    liquidMaterialFingerprint := spec.liquidMaterialFingerprint
    ownerGlobalCell := spec.ownerGlobalCell
    age := 0 }

/-- The loop from `index` on, over `count` more candidates; `none` when a parcel is not valid. -/
def fillCandidates (parcelOf : UInt64 → SprayParcelState F) (nextOrdinal : UInt64) (index : ℕ)
    (candidates : ParcelSoASnapshot F) (scratch : List ParcelId) :
    ℕ → Option (ParcelSoASnapshot F × List ParcelId)
  | 0 => some (candidates, scratch)
  | count + 1 =>
    let parcel := parcelOf (nextOrdinal + UInt64.ofNat index)
    if !validateParcelState parcel then none
    else
      fillCandidates parcelOf nextOrdinal (index + 1) (candidates.writeParcel index parcel)
        (scratch.set index parcel.id) count

end

def hasNeighbours {α : Type} [DecidableEq α] : List α → Bool
  | [] => false
  | [_] => false
  | a :: b :: l => b = a || hasNeighbours (b :: l)

/-- What `begin_trial` computes before it makes candidates. -/
structure InjectionPlan (F : Type) where
  requestedMass : F
  count : ℕ
  injectedMass : F
  residualMass : F
  multiplicity : F

namespace DeterministicInjector

variable {F : Type}

section

variable [Field F] [LinearOrder F] [SprayMath F]

/-- `reserve`; a failing reservation may have grown some of the arrays. -/
def reserve (inj : DeterministicInjector F) (maximumCandidates : ℕ) (memory : Bool) (extra : ℕ) :
    DeterministicInjector F × Status :=
  if inj.trialActive then (inj, parcelFailure .rejectedStep .trialAlreadyActive)
  else
    let grown := { inj with candidatesCapacity := inj.candidatesCapacity + extra }
    if !memory then (grown, parcelFailure .allocationFailure .capacityExceeded)
    else
      ({ grown with
          candidatesCapacity := max grown.candidatesCapacity maximumCandidates
          candidateCapacity := maximumCandidates }, {})

/-- `resize_arrays(candidates_, 0U)` and `candidate_id_scratch_.clear()`. -/
def clearCandidates (inj : DeterministicInjector F) : DeterministicInjector F :=
  { inj with candidates := inj.candidates.resizeArrays 0, candidateIdScratch := [] }

def configure (inj : DeterministicInjector F) (spec : InjectorSpec F)
    (initialState : InjectorCommittedState F) : DeterministicInjector F × Status :=
  if inj.trialActive then (inj, parcelFailure .rejectedStep .trialAlreadyActive)
  else if !validInjectorSpec spec initialState then
    (inj, parcelFailure .invalidCase .invalidInjector)
  else
    ({ { inj with spec := spec, committed := initialState, trialState := initialState }.clearCandidates with
        configured := true, report := baseReport spec initialState 0 }, {})

/-- `return report_;` -/
def answer (inj : DeterministicInjector F) (report : InjectionReport F) :
    DeterministicInjector F × InjectionReport F :=
  ({ inj with report := report }, report)

/-- The mass balance of `begin_trial`: the plan, or the failure and the requested mass the
report shows by then. -/
def planInjection [FloorRing F] (inj : DeterministicInjector F) (duration : F) :
    Except (InjectionStatus × F) (InjectionPlan F) :=
  let represented := inj.spec.representedMassPerParcel
  let requestedMass := inj.spec.massFlowRate * duration
  let availableMass := inj.committed.residualMass + requestedMass
  if !SprayMath.isFinite requestedMass || !SprayMath.isFinite availableMass then
    .error (.nonFiniteOutput, 0)
  else
    let countAsDouble : F := (⌊availableMass / represented⌋ : ℤ)
    if !SprayMath.isFinite countAsDouble || decide (countAsDouble < 0) ||
        decide (kMaximumExactlyRepresentableCount < countAsDouble) ||
        decide ((inj.candidateCapacity : F) < countAsDouble) then
      .error (.capacityExceeded, requestedMass)
    else
      let count := ⌊countAsDouble⌋.toNat
      if inj.candidateCapacity < count || inj.candidatesCapacity < count then
        .error (.capacityExceeded, requestedMass)
      else if maxU64 - inj.committed.nextOrdinal.toNat < count then
        .error (.counterOverflow, requestedMass)
      else
        let injectedMass := (count : F) * represented
        let residualMass := availableMass - injectedMass
        let massScale := max |availableMass| (max |injectedMass| |represented|)
        let residualTolerance := 8 * doubleEpsilon * massScale
        let residualMass :=
          if residualMass < 0 ∧ -residualTolerance ≤ residualMass then 0 else residualMass
        if !SprayMath.isFinite injectedMass || !SprayMath.isFinite residualMass ||
            decide (residualMass < 0) || decide (represented ≤ residualMass) then
          .error (.nonFiniteOutput, requestedMass)
        else
          let multiplicity := represented / inj.spec.dropletMass
          if !SprayMath.isFinite multiplicity || decide (multiplicity ≤ 0) then
            .error (.nonFiniteOutput, requestedMass)
          else .ok ⟨requestedMass, count, injectedMass, residualMass, multiplicity⟩

/-- The candidate loop, the sort and the search for two equal identities. -/
def makeCandidates (inj : DeterministicInjector F) (acceptedStep : UInt64) (count : ℕ) (multiplicity : F) :
    Option (ParcelSoASnapshot F × List ParcelId) :=
  match fillCandidates (injectedParcel inj.spec acceptedStep multiplicity) inj.committed.nextOrdinal 0
      (inj.candidates.resizeArrays count) (resizeVector inj.candidateIdScratch count {}) count with
  | none => none
  | some (candidates, scratch) =>
    let sorted := scratch.insertionSort (· ≤ ·)
    if hasNeighbours sorted then none else some (candidates, sorted)

def beginTrial [FloorRing F] (inj : DeterministicInjector F) (acceptedStep : UInt64) (duration : F) :
    DeterministicInjector F × InjectionReport F :=
  if !inj.configured then (inj, { (default : InjectionReport F) with
    status := .notConfigured, acceptedStep := acceptedStep })
  else if inj.trialActive then
    (inj, { baseReport inj.spec inj.committed acceptedStep with status := .trialAlreadyActive })
  else
    let inj := inj.clearCandidates
    let report := baseReport inj.spec inj.committed acceptedStep
    if !SprayMath.isFinite duration || decide (duration < 0) then
      inj.answer { report with status := .invalidInput }
    else if duration = 0 ∨ inj.spec.massFlowRate = 0 then
      { inj with trialState := inj.committed, trialActive := true }.answer
        { report with status := .success }
    else
      match inj.planInjection duration with
      | .error (status, requestedMass) =>
        inj.answer { report with status := status, requestedMass := requestedMass }
      | .ok plan =>
        match inj.makeCandidates acceptedStep plan.count plan.multiplicity with
        | none =>
          inj.answer { report with status := .nonFiniteOutput, requestedMass := plan.requestedMass }
        | some (candidates, scratch) =>
          let trialState : InjectorCommittedState F :=
            ⟨plan.residualMass, inj.committed.nextOrdinal + UInt64.ofNat plan.count⟩
          { inj with
            candidates := candidates, candidateIdScratch := scratch, trialState := trialState,
            trialActive := true }.answer
            { report with
              status := .success, requestedMass := plan.requestedMass,
              nextOrdinal := trialState.nextOrdinal, parcelCount := plan.count,
              injectedMass := plan.injectedMass, residualMassAfter := plan.residualMass }

def stageRestore (inj : DeterministicInjector F) (state : InjectorCommittedState F) :
    DeterministicInjector F × Status :=
  if !inj.configured then (inj, parcelFailure .invalidPlan .injectorNotConfigured)
  else if inj.trialActive then (inj, parcelFailure .rejectedStep .trialAlreadyActive)
  else if !validInjectorSpec inj.spec state then (inj, parcelFailure .invalidCase .invalidSnapshot)
  else ({ inj with trialState := state, report := default, trialActive := true }, {})

def preflightCommit (inj : DeterministicInjector F) : Status :=
  if !inj.trialActive then parcelFailure .rejectedStep .trialNotActive else {}

def publishPreflightedTrial (inj : DeterministicInjector F) : DeterministicInjector F :=
  { { inj with committed := inj.trialState }.clearCandidates with trialActive := false }

def commitTrial (inj : DeterministicInjector F) : DeterministicInjector F × Status :=
  let ready := inj.preflightCommit
  if !ready.isOk then (inj, ready) else (inj.publishPreflightedTrial, {})

def rollbackTrial (inj : DeterministicInjector F) : DeterministicInjector F × Status :=
  if !inj.trialActive then (inj, parcelFailure .rejectedStep .trialNotActive)
  else ({ inj.clearCandidates with trialState := inj.committed, trialActive := false }, {})

end

end DeterministicInjector

inductive InjectorOp (F : Type) where
  | reserve (maximumCandidates : ℕ) (memory : Bool) (extra : ℕ)
  | configure (spec : InjectorSpec F) (initialState : InjectorCommittedState F)
  | beginTrial (acceptedStep : UInt64) (duration : F)
  | stageRestore (state : InjectorCommittedState F)
  | commitTrial
  | rollbackTrial

namespace InjectorOp

variable {F : Type} [Field F] [LinearOrder F] [SprayMath F] [FloorRing F]

/-- The injector after a call. -/
def run (inj : DeterministicInjector F) : InjectorOp F → DeterministicInjector F
  | reserve maximumCandidates memory extra => (inj.reserve maximumCandidates memory extra).1
  | configure spec initialState => (inj.configure spec initialState).1
  | beginTrial acceptedStep duration => (inj.beginTrial acceptedStep duration).1
  | stageRestore state => (inj.stageRestore state).1
  | commitTrial => inj.commitTrial.1
  | rollbackTrial => inj.rollbackTrial.1

def runAll (inj : DeterministicInjector F) (ops : List (InjectorOp F)) : DeterministicInjector F :=
  ops.foldl run inj

omit [Field F] [LinearOrder F] [SprayMath F] [FloorRing F] in
def endsTrial : InjectorOp F → Bool
  | commitTrial | rollbackTrial => true
  | _ => false

end InjectorOp

end HundunFlow
