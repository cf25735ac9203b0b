import HundunFlow.CartesianKernel
import HundunFlow.MpiJob
import Mathlib.Algebra.Order.Field.Basic

/-!
# The time controller

The compiled time scheme, the accepted time of a run and the proposal that is under way. All
ranks of a job take each decision together: rank zero computes it, broadcasts it, and every
rank checks what it received. Arithmetic is exact. Comparing the bits of two numbers is
comparing the numbers; only the fingerprint of a plan uses the bits themselves.
-/

namespace HundunFlow

/-- What the controller does with a `double` besides arithmetic. -/
class TimeReal (F : Type) where
  isFinite : F → Bool
  bits : F → UInt64

def kTimeInput : UInt32 := 451
def kTimeLimitValue : UInt32 := 452
def kTimeState : UInt32 := 453
def kTimeMinimum : UInt32 := 454
def kTimeRetry : UInt32 := 455
def kTimeCollective : UInt32 := 456
def kTimeGeneration : UInt32 := 457
def kTimeIdentity : UInt32 := 458

/-- `other` is a value outside the enumeration. -/
inductive TimeControlKind where
  | fixed | adaptiveFlow | adaptiveAcoustic | other (value : UInt8)
  deriving DecidableEq

def TimeControlKind.value : TimeControlKind → UInt64
  | fixed => 0
  | adaptiveFlow => 1
  | adaptiveAcoustic => 2
  | other value => value.toUInt64

/-- `other` is a value outside the enumeration. -/
inductive TimeScheme where
  | backwardEuler | variableBdf2 | cnBe | other (value : UInt8)
  deriving DecidableEq

def TimeScheme.value : TimeScheme → UInt64
  | backwardEuler => 0
  | variableBdf2 => 1
  | cnBe => 2
  | other value => value.toUInt64

/-- `other` is a value outside the enumeration. -/
inductive ConvectiveCflDefinition where
  | outgoingSum | directionalMax | other (value : UInt8)
  deriving DecidableEq

def ConvectiveCflDefinition.value : ConvectiveCflDefinition → UInt64
  | outgoingSum => 0
  | directionalMax => 1
  | other value => value.toUInt64

structure TimeControlSpec (F : Type) where
  control : TimeControlKind
  scheme : TimeScheme
  initialDt : F
  minimumDt : F
  maximumDt : F
  convectiveCfl : F
  viscousCfl : F
  thermalCfl : F
  speciesCfl : F
  acousticCfl : F
  maximumGrowth : F
  retryFactor : F
  maximumRetries : UInt32
  minimumBdfRatio : F
  maximumBdfRatio : F
  convectiveCflMargin : F
  convectiveCflDefinition : ConvectiveCflDefinition
  deriving DecidableEq

structure TimeSchemePlan (F : Type) where
  spec : TimeControlSpec F
  fingerprint : UInt64
  deriving DecidableEq

def hashMix (hash value : UInt64) : UInt64 := (hash ^^^ value) * 1099511628211

inductive TimeLimit where
  | fixed | convective | viscous | thermal | species | acoustic | growth | retry
  deriving DecidableEq

/-- A `double` a caller hands over: a number, positive infinity, or a value that is neither
(not a number, or negative infinity). -/
inductive LimitValue (F : Type) where
  | number (value : F)
  | infinity
  | invalid
  deriving DecidableEq

structure LocalTimeLimits (F : Type) where
  convective : LimitValue F
  viscous : LimitValue F
  thermal : LimitValue F
  species : LimitValue F
  acoustic : LimitValue F
  maximumDt : LimitValue F
  deriving DecidableEq

namespace TimeSchemePlan

variable {F : Type} [Field F] [LinearOrder F] [TimeReal F]

def finitePositive (value : F) : Bool := TimeReal.isFinite value && decide (0 < value)

def validSpec (spec : TimeControlSpec F) : Bool :=
  let validControl := spec.control = .fixed || spec.control = .adaptiveFlow || spec.control = .adaptiveAcoustic
  let validScheme := spec.scheme = .backwardEuler || spec.scheme = .variableBdf2 || spec.scheme = .cnBe
  let validDefinition :=
    spec.convectiveCflDefinition = .outgoingSum || spec.convectiveCflDefinition = .directionalMax
  validDefinition && validControl && validScheme &&
    finitePositive spec.initialDt && finitePositive spec.minimumDt && finitePositive spec.maximumDt &&
    decide (spec.minimumDt ≤ spec.initialDt) && decide (spec.initialDt ≤ spec.maximumDt) &&
    finitePositive spec.convectiveCfl &&
    TimeReal.isFinite spec.convectiveCflMargin && decide (0 ≤ spec.convectiveCflMargin) &&
    decide (spec.convectiveCflMargin < spec.convectiveCfl) &&
    TimeReal.isFinite (spec.convectiveCfl + spec.convectiveCflMargin) &&
    finitePositive spec.viscousCfl && finitePositive spec.thermalCfl &&
    finitePositive spec.speciesCfl && finitePositive spec.acousticCfl &&
    TimeReal.isFinite spec.maximumGrowth && decide (1 ≤ spec.maximumGrowth) &&
    TimeReal.isFinite spec.retryFactor && decide (0 < spec.retryFactor) && decide (spec.retryFactor < 1) &&
    spec.maximumRetries ≠ 0 &&
    finitePositive spec.minimumBdfRatio && finitePositive spec.maximumBdfRatio &&
    decide (spec.minimumBdfRatio ≤ spec.maximumBdfRatio)

/-- The hash of `compile`. -/
def fingerprintOf (spec : TimeControlSpec F) : UInt64 :=
  let words : List UInt64 :=
    [spec.control.value, spec.scheme.value, TimeReal.bits spec.initialDt, TimeReal.bits spec.minimumDt,
      TimeReal.bits spec.maximumDt, TimeReal.bits spec.convectiveCfl, TimeReal.bits spec.viscousCfl,
      TimeReal.bits spec.thermalCfl, TimeReal.bits spec.speciesCfl, TimeReal.bits spec.acousticCfl,
      TimeReal.bits spec.maximumGrowth, TimeReal.bits spec.retryFactor, spec.maximumRetries.toUInt64,
      TimeReal.bits spec.minimumBdfRatio, TimeReal.bits spec.maximumBdfRatio]
  let hash := words.foldl hashMix 1469598103934665603
  let hash :=
    if 0 < spec.convectiveCflMargin then
      hashMix (hashMix hash 0x43464c42414e4431) (TimeReal.bits spec.convectiveCflMargin)
    else hash
  let hash :=
    if spec.convectiveCflDefinition ≠ .outgoingSum then
      hashMix (hashMix hash 0x43464c4445463031) spec.convectiveCflDefinition.value
    else hash
  if hash = 0 then 1 else hash

def compile (spec : TimeControlSpec F) : Except Status (TimeSchemePlan F) :=
  if !validSpec spec then .error ⟨.invalidPlan, kTimeInput⟩
  else .ok ⟨spec, fingerprintOf spec⟩

/-- One round of the loop of `local_candidate`: `scale` is a unit stability scale, `target`
the compiled number it is multiplied with. An infinite scale never limits. -/
def limitBy (target : F) (kind : TimeLimit) (scale : LimitValue F) (candidate : F × TimeLimit) :
    Except Status (F × TimeLimit) :=
  match scale with
  | .invalid => .error ⟨.numericalFailure, kTimeLimitValue⟩
  | .infinity => .ok candidate
  | .number scale =>
    if !finitePositive scale then .error ⟨.numericalFailure, kTimeLimitValue⟩
    else
      let limited := target * scale
      if ¬ 0 < limited then .error ⟨.numericalFailure, kTimeLimitValue⟩
      else
        let tolerance := 32 * (1 / 2 ^ 52) * max 1 (max |limited| |candidate.1|)
        if limited < candidate.1 then
          .ok (limited, if limited < candidate.1 - tolerance then kind else candidate.2)
        else .ok candidate

/-- `limits.maximum_dt` when it is finite and not negative. -/
def ceiling (limits : LocalTimeLimits F) : Option F :=
  match limits.maximumDt with
  | .number value => if TimeReal.isFinite value && decide (0 ≤ value) then some value else none
  | _ => none

def localCandidate (plan : TimeSchemePlan F) (limits : LocalTimeLimits F) :
    Except Status (F × TimeLimit) :=
  if plan.fingerprint = 0 then .error ⟨.invalidPlan, kTimeState⟩
  else
    match ceiling limits with
    | none => .error ⟨.numericalFailure, kTimeLimitValue⟩
    | some maximumDt =>
      let spec := plan.spec
      if spec.control = .fixed then
        if 0 < maximumDt ∧ maximumDt < spec.initialDt then .error ⟨.numericalFailure, kTimeLimitValue⟩
        else .ok (spec.initialDt, .fixed)
      else do
        let candidate := if 0 < maximumDt then min spec.maximumDt maximumDt else spec.maximumDt
        let candidate ← limitBy spec.convectiveCfl .convective limits.convective (candidate, .growth)
        let candidate ← limitBy spec.viscousCfl .viscous limits.viscous candidate
        let candidate ← limitBy spec.thermalCfl .thermal limits.thermal candidate
        let candidate ← limitBy spec.speciesCfl .species limits.species candidate
        if spec.control = .adaptiveAcoustic then
          limitBy spec.acousticCfl .acoustic limits.acoustic candidate
        else pure candidate

end TimeSchemePlan

inductive StepOrigin where
  | freshStart | restart | accepted | retry
  deriving DecidableEq

namespace StepOrigin

def toWire : StepOrigin → ℕ
  | freshStart => 0
  | restart => 1
  | accepted => 2
  | retry => 3

def ofWire : ℕ → Option StepOrigin
  | 0 => some freshStart
  | 1 => some restart
  | 2 => some accepted
  | 3 => some retry
  | _ => none

@[simp] lemma ofWire_toWire (o : StepOrigin) : ofWire o.toWire = some o := by
  cases o <;> rfl

end StepOrigin

structure BdfCoefficients (F : Type) where
  a0 : F
  a1 : F
  a2 : F
  order : ℕ := 1
  deriving DecidableEq

structure StepTime (F : Type) where
  time : F
  dt : F
  acceptedStep : ℕ := 0
  attempt : ℕ := 0
  origin : StepOrigin := .freshStart
  bdf : BdfCoefficients F
  generation : ℕ := 0
  deriving DecidableEq

/-- A 64-bit word of a message: an integer, or the bits of a number. -/
inductive TimeWord (F : Type) where
  | int (value : ℕ)
  | real (value : F)
  deriving DecidableEq

def stepWire {F : Type} (step : StepTime F) : List (TimeWord F) :=
  [.real step.time, .real step.dt, .int step.acceptedStep, .int step.attempt, .int step.origin.toWire,
    .real step.bdf.a0, .real step.bdf.a1, .real step.bdf.a2, .int step.bdf.order, .int step.generation]

def decodeStepWire {F : Type} : List (TimeWord F) → Option (StepTime F)
  | [.real time, .real dt, .int acceptedStep, .int attempt, .int origin, .real a0, .real a1, .real a2,
      .int order, .int generation] =>
    match StepOrigin.ofWire origin with
    | none => none
    | some origin =>
      if 2 ^ 32 ≤ attempt || 2 ^ 8 ≤ order then none
      else some ⟨time, dt, acceptedStep, attempt, origin, ⟨a0, a1, a2, order⟩, generation⟩
  | _ => none

def decodeStatus {F : Type} : List (TimeWord F) → Option (Status × List (TimeWord F))
  | .int code :: .int detail :: rest => (Status.ofWire [code, detail]).map fun status => (status, rest)
  | _ => none

def statusWire {F : Type} (status : Status) : List (TimeWord F) :=
  [.int status.code.toWire, .int status.detail.toNat]

/-- `TimeControllerState`. -/
structure TimeController (F : Type) where
  plan : TimeSchemePlan F
  activeStep : StepTime F
  time : F
  lastAcceptedDt : F
  acceptedStep : ℕ := 0
  nextGeneration : ℕ := 1
  retryCount : ℕ := 0
  lowestFailingRank : ℤ := -1
  nextOrigin : StepOrigin := .freshStart
  forceBackwardEuler : Bool := true
  active : Bool := false
  deriving DecidableEq

inductive TimeFinishDecision where
  | accept | retry | fatal
  deriving DecidableEq

/-- The certificate of `prepare_finish`. Its owner is the controller it is handed to. -/
structure PreparedTimeFinish (F : Type) where
  identity : List (TimeWord F)
  proposal : StepTime F
  candidate : StepTime F
  outcome : Status
  lowestFailingRank : ℤ := -1
  decision : TimeFinishDecision := .fatal
  commitReady : Bool := false
  validFlag : Bool := false
  consumed : Bool := false
  deriving DecidableEq

def PreparedTimeFinish.valid {F : Type} (prepared : PreparedTimeFinish F) : Bool :=
  prepared.validFlag && !prepared.consumed

structure TimeProposalDiagnostic (F : Type) where
  evaluated : Bool := false
  proposedDt : F
  minimumDt : F
  deriving DecidableEq

/-- What `propose` does on one rank. -/
structure ProposeResult (F : Type) where
  controller : TimeController F
  status : Status
  out : Option (StepTime F)
  diagnostic : TimeProposalDiagnostic F

/-- What `prepare_finish` does on one rank. A failed call leaves the certificate alone. -/
structure PrepareTimeResult (F : Type) where
  status : Status
  out : Option (PreparedTimeFinish F)

section Consensus

variable {F : Type}

def collectiveFailure : Status := ⟨.mpiFailure, kTimeCollective⟩

/-- The status `source` broadcasts, when it is one. -/
def statusOfRank (communicator : RankComm) (source : ℕ) (brought : Status) :
    JobProg (TimeWord F) F (Option Status) :=
  (Job.bcast source (if communicator.rank = source then statusWire brought else [.int 0, .int 0])).bind fun
  | none => .done none
  | some wire => .done ((decodeStatus wire).map Prod.fst)

/-- `collective_status`. The statuses it is called with have a code of the enumeration. -/
def collectiveStatus (communicator : RankComm) (brought : Status) :
    JobProg (TimeWord F) F (Status × ℤ) :=
  (Job.allreduce .min (if brought.isOk then maxU64 else communicator.rank)).bind fun
  | none => .done (collectiveFailure, -1)
  | some selected =>
    if selected = maxU64 then .done ({}, -1)
    else if communicator.size ≤ selected then .done (collectiveFailure, -1)
    else
      (statusOfRank communicator selected brought).bind fun
      | none => .done (collectiveFailure, -1)
      | some status => .done (status, selected)

/-- The outcome of `collective_finish_decision`, the rank and the priority it comes from. -/
structure FinishDecision where
  status : Status
  lowest : ℤ := -1
  selectedPriority : ℕ := 2 ^ 32 - 1

def collectiveFinishDecision (communicator : RankComm) (brought : Status) (priority : ℕ) :
    JobProg (TimeWord F) F FinishDecision :=
  (Job.allreduce .min
      (if brought.code = .ok then maxU64 else (priority <<< 32) ||| communicator.rank)).bind fun
  | none => .done { status := collectiveFailure }
  | some selected =>
    if selected = maxU64 then .done { status := {} }
    else
      let selectedPriority := selected >>> 32
      let selectedRank := selected % 2 ^ 32
      if 2 < selectedPriority || communicator.size ≤ selectedRank then
        .done { status := collectiveFailure }
      else
        (statusOfRank communicator selectedRank brought).bind fun
        | none => .done { status := collectiveFailure }
        | some status => .done ⟨status, selectedRank, selectedPriority⟩

end Consensus

namespace TimeController

variable {F : Type} [Field F] [LinearOrder F] [TimeReal F]

def noCoefficients : BdfCoefficients F := ⟨0, 0, 0, 1⟩

/-- A default `StepTime`. -/
def noStep : StepTime F := { time := 0, dt := 0, bdf := noCoefficients }

/-- A default `PreparedTimeFinish`. -/
def unpreparedFinish : PreparedTimeFinish F where
  identity := []
  proposal := noStep
  candidate := noStep
  outcome := ⟨.invalidPlan, 0⟩

def noDiagnostic : TimeProposalDiagnostic F := { proposedDt := 0, minimumDt := 0 }

def start (plan : TimeSchemePlan F) (startTime : F) : Except Status (TimeController F) :=
  if plan.fingerprint = 0 || !TimeReal.isFinite startTime then .error ⟨.invalidPlan, kTimeInput⟩
  else
    .ok { plan := plan, activeStep := noStep, time := startTime, lastAcceptedDt := 0
          nextOrigin := .freshStart, forceBackwardEuler := true }

def validRestart (plan : TimeSchemePlan F) (time lastAcceptedDt : F) (acceptedStep : ℕ) : Bool :=
  let firstCandidateTime := time + lastAcceptedDt
  plan.fingerprint ≠ 0 && TimeReal.isFinite time && TimeSchemePlan.finitePositive lastAcceptedDt &&
    decide (plan.spec.minimumDt ≤ lastAcceptedDt) && decide (lastAcceptedDt ≤ plan.spec.maximumDt) &&
    acceptedStep ≠ maxU64 && TimeReal.isFinite firstCandidateTime && decide (time < firstCandidateTime)

def restart (plan : TimeSchemePlan F) (time lastAcceptedDt : F) (acceptedStep : ℕ) :
    Except Status (TimeController F) :=
  if !validRestart plan time lastAcceptedDt acceptedStep then .error ⟨.invalidPlan, kTimeInput⟩
  else
    .ok { plan := plan, activeStep := noStep, time := time, lastAcceptedDt := lastAcceptedDt
          acceptedStep := acceptedStep, nextOrigin := .restart, forceBackwardEuler := true }

def restartExact (plan : TimeSchemePlan F) (time lastAcceptedDt : F) (acceptedStep nextGeneration : ℕ) :
    Except Status (TimeController F) :=
  if !validRestart plan time lastAcceptedDt acceptedStep || nextGeneration = 0 ||
      nextGeneration = maxU64 then
    .error ⟨.invalidPlan, kTimeInput⟩
  else
    .ok { plan := plan, activeStep := noStep, time := time, lastAcceptedDt := lastAcceptedDt
          acceptedStep := acceptedStep, nextGeneration := nextGeneration, nextOrigin := .restart
          forceBackwardEuler := false }

def backwardEuler (dt : F) : BdfCoefficients F := ⟨1 / dt, -1 / dt, 0, 1⟩

def variableBdf2 (dt lastDt : F) : BdfCoefficients F :=
  let ratio := dt / lastDt
  ⟨(1 + 2 * ratio) / ((1 + ratio) * dt), -(1 + ratio) / dt, ratio * ratio / ((1 + ratio) * dt), 2⟩

def coefficients (c : TimeController F) (dt : F) (forceBackwardEuler : Bool) :
    Except Status (BdfCoefficients F) :=
  if !TimeSchemePlan.finitePositive dt then .error ⟨.numericalFailure, kTimeLimitValue⟩
  else
    let spec := c.plan.spec
    let ratio := dt / c.lastAcceptedDt
    let candidate :=
      if !forceBackwardEuler && spec.scheme = .variableBdf2 && TimeSchemePlan.finitePositive c.lastAcceptedDt &&
          TimeReal.isFinite ratio && decide (spec.minimumBdfRatio ≤ ratio) &&
          decide (ratio ≤ spec.maximumBdfRatio) then variableBdf2 dt c.lastAcceptedDt
      else backwardEuler dt
    if !TimeReal.isFinite candidate.a0 || !TimeReal.isFinite candidate.a1 ||
        !TimeReal.isFinite candidate.a2 then .error ⟨.numericalFailure, kTimeLimitValue⟩
    else .ok candidate

/-- The words that rank zero publishes of its state before a proposal. -/
def identity (c : TimeController F) : List (TimeWord F) :=
  [.int c.plan.fingerprint.toNat, .real c.time, .real c.lastAcceptedDt, .int c.acceptedStep,
    .int c.nextGeneration, .int c.retryCount, .int c.nextOrigin.toWire,
    .int c.forceBackwardEuler.toNat, .int c.active.toNat] ++ stepWire c.activeStep

/-- The least number of the job, cut down to the first step or to the growth from the last one. -/
def proposedDt (c : TimeController F) (globalDt : F) : F :=
  let spec := c.plan.spec
  let bound := if c.lastAcceptedDt = 0 then spec.initialDt else c.lastAcceptedDt * spec.maximumGrowth
  if bound < globalDt then bound else globalDt

/-- The proposal of rank zero: the status it publishes and the step, which carries the
rejected `dt` when the status is a failure. -/
def propose0 (c : TimeController F) (globalDt : F) : Status × StepTime F :=
  let proposedDt := c.proposedDt globalDt
  let candidate : StepTime F :=
    { time := c.time, dt := proposedDt, acceptedStep := c.acceptedStep, attempt := c.retryCount
      origin := c.nextOrigin, bdf := noCoefficients, generation := c.nextGeneration }
  if !TimeSchemePlan.finitePositive proposedDt then (⟨.numericalFailure, kTimeLimitValue⟩, candidate)
  else if proposedDt < c.plan.spec.minimumDt then (⟨.rejectedStep, kTimeMinimum⟩, candidate)
  else
    match c.coefficients proposedDt c.forceBackwardEuler with
    | .error status => (status, candidate)
    | .ok bdf => ({}, { candidate with bdf := bdf })

/-- What every rank asks of a published proposal. -/
def validCandidate (c : TimeController F) (candidate : StepTime F) : Bool :=
  candidate.time = c.time && TimeSchemePlan.finitePositive candidate.dt &&
    decide (c.plan.spec.minimumDt ≤ candidate.dt) && decide (candidate.dt ≤ c.plan.spec.maximumDt) &&
    candidate.acceptedStep = c.acceptedStep && candidate.attempt = c.retryCount &&
    candidate.origin = c.nextOrigin && TimeReal.isFinite candidate.bdf.a0 &&
    TimeReal.isFinite candidate.bdf.a1 && TimeReal.isFinite candidate.bdf.a2 &&
    1 ≤ candidate.bdf.order && candidate.bdf.order ≤ 2 && candidate.generation = c.nextGeneration

/-- A publication of rank zero: the step it holds, or the receiver's own, and the status the
receiver brings on. -/
def checkProposal (c : TimeController F) (own : StepTime F) (publication : List (TimeWord F)) :
    StepTime F × Status :=
  match decodeStatus publication with
  | none => (own, ⟨.invalidPlan, kTimeState⟩)
  | some (authorityStatus, wire) =>
    match decodeStepWire wire with
    | none => (own, ⟨.invalidPlan, kTimeState⟩)
    | some candidate =>
      if !authorityStatus.isOk then (candidate, authorityStatus)
      else if !c.validCandidate candidate then (candidate, ⟨.invalidPlan, kTimeState⟩)
      else (candidate, {})

/-- A return of `propose` without a step. -/
def proposeFailed (c : TimeController F) (status : Status) (lowest : ℤ) : ProposeResult F :=
  ⟨{ c with lowestFailingRank := lowest }, status, none, noDiagnostic⟩

/-- What a rank computes from its own limits before the first consensus. -/
def localProposal (c : TimeController F) (authority : List (TimeWord F)) (limits : LocalTimeLimits F) :
    Except Status (F × TimeLimit) :=
  if authority ≠ c.identity then .error ⟨.invalidPlan, kTimeIdentity⟩
  else if c.active then .error ⟨.invalidPlan, kTimeState⟩
  else c.plan.localCandidate limits

def localStatus (candidate : Except Status (F × TimeLimit)) : Status :=
  match candidate with
  | .error status => status
  | .ok _ => {}

def localDt (candidate : Except Status (F × TimeLimit)) : F :=
  match candidate with
  | .error _ => 0
  | .ok (dt, _) => dt

/-- Rank zero computes the proposal, the others hold a default one. -/
def ownProposal (c : TimeController F) (rank : ℕ) (globalDt : F) : Status × StepTime F :=
  if rank = 0 then c.propose0 globalDt else ({}, noStep)

def proposalWire (rank : ℕ) (own : Status × StepTime F) : List (TimeWord F) :=
  if rank = 0 then statusWire own.1 ++ stepWire own.2 else List.replicate 12 (.int 0)

/-- The end of `propose`, after the second consensus. -/
def proposeResult (c : TimeController F) (candidate : StepTime F) (status : Status) (lowest : ℤ) :
    ProposeResult F :=
  let diagnostic : TimeProposalDiagnostic F :=
    if status.isOk || status = ⟨.rejectedStep, kTimeMinimum⟩ then
      ⟨true, candidate.dt, c.plan.spec.minimumDt⟩
    else noDiagnostic
  if !status.isOk then { c.proposeFailed status lowest with diagnostic := diagnostic }
  else
    { controller := { c with lowestFailingRank := lowest, activeStep := candidate, active := true }
      status := status, out := some candidate, diagnostic := diagnostic }

def propose (c : TimeController F) (communicator : MpiComm) (limits : LocalTimeLimits F) :
    JobProg (TimeWord F) F (ProposeResult F) :=
  match communicator with
  | .null => .done (c.proposeFailed ⟨.invalidPlan, kTimeCollective⟩ (-1))
  | .broken => (Job.bcast 0 c.identity).bind fun _ => .done (c.proposeFailed collectiveFailure (-1))
  | .valid comm =>
    (Job.bcast 0 c.identity).bind fun
    | none => .done (c.proposeFailed collectiveFailure (-1))
    | some authority =>
      let candidate := c.localProposal authority limits
      (collectiveStatus comm (localStatus candidate)).bind fun (status, lowest) =>
      if !status.isOk then .done (c.proposeFailed status lowest)
      else
        (Job.allreduceMinDouble (localDt candidate)).bind fun
        | none => .done (c.proposeFailed collectiveFailure (-1))
        | some globalDt =>
          let own := c.ownProposal comm.rank globalDt
          (Job.bcast 0 (proposalWire comm.rank own)).bind fun
          | none => .done (c.proposeFailed collectiveFailure (-1))
          | some publication =>
            let checked := c.checkProposal own.2 publication
            (collectiveStatus comm checked.2).bind fun (status, lowest) =>
              .done (c.proposeResult checked.1 status lowest)

def matchesActive (c : TimeController F) (step : StepTime F) : Bool := c.active && step = c.activeStep

def finishIdentity (c : TimeController F) (step : StepTime F) : List (TimeWord F) :=
  c.identity ++ stepWire step

def matchesPrepared (c : TimeController F) (prepared : PreparedTimeFinish F) : Bool :=
  prepared.valid && prepared.commitReady && prepared.identity = c.finishIdentity prepared.proposal &&
    c.matchesActive prepared.proposal

def accept0 (c : TimeController F) (step : StepTime F) : Status × StepTime F :=
  if c.acceptedStep = maxU64 || c.nextGeneration = maxU64 then (⟨.invalidPlan, kTimeState⟩, noStep)
  else
    let candidate := { step with
      time := c.time + step.dt, acceptedStep := c.acceptedStep + 1, generation := c.nextGeneration + 1 }
    if !TimeReal.isFinite candidate.time || decide (candidate.time ≤ c.time) then
      (⟨.invalidPlan, kTimeState⟩, candidate)
    else ({}, candidate)

/-- The smaller step rank zero publishes. -/
def retry0 (c : TimeController F) (step : StepTime F) : Status × StepTime F :=
  let retryDt := step.dt * c.plan.spec.retryFactor
  if c.plan.spec.maximumRetries.toNat ≤ c.retryCount || c.nextGeneration = maxU64 then
    (⟨.rejectedStep, kTimeRetry⟩, noStep)
  else if !TimeSchemePlan.finitePositive retryDt || decide (retryDt < c.plan.spec.minimumDt) then
    (⟨.rejectedStep, kTimeMinimum⟩, noStep)
  else
    let candidate : StepTime F :=
      { time := c.time, dt := retryDt, acceptedStep := c.acceptedStep, attempt := c.retryCount + 1
        origin := .retry, bdf := noCoefficients, generation := c.nextGeneration + 1 }
    match c.coefficients retryDt true with
    | .error status => (status, candidate)
    | .ok bdf => ({}, { candidate with bdf := bdf })

def validAccept (c : TimeController F) (step candidate : StepTime F) : Bool :=
  TimeReal.isFinite candidate.time && decide (c.time < candidate.time) && candidate.dt = step.dt &&
    candidate.acceptedStep = c.acceptedStep + 1 && candidate.attempt = step.attempt &&
    candidate.origin = step.origin && candidate.bdf = step.bdf &&
    candidate.generation = c.nextGeneration + 1

def validRetry (c : TimeController F) (candidate : StepTime F) : Bool :=
  candidate.time = c.time && TimeSchemePlan.finitePositive candidate.dt &&
    decide (c.plan.spec.minimumDt ≤ candidate.dt) && candidate.acceptedStep = c.acceptedStep &&
    candidate.attempt = c.retryCount + 1 && candidate.origin = .retry &&
    TimeReal.isFinite candidate.bdf.a0 && TimeReal.isFinite candidate.bdf.a1 &&
    decide (0 < candidate.bdf.a0) && decide (candidate.bdf.a1 < 0) && candidate.bdf.a2 = 0 &&
    candidate.bdf.order = 1 && candidate.generation = c.nextGeneration + 1

/-- `publication[2]`. -/
inductive FinishKind where
  | fatal | accept | retry
  deriving DecidableEq

def FinishKind.toWire : FinishKind → ℕ
  | fatal => 0
  | accept => 1
  | retry => 2

def FinishKind.ofWire : ℕ → Option FinishKind
  | 0 => some fatal
  | 1 => some accept
  | 2 => some retry
  | _ => none

/-- What a rank knows after the publication. -/
structure CheckedFinish (F : Type) where
  authorityStatus : Status
  kind : FinishKind
  candidate : StepTime F
  brought : Status

/-- A publication of rank zero, checked by a receiver that has `own` status and step. -/
def checkFinish (c : TimeController F) (step : StepTime F) (own : Status × StepTime F)
    (publication : List (TimeWord F)) : CheckedFinish F :=
  let bad (status : Status) : CheckedFinish F := ⟨status, .fatal, own.2, ⟨.invalidPlan, kTimeState⟩⟩
  match decodeStatus publication with
  | some (authorityStatus, .int kind :: wire) =>
    match FinishKind.ofWire kind, decodeStepWire wire with
    | none, _ => bad own.1
    | some _, none => bad authorityStatus
    | some kind, some candidate =>
      let brought : Status :=
        if !authorityStatus.isOk then authorityStatus
        else if kind = .accept && !c.validAccept step candidate then ⟨.invalidPlan, kTimeState⟩
        else if kind = .retry && !c.validRetry candidate then ⟨.invalidPlan, kTimeState⟩
        else {}
      ⟨authorityStatus, kind, candidate, brought⟩
  | _ => bad own.1

/-- The status a rank brings to the decision, and its priority. -/
def finishOutcome (c : TimeController F) (authority : List (TimeWord F)) (step : StepTime F)
    (localOutcome : RawStatus) : Status × ℕ :=
  if authority ≠ c.finishIdentity step then (⟨.invalidPlan, kTimeIdentity⟩, 0)
  else if !c.matchesActive step then (⟨.invalidPlan, kTimeGeneration⟩, 0)
  else
    match validStatusCode localOutcome.code with
    | none => (⟨.invalidPlan, kTimeState⟩, 0)
    | some code => (⟨code, localOutcome.detail⟩, if code.retryable || code = .ok then 2 else 1)

/-- The certificate of a decision on `step`. -/
def certificate (c : TimeController F) (step candidate : StepTime F) (outcome : Status) (lowest : ℤ)
    (decision : TimeFinishDecision) (commitReady : Bool) : PreparedTimeFinish F where
  identity := c.finishIdentity step
  proposal := step
  candidate := candidate
  outcome := outcome
  lowestFailingRank := lowest
  decision := decision
  commitReady := commitReady
  validFlag := true
  consumed := false

/-- `accept` and `retry` of the code, as the word that is published. -/
def finishKind (decision : FinishDecision) : FinishKind :=
  if decision.lowest < 0 then .accept else if decision.status.code.retryable then .retry else .fatal

/-- Rank zero computes the next step, the others hold a default one. -/
def ownFinish (c : TimeController F) (rank : ℕ) (step : StepTime F) (decision : FinishDecision) :
    Status × StepTime F :=
  if rank ≠ 0 then (decision.status, noStep)
  else
    match finishKind decision with
    | .accept => c.accept0 step
    | .retry => c.retry0 step
    | .fatal => (decision.status, noStep)

def finishWire (rank : ℕ) (decision : FinishDecision) (own : Status × StepTime F) : List (TimeWord F) :=
  if rank = 0 then statusWire own.1 ++ (.int (finishKind decision).toWire :: stepWire own.2)
  else List.replicate 13 (.int 0)

/-- The end of `prepare_finish`, after the second consensus. -/
def finishResult (c : TimeController F) (step : StepTime F) (decision : FinishDecision)
    (checked : CheckedFinish F) (publishStatus : Status) (lowest : ℤ) : PrepareTimeResult F :=
  if publishStatus.code = .mpiFailure then ⟨publishStatus, none⟩
  else if !publishStatus.isOk then
    let lowest := if checked.authorityStatus.isOk then lowest
      else if 0 ≤ decision.lowest then decision.lowest else 0
    ⟨{}, some (c.certificate step checked.candidate publishStatus lowest .fatal
      (decision.selectedPriority ≠ 0 && !checked.authorityStatus.isOk))⟩
  else
    match checked.kind with
    | .fatal => ⟨{}, some (c.certificate step checked.candidate decision.status decision.lowest .fatal
        (decision.selectedPriority ≠ 0))⟩
    | .accept => ⟨{}, some (c.certificate step checked.candidate {} (-1) .accept true)⟩
    | .retry => ⟨{}, some (c.certificate step checked.candidate decision.status decision.lowest .retry true)⟩

/-- `out` is the caller's certificate, which must not be one that is still valid. -/
def prepareFinish (c : TimeController F) (communicator : MpiComm) (step : StepTime F)
    (localOutcome : RawStatus) (out : PreparedTimeFinish F) :
    JobProg (TimeWord F) F (PrepareTimeResult F) :=
  if out.valid then .done ⟨⟨.invalidPlan, kTimeState⟩, none⟩
  else
    match communicator with
    | .null => .done ⟨⟨.invalidPlan, kTimeCollective⟩, none⟩
    | .broken => (Job.bcast 0 (c.finishIdentity step)).bind fun _ => .done ⟨collectiveFailure, none⟩
    | .valid comm =>
      (Job.bcast 0 (c.finishIdentity step)).bind fun
      | none => .done ⟨collectiveFailure, none⟩
      | some authority =>
        let brought := c.finishOutcome authority step localOutcome
        (collectiveFinishDecision comm brought.1 brought.2).bind fun decision =>
        if decision.status.code = .mpiFailure then .done ⟨decision.status, none⟩
        else
          let own := c.ownFinish comm.rank step decision
          (Job.bcast 0 (finishWire comm.rank decision own)).bind fun
          | none => .done ⟨collectiveFailure, none⟩
          | some publication =>
            let checked := c.checkFinish step own publication
            (collectiveStatus comm checked.brought).bind fun (publishStatus, lowest) =>
              .done (c.finishResult step decision checked publishStatus lowest)

structure CommitResult (F : Type) where
  controller : TimeController F
  prepared : PreparedTimeFinish F
  next : Option (StepTime F) := none
  committed : Bool := false

def consume (prepared : PreparedTimeFinish F) : PreparedTimeFinish F :=
  { prepared with consumed := true, validFlag := false }

def commitAccept (c : TimeController F) (prepared : PreparedTimeFinish F) : CommitResult F :=
  if !(c.matchesPrepared prepared && prepared.decision = .accept) then { controller := c, prepared := prepared }
  else
    { controller :=
        { c with
          time := prepared.candidate.time, lastAcceptedDt := prepared.proposal.dt
          acceptedStep := prepared.candidate.acceptedStep
          nextGeneration := prepared.candidate.generation, retryCount := 0, lowestFailingRank := -1
          nextOrigin := .accepted, forceBackwardEuler := false, active := false, activeStep := noStep }
      prepared := consume prepared, committed := true }

def commitRetry (c : TimeController F) (prepared : PreparedTimeFinish F) : CommitResult F :=
  if !(c.matchesPrepared prepared && prepared.decision = .retry) then { controller := c, prepared := prepared }
  else
    { controller :=
        { c with
          retryCount := prepared.candidate.attempt, nextGeneration := prepared.candidate.generation
          lowestFailingRank := prepared.lowestFailingRank, nextOrigin := .retry
          forceBackwardEuler := true, activeStep := prepared.candidate, active := true }
      prepared := consume prepared, next := some prepared.candidate, committed := true }

def commitFatal (c : TimeController F) (prepared : PreparedTimeFinish F) : CommitResult F :=
  if !(c.matchesPrepared prepared && prepared.decision = .fatal) then { controller := c, prepared := prepared }
  else
    let retiredGeneration := prepared.proposal.generation
    { controller :=
        { c with
          nextGeneration := if retiredGeneration ≠ maxU64 then retiredGeneration + 1 else c.nextGeneration
          retryCount := 0, lowestFailingRank := prepared.lowestFailingRank, nextOrigin := .retry
          forceBackwardEuler := true, activeStep := noStep, active := false }
      prepared := consume prepared, committed := true }

/-- What `finish` does on one rank. -/
structure FinishResult (F : Type) where
  controller : TimeController F
  status : Status
  next : Option (StepTime F)
  committed : Option TimeFinishDecision

/-- What `finish` does with the outcome of its prepare phase. -/
def finishPrepared (c : TimeController F) (r : PrepareTimeResult F) : FinishResult F :=
  match r.out with
  | none => ⟨{ c with lowestFailingRank := -1 }, r.status, none, none⟩
  | some prepared =>
    match prepared.decision with
    | .accept =>
      let done := c.commitAccept prepared
      ⟨done.controller, {}, none, if done.committed then some .accept else none⟩
    | .retry =>
      let done := c.commitRetry prepared
      ⟨done.controller, {}, done.next, if done.committed then some .retry else none⟩
    | .fatal =>
      let done := c.commitFatal prepared
      ⟨done.controller, prepared.outcome, none, if done.committed then some .fatal else none⟩

def finish (c : TimeController F) (communicator : MpiComm) (step : StepTime F) (localOutcome : RawStatus) :
    JobProg (TimeWord F) F (FinishResult F) :=
  (c.prepareFinish communicator step localOutcome unpreparedFinish).bind fun r =>
    .done (c.finishPrepared r)

end TimeController

end HundunFlow
