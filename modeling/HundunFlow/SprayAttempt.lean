import HundunFlow.FluxRun
import HundunFlow.Injector

/-!
# The end of a spray attempt

The gas transaction, the parcels and the injectors of a rank end an attempt together: what can
fail on a rank is collected before the vote, and after the vote all three are published or all
three are rolled back.
-/

namespace HundunFlow

/-- A span of pointers; `none` is the null pointer. -/
structure InjectorSpan where
  data : Option (ℕ → Option ℕ)
  size : ℕ

namespace InjectorSpan

/-- `valid_span`. -/
def isValid (span : InjectorSpan) : Bool := span.size = 0 || span.data.isSome

def entries (span : InjectorSpan) : List (Option ℕ) :=
  match span.data with
  | none => []
  | some data => (List.range span.size).map data

end InjectorSpan

structure SprayAttemptFinishReport where
  status : Status := {}
  committed : Bool := false
  lowestFailingRank : ℤ := -1
  deriving DecidableEq

structure SprayRank (F : Type) where
  gas : FluxWorld F
  parcels : ParcelContainer F
  injectors : ℕ → DeterministicInjector F

structure SprayFinish (F : Type) where
  rank : SprayRank F
  report : SprayAttemptFinishReport
  status : Status

/-- `local && ...`, where the caller's status may have any code. -/
def includeFailure (candidate : Status) (localStatus : RawStatus) : RawStatus :=
  let retryable := (validStatusCode localStatus.code).any StatusCode.retryable
  if !candidate.isOk && (localStatus.code = 0 || (retryable && !candidate.code.retryable)) then candidate.raw
  else localStatus

variable {F : Type} [Field F] [LinearOrder F] [SprayMath F]

/-- One round of the loop over the injectors, after those in `before`. -/
def checkInjector (injectors : ℕ → DeterministicInjector F) (before : List (Option ℕ)) (entry : Option ℕ)
    (localStatus : RawStatus) : RawStatus :=
  match entry with
  | none => includeFailure ⟨.invalidPlan, 26201⟩ localStatus
  | some ref =>
    let localStatus := before.foldl
      (fun localStatus earlier =>
        if earlier = some ref then includeFailure ⟨.invalidPlan, 26202⟩ localStatus else localStatus) localStatus
    includeFailure (injectors ref).preflightCommit localStatus

def checkInjectors (injectors : ℕ → DeterministicInjector F) (before : List (Option ℕ)) :
    List (Option ℕ) → RawStatus → RawStatus
  | [], localStatus => localStatus
  | entry :: rest, localStatus =>
    checkInjectors injectors (before ++ [entry]) rest (checkInjector injectors before entry localStatus)

/-- A loop that changes the object behind every pointer that is not null. -/
def forEachInjector (f : DeterministicInjector F → DeterministicInjector F) (entries : List (Option ℕ))
    (injectors : ℕ → DeterministicInjector F) : ℕ → DeterministicInjector F :=
  entries.foldl
    (fun injectors entry =>
      match entry with
      | none => injectors
      | some ref => Function.update injectors ref (f (injectors ref))) injectors

namespace SprayRank

def preflight (s : SprayRank F) (span : InjectorSpan) (localStatus : RawStatus) : RawStatus :=
  let localStatus := includeFailure s.parcels.preflightCommit localStatus
  if !span.isValid then includeFailure ⟨.invalidPlan, 26200⟩ localStatus
  else checkInjectors s.injectors [] span.entries localStatus

/-- What a commit of the gas transaction leaves, with the completions it made on the writer. -/
def afterCommit (s : SprayRank F) (c : CommitResult) : SprayRank F :=
  { s with gas := { s.gas with attempt := c.attempt }.completions c.completions }

def publish (s : SprayRank F) (span : InjectorSpan) : SprayRank F :=
  { s with
    parcels := s.parcels.publishPreflightedTrial
    injectors := forEachInjector DeterministicInjector.publishPreflightedTrial span.entries s.injectors }

def rollback (s : SprayRank F) (span : InjectorSpan) : SprayRank F :=
  { s with
    parcels := if s.parcels.trialActive then s.parcels.rollbackTrial.1 else s.parcels
    injectors :=
      if span.isValid then
        forEachInjector (fun injector => if injector.trialActive then injector.rollbackTrial.1 else injector)
          span.entries s.injectors
      else s.injectors }

/-- The rest of `finish_spray_attempt` once the decision is known. -/
def finishPrepared (s : SprayRank F) (span : InjectorSpan) (r : PrepareResult) : SprayFinish F :=
  let s := { s with gas :=
    { s.gas with attempt := { s.gas.attempt with transaction := r.transaction } }.completions r.completions }
  if r.status.isOk && r.prepared.decision = .accept then
    ⟨(s.afterCommit (s.gas.attempt.commitAccept r.prepared)).publish span, { committed := true }, {}⟩
  else
    let status := if r.status.isOk then r.prepared.outcome else r.status
    let lowest := if r.status.isOk then r.prepared.lowestFailingRank else -1
    let s := if r.status.isOk then s.afterCommit (s.gas.attempt.commitReject r.prepared) else s
    ⟨s.rollback span, { status := status, lowestFailingRank := lowest }, status⟩

def finishSprayAttempt (s : SprayRank F) (communicator : MpiComm) (span : InjectorSpan)
    (localStatus : RawStatus) : MpiProg (SprayFinish F) :=
  (s.gas.attempt.collectivePrepare s.gas.readyForCollective communicator (s.preflight span localStatus) {}).bind
    fun r => .done (s.finishPrepared span r)

end SprayRank

end HundunFlow
