import HundunFlow.TimeControl
import HundunFlow.Lib.Execution

/-!
# Runs of the time controller

The ranks of a job call `propose`, `prepare_finish` and `finish` together. Between two of
these calls every rank commits the certificates it holds, in an order of its own, or leaves
them unused. A call tells the caller on each rank what became of the proposal.
-/

namespace HundunFlow

open Lib

variable {F : Type} [Field F] [LinearOrder F] [TimeReal F] {n : ℕ}

/-- What a call tells the caller on one rank. -/
inductive TimeEvent (F : Type) where
  | issued (step : StepTime F)
  | retried (step : StepTime F)
  | accepted
  | abandoned
  deriving DecidableEq

def TimeEvent.step : TimeEvent F → Option (StepTime F)
  | issued step => some step
  | retried step => some step
  | accepted => none
  | abandoned => none

/-- The controller of one rank and the certificates its caller has prepared so far. -/
structure TimeRank (F : Type) where
  controller : TimeController F
  certificates : List (PreparedTimeFinish F) := []
  deriving DecidableEq

inductive TimeJobOp (F : Type) (n : ℕ) where
  | propose (limits : Fin n → LocalTimeLimits F)
  | prepareFinish (step : Fin n → StepTime F) (localOutcome : Fin n → RawStatus)
  | finish (step : Fin n → StepTime F) (localOutcome : Fin n → RawStatus)
  | commit (decision : TimeFinishDecision) (rank : Fin n) (certificate : ℕ)

structure TimeJobCall (F : Type) (n : ℕ) where
  op : TimeJobOp F n
  event : Fin n → Option (TimeEvent F)

def finishEvent (committed : Option TimeFinishDecision) (next : Option (StepTime F)) :
    Option (TimeEvent F) :=
  match committed with
  | none => none
  | some .accept => some .accepted
  | some .retry => next.map .retried
  | some .fatal => some .abandoned

namespace TimeController

def commitOf (decision : TimeFinishDecision) (c : TimeController F) (prepared : PreparedTimeFinish F) :
    CommitResult F :=
  match decision with
  | .accept => c.commitAccept prepared
  | .retry => c.commitRetry prepared
  | .fatal => c.commitFatal prepared

end TimeController

namespace TimeRank

def record (rank : TimeRank F) (result : PrepareTimeResult F) : TimeRank F :=
  { rank with certificates := rank.certificates ++ result.out.toList }

def commit (rank : TimeRank F) (decision : TimeFinishDecision) (certificate : ℕ) :
    TimeRank F × Option (TimeEvent F) :=
  match rank.certificates[certificate]? with
  | none => (rank, none)
  | some prepared =>
    let done := rank.controller.commitOf decision prepared
    (⟨done.controller, rank.certificates.set certificate done.prepared⟩,
      finishEvent (if done.committed then some decision else none) done.next)

end TimeRank

inductive TimeJobStep (hn : 0 < n) (hsize : n < 2 ^ 31) :
    (Fin n → TimeRank F) → TimeJobCall F n → (Fin n → TimeRank F) → Prop where
  | propose (s : Fin n → TimeRank F) (limits : Fin n → LocalTimeLimits F) (trace : List JobSignature)
      (r : Fin n → ProposeResult F)
      (h : (mpiJob hn).Run
        (fun i => (s i).controller.propose (.valid (jobComm hsize i)) (limits i)) trace r) :
      TimeJobStep hn hsize s ⟨.propose limits, fun i => (r i).out.map .issued⟩
        (fun i => { s i with controller := (r i).controller })
  | prepareFinish (s : Fin n → TimeRank F) (step : Fin n → StepTime F)
      (localOutcome : Fin n → RawStatus) (trace : List JobSignature) (r : Fin n → PrepareTimeResult F)
      (h : (mpiJob hn).Run
        (fun i => (s i).controller.prepareFinish (.valid (jobComm hsize i)) (step i) (localOutcome i)
          TimeController.unpreparedFinish) trace r) :
      TimeJobStep hn hsize s ⟨.prepareFinish step localOutcome, fun _ => none⟩
        (fun i => (s i).record (r i))
  | finish (s : Fin n → TimeRank F) (step : Fin n → StepTime F) (localOutcome : Fin n → RawStatus)
      (trace : List JobSignature) (r : Fin n → TimeController.FinishResult F)
      (h : (mpiJob hn).Run
        (fun i => (s i).controller.finish (.valid (jobComm hsize i)) (step i) (localOutcome i)) trace r) :
      TimeJobStep hn hsize s
        ⟨.finish step localOutcome, fun i => finishEvent (r i).committed (r i).next⟩
        (fun i => { s i with controller := (r i).controller })
  | commit (s : Fin n → TimeRank F) (decision : TimeFinishDecision) (rank : Fin n) (certificate : ℕ) :
      TimeJobStep hn hsize s
        ⟨.commit decision rank certificate,
          Function.update (fun _ => none) rank ((s rank).commit decision certificate).2⟩
        (Function.update s rank ((s rank).commit decision certificate).1)

/-- The states `start`, `restart` and `restart_exact` create. -/
inductive TimeController.Initial (plan : TimeSchemePlan F) : TimeController F → Prop where
  | start (time : F) (c : TimeController F) (h : TimeController.start plan time = .ok c) : Initial plan c
  | restart (time lastAcceptedDt : F) (acceptedStep : ℕ) (c : TimeController F)
      (h : TimeController.restart plan time lastAcceptedDt acceptedStep = .ok c) : Initial plan c
  | restartExact (time lastAcceptedDt : F) (acceptedStep nextGeneration : ℕ) (c : TimeController F)
      (h : TimeController.restartExact plan time lastAcceptedDt acceptedStep nextGeneration = .ok c) :
      Initial plan c

/-- What the caller on rank `i` has been told, in order. -/
def timeEvents (i : Fin n) (t : List (Transition (Fin n → TimeRank F) (TimeJobCall F n))) :
    List (TimeEvent F) :=
  t.filterMap fun tr => tr.op.event i

end HundunFlow
