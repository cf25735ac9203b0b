import HundunFlow.ExchangeBatch

/-!
# Certificates for routed rows

The plans and workspaces of one rank. A handle for routed rows points to the plan that it was taken
from and holds that plan's generation at the time; a workspace takes the rows only while the plan
still has this generation. Generations are numbers of 64 bits.
-/

namespace HundunFlow

open Lib

structure RoutedHandle (F : Type) where
  plan : ℕ
  rows : RoutedExchangeSegments F
  deriving DecidableEq

/-- The plans and workspaces of a rank by their addresses. -/
structure ExchangeObjects (F : Type) where
  plans : ℕ → OwnerExchangeRoutingPlan F
  workspaces : ℕ → ExchangeWorkspace

/-- `++generation_`. -/
def ExchangeWorkspace.next (w : ExchangeWorkspace) : ExchangeWorkspace := { w with generation := w.generation + 1 }

/-- `ExchangeWorkspace::current`, when the report points to cells of this workspace or not. -/
def ExchangeWorkspace.current {F : Type} (w : ExchangeWorkspace) (ownCells : Bool) (r : ExchangeBatchReport F) : Bool :=
  r.available && UInt64.ofNat r.generation = UInt64.ofNat w.generation && ownCells

namespace ExchangeObjects

variable {F : Type}

/-- `candidates` of one plan. -/
def candidates (o : ExchangeObjects F) (plan : ℕ) : Option (RoutedHandle F) :=
  (o.plans plan).candidates.map fun rows => ⟨plan, rows⟩

def holds (o : ExchangeObjects F) (revision : Revision) (handle : RoutedHandle F) : Bool :=
  UInt64.ofNat (o.plans handle.plan).generation = UInt64.ofNat handle.rows.capturedGeneration &&
    handle.rows.revision = revision

/-- `evaluate_routed`; a default handle is none. -/
def evaluateRouted [Field F] [LinearOrder F] (o : ExchangeObjects F) (w : ExchangeWorkspace) (revision : Revision)
    (cells : Span (ExchangeCell F)) (handle : Option (RoutedHandle F)) (atol rtol : F) : ExchangeBatchReport F :=
  match handle with
  | none => ExchangeWorkspace.fail (w.generation + 1) revision (.staleRevision, 0)
  | some handle =>
    if o.holds revision handle then w.evaluateImpl revision cells (.of handle.rows.data) atol rtol false
    else ExchangeWorkspace.fail (w.generation + 1) revision (.staleRevision, 0)

end ExchangeObjects

inductive CertificateOp (F : Type) where
  | configure (plan : ℕ) (communicator : Option RankComm) (input : OwnerExchangeRoutingPlan.ConfigureInput)
  | prepare (plan : ℕ) (revision : Revision) (input : Span (ExchangeSegment F))
  | discard (plan : ℕ)
  | evaluate (workspace : ℕ) (revision : Revision) (cells : Span (ExchangeCell F)) (segments : Span (ExchangeSegment F))
      (atol rtol : F)
  | evaluateRouted (workspace : ℕ) (revision : Revision) (cells : Span (ExchangeCell F))
      (handle : Option (RoutedHandle F)) (atol rtol : F)

inductive CertificateResult (F : Type) where
  | configured (status : Status)
  | prepared (status : Portable.Status)
  | discarded
  | evaluated (report : ExchangeBatchReport F)

abbrev CertificateEvent (F : Type) := CertificateOp F × CertificateResult F

abbrev AnyReply {F : Type} : JobRequest (Lane F) Unit → JobReply (Lane F) Unit → Prop := fun _ _ => True

section Steps

variable {F : Type} [Field F] [LinearOrder F] (sizes : OwnerExchangeRoutingPlan.ObjectSizes)

/-- One call on the objects of a rank, with its result. -/
inductive CertificateStep (o : ExchangeObjects F) : CertificateEvent F → ExchangeObjects F → Prop where
  | configure (plan : ℕ) (communicator : Option RankComm) (input : OwnerExchangeRoutingPlan.ConfigureInput) (after : OwnerExchangeRoutingPlan F)
      (status : Status)
      (h : Prog.Local AnyReply ((o.plans plan).configure sizes communicator input) (some (after, status))) :
      CertificateStep o (.configure plan communicator input, .configured status)
        { o with plans := Function.update o.plans plan after }
  | prepare (plan : ℕ) (revision : Revision) (input : Span (ExchangeSegment F)) (after : OwnerExchangeRoutingPlan F)
      (status : Portable.Status)
      (h : Prog.Local AnyReply ((o.plans plan).prepare revision input) (some (after, status))) :
      CertificateStep o (.prepare plan revision input, .prepared status)
        { o with plans := Function.update o.plans plan after }
  | discard (plan : ℕ) :
      CertificateStep o (.discard plan, .discarded)
        { o with plans := Function.update o.plans plan (o.plans plan).discard }
  | evaluate (workspace : ℕ) (revision : Revision) (cells : Span (ExchangeCell F)) (segments : Span (ExchangeSegment F))
      (atol rtol : F) :
      CertificateStep o (.evaluate workspace revision cells segments atol rtol,
          .evaluated ((o.workspaces workspace).evaluate revision cells segments atol rtol))
        { o with workspaces := Function.update o.workspaces workspace (o.workspaces workspace).next }
  | evaluateRouted (workspace : ℕ) (revision : Revision) (cells : Span (ExchangeCell F))
      (handle : Option (RoutedHandle F)) (atol rtol : F) :
      CertificateStep o (.evaluateRouted workspace revision cells handle atol rtol,
          .evaluated (o.evaluateRouted (o.workspaces workspace) revision cells handle atol rtol))
        { o with workspaces := Function.update o.workspaces workspace (o.workspaces workspace).next }

/-- The calls of a rank one after the other. -/
inductive CertificateRun : ExchangeObjects F → List (CertificateEvent F) → ExchangeObjects F → Prop where
  | nil (o : ExchangeObjects F) : CertificateRun o [] o
  | cons {o between after : ExchangeObjects F} {event : CertificateEvent F} {events : List (CertificateEvent F)}
      (h : CertificateStep sizes o event between) (hrun : CertificateRun between events after) :
      CertificateRun o (event :: events) after

end Steps

/-- The calls that give a plan another generation. -/
def renewsPlan {F : Type} (plan : ℕ) : CertificateEvent F → Bool
  | (.configure p _ _, .configured status) => p = plan && status = {}
  | (.prepare p _ _, _) => p = plan
  | (.discard p, _) => p = plan
  | _ => false

/-- The calls that give a workspace another generation. -/
def evaluatesOn {F : Type} (workspace : ℕ) : CertificateEvent F → Bool
  | (.evaluate k _ _ _ _ _, _) => k = workspace
  | (.evaluateRouted k _ _ _ _ _, _) => k = workspace
  | _ => false

/-- The last call that gave a plan another generation. -/
def lastRenewal {F : Type} (plan : ℕ) (events : List (CertificateEvent F)) : Option (CertificateEvent F) :=
  (events.filter (renewsPlan plan)).getLast?

end HundunFlow
