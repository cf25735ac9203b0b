import HundunFlow.Transaction
import HundunFlow.Lib.Execution

/-!
# The attempt machine

The transaction together with what it works on: the state layers, the certificates its
callers hold, and the counter `issue_identity` draws from. `AttemptOp.run` is one call on
these objects and `Attempt.Step` is what one rank can observe of it, whatever the other
ranks contribute to a collective.
-/

namespace HundunFlow

open Lib

structure Attempt where
  transaction : AttemptTransaction := {}
  layers : ℕ → StateLayers := fun _ => {}
  prepared : ℕ → PreparedAttemptFinish := fun _ => {}
  nextIdentity : ℕ := 1

structure CommitResult where
  attempt : Attempt
  prepared : PreparedAttemptFinish
  completions : List Bool

structure AttemptResult where
  attempt : Attempt
  status : Status := {}
  completions : List Bool := []

namespace Attempt

/-- `*layers_`. -/
def current (a : Attempt) : StateLayers := (a.transaction.layers.map a.layers).getD {}

def setLayers (a : Attempt) (ref : ℕ) (layers : StateLayers) : Attempt :=
  { a with layers := Function.update a.layers ref layers }

/-- Store to `*layers_`. -/
def setCurrent (a : Attempt) (layers : StateLayers) : Attempt :=
  match a.transaction.layers with
  | some ref => a.setLayers ref layers
  | none => a

def begin (a : Attempt) (ref : ℕ) : Attempt × Status :=
  if a.transaction.active then
    match a.transaction.latch ⟨.invalidPlan, kTransactionState⟩ with
    | (t, status) => ({ a with transaction := t }, status)
  else
    match issueIdentity a.nextIdentity with
    | (identity, next) =>
      match a.transaction.beginIdle ref identity (a.layers ref) with
      | (t, layers, status) =>
        ({ a with transaction := t, nextIdentity := next }.setLayers ref layers, status)

def reviseTrial (a : Attempt) (field : ℕ) : Attempt × Status :=
  match a.transaction.reviseTrial a.current field with
  | (t, layers, status) => ({ a.setCurrent layers with transaction := t }, status)

def commitAccept (a : Attempt) (prepared : PreparedAttemptFinish) : CommitResult :=
  if !(a.transaction.matchesPrepared prepared && prepared.decision = .accept &&
      a.transaction.locallyActive) then ⟨a, prepared, []⟩
  else
    let t := a.transaction
    -- `active_caches_` and the commit buffer are swapped after the copy
    ⟨{ a.setCurrent a.current.rotateCommit with
        transaction := { t with
          activeCaches := t.pendingCaches
          active := false
          layers := none
          finished := true
          committed := true
          lowestFailingRank := -1 } },
      { prepared with consumed := true, isValid := false }, t.completion true⟩

def commitReject (a : Attempt) (prepared : PreparedAttemptFinish) : CommitResult :=
  if !a.transaction.matchesPrepared prepared then ⟨a, prepared, []⟩
  else
    let lowest := if prepared.decision = .reject then prepared.lowestFailingRank else -1
    ⟨{ a with transaction := { a.transaction.discardAttempt with lowestFailingRank := lowest } },
      { prepared with consumed := true, isValid := false }, a.transaction.completion false⟩

def collectivePrepare (a : Attempt) (writerReady : Bool) (communicator : MpiComm)
    (localStatus : RawStatus) (out : PreparedAttemptFinish) : MpiProg PrepareResult :=
  a.transaction.collectivePrepare a.current writerReady communicator localStatus out

/-- The rest of `collective_finish` once the decision is known. -/
def finishPrepared (a : Attempt) (r : PrepareResult) : AttemptResult :=
  let a := { a with transaction := r.transaction }
  if !r.status.isOk then
    ⟨{ a with transaction := { r.transaction.discardAttempt with lowestFailingRank := -1 } },
      r.status, r.completions ++ r.transaction.completion false⟩
  else if r.prepared.decision = .accept then
    let c := a.commitAccept r.prepared
    ⟨c.attempt, {}, r.completions ++ c.completions⟩
  else
    let c := a.commitReject r.prepared
    ⟨c.attempt, r.prepared.outcome, r.completions ++ c.completions⟩

def collectiveFinish (a : Attempt) (writerReady : Bool) (communicator : MpiComm)
    (localStatus : RawStatus) : MpiProg AttemptResult :=
  (a.collectivePrepare writerReady communicator localStatus {}).bind fun r =>
    .done (a.finishPrepared r)

end Attempt

/-- The public operations, and what a claimed writer does to its transaction. `prepare`,
`commitAccept` and `commitReject` name the certificate they are given; `issueIdentity` is
some other object taking an identity. -/
inductive AttemptOp where
  | begin (ref : ℕ)
  | reviseTrial (field : ℕ)
  | reviseRuntime (ref : ℕ) (lifetime : FieldLifetime) (field : ℕ)
  | bindDependency (d : RevisionDependency)
  | publish (slot : ℕ) (dependencies : List RevisionDependency) (stamp : ℕ)
  | publishFinal (slot : ℕ) (dependencies : List RevisionDependency) (stamp writerIdentity : ℕ)
  | claim (slot : ℕ)
  | detach (failActive : Bool)
  | invalidate
  | prepare (certificate : ℕ) (writerReady : Bool) (communicator : MpiComm) (localStatus : RawStatus)
  | commitAccept (certificate : ℕ)
  | commitReject (certificate : ℕ)
  | finish (writerReady : Bool) (communicator : MpiComm) (localStatus : RawStatus)
  | issueIdentity

namespace Attempt

def withTransaction (a : Attempt) (r : AttemptTransaction × Status) : AttemptResult :=
  ⟨{ a with transaction := r.1 }, r.2, []⟩

def setPrepared (a : Attempt) (certificate : ℕ) (p : PreparedAttemptFinish) : Attempt :=
  { a with prepared := Function.update a.prepared certificate p }

def commit (certificate : ℕ) (c : CommitResult) : AttemptResult :=
  ⟨c.attempt.setPrepared certificate c.prepared, {}, c.completions⟩

/-- `FinalFaceFluxAuthority::claim` on an authority and a writer not used before: draw an
identity, then claim the slot. -/
def claim (a : Attempt) (slot : ℕ) : AttemptResult :=
  match HundunFlow.issueIdentity a.nextIdentity with
  | (identity, next) =>
    { a with nextIdentity := next }.withTransaction
      (a.transaction.claimFinalFaceFluxWriter slot identity)

end Attempt

open Attempt in
def AttemptOp.run (a : Attempt) : AttemptOp → MpiProg AttemptResult
  | .begin ref => .done ⟨(a.begin ref).1, (a.begin ref).2, []⟩
  | .reviseTrial field => .done ⟨(a.reviseTrial field).1, (a.reviseTrial field).2, []⟩
  | .reviseRuntime ref lifetime field =>
    let r := (a.layers ref).reviseRuntime lifetime field
    .done ⟨a.setLayers ref r.1, r.2, []⟩
  | .bindDependency d => .done (a.withTransaction (a.transaction.bindDependency d))
  | .publish slot dependencies stamp =>
    .done (a.withTransaction (a.transaction.publishPendingCache slot dependencies stamp))
  | .publishFinal slot dependencies stamp identity =>
    .done (a.withTransaction
      (a.transaction.publishFinalFaceFluxCache slot dependencies stamp identity))
  | .claim slot => .done (a.claim slot)
  | .detach failActive =>
    .done (a.withTransaction (a.transaction.detachFinalFaceFluxWriter failActive, {}))
  | .invalidate => .done (a.withTransaction (a.transaction.invalidateFinalFaceFluxWriter, {}))
  | .prepare i ready communicator localStatus =>
    (a.collectivePrepare ready communicator localStatus (a.prepared i)).bind fun r =>
      .done ⟨{ a with transaction := r.transaction }.setPrepared i r.prepared, r.status, r.completions⟩
  | .commitAccept i => .done (Attempt.commit i (a.commitAccept (a.prepared i)))
  | .commitReject i => .done (Attempt.commit i (a.commitReject (a.prepared i)))
  | .finish ready communicator localStatus => a.collectiveFinish ready communicator localStatus
  | .issueIdentity => .done ⟨{ a with nextIdentity := (HundunFlow.issueIdentity a.nextIdentity).2 }, {}, []⟩

/-- The collectives of a communicator keep what `MpiFaithful` says of this rank. -/
def MpiComm.Faithful (communicator : MpiComm) (q : MpiRequest) (r : MpiReply) : Prop :=
  match communicator with
  | .valid c => MpiFaithful c.rank q r
  | _ => False

def AttemptOp.communicator : AttemptOp → MpiComm
  | .prepare _ _ communicator _ => communicator
  | .finish _ communicator _ => communicator
  | _ => .null

def AttemptOp.Returns (a : Attempt) (op : AttemptOp) (r : AttemptResult) : Prop :=
  (op.run a).Local op.communicator.Faithful r

def Attempt.Step (a : Attempt) (op : AttemptOp) (a' : Attempt) : Prop :=
  ∃ r, op.Returns a r ∧ r.attempt = a'

/-- Before the first call: a transaction just created, layers empty or just allocated, no
certificate prepared. -/
structure Attempt.Initial (a : Attempt) : Prop where
  transaction : ∃ fields slots sources,
    AttemptTransaction.create fields slots sources true {} = (a.transaction, {})
  layers : ∀ ref, a.layers ref = {} ∨
    ∃ layout identity, StateLayers.allocate layout identity true = .ok (a.layers ref)
  prepared : ∀ i, a.prepared i = {}
  nextIdentity : 0 < a.nextIdentity

def Attempt.Accepted (a a' : Attempt) : Prop :=
  a.transaction.active = true ∧ a'.transaction.active = false ∧ a'.transaction.committed = true

/-! ### Several transactions -/

/-- `owners` is the transaction that `owner_` of a certificate points to. -/
structure Attempts where
  transactions : ℕ → AttemptTransaction := fun _ => {}
  layers : ℕ → StateLayers := fun _ => {}
  prepared : ℕ → PreparedAttemptFinish := fun _ => {}
  owners : ℕ → Option ℕ := fun _ => none
  nextIdentity : ℕ := 1

structure AttemptsOp where
  transaction : ℕ
  call : AttemptOp

namespace Attempts

/-- The machine as the calls on the transaction `i` see it. -/
def view (s : Attempts) (i : ℕ) : Attempt where
  transaction := s.transactions i
  layers := s.layers
  prepared := fun c => { s.prepared c with owner := s.owners c = some i }
  nextIdentity := s.nextIdentity

/-- The machine after a call on the transaction `i` that leaves `a`. -/
def put (s : Attempts) (i : ℕ) (a : Attempt) : Attempts where
  transactions := Function.update s.transactions i a.transaction
  layers := a.layers
  prepared := a.prepared
  owners := fun c => if (a.prepared c).owner then some i else s.owners c
  nextIdentity := a.nextIdentity

def Step (s : Attempts) (op : AttemptsOp) (s' : Attempts) : Prop :=
  ∃ a, Attempt.Step (s.view op.transaction) op.call a ∧ s' = s.put op.transaction a

def Initial (s : Attempts) : Prop := ∀ i, (s.view i).Initial

end Attempts

end HundunFlow
