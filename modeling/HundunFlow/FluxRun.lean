import HundunFlow.FinalFaceFlux

/-!
# Runs of the final flux

The calls a program can make on one transaction, one writer and any number of storages and
pending views, in any order, up to the destructors. A call on an object needs the object to
be alive. Whether the writer is ready enters the collectives from the world itself, and a
commit hands its completions to the writer.
-/

namespace HundunFlow

open Lib

inductive FluxOp (F : Type) where
  -- calls on the transaction and the layers
  | begin (ref : ℕ)
  | reviseTrial (field : ℕ)
  | reviseRuntime (ref : ℕ) (lifetime : FieldLifetime) (field : ℕ)
  | bindDependency (d : RevisionDependency)
  | publish (slot : ℕ) (dependencies : List RevisionDependency) (stamp : ℕ)
  | prepare (certificate : ℕ) (communicator : MpiComm) (localStatus : RawStatus)
  | commitAccept (certificate : ℕ)
  | commitReject (certificate : ℕ)
  | finish (communicator : MpiComm) (localStatus : RawStatus)
  | issueIdentity
  -- calls on the writer
  | claim (stage slot : ℕ)
  | beginPending (storage view : ℕ)
  | copyPending (source : FaceFluxView) (view : ℕ)
  | publishPending (dependencies : List RevisionDependency) (view : ℕ)
  | initializeCommitted (storage : ℕ) (source : FaceFluxView)
  | initializeRestored (storage : ℕ) (source : FaceFluxView)
  | initializeRestoredHistory (storage : ℕ) (accepted previous : FaceFluxView)
  -- calls on storages, views and memory
  | writePending (view : ℕ) (writes : List (FluxWorld.FaceWrite F))
  | allocateFinal (storage : ℕ) (cells : Int3) (memory : Bool)
  | store (id offset : ℕ) (value : F)
  | destroyWriter
  | destroyStorage (storage : ℕ)
  | destroyView (view : ℕ)

structure FluxResult (F : Type) where
  world : FluxWorld F
  status : Status := {}

namespace FluxWorld

variable {F : Type}

/-- What a call on the transaction returned, with the completions it made on the writer. -/
def afterCall (w : FluxWorld F) (r : AttemptResult) : FluxResult F :=
  ⟨{ w with attempt := r.attempt }.completions r.completions, r.status⟩

def call (w : FluxWorld F) (op : AttemptOp) : MpiProg (FluxResult F) :=
  (op.run w.attempt).bind fun r => .done (w.afterCall r)

def returned (r : FluxWorld F × Status) : MpiProg (FluxResult F) := .done ⟨r.1, r.2⟩

/-- A store by the rest of the program, which has no pointer into a final storage. -/
def store (w : FluxWorld F) (id offset : ℕ) (value : F) : FluxWorld F :=
  { w with memory := Function.update w.memory ⟨.external id, offset⟩ value }

def collectiveFinish (w : FluxWorld F) (communicator : MpiComm) (localStatus : RawStatus) :
    MpiProg (FluxResult F) :=
  w.call (.finish w.readyForCollective communicator localStatus)

def Accepted (w w' : FluxWorld F) : Prop := Attempt.Accepted w.attempt w'.attempt

/-- Before the first call: a transaction just created, and objects default constructed. -/
structure Initial (w : FluxWorld F) : Prop where
  attempt : w.attempt.Initial
  writer : w.writer = {}
  storages : ∀ ref, w.storages ref = {}
  views : ∀ ref, w.views ref = {}

end FluxWorld

namespace FluxOp

variable {F : Type}

open FluxWorld in
def run [FaceValue F] (w : FluxWorld F) : FluxOp F → MpiProg (FluxResult F)
  | .begin ref => w.call (.begin ref)
  | .reviseTrial field => w.call (.reviseTrial field)
  | .reviseRuntime ref lifetime field => w.call (.reviseRuntime ref lifetime field)
  | .bindDependency d => w.call (.bindDependency d)
  | .publish slot dependencies stamp => w.call (.publish slot dependencies stamp)
  | .prepare i communicator s => w.call (.prepare i w.readyForCollective communicator s)
  | .commitAccept i => w.call (.commitAccept i)
  | .commitReject i => w.call (.commitReject i)
  | .finish communicator s => w.collectiveFinish communicator s
  | .issueIdentity => w.call .issueIdentity
  | .claim stage slot => returned (w.claim stage slot)
  | .beginPending storage view => returned (w.beginPending storage view)
  | .copyPending source view => returned (w.copyPending source view)
  | .publishPending dependencies view => returned (w.publishPending dependencies view)
  | .initializeCommitted storage source => returned (w.initializeCommitted storage source)
  | .initializeRestored storage source => returned (w.initializeRestored storage source)
  | .initializeRestoredHistory storage accepted previous =>
    returned (w.initializeRestoredHistory storage accepted previous)
  | .writePending view writes => returned (w.writePending view writes)
  | .allocateFinal storage cells memory => returned (w.allocateFinal storage cells memory)
  | .store id offset value => .done ⟨w.store id offset value, {}⟩
  | .destroyWriter => .done ⟨w.destroyWriter, {}⟩
  | .destroyStorage storage => .done ⟨w.destroyStorage storage, {}⟩
  | .destroyView view => .done ⟨w.destroyView view, {}⟩

/-- The objects the call is made on, or is given, exist. -/
def Enabled (w : FluxWorld F) : FluxOp F → Prop
  | .claim _ _ | .destroyWriter => w.writer.alive = true
  | .beginPending storage view =>
    w.writer.alive = true ∧ (w.storages storage).alive = true ∧ (w.views view).alive = true
  | .copyPending _ view | .publishPending _ view =>
    w.writer.alive = true ∧ (w.views view).alive = true
  | .initializeCommitted storage _ | .initializeRestored storage _ |
      .initializeRestoredHistory storage _ _ =>
    w.writer.alive = true ∧ (w.storages storage).alive = true
  | .allocateFinal storage _ _ | .destroyStorage storage => (w.storages storage).alive = true
  | .writePending view _ | .destroyView view => (w.views view).alive = true
  | _ => True

def communicator : FluxOp F → MpiComm
  | .prepare _ communicator _ => communicator
  | .finish communicator _ => communicator
  | _ => .null

def Returns [FaceValue F] (w : FluxWorld F) (op : FluxOp F) (r : FluxResult F) : Prop :=
  op.Enabled w ∧ (op.run w).Local op.communicator.Faithful r

/-- The storage argument of a call. -/
def storage? : FluxOp F → Option ℕ
  | .beginPending storage _ | .initializeCommitted storage _ | .initializeRestored storage _ |
      .initializeRestoredHistory storage _ _ | .allocateFinal storage _ _ |
      .destroyStorage storage => some storage
  | _ => none

/-- The call works on no other storage than `ref`. -/
def OnStorage (ref : ℕ) (op : FluxOp F) : Prop := ∀ s, op.storage? = some s → s = ref

end FluxOp

def FluxWorld.Step {F : Type} [FaceValue F] (w : FluxWorld F) (op : FluxOp F) (w' : FluxWorld F) :
    Prop :=
  ∃ r, op.Returns w r ∧ r.world = w'

end HundunFlow
