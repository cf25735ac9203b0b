import HundunFlow.Mpi
import HundunFlow.StateLayers

/-!
# Attempts on the state

An `AttemptTransaction` collects the revisions and caches of one attempted step and lets
all ranks decide together whether the trial becomes the accepted state. `begin` opens an
attempt, `collective_prepare` reaches the decision, and the two commits carry it out. The
functions follow the source one by one; `assert`s are compiled out and the guard behind
each of them is kept.

Pointers become references: a `StateLayers*` is an index into the layers in use, and the
pointer to the claimed writer is a flag, since at most one writer is ever claimed. The
calls a commit makes on that writer are returned as `completions`.
-/

namespace HundunFlow

def kTransactionState : UInt32 := 1
def kTransactionCacheSlot : UInt32 := 2
def kTransactionCacheRevision : UInt32 := 3
def kTransactionMpi : UInt32 := 4
def kTransactionIncompleteState : UInt32 := 5

structure RevisionDependency where
  source : ℕ
  revision : ℕ
  deriving DecidableEq

inductive AttemptFinishDecision where
  | accept | reject
  deriving DecidableEq

/-- `owner` says whether `owner_` is the transaction at hand. -/
structure PreparedAttemptFinish where
  owner : Bool := false
  layers : Option ℕ := none
  finalFaceFluxWriter : Bool := false
  boundLayersIdentity : ℕ := 0
  attemptIdentity : ℕ := 0
  mutationRevision : ℕ := 0
  finalFaceFluxWriterIdentity : ℕ := 0
  outcome : Status := ⟨.invalidPlan, 0⟩
  lowestFailingRank : ℤ := -1
  decision : AttemptFinishDecision := .reject
  locallyActive : Bool := false
  isValid : Bool := false
  consumed : Bool := false
  deriving DecidableEq

def PreparedAttemptFinish.valid (p : PreparedAttemptFinish) : Bool := p.isValid && !p.consumed

/-- The catalog is its used prefix with `catalogCapacity` entries reserved, and
`pendingDependencies` holds the used prefix of every slot. -/
structure AttemptTransaction where
  layers : Option ℕ := none
  activeCaches : List ℕ := []
  pendingCaches : List ℕ := []
  pendingDependencies : List (List RevisionDependency) := []
  dependencyCatalog : List RevisionDependency := []
  catalogCapacity : ℕ := 0
  dependencyCapacityPerSlot : ℕ := 0
  requiredPendingCaches : List Bool := []
  pendingCacheWriterIdentities : List ℕ := []
  revisedFields : List Bool := []
  boundLayersIdentity : ℕ := 0
  attemptStatus : Status := {}
  attemptIdentity : ℕ := 0
  mutationRevision : ℕ := 0
  finalFaceFluxWriterIdentity : ℕ := 0
  finalFaceFluxWriter : Bool := false
  active : Bool := false
  finished : Bool := false
  committed : Bool := false
  lowestFailingRank : ℤ := -1
  deriving DecidableEq

def fieldRevisionSource (field : ℕ) : ℕ := field + 1

/-- Ranks are 32-bit words and a retryable failure sorts behind every other one. -/
def failureSelectionKey (rank : ℕ) (code : StatusCode) : ℕ :=
  if code = .ok then maxU64
  else ((if code.retryable then 1 else 0) <<< 32) ||| rank

namespace AttemptTransaction

/-- At the last counter value the attempt is failed and the counter stays. -/
def advanceMutationRevision (t : AttemptTransaction) : AttemptTransaction :=
  if t.mutationRevision = maxU64 then { t with attemptStatus := ⟨.invalidPlan, kTransactionState⟩ }
  else { t with mutationRevision := t.mutationRevision + 1 }

/-- `attempt_status_ = status; advance_mutation_revision(); return attempt_status_;` -/
def latch (t : AttemptTransaction) (status : Status) : AttemptTransaction × Status :=
  let t := { t with attemptStatus := status }.advanceMutationRevision
  (t, t.attemptStatus)

def locallyActive (t : AttemptTransaction) : Bool := t.active && t.layers.isSome

def matchesPrepared (t : AttemptTransaction) (p : PreparedAttemptFinish) : Bool :=
  p.valid && p.owner && p.layers = t.layers && p.finalFaceFluxWriter = t.finalFaceFluxWriter &&
    p.boundLayersIdentity = t.boundLayersIdentity && p.attemptIdentity = t.attemptIdentity &&
    p.mutationRevision = t.mutationRevision &&
    p.finalFaceFluxWriterIdentity = t.finalFaceFluxWriterIdentity &&
    p.locallyActive = t.locallyActive

def create (fieldCapacity revisionSlotCapacity revisionSourceCapacity : ℕ) (memory : Bool)
    (out : AttemptTransaction) : AttemptTransaction × Status :=
  if fieldCapacity = 0 || 2 ^ 16 < fieldCapacity || 2 ^ 16 < revisionSlotCapacity ||
      revisionSourceCapacity < fieldCapacity || 2 ^ 32 - 1 < revisionSourceCapacity then
    (out, ⟨.invalidPlan, kTransactionCacheSlot⟩)
  else if !memory then (out, ⟨.allocationFailure, 0⟩)
  else if revisionSlotCapacity ≠ 0 && maxU64 / revisionSlotCapacity < revisionSourceCapacity then
    (out, ⟨.invalidPlan, kTransactionCacheSlot⟩)
  else if out.active || out.finalFaceFluxWriter || out.finalFaceFluxWriterIdentity ≠ 0 then
    (out, ⟨.invalidPlan, kTransactionState⟩)
  else
    ({ activeCaches := List.replicate revisionSlotCapacity 0
       pendingCaches := List.replicate revisionSlotCapacity 0
       pendingDependencies := List.replicate revisionSlotCapacity []
       catalogCapacity := revisionSourceCapacity
       dependencyCapacityPerSlot := revisionSourceCapacity
       requiredPendingCaches := List.replicate revisionSlotCapacity false
       pendingCacheWriterIdentities := List.replicate revisionSlotCapacity 0
       revisedFields := List.replicate fieldCapacity false }, {})

def rebind (d : RevisionDependency) : List RevisionDependency → Option (List RevisionDependency)
  | [] => none
  | bound :: rest =>
    if bound.source = d.source then some ({ bound with revision := d.revision } :: rest)
    else (rebind d rest).map (bound :: ·)

def bindDependency (t : AttemptTransaction) (d : RevisionDependency) : AttemptTransaction × Status :=
  if !t.locallyActive then (t, ⟨.invalidPlan, kTransactionState⟩)
  else if t.attemptStatus.code ≠ .ok then (t, t.attemptStatus)
  else if d.source = 0 || d.revision = 0 then t.latch ⟨.invalidPlan, kTransactionCacheRevision⟩
  else
    match rebind d t.dependencyCatalog with
    | some catalog => ({ t with dependencyCatalog := catalog }.advanceMutationRevision, {})
    | none =>
      if t.catalogCapacity ≤ t.dependencyCatalog.length then
        t.latch ⟨.invalidPlan, kTransactionCacheRevision⟩
      else
        ({ t with dependencyCatalog := t.dependencyCatalog ++ [d] }.advanceMutationRevision, {})

/-- The first assignments of `begin`: an empty attempt with a new identity. -/
def openAttempt (t : AttemptTransaction) (ref identity : ℕ) : AttemptTransaction :=
  { t with
    pendingCaches := t.pendingCaches.map fun _ => 0
    pendingDependencies := t.pendingDependencies.map fun _ => []
    revisedFields := t.revisedFields.map fun _ => false
    dependencyCatalog := []
    layers := some ref
    active := true
    finished := false
    committed := false
    attemptIdentity := identity
    mutationRevision := 1
    lowestFailingRank := -1
    attemptStatus := {} }

/-- The number of state fields, `none` on overflow. -/
def requiredRevisions (required : ℕ) : List Bool → Option ℕ
  | [] => some required
  | true :: rest => if required = maxU64 then none else requiredRevisions (required + 1) rest
  | false :: rest => requiredRevisions required rest

/-- Issue a trial revision for every state field among `fields`, up to the first failure. -/
def issueTrial (layers : StateLayers) (replica : ℕ) : List ℕ → StateLayers × Status
  | [] => (layers, {})
  | field :: rest =>
    if layers.isStateField field then
      match layers.issueRevision replica field with
      | (layers, status) => if status.isOk then issueTrial layers replica rest else (layers, status)
    else issueTrial layers replica rest

/-- Bind the trial revision of every state field among `fields`, up to the first failure. -/
def bindTrial (t : AttemptTransaction) (layers : StateLayers) : List ℕ → AttemptTransaction × Status
  | [] => (t, {})
  | field :: rest =>
    if layers.isStateField field then
      match t.bindDependency ⟨fieldRevisionSource field, layers.revision .trial field⟩ with
      | (t, status) => if status.isOk then bindTrial t layers rest else (t, status)
    else bindTrial t layers rest

/-- `begin` on an idle transaction, with the identity just issued. -/
def beginIdle (t : AttemptTransaction) (ref identity : ℕ) (layers : StateLayers) :
    AttemptTransaction × StateLayers × Status :=
  let failed : Status := ⟨.invalidPlan, kTransactionState⟩
  if identity = 0 then ({ t with attemptStatus := failed }, layers, failed)
  else
    let t := t.openAttempt ref identity
    if t.revisedFields.length ≠ layers.fieldCount then
      ({ t with attemptStatus := failed }, layers, failed)
    else if layers.storageIdentity = 0 ||
        (t.boundLayersIdentity ≠ 0 && t.boundLayersIdentity ≠ layers.storageIdentity) then
      ({ t with attemptStatus := failed }, layers, failed)
    else
      match requiredRevisions 0 layers.stateFields with
      | none => ({ t with attemptStatus := failed }, layers, failed)
      | some required =>
        if required = 0 || layers.nextRevision = 0 || maxU64 - layers.nextRevision < required then
          ({ t with attemptStatus := failed }, layers, failed)
        else
          let t := { t with boundLayersIdentity := layers.storageIdentity }
          let fields := List.range layers.fieldCount
          match issueTrial layers (layers.handle .trial) fields with
          | (layers, status) =>
            if !status.isOk then ({ t with attemptStatus := status }, layers, status)
            else
              match bindTrial t layers fields with
              | (t, status) => (t, layers, status)

def reviseTrial (t : AttemptTransaction) (layers : StateLayers) (field : ℕ) :
    AttemptTransaction × StateLayers × Status :=
  if !t.locallyActive then (t, layers, ⟨.invalidPlan, kTransactionState⟩)
  else if t.attemptStatus.code ≠ .ok then (t, layers, t.attemptStatus)
  else if t.revisedFields.length ≤ field || !layers.isStateField field then
    match t.latch ⟨.invalidPlan, kTransactionState⟩ with
    | (t, status) => (t, layers, status)
  else
    match layers.issueRevision (layers.handle .trial) field with
    | (layers, revised) =>
      if !revised.isOk then ((t.latch revised).1, layers, revised)
      else
        match { t with revisedFields := t.revisedFields.set field true }.bindDependency
            ⟨fieldRevisionSource field, layers.revision .trial field⟩ with
        | (t, status) => (t, layers, status)

def matchesAuthority (t : AttemptTransaction) (d : RevisionDependency) : Bool :=
  t.dependencyCatalog.any fun bound => bound.source = d.source && bound.revision = d.revision

/-- The certificate loop of a publication: each one non-zero, bound, and of a new source. -/
def certificatesBound (t : AttemptTransaction) (prior : List RevisionDependency) :
    List RevisionDependency → Bool
  | [] => true
  | certificate :: rest =>
    certificate.source ≠ 0 && certificate.revision ≠ 0 && t.matchesAuthority certificate &&
      prior.all (fun p => p.source ≠ certificate.source) &&
      certificatesBound t (prior ++ [certificate]) rest

/-- `none` is success. A null dependency span is an empty one. -/
def preflightPendingCacheImpl (t : AttemptTransaction) (slot : ℕ)
    (dependencies : List RevisionDependency) (stamp writerIdentity : ℕ) : Option Status :=
  if !t.locallyActive then some ⟨.invalidPlan, kTransactionState⟩
  else if t.attemptStatus.code ≠ .ok then some t.attemptStatus
  else if t.pendingCaches.length ≤ slot then some ⟨.invalidPlan, kTransactionCacheSlot⟩
  else if t.pendingCacheWriterIdentities.getD slot 0 ≠ writerIdentity || stamp = 0 ||
      dependencies.length = 0 || t.dependencyCapacityPerSlot < dependencies.length ||
      t.pendingCaches.getD slot 0 ≠ 0 then some ⟨.invalidPlan, kTransactionCacheRevision⟩
  else if !t.certificatesBound [] dependencies then some ⟨.invalidPlan, kTransactionCacheRevision⟩
  else none

def publishPendingCacheImpl (t : AttemptTransaction) (slot : ℕ)
    (dependencies : List RevisionDependency) (stamp writerIdentity : ℕ) :
    AttemptTransaction × Status :=
  match t.preflightPendingCacheImpl slot dependencies stamp writerIdentity with
  | some preflight =>
    if t.locallyActive && t.attemptStatus.code = .ok then t.latch preflight else (t, preflight)
  | none =>
    ({ t with
        pendingDependencies := t.pendingDependencies.set slot dependencies
        pendingCaches := t.pendingCaches.set slot stamp }.advanceMutationRevision, {})

def publishPendingCache (t : AttemptTransaction) (slot : ℕ)
    (dependencies : List RevisionDependency) (stamp : ℕ) : AttemptTransaction × Status :=
  t.publishPendingCacheImpl slot dependencies stamp 0

def publishFinalFaceFluxCache (t : AttemptTransaction) (slot : ℕ)
    (dependencies : List RevisionDependency) (stamp writerIdentity : ℕ) :
    AttemptTransaction × Status :=
  if writerIdentity = 0 then (t, ⟨.invalidPlan, kTransactionCacheSlot⟩)
  else t.publishPendingCacheImpl slot dependencies stamp writerIdentity

def preflightFinalFaceFluxCache (t : AttemptTransaction) (slot : ℕ)
    (dependencies : List RevisionDependency) (stamp writerIdentity : ℕ) : Option Status :=
  if writerIdentity = 0 then some ⟨.invalidPlan, kTransactionCacheSlot⟩
  else t.preflightPendingCacheImpl slot dependencies stamp writerIdentity

def claimFinalFaceFluxWriter (t : AttemptTransaction) (slot writerIdentity : ℕ) :
    AttemptTransaction × Status :=
  if t.active || writerIdentity = 0 || t.requiredPendingCaches.length ≤ slot ||
      t.pendingCacheWriterIdentities.getD slot 0 ≠ 0 || t.finalFaceFluxWriterIdentity ≠ 0 ||
      t.finalFaceFluxWriter then (t, ⟨.invalidPlan, kTransactionCacheSlot⟩)
  else
    ({ t with
        requiredPendingCaches := t.requiredPendingCaches.set slot true
        pendingCacheWriterIdentities := t.pendingCacheWriterIdentities.set slot writerIdentity
        finalFaceFluxWriterIdentity := writerIdentity
        finalFaceFluxWriter := true }, {})

/-- Called by the claimed writer. The slot stays mandatory and keeps its identity. -/
def detachFinalFaceFluxWriter (t : AttemptTransaction) (failActive : Bool) : AttemptTransaction :=
  if !t.finalFaceFluxWriter then t
  else
    let t := if failActive && t.active && t.attemptStatus.code = .ok then
        { t with attemptStatus := ⟨.invalidPlan, kTransactionIncompleteState⟩ } else t
    let t := { t with finalFaceFluxWriter := false }
    if t.active then t.advanceMutationRevision else t

def invalidateFinalFaceFluxWriter (t : AttemptTransaction) : AttemptTransaction :=
  if t.finalFaceFluxWriter && t.active && t.attemptStatus.code = .ok then
    { t with attemptStatus := ⟨.invalidPlan, kTransactionIncompleteState⟩ }.advanceMutationRevision
  else t

def discardAttempt (t : AttemptTransaction) : AttemptTransaction :=
  { t with
    pendingCaches := t.pendingCaches.map fun _ => 0
    pendingDependencies := t.pendingDependencies.map fun _ => []
    active := false
    layers := none
    finished := true
    committed := false }

/-- `complete_from_transaction(*this, committed)` on the claimed writer, when there is one. -/
def completion (t : AttemptTransaction) (committed : Bool) : List Bool :=
  if t.finalFaceFluxWriter then [committed] else []

def missingRequiredCache (t : AttemptTransaction) : Bool :=
  (List.range t.requiredPendingCaches.length).any fun slot =>
    t.requiredPendingCaches.getD slot false && t.pendingCaches.getD slot 0 = 0

def unrevisedStateField (t : AttemptTransaction) (layers : StateLayers) : Bool :=
  (List.range t.revisedFields.length).any fun field =>
    layers.isStateField field && !t.revisedFields.getD field false

def staleDependency (t : AttemptTransaction) : Bool :=
  t.pendingDependencies.any fun dependencies => dependencies.any fun d => !t.matchesAuthority d

/-- The status a rank brings to the reduction. `writerReady` is `ready_for_collective` of
the claimed writer. -/
def readiness (t : AttemptTransaction) (layers : StateLayers) (writerReady : Bool)
    (localStatus : RawStatus) : Status :=
  let localStatus := if !t.locallyActive then ⟨.invalidPlan, kTransactionState⟩
    else localStatus.orElse ⟨.invalidPlan, kTransactionState⟩
  let incomplete : Status := ⟨.invalidPlan, kTransactionIncompleteState⟩
  let localStatus :=
    if t.locallyActive && t.attemptStatus.code ≠ .ok then t.attemptStatus
    else if t.locallyActive && localStatus.code = .ok && t.finalFaceFluxWriter && !writerReady then
      incomplete
    else if t.locallyActive && localStatus.code = .ok && t.missingRequiredCache then incomplete
    else localStatus
  if t.locallyActive && localStatus.code = .ok then
    if t.unrevisedStateField layers then incomplete
    else if t.staleDependency then ⟨.invalidPlan, kTransactionCacheRevision⟩
    else localStatus
  else localStatus

/-- The certificate `collective_prepare` writes. -/
def certificate (t : AttemptTransaction) (decision : AttemptFinishDecision) (outcome : Status)
    (lowestFailingRank : ℤ) : PreparedAttemptFinish where
  owner := true
  layers := t.layers
  finalFaceFluxWriter := t.finalFaceFluxWriter
  boundLayersIdentity := t.boundLayersIdentity
  attemptIdentity := t.attemptIdentity
  mutationRevision := t.mutationRevision
  finalFaceFluxWriterIdentity := t.finalFaceFluxWriterIdentity
  outcome := outcome
  lowestFailingRank := lowestFailingRank
  decision := decision
  locallyActive := t.locallyActive
  isValid := true
  consumed := false

end AttemptTransaction

structure PrepareResult where
  status : Status
  transaction : AttemptTransaction
  prepared : PreparedAttemptFinish
  completions : List Bool

namespace AttemptTransaction

def failPrepare (t : AttemptTransaction) (out : PreparedAttemptFinish) (failure : Status) :
    MpiProg PrepareResult :=
  .done ⟨failure, { t.discardAttempt with lowestFailingRank := -1 }, out, t.completion false⟩

def collectivePrepare (t : AttemptTransaction) (layers : StateLayers) (writerReady : Bool)
    (communicator : MpiComm) (localStatus : RawStatus) (out : PreparedAttemptFinish) :
    MpiProg PrepareResult :=
  if out.valid then t.failPrepare out ⟨.invalidPlan, kTransactionState⟩
  else
    let localStatus := t.readiness layers writerReady localStatus
    match communicator with
    | .null => t.failPrepare out ⟨.invalidPlan, kTransactionMpi⟩
    | .broken => t.failPrepare out ⟨.mpiFailure, kTransactionMpi⟩
    | .valid c =>
      (Mpi.allreduce .caller .min (failureSelectionKey c.rank localStatus.code)).bind fun
      | none => t.failPrepare out ⟨.mpiFailure, kTransactionMpi⟩
      | some selected =>
        if selected = maxU64 then
          if t.layers.isNone then t.failPrepare out ⟨.invalidPlan, kTransactionState⟩
          else .done ⟨{}, t, t.certificate .accept {} (-1), []⟩
        else
          let selectedRank := selected % 2 ^ 32
          if 1 < selected >>> 32 || c.size ≤ selectedRank then
            t.failPrepare out ⟨.mpiFailure, kTransactionMpi⟩
          else
            (Mpi.bcast .caller selectedRank
              (if c.rank = selectedRank then localStatus.toWire else [0, 0])).bind fun
            | none => t.failPrepare out ⟨.mpiFailure, kTransactionMpi⟩
            | some wire =>
              match Status.ofWire wire with
              | none => t.failPrepare out ⟨.mpiFailure, kTransactionMpi⟩
              | some outcome => .done ⟨{}, t, t.certificate .reject outcome selectedRank, []⟩

end AttemptTransaction

end HundunFlow
