import HundunFlow.Attempt
import HundunFlow.FaceFluxStorage

/-!
# The final flux of an attempt

A `FinalFaceFluxWriter` leases one replica of a final storage to the running attempt, and
the transaction's commit decides whether that replica becomes the committed flux. Writer,
transaction, storages and pending views refer to each other, so the functions below act on
the whole `FluxWorld`. References replace pointers as in the attempt machine: the one
writer and the one transaction are flags, storages and views are indices. Copying and
moving these objects is deleted in the source, so references never change owner.
-/

namespace HundunFlow

open Lib

structure PendingFaceFluxView where
  alive : Bool := true
  x : FaceFieldView := {}
  y : FaceFieldView := {}
  z : FaceFieldView := {}
  revision : ℕ := 0
  writerIdentity : ℕ := 0
  attemptIdentity : ℕ := 0
  storage : Option ℕ := none
  writer : Bool := false
  deriving DecidableEq

def PendingFaceFluxView.valid (pending : PendingFaceFluxView) : Bool := pending.revision ≠ 0

def PendingFaceFluxView.clear (pending : PendingFaceFluxView) : PendingFaceFluxView :=
  { alive := pending.alive }

/-- `PendingFaceFluxAccess::raw`. -/
def PendingFaceFluxView.raw (pending : PendingFaceFluxView) : FaceFluxView :=
  { x := pending.x, y := pending.y, z := pending.z, revision := pending.revision }

structure FinalFaceFluxWriter where
  alive : Bool := true
  stage : ℕ := 0
  cacheSlot : ℕ := 0
  authorityFingerprint : ℕ := 0
  activeRevision : ℕ := 0
  previousRevision : ℕ := 0
  pendingRevision : ℕ := 0
  pendingAttemptIdentity : ℕ := 0
  activeReplica : ℕ := 0
  previousReplica : ℕ := 0
  pendingReplica : ℕ := 1
  authorityTransaction : Bool := false
  transaction : Bool := false
  storage : Option ℕ := none
  pendingView : Option ℕ := none
  boundStorageIdentity : ℕ := 0
  boundRevisionDomain : ℕ := 0
  boundCells : Int3 := {}
  issued : Bool := false
  pending : Bool := false
  pendingPublished : Bool := false
  deriving DecidableEq

structure FluxWorld (F : Type) where
  attempt : Attempt := {}
  writer : FinalFaceFluxWriter := {}
  storages : ℕ → FaceFluxStorage := fun _ => {}
  views : ℕ → PendingFaceFluxView := fun _ => {}
  memory : Memory Address F

namespace FluxWorld

variable {F : Type}

def transaction (w : FluxWorld F) : AttemptTransaction := w.attempt.transaction

def setTransaction (w : FluxWorld F) (t : AttemptTransaction) : FluxWorld F :=
  { w with attempt := { w.attempt with transaction := t } }

def setStorage (w : FluxWorld F) (ref : ℕ) (storage : FaceFluxStorage) : FluxWorld F :=
  { w with storages := Function.update w.storages ref storage }

def setView (w : FluxWorld F) (ref : ℕ) (pending : PendingFaceFluxView) : FluxWorld F :=
  { w with views := Function.update w.views ref pending }

def clearStorageLease (w : FluxWorld F) : FluxWorld F :=
  match w.writer.storage with
  | none => w
  | some ref =>
    if (w.storages ref).pendingWriter then
      w.setStorage ref
        { w.storages ref with
          pendingWriterIdentity := 0
          pendingAttemptIdentity := 0
          pendingWriter := false }
    else w

def invalidatePendingView (w : FluxWorld F) : FluxWorld F :=
  match w.writer.pendingView with
  | none => w
  | some ref =>
    { w.setView ref (w.views ref).clear with writer := { w.writer with pendingView := none } }

def forgetPending (writer : FinalFaceFluxWriter) : FinalFaceFluxWriter :=
  { writer with
    pendingRevision := 0
    pendingAttemptIdentity := 0
    transaction := false
    storage := none
    pending := false
    pendingPublished := false }

/-- The loop that looks for the replica in neither of the committed roles. -/
def nextPendingReplica (active previous pending : ℕ) : ℕ :=
  ((List.range kFinalFaceFluxReplicas).find? fun r => r ≠ active && r ≠ previous).getD pending

/-- `complete_from_transaction`, called by the commits of the transaction. -/
def completeFromTransaction (w : FluxWorld F) (committed : Bool) : FluxWorld F :=
  if !w.writer.transaction then w
  else
    let writer := w.writer
    let writer := if writer.pending && committed then
        { writer with
          previousReplica := writer.activeReplica
          previousRevision := writer.activeRevision
          activeReplica := writer.pendingReplica
          activeRevision := writer.pendingRevision
          pendingReplica :=
            nextPendingReplica writer.pendingReplica writer.activeReplica writer.pendingReplica }
      else writer
    let w := { w with writer }.clearStorageLease.invalidatePendingView
    { w with writer := forgetPending w.writer }

def completions (w : FluxWorld F) (calls : List Bool) : FluxWorld F :=
  calls.foldl completeFromTransaction w

/-- `detach_from_transaction`, called by the transaction. -/
def detachFromTransaction (w : FluxWorld F) : FluxWorld F :=
  let w := if w.writer.transaction then
      let w := w.clearStorageLease.invalidatePendingView
      { w with writer := forgetPending w.writer }
    else w
  { w with writer := { w.writer with authorityTransaction := false } }

/-- The transaction's answer to a lease that broke under the writer. -/
def invalidateTransaction (w : FluxWorld F) : FluxWorld F :=
  if w.writer.transaction then w.setTransaction w.transaction.invalidateFinalFaceFluxWriter else w

def detachFromStorage (w : FluxWorld F) (ref : ℕ) : FluxWorld F :=
  if w.writer.storage ≠ some ref then w
  else
    let w := w.invalidateTransaction.clearStorageLease.invalidatePendingView
    -- the pointer to the transaction stays until the attempt ends
    { w with writer := { forgetPending w.writer with transaction := w.writer.transaction } }

def abandonPendingView (w : FluxWorld F) (ref : ℕ) : FluxWorld F :=
  if w.writer.pendingView ≠ some ref then w
  else
    let w := w.invalidateTransaction.clearStorageLease
    { w.setView ref (w.views ref).clear with
      writer := { forgetPending w.writer with pendingView := none } }

def destroyWriter (w : FluxWorld F) : FluxWorld F :=
  let w := if w.writer.authorityTransaction then
      -- `detach_final_face_flux_writer` returns at once unless this writer is claimed
      if w.transaction.finalFaceFluxWriter then
        w.detachFromTransaction.setTransaction (w.transaction.detachFinalFaceFluxWriter true)
      else w
    else
      let w := w.clearStorageLease.invalidatePendingView
      { w with writer := { w.writer with
          transaction := false, storage := none, pending := false, pendingPublished := false } }
  { w with writer := { w.writer with alive := false } }

def destroyStorage (w : FluxWorld F) (ref : ℕ) : FluxWorld F :=
  let w := if (w.storages ref).pendingWriter then w.detachFromStorage ref else w
  w.setStorage ref { alive := false }

def destroyView (w : FluxWorld F) (ref : ℕ) : FluxWorld F :=
  let w := if (w.views ref).writer then w.abandonPendingView ref else w
  w.setView ref { w.views ref with alive := false }

/-- `FinalFaceFluxAuthority::claim` on an unused authority. -/
def claim (w : FluxWorld F) (stage slot : ℕ) : FluxWorld F × Status :=
  if w.writer.issued || stage = 0 then (w, ⟨.invalidPlan, kFaceAuthority⟩)
  else
    let (identity, next) := issueIdentity w.attempt.nextIdentity
    let w := { w with attempt := { w.attempt with nextIdentity := next } }
    if identity = 0 then (w, ⟨.invalidPlan, kFaceAuthority⟩)
    else
      let (t, mandatory) := w.transaction.claimFinalFaceFluxWriter slot identity
      if !mandatory.isOk then (w.setTransaction t, mandatory)
      else
        ({ w.setTransaction t with
            writer := { w.writer with
              stage
              cacheSlot := slot
              authorityFingerprint := identity
              authorityTransaction := true
              issued := true } }, {})

/-- `pending_view_impl`. -/
def pendingView (w : FluxWorld F) (storage view : ℕ) (replica revision writerIdentity
    attemptIdentity : ℕ) : Except Status PendingFaceFluxView :=
  match (w.storages storage).viewImpl storage replica revision with
  | .error status => .error status
  | .ok raw =>
    if writerIdentity = 0 || attemptIdentity = 0 || !(w.storages storage).finalStorage ||
        (w.views view).valid then .error ⟨.invalidPlan, kFaceAuthority⟩
    else .ok { w.views view with
      x := raw.x
      y := raw.y
      z := raw.z
      revision
      writerIdentity
      attemptIdentity
      storage := some storage }

def boundTo (writer : FinalFaceFluxWriter) (storage : FaceFluxStorage) : Bool :=
  writer.boundStorageIdentity = storage.identity &&
    writer.boundRevisionDomain = storage.revisionDomain &&
    sameCells writer.boundCells storage.cells

def bind (writer : FinalFaceFluxWriter) (storage : FaceFluxStorage) : FinalFaceFluxWriter :=
  { writer with
    boundStorageIdentity := storage.identity
    boundRevisionDomain := storage.revisionDomain
    boundCells := storage.cells }

def beginPending (w : FluxWorld F) (ref view : ℕ) : FluxWorld F × Status :=
  let writer := w.writer
  let storage := w.storages ref
  let t := w.transaction
  if !writer.issued || writer.pending || !writer.authorityTransaction || !t.active ||
      t.attemptIdentity = 0 || storage.replicas ≠ kFinalFaceFluxReplicas ||
      !storage.finalStorage || writer.storage.isSome || writer.transaction ||
      (storage.authorityIdentity ≠ 0 && storage.authorityIdentity ≠ writer.authorityFingerprint) ||
      (writer.boundStorageIdentity ≠ 0 && !boundTo writer storage) ||
      kFinalFaceFluxReplicas ≤ writer.pendingReplica ||
      writer.pendingReplica = writer.activeReplica ||
      (writer.previousRevision ≠ 0 && writer.pendingReplica = writer.previousReplica) then
    (w, ⟨.invalidPlan, kFaceTransaction⟩)
  else
    let candidate := if writer.activeRevision = 0 then 1 else (writer.activeRevision + 1) % 2 ^ 64
    if candidate = 0 || candidate ≤ writer.activeRevision then (w, ⟨.invalidPlan, kFaceTransaction⟩)
    else
      match w.pendingView ref view writer.pendingReplica candidate writer.authorityFingerprint
          t.attemptIdentity with
      | .error status => (w, status)
      | .ok pending =>
        let w := w.setStorage ref
          { storage with
            pendingWriterIdentity := writer.authorityFingerprint
            pendingAttemptIdentity := t.attemptIdentity
            pendingWriter := true
            authorityIdentity := writer.authorityFingerprint }
        let w := w.setView view { pending with writer := true }
        let writer := if writer.boundStorageIdentity = 0 then bind writer storage else writer
        ({ w with
            writer := { writer with
              pendingRevision := candidate
              pendingAttemptIdentity := t.attemptIdentity
              transaction := true
              storage := some ref
              pendingView := some view
              pending := true
              pendingPublished := false } }, {})

/-- `none` is success. -/
def validatePendingLease (w : FluxWorld F) (view : ℕ) : Option Status :=
  let writer := w.writer
  let pending := w.views view
  let t := w.transaction
  match writer.storage with
  | none => some ⟨.invalidPlan, kFaceTransaction⟩
  | some ref =>
    let storage := w.storages ref
    if !writer.issued || !writer.pending || writer.pendingPublished || !writer.transaction ||
        !writer.authorityTransaction || writer.pendingView ≠ some view || !pending.writer ||
        !t.finalFaceFluxWriter || t.finalFaceFluxWriterIdentity ≠ writer.authorityFingerprint ||
        !t.active || t.attemptIdentity ≠ writer.pendingAttemptIdentity ||
        pending.writerIdentity ≠ writer.authorityFingerprint ||
        pending.attemptIdentity ≠ writer.pendingAttemptIdentity || pending.storage ≠ some ref ||
        !storage.pendingWriter || storage.pendingWriterIdentity ≠ writer.authorityFingerprint ||
        storage.pendingAttemptIdentity ≠ writer.pendingAttemptIdentity ||
        storage.authorityIdentity ≠ writer.authorityFingerprint || !boundTo writer storage ||
        pending.revision ≠ writer.pendingRevision || writer.pendingRevision = 0 ||
        !validFluxView pending.raw storage.cells pending.raw.revision ||
        pending.x.storageIdentity ≠ storage.identity ||
        pending.x.revisionDomain ≠ storage.revisionDomain then
      some ⟨.invalidPlan, kFaceTransaction⟩
    else none

def preflightPublishPending (w : FluxWorld F) (dependencies : List RevisionDependency) (view : ℕ) :
    Option Status :=
  match w.validatePendingLease view with
  | some lease => some lease
  | none => w.transaction.preflightFinalFaceFluxCache w.writer.cacheSlot dependencies
      w.writer.pendingRevision w.writer.authorityFingerprint

/-- The writer's call of `publish_final_face_flux_cache`. -/
def publishCache (w : FluxWorld F) (dependencies : List RevisionDependency) : FluxWorld F × Status :=
  let (t, status) := w.transaction.publishFinalFaceFluxCache w.writer.cacheSlot dependencies
    w.writer.pendingRevision w.writer.authorityFingerprint
  (w.setTransaction t, status)

def publishPending (w : FluxWorld F) (dependencies : List RevisionDependency) (view : ℕ) :
    FluxWorld F × Status :=
  match w.preflightPublishPending dependencies view with
  | some preflight =>
    if preflight.detail ≠ kFaceTransaction && w.writer.transaction then w.publishCache dependencies
    else (w, preflight)
  | none =>
    let (w, published) := w.publishCache dependencies
    if published.isOk then
      ({ w.setView view (w.views view).clear with
          writer := { w.writer with pendingPublished := true, pendingView := none } }, published)
    else (w, published)

def readyForCollective (w : FluxWorld F) : Bool :=
  let writer := w.writer
  let t := w.transaction
  match writer.storage with
  | none => false
  | some ref =>
    writer.pending && writer.pendingPublished && writer.transaction && t.active &&
      t.attemptIdentity = writer.pendingAttemptIdentity && boundTo writer (w.storages ref) &&
      t.pendingCaches.getD writer.cacheSlot 0 = writer.pendingRevision

section Payload

variable [FaceValue F]

def hasNonFinite (w : FluxWorld F) (flux : FaceFluxView) : Bool :=
  !flux.faces.all (allFinite w.memory)

def copyPending (w : FluxWorld F) (source : FaceFluxView) (view : ℕ) : FluxWorld F × Status :=
  match w.validatePendingLease view, w.writer.storage with
  | some lease, _ => (w, lease)
  | none, none => (w, ⟨.invalidPlan, kFaceTransaction⟩)
  | none, some ref =>
    let storage := w.storages ref
    if source.revision = 0 || !validFluxView source storage.cells source.revision then
      (w, ⟨.invalidPlan, kFaceAuthority⟩)
    else
      -- face after face, the identity is tested before the values
      match source.faces.findSome? fun face =>
        if face.storageIdentity = storage.identity then some (⟨.invalidPlan, kFaceAuthority⟩ : Status)
        else if !allFinite w.memory face then some ⟨.numericalFailure, kFaceAuthority⟩
        else none with
      | some failure => (w, failure)
      | none => ({ w with memory := copyFlux w.memory source (w.views view).raw }, {})

def initializable (w : FluxWorld F) (ref : ℕ) : Bool :=
  let writer := w.writer
  let storage := w.storages ref
  writer.issued && writer.activeRevision = 0 && writer.previousRevision = 0 && !writer.pending &&
    writer.authorityTransaction && !w.transaction.active &&
    storage.replicas = kFinalFaceFluxReplicas && storage.finalStorage &&
    storage.authorityIdentity = 0 && !storage.pendingWriter && writer.storage.isNone &&
    !writer.transaction

/-- The assignments after the values are in place. -/
def install (w : FluxWorld F) (ref activeReplica previousReplica pendingReplica activeRevision
    previousRevision : ℕ) : FluxWorld F :=
  let storage := w.storages ref
  { w.setStorage ref { storage with authorityIdentity := w.writer.authorityFingerprint } with
    writer := { bind w.writer storage with
      activeReplica, previousReplica, pendingReplica, activeRevision, previousRevision } }

def initializeBoth (w : FluxWorld F) (ref : ℕ) (source : FaceFluxView) (revision : ℕ) :
    FluxWorld F × Status :=
  if w.hasNonFinite source then (w, ⟨.numericalFailure, kFaceAuthority⟩)
  else
    match (w.storages ref).viewImpl ref 0 revision with
    | .error status => (w, status)
    | .ok destination =>
      ({ w with memory := copyFlux w.memory source destination }.install ref 0 0 1 revision revision, {})

def initializeCommitted (w : FluxWorld F) (ref : ℕ) (source : FaceFluxView) : FluxWorld F × Status :=
  if !w.initializable ref || !validFluxView source (w.storages ref).cells source.revision then
    (w, ⟨.invalidPlan, kFaceAuthority⟩)
  else w.initializeBoth ref source 1

def initializeRestored (w : FluxWorld F) (ref : ℕ) (source : FaceFluxView) : FluxWorld F × Status :=
  if !w.initializable ref || w.writer.boundStorageIdentity ≠ 0 || w.writer.boundRevisionDomain ≠ 0 ||
      !validFluxView source (w.storages ref).cells source.revision then
    (w, ⟨.invalidPlan, kFaceAuthority⟩)
  else w.initializeBoth ref source 2

def initializeRestoredHistory (w : FluxWorld F) (ref : ℕ) (accepted previous : FaceFluxView) :
    FluxWorld F × Status :=
  if !w.initializable ref || w.writer.boundStorageIdentity ≠ 0 || w.writer.boundRevisionDomain ≠ 0 ||
      !validFluxView accepted (w.storages ref).cells accepted.revision ||
      !validFluxView previous (w.storages ref).cells previous.revision ||
      accepted.revision ≤ previous.revision || accepted.revision = maxU64 then
    (w, ⟨.invalidPlan, kFaceAuthority⟩)
  else if w.hasNonFinite previous || w.hasNonFinite accepted then
    (w, ⟨.numericalFailure, kFaceAuthority⟩)
  else
    match (w.storages ref).viewImpl ref 0 previous.revision with
    | .error status => (w, status)
    | .ok destination =>
      let w := { w with memory := copyFlux w.memory previous destination }
      match (w.storages ref).viewImpl ref 1 accepted.revision with
      | .error status => (w, status)
      | .ok destination =>
        ({ w with memory := copyFlux w.memory accepted destination }.install ref 1 0 2
          accepted.revision previous.revision, {})

/-- `PendingFaceFluxAccess::lease_valid`. -/
def leaseValid (w : FluxWorld F) (view : ℕ) : Bool :=
  match (w.views view).storage with
  | none => false
  | some ref =>
    (w.storages ref).pendingWriterIdentity = (w.views view).writerIdentity &&
      (w.storages ref).pendingAttemptIdentity = (w.views view).attemptIdentity

/-- One face value a kernel stores through the raw view. -/
structure FaceWrite (F : Type) where
  axis : CartesianAxis
  face : Int3
  value : F

def FaceWrite.view (write : FaceWrite F) (flux : FaceFluxView) : FaceFieldView :=
  match write.axis with
  | .x => flux.x
  | .y => flux.y
  | .z => flux.z

def storeFaces (m : Memory Address F) (flux : FaceFluxView) : List (FaceWrite F) → Memory Address F
  | [] => m
  | write :: rest =>
    let view := write.view flux
    match view.base with
    | none => storeFaces m flux rest
    | some base =>
      if write.face ∈ faceIndices view.extents then
        storeFaces (Function.update m (view.at base write.face) write.value) flux rest
      else storeFaces m flux rest

/-- A kernel such as `reconstruct_mass_flux` on a pending view: it checks the lease and
stores to faces of the view. -/
def writePending (w : FluxWorld F) (view : ℕ) (writes : List (FaceWrite F)) : FluxWorld F × Status :=
  if !(w.views view).valid || !w.leaseValid view then (w, ⟨.invalidPlan, kFaceAuthority⟩)
  else ({ w with memory := storeFaces w.memory (w.views view).raw writes }, {})

/-- `allocate_final`. The new payload is zero. -/
def allocateFinal (w : FluxWorld F) (ref : ℕ) (cells : Int3) (memory : Bool) : FluxWorld F × Status :=
  let (storage, next, status) := (w.storages ref).allocateFinal cells w.attempt.nextIdentity memory
  let w := { w with attempt := { w.attempt with nextIdentity := next } }
  if status.isOk then
    ({ w.setStorage ref storage with
        memory := fun p => if p.block = .storage ref then FaceValue.zero else w.memory p }, status)
  else (w, status)

end Payload

/-- The certified view `committed` and `committed_previous` hand out. -/
def certifiedView (w : FluxWorld F) (ref replica revision : ℕ) : Except Status FaceFluxView :=
  let storage := w.storages ref
  let writer := w.writer
  if !writer.issued || revision = 0 || storage.replicas ≠ kFinalFaceFluxReplicas ||
      !storage.finalStorage || !boundTo writer storage then .error ⟨.invalidPlan, kFaceAuthority⟩
  else
    match storage.viewImpl ref replica revision with
    | .error status => .error status
    | .ok out => .ok
      { out with
        certificate :=
          { revision
            authority := writer.authorityFingerprint
            storage := storage.identity
            revisionDomain := storage.revisionDomain
            xBase := out.x.base
            yBase := out.y.base
            zBase := out.z.base
            xStrideY := out.x.strideY
            xStrideZ := out.x.strideZ
            yStrideY := out.y.strideY
            yStrideZ := out.y.strideZ
            zStrideY := out.z.strideY
            zStrideZ := out.z.strideZ
            cells := storage.cells } }

def committed (w : FluxWorld F) (ref : ℕ) : Except Status FaceFluxView :=
  w.certifiedView ref w.writer.activeReplica w.writer.activeRevision

def committedPrevious (w : FluxWorld F) (ref : ℕ) : Except Status FaceFluxView :=
  w.certifiedView ref w.writer.previousReplica w.writer.previousRevision

end FluxWorld

end HundunFlow
