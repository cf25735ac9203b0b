import HundunFlow.Status

/-!
# Symbolic plans, coefficients and hierarchies

A linear system has a symbolic plan, a numeric state and a hierarchy for its preconditioner. Each
object has a generation that counts its changes, and remembers the fingerprints and generations of
the objects that it was made for.
-/

namespace HundunFlow

def kLinearSymbolic : UInt32 := 501
def kLinearNumeric : UInt32 := 502
def kLinearHierarchy : UInt32 := 503
def kLinearCounter : UInt32 := 505

/-- An enumeration of C++; a cast makes other values too. -/
inductive LinearLocation where
  | cell | faceX | faceY | faceZ
  | other (raw : UInt8)
  deriving DecidableEq

def LinearLocation.toRaw : LinearLocation → UInt8
  | cell => 0
  | faceX => 1
  | faceY => 2
  | faceZ => 3
  | other raw => raw

inductive LinearBackend where
  | nativeCartesian | hypreStruct
  | other (raw : UInt8)
  deriving DecidableEq

def LinearBackend.toRaw : LinearBackend → UInt8
  | nativeCartesian => 0
  | hypreStruct => 1
  | other raw => raw

inductive HierarchyUpdate where
  | retain | refreshNumeric | rebuild
  | other (raw : UInt8)
  deriving DecidableEq

structure SymbolicSpec where
  operatorKind : UInt32 := 0
  location : LinearLocation := .cell
  topology : UInt64 := 0
  boundaryLayout : UInt64 := 0
  partition : UInt64 := 0
  ebInterface : UInt64 := 0
  stencil : UInt64 := 0
  backend : LinearBackend := .nativeCartesian
  deriving DecidableEq

structure CoefficientRevisions where
  diagonal : UInt64 := 0
  offDiagonal : UInt64 := 0
  time : UInt64 := 0
  materialTransport : UInt64 := 0
  numericBoundary : UInt64 := 0
  constraint : UInt64 := 0
  deriving DecidableEq

structure HierarchyPolicyIdentity where
  coarsening : UInt64 := 0
  transferSmoother : UInt64 := 0
  policyEpoch : UInt64 := 0
  backend : LinearBackend := .nativeCartesian
  deriving DecidableEq

structure LinearLifecycleCounters where
  symbolicBuilds : UInt64 := 0
  numericRefills : UInt64 := 0
  hierarchyRefreshes : UInt64 := 0
  hierarchyRebuilds : UInt64 := 0
  deriving DecidableEq

def validLocation (location : LinearLocation) : Bool :=
  location = .cell || location = .faceX || location = .faceY || location = .faceZ

def validBackend (backend : LinearBackend) : Bool := backend = .nativeCartesian || backend = .hypreStruct

def validSymbolicSpec (spec : SymbolicSpec) : Bool :=
  spec.operatorKind ≠ 0 && validLocation spec.location && spec.topology ≠ 0 && spec.boundaryLayout ≠ 0 &&
    spec.partition ≠ 0 && spec.ebInterface ≠ 0 && spec.stencil ≠ 0 && validBackend spec.backend

def validCoefficients (revisions : CoefficientRevisions) : Bool :=
  revisions.diagonal ≠ 0 && revisions.offDiagonal ≠ 0 && revisions.time ≠ 0 && revisions.materialTransport ≠ 0 &&
    revisions.numericBoundary ≠ 0 && revisions.constraint ≠ 0

def validPolicy (policy : HierarchyPolicyIdentity) : Bool :=
  policy.coarsening ≠ 0 && policy.transferSmoother ≠ 0 && policy.policyEpoch ≠ 0 && validBackend policy.backend

def nextGeneration (current : UInt64) : UInt64 := if current = 0 then 1 else current + 1

def checkedCounterIncrement (current : UInt64) : Option UInt64 :=
  if current.toNat = maxU64 then none else some (current + 1)

def kLinearFnvOffset : UInt64 := 1469598103934665603
def kLinearFnvPrime : UInt64 := 1099511628211

def linearHashMix (hash value : UInt64) : UInt64 := (hash ^^^ value) * kLinearFnvPrime

def finishLinearHash (hash : UInt64) : UInt64 := if hash = 0 then 1 else hash

def linearHash (values : List UInt64) : UInt64 := finishLinearHash (values.foldl linearHashMix kLinearFnvOffset)

def symbolicFingerprint (spec : SymbolicSpec) : UInt64 :=
  linearHash [spec.operatorKind.toUInt64, spec.location.toRaw.toUInt64, spec.topology, spec.boundaryLayout,
    spec.partition, spec.ebInterface, spec.stencil, spec.backend.toRaw.toUInt64]

def numericFingerprint (symbolic : UInt64) (revisions : CoefficientRevisions) (content : UInt64) : UInt64 :=
  linearHash [symbolic, revisions.diagonal, revisions.offDiagonal, revisions.time, revisions.materialTransport,
    revisions.numericBoundary, revisions.constraint, content]

def hierarchyFingerprint (symbolic numeric : UInt64) (policy : HierarchyPolicyIdentity) (content : UInt64) : UInt64 :=
  linearHash [symbolic, numeric, policy.coarsening, policy.transferSmoother, policy.policyEpoch,
    policy.backend.toRaw.toUInt64, content]

structure SymbolicPlan where
  spec : SymbolicSpec := {}
  fingerprint : UInt64 := 0
  generation : UInt64 := 0
  deriving DecidableEq

def SymbolicPlan.valid (symbolic : SymbolicPlan) : Bool := symbolic.fingerprint ≠ 0

structure NumericState where
  revisions : CoefficientRevisions := {}
  symbolicFingerprint : UInt64 := 0
  symbolicGeneration : UInt64 := 0
  contentFingerprint : UInt64 := 0
  fingerprint : UInt64 := 0
  generation : UInt64 := 0
  deriving DecidableEq

def NumericState.validFor (numeric : NumericState) (symbolic : SymbolicPlan) : Bool :=
  numeric.fingerprint ≠ 0 && symbolic.valid && numeric.symbolicFingerprint = symbolic.fingerprint &&
    numeric.symbolicGeneration = symbolic.generation

structure HierarchyState where
  policy : HierarchyPolicyIdentity := {}
  symbolicFingerprint : UInt64 := 0
  symbolicGeneration : UInt64 := 0
  numericFingerprint : UInt64 := 0
  numericGeneration : UInt64 := 0
  contentFingerprint : UInt64 := 0
  fingerprint : UInt64 := 0
  generation : UInt64 := 0
  deriving DecidableEq

def HierarchyState.validFor (hierarchy : HierarchyState) (symbolic : SymbolicPlan) (numeric : NumericState) : Bool :=
  hierarchy.fingerprint ≠ 0 && numeric.validFor symbolic && hierarchy.symbolicFingerprint = symbolic.fingerprint &&
    hierarchy.symbolicGeneration = symbolic.generation && hierarchy.numericFingerprint = numeric.fingerprint &&
    hierarchy.numericGeneration = numeric.generation

structure LinearIdentity where
  symbolic : UInt64 := 0
  numeric : UInt64 := 0
  hierarchy : UInt64 := 0
  workspace : UInt64 := 0
  fingerprint : UInt64 := 0
  deriving DecidableEq

/-- `compose_linear_identity`, on a workspace with a fingerprint. -/
def composeLinearIdentity (symbolic : SymbolicPlan) (numeric : NumericState) (hierarchy : HierarchyState)
    (workspace : UInt64) : LinearIdentity :=
  if !numeric.validFor symbolic || !hierarchy.validFor symbolic numeric || workspace = 0 then {}
  else ⟨symbolic.fingerprint, numeric.fingerprint, hierarchy.fingerprint, workspace,
    linearHash [symbolic.fingerprint, numeric.fingerprint, hierarchy.fingerprint, workspace]⟩

/-- The counter that a call increments, and the value that it gets; a null pointer is `none`. -/
structure CounterField where
  get : LinearLifecycleCounters → UInt64
  set : LinearLifecycleCounters → UInt64 → LinearLifecycleCounters

def CounterField.symbolicBuilds : CounterField := ⟨(·.symbolicBuilds), fun c v => { c with symbolicBuilds := v }⟩
def CounterField.numericRefills : CounterField := ⟨(·.numericRefills), fun c v => { c with numericRefills := v }⟩
def CounterField.hierarchyRefreshes : CounterField :=
  ⟨(·.hierarchyRefreshes), fun c v => { c with hierarchyRefreshes := v }⟩
def CounterField.hierarchyRebuilds : CounterField :=
  ⟨(·.hierarchyRebuilds), fun c v => { c with hierarchyRebuilds := v }⟩

/-- The end of a call that changes its object: the next generation and the counter, unless one of them overflows. -/
def commitChange {α : Type} (old : α) (generation : UInt64) (make : UInt64 → α) (field : CounterField)
    (counters : Option LinearLifecycleCounters) : α × Option LinearLifecycleCounters × Status :=
  let next := nextGeneration generation
  match counters with
  | none => if next = 0 then (old, none, ⟨.invalidPlan, kLinearCounter⟩) else (make next, none, {})
  | some counters =>
    match checkedCounterIncrement (field.get counters) with
    | none => (old, some counters, ⟨.invalidPlan, kLinearCounter⟩)
    | some counter =>
      if next = 0 then (old, some counters, ⟨.invalidPlan, kLinearCounter⟩)
      else (make next, some (field.set counters counter), {})

/-- `SymbolicPlan::compile`. -/
def SymbolicPlan.compile (out : SymbolicPlan) (spec : SymbolicSpec) (counters : Option LinearLifecycleCounters) :
    SymbolicPlan × Option LinearLifecycleCounters × Status :=
  if !validSymbolicSpec spec then (out, counters, ⟨.invalidPlan, kLinearSymbolic⟩)
  else if out.valid && out.spec = spec then (out, counters, {})
  else commitChange out out.generation (fun generation => ⟨spec, HundunFlow.symbolicFingerprint spec, generation⟩)
    .symbolicBuilds counters

/-- `NumericState::refill`. -/
def NumericState.refill (numeric : NumericState) (symbolic : SymbolicPlan) (revisions : CoefficientRevisions)
    (content : UInt64) (counters : Option LinearLifecycleCounters) :
    NumericState × Option LinearLifecycleCounters × Status :=
  if !symbolic.valid || !validCoefficients revisions || content = 0 then
    (numeric, counters, ⟨.invalidPlan, kLinearNumeric⟩)
  else
    let sameAuthority : Bool := numeric.symbolicFingerprint = symbolic.fingerprint && numeric.symbolicGeneration = symbolic.generation
    if numeric.fingerprint ≠ 0 && sameAuthority && numeric.revisions = revisions then
      (numeric, counters, if numeric.contentFingerprint = content then {} else ⟨.invalidPlan, kLinearNumeric⟩)
    else commitChange numeric numeric.generation (fun generation => {
        revisions := revisions
        symbolicFingerprint := symbolic.fingerprint
        symbolicGeneration := symbolic.generation
        contentFingerprint := content
        fingerprint := HundunFlow.numericFingerprint symbolic.fingerprint revisions content
        generation := generation }) .numericRefills counters

/-- What `HierarchyState::update` makes of a decision before it changes anything: nothing to do, a refusal, or a change. -/
inductive HierarchyVerdict where
  | keep | refuse | change
  deriving DecidableEq

def HierarchyState.verdict (hierarchy : HierarchyState) (symbolic : SymbolicPlan) (numeric : NumericState)
    (policy : HierarchyPolicyIdentity) (decision : HierarchyUpdate) (content : UInt64) : HierarchyVerdict :=
  let present : Bool := hierarchy.fingerprint ≠ 0
  let sameSymbolic : Bool := hierarchy.symbolicFingerprint = symbolic.fingerprint && hierarchy.symbolicGeneration = symbolic.generation
  let sameNumeric : Bool := hierarchy.numericFingerprint = numeric.fingerprint && hierarchy.numericGeneration = numeric.generation
  let samePolicy : Bool := hierarchy.policy = policy
  let sameContent : Bool := hierarchy.contentFingerprint = content
  match decision with
  | .retain => if present && sameSymbolic && sameNumeric && samePolicy && sameContent then .keep else .refuse
  | .refreshNumeric =>
    if !present || !sameSymbolic || !samePolicy then .refuse
    else if sameNumeric then if sameContent then .keep else .refuse
    else .change
  | .rebuild =>
    if present && sameSymbolic && sameNumeric && samePolicy then if sameContent then .keep else .refuse else .change
  | .other _ => .refuse

/-- `HierarchyState::update`. -/
def HierarchyState.update (hierarchy : HierarchyState) (symbolic : SymbolicPlan) (numeric : NumericState)
    (policy : HierarchyPolicyIdentity) (decision : HierarchyUpdate) (content : UInt64)
    (counters : Option LinearLifecycleCounters) : HierarchyState × Option LinearLifecycleCounters × Status :=
  if !numeric.validFor symbolic || !validPolicy policy || content = 0 then
    (hierarchy, counters, ⟨.invalidPlan, kLinearHierarchy⟩)
  else
    match hierarchy.verdict symbolic numeric policy decision content with
    | .keep => (hierarchy, counters, {})
    | .refuse => (hierarchy, counters, ⟨.invalidPlan, kLinearHierarchy⟩)
    | .change =>
      commitChange hierarchy hierarchy.generation (fun generation => {
        policy := policy
        symbolicFingerprint := symbolic.fingerprint
        symbolicGeneration := symbolic.generation
        numericFingerprint := numeric.fingerprint
        numericGeneration := numeric.generation
        contentFingerprint := content
        fingerprint := hierarchyFingerprint symbolic.fingerprint numeric.fingerprint policy content
        generation := generation })
        (if decision = .rebuild then .hierarchyRebuilds else .hierarchyRefreshes) counters

/-- The three objects of a linear system, and the counters that callers pass. -/
structure LinearObjects where
  symbolic : SymbolicPlan := {}
  numeric : NumericState := {}
  hierarchy : HierarchyState := {}
  counters : ℕ → LinearLifecycleCounters := fun _ => {}

inductive LinearAction where
  | compile (spec : SymbolicSpec)
  | refill (revisions : CoefficientRevisions) (content : UInt64)
  | update (policy : HierarchyPolicyIdentity) (decision : HierarchyUpdate) (content : UInt64)
  deriving DecidableEq

/-- A call on the objects, and the counters passed if any. -/
structure LinearCall where
  action : LinearAction
  counters : Option ℕ
  deriving DecidableEq

def storeCounters (counters : ℕ → LinearLifecycleCounters) (ref : Option ℕ) (value : Option LinearLifecycleCounters) :
    ℕ → LinearLifecycleCounters :=
  match ref, value with
  | some ref, some value => Function.update counters ref value
  | _, _ => counters

def LinearObjects.call (objects : LinearObjects) (call : LinearCall) : LinearObjects × Status :=
  let counters := call.counters.map objects.counters
  match call.action with
  | .compile spec =>
    let (symbolic, counters, status) := objects.symbolic.compile spec counters
    ({ objects with symbolic := symbolic, counters := storeCounters objects.counters call.counters counters }, status)
  | .refill revisions content =>
    let (numeric, counters, status) := objects.numeric.refill objects.symbolic revisions content counters
    ({ objects with numeric := numeric, counters := storeCounters objects.counters call.counters counters }, status)
  | .update policy decision content =>
    let (hierarchy, counters, status) :=
      objects.hierarchy.update objects.symbolic objects.numeric policy decision content counters
    ({ objects with hierarchy := hierarchy, counters := storeCounters objects.counters call.counters counters }, status)

def LinearObjects.calls (objects : LinearObjects) (calls : List LinearCall) : LinearObjects :=
  calls.foldl (fun objects call => (objects.call call).1) objects

end HundunFlow
