import HundunFlow.ExecutionGraph

/-!
# Declaring fields, registering stages and reading a frozen graph

`configure` and `register_stage` copy what the spans of the caller hold at the time of the call, and
`freeze` packs the lists of all stages into pools. The accessors of the frozen graph cut the lists of a
stage out of the pools again.

The memory behind the caller's spans is an argument of each call, so it may change between calls. A call
may run out of memory wherever it allocates.
-/

namespace HundunFlow

open Lib

/-- `Span`: a pointer, which may be null, and a size. -/
structure CallerSpan where
  data : Option ℕ := none
  size : ℕ := 0
  deriving DecidableEq

/-- `span_shape_valid`. -/
def CallerSpan.shapeValid (span : CallerSpan) : Bool := span.size = 0 || span.data.isSome

def CallerSpan.read {α : Type} (span : CallerSpan) (memory : ℕ → α) : List α :=
  match span.data with
  | none => []
  | some data => (List.range span.size).map fun index => memory (data + index)

structure RawAccess where
  field : UInt16 := 0
  visibility : UInt8 := 0
  deriving DecidableEq

structure RawGraphField where
  access : RawAccess := {}
  ghostCapacity : UInt8 := 0
  initiallyAvailable : Bool := false
  deriving DecidableEq

structure CallerMemory where
  accesses : ℕ → RawAccess
  widths : ℕ → UInt8
  fields : ℕ → RawGraphField

structure StageSpec where
  id : UInt16 := 0
  reads : CallerSpan := {}
  writes : CallerSpan := {}
  ghosts : CallerSpan := {}
  ghostWidths : CallerSpan := {}
  invalidates : CallerSpan := {}
  workspaceBytes : UInt64 := 0
  workspaceAlignment : UInt64 := 64
  workspaceLiveThrough : UInt16 := 0
  fixedWorkspaceOffset : UInt64 := 0
  resources : StageResourceSpec := {}
  kind : UInt8 := 0
  hasFixedWorkspaceOffset : Bool := false
  collectiveConsensus : Bool := false
  deriving DecidableEq

/-- `valid_enum` against `StateVisibility::workspace`. -/
def StateVisibility.ofByte : UInt8 → Option StateVisibility
  | 0 => some .accepted
  | 1 => some .trial
  | 2 => some .pending
  | 3 => some .committedSnapshot
  | 4 => some .workspace
  | _ => none

def StateVisibility.toByte : StateVisibility → UInt8
  | accepted => 0
  | trial => 1
  | pending => 2
  | committedSnapshot => 3
  | workspace => 4

/-- `valid_enum` against `StageKind::commit`. -/
def StageKind.ofByte : UInt8 → Option StageKind
  | 0 => some .compute
  | 1 => some .service
  | 2 => some .commit
  | _ => none

def RawAccess.decode (raw : RawAccess) : Option FieldAccessSpec :=
  (StateVisibility.ofByte raw.visibility).map fun visibility => ⟨raw.field, visibility⟩

def FieldAccessSpec.raw (access : FieldAccessSpec) : RawAccess := ⟨access.field, access.visibility.toByte⟩

def RawGraphField.decode (raw : RawGraphField) : Option GraphFieldSpec :=
  raw.access.decode.map fun access => ⟨access, raw.ghostCapacity, raw.initiallyAvailable⟩

/-- How an allocation ends. -/
inductive AllocationOutcome where
  | granted | badAlloc | otherException
  deriving DecidableEq

/-- The status an exception turns into. -/
def AllocationOutcome.failure (allocation : AllocationOutcome) (detail : UInt32) : Option Status :=
  match allocation with
  | .granted => none
  | .badAlloc => some ⟨.allocationFailure, 0⟩
  | .otherException => some ⟨.invalidPlan, detail⟩

namespace ExecutionGraphCompiler

def configure (compiler : ExecutionGraphCompiler) (memory : CallerMemory) (fields : CallerSpan) (allocation : AllocationOutcome) :
    ExecutionGraphCompiler × Status :=
  if compiler.configured || compiler.frozen || !fields.shapeValid || fields.size = 0 then
    (compiler, ⟨.invalidPlan, kGraphConfigure⟩)
  else
    match allocation.failure kGraphConfigure with
    | some status => (compiler, status)
    | none =>
      match (fields.read memory.fields).mapM RawGraphField.decode with
      | none => (compiler, ⟨.invalidPlan, kGraphConfigure⟩)
      | some candidate =>
        if (candidate.map GraphFieldSpec.access).Nodup then
          ({ compiler with fields := candidate, configured := true }, {})
        else (compiler, ⟨.invalidPlan, kGraphConfigure⟩)

/-- `valid_access_span`: enumerators, declared fields, no access twice. -/
def validAccessSpan (compiler : ExecutionGraphCompiler) (raw : List RawAccess) : Option (List FieldAccessSpec) := do
  let accesses ← raw.mapM RawAccess.decode
  guard ((∀ access ∈ accesses, compiler.fields.any fun field => field.access = access) ∧ accesses.Nodup)
  return accesses

def ghostsValid (compiler : ExecutionGraphCompiler) (reads ghosts : List FieldAccessSpec) (widths : List UInt8) : Bool :=
  (ghosts.zip widths).all fun (ghost, width) =>
    reads.contains ghost && width ≠ 0 &&
      match compiler.fields.find? fun field => field.access = ghost with
      | none => false
      | some declared => width ≤ declared.ghostCapacity

def noSolverResources (resources : StageResourceSpec) : Bool :=
  resources.mergedHaloMessages = 0 && resources.mergedHaloBytes = 0 && resources.numericRefills = 0 &&
    resources.hierarchyRebuilds = 0 && resources.cachePublishes = 0 && resources.linearIterations = 0

def serviceValid (candidate : OwnedStageSpec) : Bool :=
  candidate.kind ≠ .service ||
    (candidate.reads.all (fun access => access.visibility = .committedSnapshot) && candidate.writes.isEmpty &&
      candidate.invalidates.isEmpty && candidate.ghosts.isEmpty && noSolverResources candidate.resources)

def commitValid (candidate : OwnedStageSpec) : Bool :=
  candidate.kind ≠ .commit ||
    (candidate.reads.isEmpty && candidate.writes.isEmpty && candidate.invalidates.isEmpty &&
      candidate.ghosts.isEmpty && noSolverResources candidate.resources &&
      candidate.resources.stageWallNanoseconds = 0 && candidate.workspaceBytes = 0 &&
      candidate.workspaceAlignment = 64 && candidate.workspaceLiveThrough = 0 &&
      candidate.fixedWorkspaceOffset = 0 && !candidate.hasFixedWorkspaceOffset && !candidate.collectiveConsensus)

/-- The checks on what the call itself carries. -/
def stageShapeValid (compiler : ExecutionGraphCompiler) (stage : StageSpec) : Bool :=
  compiler.configured && !compiler.frozen && stage.id ≠ 0 && (StageKind.ofByte stage.kind).isSome &&
    stage.reads.shapeValid && stage.writes.shapeValid && stage.ghosts.shapeValid && stage.ghostWidths.shapeValid &&
    stage.invalidates.shapeValid && stage.ghosts.size = stage.ghostWidths.size &&
    (stage.workspaceBytes = 0 || validAlignment stage.workspaceAlignment.toNat)

/-- The copies the compiler makes of the caller's lists. -/
def ownedStage (compiler : ExecutionGraphCompiler) (memory : CallerMemory) (stage : StageSpec) : Option OwnedStageSpec := do
  let kind ← StageKind.ofByte stage.kind
  let reads ← compiler.validAccessSpan (stage.reads.read memory.accesses)
  let writes ← compiler.validAccessSpan (stage.writes.read memory.accesses)
  let ghosts ← compiler.validAccessSpan (stage.ghosts.read memory.accesses)
  let invalidates ← compiler.validAccessSpan (stage.invalidates.read memory.accesses)
  return {
    id := stage.id
    reads, writes, ghosts
    ghostWidths := stage.ghostWidths.read memory.widths
    invalidates
    workspaceBytes := stage.workspaceBytes
    workspaceAlignment := stage.workspaceAlignment
    workspaceLiveThrough := stage.workspaceLiveThrough
    fixedWorkspaceOffset := stage.fixedWorkspaceOffset
    resources := stage.resources
    kind
    hasFixedWorkspaceOffset := stage.hasFixedWorkspaceOffset
    collectiveConsensus := stage.collectiveConsensus }

def registerStage (compiler : ExecutionGraphCompiler) (memory : CallerMemory) (stage : StageSpec)
    (allocation : AllocationOutcome) : ExecutionGraphCompiler × Status :=
  if !compiler.stageShapeValid stage then (compiler, ⟨.invalidPlan, kGraphStage⟩)
  else if compiler.stages.any fun prior => prior.id = stage.id then (compiler, ⟨.invalidPlan, kGraphStage⟩)
  else
    match compiler.ownedStage memory stage with
    | none => (compiler, ⟨.invalidPlan, kGraphAccess⟩)
    | some candidate =>
      if !compiler.ghostsValid candidate.reads candidate.ghosts candidate.ghostWidths then
        (compiler, ⟨.invalidPlan, kGraphGhost⟩)
      else if !serviceValid candidate then (compiler, ⟨.invalidPlan, kGraphAccess⟩)
      else if !commitValid candidate then (compiler, ⟨.invalidPlan, kGraphStage⟩)
      else
        match allocation.failure kGraphStage with
        | some status => (compiler, status)
        | none => ({ compiler with stages := compiler.stages ++ [candidate] }, {})

def freezeStagesWith (memory : ℕ → AllocationOutcome) (stages : List OwnedStageSpec) :
    ℕ → List OwnedStageSpec → GraphBuild → Except Status GraphBuild
  | _, [], build => .ok build
  | ordinal, registered :: rest, build =>
    match (memory (ordinal + 1)).failure kGraphStage with
    | some status => .error status
    | none =>
      match freezeStage stages ordinal registered build with
      | .error status => .error status
      | .ok build => freezeStagesWith memory stages (ordinal + 1) rest build

/-- `freeze`, with the outcomes of the allocations: of the states, of every turn, and with the pools. -/
def freezeWith (compiler : ExecutionGraphCompiler) (memory : ℕ → AllocationOutcome) (out : FrozenExecutionGraph) :
    ExecutionGraphCompiler × FrozenExecutionGraph × Status :=
  if !compiler.configured || compiler.frozen || compiler.stages.isEmpty || out.fingerprint ≠ 0 ||
      !out.stages.isEmpty || !out.nodes.isEmpty || !out.edges.isEmpty then
    (compiler, out, ⟨.invalidPlan, kGraphConfigure⟩)
  else
    match (memory 0).failure kGraphStage with
    | some status => (compiler, out, status)
    | none =>
      let states := compiler.fields.map fun field =>
        (⟨field.access, field.initiallyAvailable, field.initiallyAvailable, false⟩ : FieldState)
      match freezeStagesWith memory compiler.stages 0 compiler.stages { states := states } with
      | .error status => (compiler, out, status)
      | .ok build =>
        if build.unconsensedWork then (compiler, out, ⟨.invalidPlan, kGraphConsensus⟩)
        else
          let candidate : FrozenExecutionGraph :=
            { stages := build.stages
              nodes := build.chain.nodes
              edges := build.chain.edges
              reads := build.reads
              writes := build.writes
              ghosts := build.ghosts
              ghostWidths := build.ghostWidths
              invalidations := build.invalidations
              resources := ⟨build.workspaceHighWater, 0, build.resources⟩ }
          ({ compiler with frozen := true },
            { candidate with fingerprint := graphFingerprint compiler.fields candidate }, {})

end ExecutionGraphCompiler

namespace FrozenExecutionGraph

def stage (graph : FrozenExecutionGraph) (id : UInt16) : Option FrozenStage :=
  graph.stages.find? fun selected => selected.id = id

def pooled {α : Type} (pool : List α) (start count : ℕ) : List α :=
  if pool.length < start || pool.length - start < count || count = 0 then [] else slice pool start count

def readsOf (graph : FrozenExecutionGraph) (id : UInt16) : List FieldAccessSpec :=
  match graph.stage id with
  | none => []
  | some selected => pooled graph.reads selected.readBegin selected.readCount

def writesOf (graph : FrozenExecutionGraph) (id : UInt16) : List FieldAccessSpec :=
  match graph.stage id with
  | none => []
  | some selected => pooled graph.writes selected.writeBegin selected.writeCount

def ghostsOf (graph : FrozenExecutionGraph) (id : UInt16) : List FieldAccessSpec :=
  match graph.stage id with
  | none => []
  | some selected => pooled graph.ghosts selected.ghostBegin selected.ghostCount

def ghostWidthsOf (graph : FrozenExecutionGraph) (id : UInt16) : List UInt8 :=
  match graph.stage id with
  | none => []
  | some selected => pooled graph.ghostWidths selected.ghostBegin selected.ghostCount

def invalidationsOf (graph : FrozenExecutionGraph) (id : UInt16) : List FieldAccessSpec :=
  match graph.stage id with
  | none => []
  | some selected => pooled graph.invalidations selected.invalidationBegin selected.invalidationCount

end FrozenExecutionGraph

structure GraphSession where
  compiler : ExecutionGraphCompiler := {}
  graphs : ℕ → FrozenExecutionGraph

inductive CompilerCall where
  | configure (memory : CallerMemory) (fields : CallerSpan) (allocation : AllocationOutcome)
  | registerStage (memory : CallerMemory) (stage : StageSpec) (allocation : AllocationOutcome)
  | freeze (out : ℕ) (memory : ℕ → AllocationOutcome)

def CompilerCall.apply (call : CompilerCall) (session : GraphSession) : GraphSession × Status :=
  match call with
  | .configure memory fields allocation =>
    let (compiler, status) := session.compiler.configure memory fields allocation
    ({ session with compiler := compiler }, status)
  | .registerStage memory stage allocation =>
    let (compiler, status) := session.compiler.registerStage memory stage allocation
    ({ session with compiler := compiler }, status)
  | .freeze out memory =>
    let (compiler, graph, status) := session.compiler.freezeWith memory (session.graphs out)
    (⟨compiler, Function.update session.graphs out graph⟩, status)

/-- A sequence of calls: the session behind it and the statuses. -/
def runCalls (session : GraphSession) : List CompilerCall → GraphSession × List Status
  | [] => (session, [])
  | call :: calls =>
    let (next, status) := call.apply session
    let (last, statuses) := runCalls next calls
    (last, status :: statuses)

end HundunFlow
