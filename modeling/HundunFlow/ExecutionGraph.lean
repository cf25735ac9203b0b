import HundunFlow.TimeControl
import Mathlib.Data.Nat.Bitwise

/-!
# Freezing an execution graph

`ExecutionGraphCompiler::freeze` turns the registered stages into a frozen graph: it follows the
state of every field, gives every stage a place in the workspace that no other live stage has,
and chains the nodes in the order of registration.
-/

namespace HundunFlow

open Lib

def kGraphConfigure : UInt32 := 941
def kGraphStage : UInt32 := 942
def kGraphAccess : UInt32 := 943
def kGraphGhost : UInt32 := 944
def kGraphInvalidation : UInt32 := 945
def kGraphConsensus : UInt32 := 946
def kGraphWorkspace : UInt32 := 947
def kGraphOverflow : UInt32 := 948

inductive StateVisibility where
  | accepted | trial | pending | committedSnapshot | workspace
  deriving DecidableEq

inductive StageKind where
  | compute | service | commit
  deriving DecidableEq

inductive GraphNodeKind where
  | compute | haloBegin | computeInterior | haloFinish | computeBoundary | service | collectiveConsensus | commit
  deriving DecidableEq

structure FieldAccessSpec where
  field : UInt16 := 0
  visibility : StateVisibility := .accepted
  deriving DecidableEq

structure GraphFieldSpec where
  access : FieldAccessSpec := {}
  ghostCapacity : UInt8 := 0
  initiallyAvailable : Bool := false
  deriving DecidableEq

structure StageResourceSpec where
  mergedHaloMessages : UInt64 := 0
  mergedHaloBytes : UInt64 := 0
  numericRefills : UInt64 := 0
  hierarchyRebuilds : UInt64 := 0
  cachePublishes : UInt64 := 0
  linearIterations : UInt64 := 0
  stageWallNanoseconds : UInt64 := 0
  deriving DecidableEq

/-- A registered stage. A stage without `workspaceLiveThrough` gives its workspace back at once. -/
structure OwnedStageSpec where
  id : UInt16
  reads : List FieldAccessSpec := []
  writes : List FieldAccessSpec := []
  ghosts : List FieldAccessSpec := []
  ghostWidths : List UInt8 := []
  invalidates : List FieldAccessSpec := []
  workspaceBytes : UInt64 := 0
  workspaceAlignment : UInt64 := 64
  workspaceLiveThrough : UInt16 := 0
  fixedWorkspaceOffset : UInt64 := 0
  resources : StageResourceSpec := {}
  kind : StageKind := .compute
  hasFixedWorkspaceOffset : Bool := false
  collectiveConsensus : Bool := false
  deriving DecidableEq

structure FrozenStage where
  id : UInt16
  kind : StageKind
  registrationOrdinal : ℕ
  nodeBegin : ℕ
  nodeCount : ℕ
  readBegin : ℕ
  readCount : ℕ
  writeBegin : ℕ
  writeCount : ℕ
  ghostBegin : ℕ
  ghostCount : ℕ
  invalidationBegin : ℕ
  invalidationCount : ℕ
  workspaceOffset : ℕ
  workspaceBytes : ℕ
  workspaceAlignment : ℕ
  workspaceLiveThrough : UInt16
  resources : StageResourceSpec
  collectiveConsensus : Bool
  deriving DecidableEq

structure GraphNode where
  stage : UInt16
  kind : GraphNodeKind
  ordinal : ℕ
  deriving DecidableEq

structure GraphEdge where
  source : ℕ
  target : ℕ
  deriving DecidableEq

structure ResourceContract where
  maxLiveWorkspaceBytes : ℕ := 0
  allocationAllowance : ℕ := 0
  stages : StageResourceSpec := {}
  deriving DecidableEq

structure FrozenExecutionGraph where
  stages : List FrozenStage := []
  nodes : List GraphNode := []
  edges : List GraphEdge := []
  reads : List FieldAccessSpec := []
  writes : List FieldAccessSpec := []
  ghosts : List FieldAccessSpec := []
  ghostWidths : List UInt8 := []
  invalidations : List FieldAccessSpec := []
  resources : ResourceContract := {}
  fingerprint : UInt64 := 0
  deriving DecidableEq

/-- Enumerators, accesses and ids have been checked when fields and stages were registered. -/
structure ExecutionGraphCompiler where
  fields : List GraphFieldSpec := []
  stages : List OwnedStageSpec := []
  configured : Bool := false
  frozen : Bool := false
  deriving DecidableEq

structure FieldState where
  access : FieldAccessSpec
  available : Bool
  initialized : Bool
  invalidated : Bool
  deriving DecidableEq

def findState (states : List FieldState) (access : FieldAccessSpec) : Option FieldState :=
  states.find? fun state => state.access = access

/-- Change the state that `findState` finds. -/
def updateState (access : FieldAccessSpec) (change : FieldState → FieldState) : List FieldState → List FieldState
  | [] => []
  | state :: rest => if state.access = access then change state :: rest else state :: updateState access change rest

def accessFailure (states : List FieldState) (registered : OwnedStageSpec) : Option UInt32 :=
  let missing (access : FieldAccessSpec) : Bool :=
    (findState states access).all fun state => !state.available || state.invalidated
  if registered.reads.any missing then some kGraphAccess
  else if registered.invalidates.any (fun access => missing access || !registered.reads.contains access ||
      !registered.writes.contains access) then some kGraphInvalidation
  else if registered.writes.any (fun access => (findState states access).all fun state =>
      state.initialized && (!registered.reads.contains access || !registered.invalidates.contains access)) then
    some kGraphAccess
  else none

def statesBehind (registered : OwnedStageSpec) (states : List FieldState) : List FieldState :=
  let invalidated := registered.invalidates.foldl
    (fun states access => updateState access (fun state => { state with invalidated := true }) states) states
  registered.writes.foldl (fun states access => updateState access
    (fun state => { state with available := true, initialized := true, invalidated := false }) states) invalidated

/-- The stages at which a workspace is live, and its bytes, with an end that is a `std::size_t`. -/
structure WorkspaceInterval where
  begin : ℕ
  last : ℕ
  offset : ℕ
  bytes : ℕ
  byteEnd : ℕ
  byteEnd_le : byteEnd ≤ maxU64
  deriving DecidableEq

def stagesOverlap (left right : WorkspaceInterval) : Bool :=
  left.begin ≤ right.last && right.begin ≤ left.last

def byteRangesOverlap (left right : WorkspaceInterval) : Bool :=
  if left.bytes = 0 || right.bytes = 0 then false
  else left.offset < right.byteEnd && right.offset < left.byteEnd

def collide (candidate prior : WorkspaceInterval) : Bool :=
  stagesOverlap candidate prior && byteRangesOverlap candidate prior

def validAlignment (alignment : ℕ) : Bool := alignment ≠ 0 && alignment &&& (alignment - 1) = 0

/-- `checked_align`, for any alignment: `maxU64 - x` has the bits of `~x`. -/
def checkedAlignTo (value alignment : ℕ) : Option ℕ :=
  if !validAlignment alignment then none
  else (checkedAdd value (alignment - 1)).map fun candidate => candidate &&& (maxU64 - (alignment - 1))

/-- The workspace of a stage at an offset, where `checked_add` finds its end. -/
def workspaceAt (registration liveThrough offset bytes : ℕ) : Option WorkspaceInterval :=
  if h : offset + bytes ≤ maxU64 then some ⟨registration, liveThrough, offset, bytes, offset + bytes, h⟩ else none

inductive Placement where
  | failed (status : Status)
  | placed (candidate : WorkspaceInterval)
  | again (search : ℕ)
  deriving DecidableEq

def placementTurn (stage : OwnedStageSpec) (registration liveThrough : ℕ) (active : List WorkspaceInterval)
    (search : ℕ) : Placement :=
  match checkedAlignTo search stage.workspaceAlignment.toNat with
  | none => .failed ⟨.invalidPlan, kGraphOverflow⟩
  | some offset =>
    match workspaceAt registration liveThrough offset stage.workspaceBytes.toNat with
    | none => .failed ⟨.invalidPlan, kGraphOverflow⟩
    | some candidate =>
      match active.find? fun prior => collide candidate prior with
      | none => .placed candidate
      | some prior => .again prior.byteEnd

def placementLoop (stage : OwnedStageSpec) (registration liveThrough : ℕ) (active : List WorkspaceInterval) :
    ℕ → ℕ → Option (Except Status WorkspaceInterval)
  | 0, _ => none
  | turns + 1, search =>
    match placementTurn stage registration liveThrough active search with
    | .failed status => some (.error status)
    | .placed candidate => some (.ok candidate)
    | .again search => placementLoop stage registration liveThrough active turns search

variable {registration liveThrough : ℕ} {active : List WorkspaceInterval} {stage : OwnedStageSpec}

lemma workspaceAt_spec {offset bytes : ℕ} {candidate : WorkspaceInterval}
    (h : workspaceAt registration liveThrough offset bytes = some candidate) :
    candidate.begin = registration ∧ candidate.last = liveThrough ∧ candidate.offset = offset ∧
      candidate.bytes = bytes ∧ candidate.byteEnd = offset + bytes := by
  unfold workspaceAt at h
  split_ifs at h
  rw [← Option.some.inj h]
  exact ⟨rfl, rfl, rfl, rfl, rfl⟩

lemma collide_iff (candidate prior : WorkspaceInterval) : collide candidate prior = true ↔
    (candidate.begin ≤ prior.last ∧ prior.begin ≤ candidate.last) ∧ candidate.bytes ≠ 0 ∧ prior.bytes ≠ 0 ∧
      candidate.offset < prior.byteEnd ∧ prior.offset < candidate.byteEnd := by
  unfold collide stagesOverlap byteRangesOverlap
  by_cases hzero : candidate.bytes = 0 ∨ prior.bytes = 0
  · simp only [Bool.and_eq_true, Bool.or_eq_true, decide_eq_true_eq, hzero, if_true]
    tauto
  · simp only [Bool.and_eq_true, Bool.or_eq_true, decide_eq_true_eq, hzero, if_false]
    tauto

lemma and_mask {value k : ℕ} (hk : 2 ^ k - 1 ≤ maxU64) (hvalue : value ≤ maxU64) :
    value &&& (maxU64 - (2 ^ k - 1)) = value / 2 ^ k * 2 ^ k := by
  have hmask : maxU64 - (2 ^ k - 1) = 2 ^ 64 - ((2 ^ k - 1) + 1) := by
    rw [maxU64]
    omega
  have hless : 2 ^ k - 1 < 2 ^ 64 := Nat.lt_of_le_of_lt hk (by decide)
  have hsmall : value < 2 ^ 64 := Nat.lt_of_le_of_lt hvalue (by decide)
  apply Nat.eq_of_testBit_eq
  intro i
  rw [hmask, Nat.testBit_and, Nat.testBit_two_pow_sub_succ hless, Nat.testBit_two_pow_sub_one,
    Nat.testBit_mul_two_pow, Nat.testBit_div_two_pow]
  by_cases hi : k ≤ i
  · rw [Nat.sub_add_cancel hi]
    by_cases hwide : i < 64
    · simp [hi, hwide]
    · have hbit : value.testBit i = false :=
        Nat.testBit_lt_two_pow (hsmall.trans_le (Nat.pow_le_pow_right (by decide) (not_lt.mp hwide)))
      simp [hbit]
  · simp [hi, not_le.mp hi]

lemma validAlignment_iff {alignment : ℕ} : validAlignment alignment = true ↔ ∃ k, alignment = 2 ^ k := by
  simp only [validAlignment, Bool.and_eq_true, decide_eq_true_eq]
  exact Nat.ne_zero_and_sub_one_eq_zero_iff_isPowerOfTwo

lemma checkedAlignTo_spec {value alignment result : ℕ} (h : checkedAlignTo value alignment = some result)
    (hvalue : value ≤ maxU64) : value ≤ result ∧ alignment ∣ result ∧ result ≤ maxU64 ∧
      ∀ other, value ≤ other → alignment ∣ other → result ≤ other := by
  unfold checkedAlignTo at h
  split_ifs at h with hvalid
  rw [Bool.not_eq_true, Bool.not_eq_false'] at hvalid
  obtain ⟨k, rfl⟩ := validAlignment_iff.mp hvalid
  obtain ⟨candidate, hadd, rfl⟩ := Option.map_eq_some_iff.mp h
  obtain ⟨rfl, hle⟩ := checkedAdd_spec hadd
  have hpos : 0 < 2 ^ k := Nat.two_pow_pos k
  have hsum := hle hvalue
  rw [and_mask (by omega) hsum]
  have hmod := Nat.div_add_mod (value + (2 ^ k - 1)) (2 ^ k)
  have hlt := Nat.mod_lt (value + (2 ^ k - 1)) hpos
  rw [mul_comm] at hmod
  refine ⟨by omega, Dvd.intro_left _ rfl, by omega, ?_⟩
  rintro other hother ⟨m, rfl⟩
  have hdiv : (value + (2 ^ k - 1)) / 2 ^ k ≤ m := by
    rw [← Nat.lt_succ_iff, Nat.div_lt_iff_lt_mul hpos, Nat.succ_mul, mul_comm m]
    omega
  rw [mul_comm (2 ^ k) m]
  exact Nat.mul_le_mul_right _ hdiv

lemma placementTurn_again {search next : ℕ}
    (h : placementTurn stage registration liveThrough active search = .again next) (hsearch : search ≤ maxU64) :
    search < next ∧ ∃ prior ∈ active, prior.byteEnd = next := by
  unfold placementTurn at h
  cases halign : checkedAlignTo search stage.workspaceAlignment.toNat with
  | none => simp [halign] at h
  | some offset =>
    obtain ⟨hle, -⟩ := checkedAlignTo_spec halign hsearch
    cases hplace : workspaceAt registration liveThrough offset stage.workspaceBytes.toNat with
    | none => simp [halign, hplace] at h
    | some candidate =>
      obtain ⟨-, -, hoffset, -⟩ := workspaceAt_spec hplace
      cases hfind : active.find? fun prior => collide candidate prior with
      | none => simp [halign, hplace, hfind] at h
      | some prior =>
        simp only [halign, hplace, hfind, Placement.again.injEq] at h
        obtain ⟨-, -, -, hbefore, -⟩ := (collide_iff candidate prior).mp (List.find?_some hfind)
        exact ⟨by omega, prior, List.mem_of_find?_eq_some hfind, h⟩

def behind (active : List WorkspaceInterval) (search : ℕ) : ℕ := active.countP fun prior => search < prior.byteEnd

lemma behind_lt {search next : ℕ} (hless : search < next)
    (hend : ∃ prior ∈ active, prior.byteEnd = next) : behind active next < behind active search := by
  obtain ⟨prior, hmem, rfl⟩ := hend
  have hle : ∀ list : List WorkspaceInterval, behind list prior.byteEnd ≤ behind list search := by
    intro list
    apply List.countP_mono_left
    intro other _ hother
    simp only [decide_eq_true_eq] at hother ⊢
    omega
  obtain ⟨before, after, rfl⟩ := List.append_of_mem hmem
  have hbefore := hle before
  have hafter := hle after
  unfold behind at hbefore hafter ⊢
  rw [List.countP_append, List.countP_append, List.countP_cons_of_neg (by simp), List.countP_cons_of_pos (by simpa)]
  omega

lemma placementLoop_isSome {turns search : ℕ} (hturns : behind active search < turns) (hsearch : search ≤ maxU64) :
    (placementLoop stage registration liveThrough active turns search).isSome = true := by
  induction turns generalizing search with
  | zero => exact absurd hturns (Nat.not_lt_zero _)
  | succ turns ih =>
    rw [placementLoop]
    cases hturn : placementTurn stage registration liveThrough active search with
    | failed status => rfl
    | placed candidate => rfl
    | again next =>
      obtain ⟨hless, hend⟩ := placementTurn_again hturn hsearch
      have hbehind := behind_lt hless hend
      obtain ⟨prior, -, rfl⟩ := hend
      exact ih (by omega) prior.byteEnd_le

lemma placementLoop_ends (stage : OwnedStageSpec) (registration liveThrough : ℕ) (active : List WorkspaceInterval) :
    (placementLoop stage registration liveThrough active (active.length + 1) 0).isSome = true :=
  placementLoop_isSome (Nat.lt_succ_of_le List.countP_le_length) (Nat.zero_le _)

/-- `allocate_workspace`: the live workspaces, the offset of the stage and the high water behind it. -/
def allocateWorkspace (stage : OwnedStageSpec) (registration liveThrough : ℕ) (active : List WorkspaceInterval)
    (highWater : ℕ) : Except Status (List WorkspaceInterval × ℕ × ℕ) :=
  if stage.workspaceBytes = 0 then .ok (active, 0, highWater)
  else if liveThrough < registration || !validAlignment stage.workspaceAlignment.toNat then
    .error ⟨.invalidPlan, kGraphWorkspace⟩
  else
    let placement : Except Status WorkspaceInterval :=
      if stage.hasFixedWorkspaceOffset then
        if stage.fixedWorkspaceOffset.toNat % stage.workspaceAlignment.toNat ≠ 0 then
          .error ⟨.invalidPlan, kGraphWorkspace⟩
        else
          match workspaceAt registration liveThrough stage.fixedWorkspaceOffset.toNat stage.workspaceBytes.toNat with
          | none => .error ⟨.invalidPlan, kGraphOverflow⟩
          | some candidate =>
            if active.any fun prior => collide candidate prior then .error ⟨.invalidPlan, kGraphWorkspace⟩
            else .ok candidate
      else (placementLoop stage registration liveThrough active (active.length + 1) 0).get
        (placementLoop_ends stage registration liveThrough active)
    match placement with
    | .error status => .error status
    | .ok candidate => .ok (active ++ [candidate], candidate.offset, max highWater candidate.byteEnd)

def liveThroughOrdinal (stages : List OwnedStageSpec) (ordinal : ℕ) (registered : OwnedStageSpec) : Option ℕ :=
  if registered.workspaceLiveThrough = 0 then some ordinal
  else ((stages.drop ordinal).findIdx? fun selected => selected.id = registered.workspaceLiveThrough).map
    fun distance => ordinal + distance

def maxUint32 : ℕ := 2 ^ 32 - 1
def maxUint16 : ℕ := 2 ^ 16 - 1

/-- `lastNode` is none before the first node. -/
structure NodeChain where
  nodes : List GraphNode := []
  edges : List GraphEdge := []
  lastNode : Option ℕ := none
  deriving DecidableEq

def appendEdge (edges : List GraphEdge) (source target : ℕ) : List GraphEdge :=
  if source = target || edges.getLast? = some ⟨source, target⟩ then edges else edges ++ [⟨source, target⟩]

/-- `add_node`. -/
def addNode (stage : UInt16) (ordinal : ℕ) (chain : NodeChain) (kind : GraphNodeKind) : Option NodeChain :=
  if maxUint32 ≤ chain.nodes.length then none
  else
    let index := chain.nodes.length
    some {
      nodes := chain.nodes ++ [⟨stage, kind, ordinal⟩]
      edges := (chain.lastNode.map fun last => appendEdge chain.edges last index).getD chain.edges
      lastNode := some index }

def nodeKinds (registered : OwnedStageSpec) : List GraphNodeKind :=
  (if !registered.ghosts.isEmpty then [.haloBegin, .computeInterior, .haloFinish, .computeBoundary]
    else match registered.kind with
      | .service => [.service]
      | .commit => [.commit]
      | .compute => [.compute]) ++
    if registered.collectiveConsensus then [.collectiveConsensus] else []

/-- `checked_u64_add`. -/
def checkedU64Add (destination increment : UInt64) : Option UInt64 :=
  if UInt64.ofNat maxU64 - destination < increment then none else some (destination + increment)

def StageResourceSpec.checkedSum (a b : StageResourceSpec) : Option StageResourceSpec := do
  let mergedHaloMessages ← checkedU64Add a.mergedHaloMessages b.mergedHaloMessages
  let mergedHaloBytes ← checkedU64Add a.mergedHaloBytes b.mergedHaloBytes
  let numericRefills ← checkedU64Add a.numericRefills b.numericRefills
  let hierarchyRebuilds ← checkedU64Add a.hierarchyRebuilds b.hierarchyRebuilds
  let cachePublishes ← checkedU64Add a.cachePublishes b.cachePublishes
  let linearIterations ← checkedU64Add a.linearIterations b.linearIterations
  let stageWallNanoseconds ← checkedU64Add a.stageWallNanoseconds b.stageWallNanoseconds
  return ⟨mergedHaloMessages, mergedHaloBytes, numericRefills, hierarchyRebuilds, cachePublishes, linearIterations,
    stageWallNanoseconds⟩

structure GraphBuild where
  states : List FieldState
  workspaces : List WorkspaceInterval := []
  workspaceHighWater : ℕ := 0
  chain : NodeChain := {}
  unconsensedWork : Bool := false
  hasConsensus : Bool := false
  seenCommit : Bool := false
  resources : StageResourceSpec := {}
  stages : List FrozenStage := []
  reads : List FieldAccessSpec := []
  writes : List FieldAccessSpec := []
  ghosts : List FieldAccessSpec := []
  ghostWidths : List UInt8 := []
  invalidations : List FieldAccessSpec := []
  deriving DecidableEq

/-- `fits_appended_u32` and `fit_u16`. -/
def fitsAppended (current appended : ℕ) : Bool := current + appended ≤ maxUint32 && appended ≤ maxUint16

/-- Work behind which no commit may follow without a consensus. -/
def mayFailOrMutate (registered : OwnedStageSpec) : Bool :=
  registered.kind ≠ .commit || !registered.writes.isEmpty || !registered.invalidates.isEmpty ||
    registered.resources.numericRefills ≠ 0 || registered.resources.hierarchyRebuilds ≠ 0 ||
    registered.resources.cachePublishes ≠ 0

def freezeStage (stages : List OwnedStageSpec) (ordinal : ℕ) (registered : OwnedStageSpec) (build : GraphBuild) :
    Except Status GraphBuild :=
  if maxUint32 < ordinal || (build.seenCommit && registered.kind ≠ .service) ||
      (registered.kind = .commit && (build.seenCommit || build.unconsensedWork || !build.hasConsensus)) then
    .error ⟨.invalidPlan, kGraphConsensus⟩
  else
    match accessFailure build.states registered with
    | some detail => .error ⟨.invalidPlan, detail⟩
    | none =>
      match liveThroughOrdinal stages ordinal registered with
      | none => .error ⟨.invalidPlan, kGraphWorkspace⟩
      | some liveThrough =>
        match allocateWorkspace registered ordinal liveThrough build.workspaces build.workspaceHighWater with
        | .error status => .error status
        | .ok (workspaces, offset, highWater) =>
          match (nodeKinds registered).foldlM (addNode registered.id ordinal) build.chain with
          | none => .error ⟨.invalidPlan, kGraphOverflow⟩
          | some chain =>
            let nodeBegin := build.chain.nodes.length
            let nodeCount := chain.nodes.length - nodeBegin
            if !fitsAppended build.reads.length registered.reads.length ||
                !fitsAppended build.writes.length registered.writes.length ||
                !fitsAppended build.ghosts.length registered.ghosts.length ||
                !fitsAppended build.invalidations.length registered.invalidates.length || maxUint16 < nodeCount then
              .error ⟨.invalidPlan, kGraphOverflow⟩
            else
              match build.resources.checkedSum registered.resources with
              | none => .error ⟨.invalidPlan, kGraphOverflow⟩
              | some resources =>
                .ok {
                  states := statesBehind registered build.states
                  workspaces := workspaces
                  workspaceHighWater := highWater
                  chain := chain
                  unconsensedWork := !registered.collectiveConsensus &&
                    (build.unconsensedWork || mayFailOrMutate registered)
                  hasConsensus := build.hasConsensus || registered.collectiveConsensus
                  seenCommit := build.seenCommit || registered.kind = .commit
                  resources := resources
                  stages := build.stages ++ [{
                    id := registered.id
                    kind := registered.kind
                    registrationOrdinal := ordinal
                    nodeBegin := nodeBegin
                    nodeCount := nodeCount
                    readBegin := build.reads.length
                    readCount := registered.reads.length
                    writeBegin := build.writes.length
                    writeCount := registered.writes.length
                    ghostBegin := build.ghosts.length
                    ghostCount := registered.ghosts.length
                    invalidationBegin := build.invalidations.length
                    invalidationCount := registered.invalidates.length
                    workspaceOffset := offset
                    workspaceBytes := registered.workspaceBytes.toNat
                    workspaceAlignment := registered.workspaceAlignment.toNat
                    workspaceLiveThrough := registered.workspaceLiveThrough
                    resources := registered.resources
                    collectiveConsensus := registered.collectiveConsensus }]
                  reads := build.reads ++ registered.reads
                  writes := build.writes ++ registered.writes
                  ghosts := build.ghosts ++ registered.ghosts
                  ghostWidths := build.ghostWidths ++ registered.ghostWidths
                  invalidations := build.invalidations ++ registered.invalidates }

def freezeStages (stages : List OwnedStageSpec) : ℕ → List OwnedStageSpec → GraphBuild → Except Status GraphBuild
  | _, [], build => .ok build
  | ordinal, registered :: rest, build =>
    match freezeStage stages ordinal registered build with
    | .error status => .error status
    | .ok build => freezeStages stages (ordinal + 1) rest build

def StateVisibility.toRaw : StateVisibility → UInt64
  | accepted => 0
  | trial => 1
  | pending => 2
  | committedSnapshot => 3
  | workspace => 4

def StageKind.toRaw : StageKind → UInt64
  | compute => 0
  | service => 1
  | commit => 2

def GraphNodeKind.toRaw : GraphNodeKind → UInt64
  | compute => 0
  | haloBegin => 1
  | computeInterior => 2
  | haloFinish => 3
  | computeBoundary => 4
  | service => 5
  | collectiveConsensus => 6
  | commit => 7

/-- `hash_access`. -/
def FieldAccessSpec.words (access : FieldAccessSpec) : List UInt64 :=
  [UInt64.ofNat access.field.toNat, access.visibility.toRaw]

def StageResourceSpec.words (r : StageResourceSpec) : List UInt64 :=
  [r.mergedHaloMessages, r.mergedHaloBytes, r.numericRefills, r.hierarchyRebuilds, r.cachePublishes,
    r.linearIterations, r.stageWallNanoseconds]

def flag (b : Bool) : UInt64 := if b then 1 else 0

def GraphFieldSpec.words (field : GraphFieldSpec) : List UInt64 :=
  field.access.words ++ [UInt64.ofNat field.ghostCapacity.toNat, flag field.initiallyAvailable]

def FrozenStage.words (graph : FrozenExecutionGraph) (stage : FrozenStage) : List UInt64 :=
  [UInt64.ofNat stage.id.toNat, stage.kind.toRaw, UInt64.ofNat stage.registrationOrdinal,
    UInt64.ofNat stage.nodeBegin, UInt64.ofNat stage.nodeCount, UInt64.ofNat stage.workspaceOffset,
    UInt64.ofNat stage.workspaceBytes, UInt64.ofNat stage.workspaceAlignment,
    UInt64.ofNat stage.workspaceLiveThrough.toNat, flag stage.collectiveConsensus] ++ stage.resources.words ++
  [0x7265616473, UInt64.ofNat stage.readCount] ++
    (slice graph.reads stage.readBegin stage.readCount).flatMap (·.words) ++
  [0x777269746573, UInt64.ofNat stage.writeCount] ++
    (slice graph.writes stage.writeBegin stage.writeCount).flatMap (·.words) ++
  [0x67686f737473, UInt64.ofNat stage.ghostCount] ++
    ((slice graph.ghosts stage.ghostBegin stage.ghostCount).zip
      (slice graph.ghostWidths stage.ghostBegin stage.ghostCount)).flatMap
        (fun ghost => ghost.1.words ++ [UInt64.ofNat ghost.2.toNat]) ++
  [0x696e76616c6964, UInt64.ofNat stage.invalidationCount] ++
    (slice graph.invalidations stage.invalidationBegin stage.invalidationCount).flatMap (·.words)

def graphFingerprint (fields : List GraphFieldSpec) (graph : FrozenExecutionGraph) : UInt64 :=
  let words :=
    [0x6669656c6473, UInt64.ofNat fields.length] ++ fields.flatMap (·.words) ++
    [0x737461676573, UInt64.ofNat graph.stages.length] ++ graph.stages.flatMap (FrozenStage.words graph) ++
    [0x6e6f646573, UInt64.ofNat graph.nodes.length] ++ graph.nodes.flatMap
      (fun node => [UInt64.ofNat node.stage.toNat, node.kind.toRaw, UInt64.ofNat node.ordinal]) ++
    [0x6564676573, UInt64.ofNat graph.edges.length] ++ graph.edges.flatMap
      (fun edge => [UInt64.ofNat edge.source, UInt64.ofNat edge.target]) ++
    [0x7265736f75726365, UInt64.ofNat graph.resources.maxLiveWorkspaceBytes,
      UInt64.ofNat graph.resources.allocationAllowance] ++ graph.resources.stages.words
  let hash := words.foldl hashMix 1469598103934665603
  if hash = 0 then 1 else hash

/-- `freeze` into an empty graph: the compiler behind it and the graph. -/
def ExecutionGraphCompiler.freeze (compiler : ExecutionGraphCompiler) (out : FrozenExecutionGraph) :
    Except Status (ExecutionGraphCompiler × FrozenExecutionGraph) :=
  if !compiler.configured || compiler.frozen || compiler.stages.isEmpty || out.fingerprint ≠ 0 ||
      !out.stages.isEmpty || !out.nodes.isEmpty || !out.edges.isEmpty then
    .error ⟨.invalidPlan, kGraphConfigure⟩
  else
    let states := compiler.fields.map fun field =>
      (⟨field.access, field.initiallyAvailable, field.initiallyAvailable, false⟩ : FieldState)
    match freezeStages compiler.stages 0 compiler.stages { states := states } with
    | .error status => .error status
    | .ok build =>
      if build.unconsensedWork then .error ⟨.invalidPlan, kGraphConsensus⟩
      else
        let graph : FrozenExecutionGraph :=
          { stages := build.stages
            nodes := build.chain.nodes
            edges := build.chain.edges
            reads := build.reads
            writes := build.writes
            ghosts := build.ghosts
            ghostWidths := build.ghostWidths
            invalidations := build.invalidations
            resources := ⟨build.workspaceHighWater, 0, build.resources⟩ }
        .ok ({ compiler with frozen := true },
          { graph with fingerprint := graphFingerprint compiler.fields graph })

end HundunFlow
