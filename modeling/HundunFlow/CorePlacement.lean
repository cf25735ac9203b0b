import HundunFlow.Status
import HundunFlow.Lib.LeadingRun
import HundunFlow.Lib.Sorting
import Mathlib.Data.Prod.Lex

/-!
# Default cores of the ranks of a node

`discover_shared_core_placement` gathers the cores every rank of a node may use, and each rank works out
its own default cores from them. With equal masks the ranks are spread over the NUMA nodes and divide the
cores of a node evenly; otherwise each core goes to the least loaded of the ranks that may use it.

The gathering collectives return what the ranks sent. A rank may run out of memory in three places, and
the ranks agree on the outcome after each.
-/

namespace HundunFlow

open Lib

def kCpuAffinity : UInt32 := 602

/-- `std::numeric_limits<int>::max()`. -/
def cIntMax : ℕ := 2 ^ 31 - 1

structure CoreMask where
  allowed : List ℤ := []
  numaNodes : List ℤ := []
  deriving DecidableEq

structure SharedCorePlacement where
  rank : ℕ := 0
  count : ℕ := 0
  numaNodeCount : ℕ := 1
  defaultCores : List ℤ := []
  deriving DecidableEq

/-- With equal masks the field `rank` holds the NUMA node. -/
structure CoreCandidate where
  core : ℤ := 0
  rank : ℤ := 0
  deriving DecidableEq

/-- `consensus_status` with the statuses of all ranks: the first that is not ok. -/
def consensusStatus (statuses : List Status) : Except Status Unit :=
  match statuses.find? fun status => !status.isOk with
  | some status => .error status
  | none => .ok ()

def validCounts : List ℕ → ℕ → Bool
  | [], _ => true
  | count :: counts, wideTotal =>
    count ≤ cIntMax && wideTotal ≤ cIntMax - count && validCounts counts (wideTotal + count)

def numaUnionCount (gatheredNuma : List ℤ) : ℕ :=
  (List.range gatheredNuma.length).countP fun index =>
    !(gatheredNuma.take index).contains (gatheredNuma.getD index 0)

def identicalMasks (masks : List CoreMask) : Bool :=
  masks.all fun mask => mask.allowed = (masks.headD {}).allowed

/-- The loop over the groups of ranks: the node whose group holds `rank`, the first rank of the group
and its size. -/
def selectNode (nodeQuotient nodeRemainder rank : ℕ) : ℕ → ℕ → ℕ → ℕ × ℕ × ℕ
  | 0, _, firstRankForNode => (0, firstRankForNode, 0)
  | left + 1, node, firstRankForNode =>
    let group := nodeQuotient + if node < nodeRemainder then 1 else 0
    if firstRankForNode ≤ rank ∧ rank < firstRankForNode + group then (node, firstRankForNode, group)
    else selectNode nodeQuotient nodeRemainder rank left (node + 1) (firstRankForNode + group)

def nodeCandidates (mask : CoreMask) : List CoreCandidate :=
  sortOn (fun candidate => toLex (candidate.rank, candidate.core)) (List.zipWith CoreCandidate.mk mask.allowed mask.numaNodes)

/-- `rank_in_node` of `ranks_for_node` ranks takes its part of the cores of a node. -/
def shareOfNode (node : List CoreCandidate) (rankInNode ranksForNode : ℕ) : List ℤ :=
  let quotient := node.length / ranksForNode
  let remainder := node.length % ranksForNode
  let count := quotient + if rankInNode < remainder then 1 else 0
  ((node.drop (rankInNode * quotient + min rankInNode remainder)).take count).map CoreCandidate.core

def numaPlacement (mask : CoreMask) (rankCount rank : ℕ) : List ℤ :=
  let candidates := nodeCandidates mask
  let activeNodeCount := min (runCount CoreCandidate.rank candidates) rankCount
  let (selectedNodeIndex, firstRankForNode, ranksForNode) :=
    selectNode (rankCount / activeNodeCount) (rankCount % activeNodeCount) rank activeNodeCount 0 0
  let node := leadingRun CoreCandidate.rank ((afterRun CoreCandidate.rank)^[selectedNodeIndex] candidates)
  shareOfNode node (rank - firstRankForNode) ranksForNode

def rankCandidates (masks : List CoreMask) : List CoreCandidate :=
  sortOn (fun candidate => toLex (candidate.core, candidate.rank))
    (masks.zipIdx.flatMap fun (mask, rank) => mask.allowed.map fun core => ⟨core, rank⟩)

def betterOwner (ownerLoad : List ℕ) (owner eligible : ℤ) : ℤ :=
  let load := fun rank : ℤ => ownerLoad.getD rank.toNat 0
  if load eligible < load owner || (load eligible = load owner && eligible < owner) then eligible else owner

def ownerOfRun (ownerLoad : List ℕ) : List CoreCandidate → ℤ
  | [] => 0
  | first :: others => others.foldl (fun owner candidate => betterOwner ownerLoad owner candidate.rank) first.rank

/-- One core is given away: the loads, and the cores of `localRank` so far. -/
def assignRun (localRank : ℕ) (state : List ℕ × List ℤ) (run : List CoreCandidate) : List ℕ × List ℤ :=
  let owner := ownerOfRun state.1 run
  (state.1.modify owner.toNat (· + 1),
    if owner = localRank then state.2 ++ [(run.headD {}).core] else state.2)

def greedyPlacement (masks : List CoreMask) (localRank : ℕ) : List ℤ :=
  (((rankCandidates masks).splitBy fun a b => a.core = b.core).foldl (assignRun localRank)
    (List.replicate masks.length 0, [])).2

inductive PlacementStage where
  | counts | buffers | cores
  deriving DecidableEq

def stageStatuses (memory : PlacementStage → ℕ → Bool) (stage : PlacementStage) (ranks : ℕ) : List Status :=
  (List.range ranks).map fun rank => if memory stage rank then {} else ⟨.allocationFailure, kCpuAffinity⟩

/-- `discover_shared_core_placement` on rank `localRank` of the node. -/
def discoverSharedCorePlacement (masks : List CoreMask) (memory : PlacementStage → ℕ → Bool) (localRank : ℕ) :
    Except Status SharedCorePlacement := do
  let mask := masks.getD localRank {}
  if mask.allowed.length ≠ mask.numaNodes.length then throw ⟨.invalidPlan, kCpuAffinity⟩
  consensusStatus (stageStatuses memory .counts masks.length)
  consensusStatus (masks.map fun _ =>
    if validCounts (masks.map fun mask => mask.allowed.length) 0 then {} else ⟨.invalidPlan, kCpuAffinity⟩)
  consensusStatus (stageStatuses memory .buffers masks.length)
  let defaultCores :=
    if identicalMasks masks then numaPlacement (masks.headD {}) masks.length localRank
    else greedyPlacement masks localRank
  consensusStatus (stageStatuses memory .cores masks.length)
  return ⟨localRank, masks.length, max 1 (numaUnionCount (masks.flatMap CoreMask.numaNodes)), defaultCores⟩

end HundunFlow
