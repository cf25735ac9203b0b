import HundunFlow.FaceFluxStorage
import HundunFlow.Lib.CombinationTree
import HundunFlow.ScatterExchange

/-!
# Checked reductions

Every rank puts its local status, the size of its span and its numbers into one packet. Packets
are combined two at a time, by `MPI_Allreduce` along a tree of its choice or by rank zero in a
loop. The words of the header are whole numbers; a size becomes a `double` on the way.
-/

namespace HundunFlow

open Lib

def kPacketWords : ℕ := 6

def kInvalidStatus : UInt32 := 11009
def kInvalidSpan : UInt32 := 11010
def kSpanMismatch : UInt32 := 11011
def kSpanCapacity : UInt32 := 11012
def kSpanOverlap : UInt32 := 11013
def kNonFiniteLocal : UInt32 := 11014
def kCounterOverflow : UInt32 := 11015
def kPacketFailure : UInt32 := 11017
def kCountMismatch : UInt32 := 11018
def kNonFiniteGlobal : UInt32 := 11019

/-- `static_cast<double>` of a size: exact below `2 ^ 53`, rounded to the nearest `double` with
ties to even from there on. -/
def sizeAsDouble (size : ℕ) : ℕ :=
  if size < 2 ^ 53 then size
  else
    let unit := 2 ^ (size.log2 - 52)
    let low := size / unit
    if 2 * (size % unit) < unit || (2 * (size % unit) = unit && low % 2 = 0) then low * unit else (low + 1) * unit

structure Packet (F : Type) where
  size : ℕ
  referenceRank : ℕ
  referenceCount : ℕ
  failureRank : ℕ
  failureCode : ℕ
  failureDetail : ℕ
  values : List F
  deriving DecidableEq

inductive ReductionMode where
  | reproducibleTree | mpiAllreduce
  deriving DecidableEq

structure LinearReductionCounters where
  calls : ℕ := 0
  scalars : ℕ := 0
  logicalBytes : ℕ := 0
  treeMessages : ℕ := 0
  deriving DecidableEq

/-- A compiled engine. `compile` only accepts a capacity whose packet an `int` can count. -/
structure ReductionEngine where
  rank : ℕ
  size : ℕ
  mode : ReductionMode
  maximumScalars : ℕ
  counters : LinearReductionCounters := {}
  bounded : maximumScalars ≤ maxInt - kPacketWords

/-- What a rank hands to a reduction. Whether the spans overlap is a fact about their addresses. -/
structure ReductionCall (F : Type) where
  localSpan : Span F
  globalSize : ℕ
  globalIsNull : Bool
  overlap : Bool
  supplied : RawStatus

structure ReductionVerdict where
  status : Status := {}
  /-- -1 when no rank has failed. -/
  lowestFailingRank : ℤ := -1
  deriving DecidableEq

namespace Packet

variable {F : Type}

def countMismatch : Status := ⟨.invalidPlan, kCountMismatch⟩

def isCountMismatch (code detail : ℕ) : Bool :=
  code = StatusCode.invalidPlan.toWire && detail = kCountMismatch.toNat

/-- `select_failure`. -/
def selectFailure (rank code detail : ℕ) (packet : Packet F) : Packet F :=
  let earlierRank := decide (rank < packet.failureRank)
  let proposedCountMismatch := isCountMismatch code detail
  let selectedCountMismatch := isCountMismatch packet.failureCode packet.failureDetail
  let sameRankBetter := rank = packet.failureRank &&
    ((selectedCountMismatch && !proposedCountMismatch) ||
      (selectedCountMismatch = proposedCountMismatch &&
        (code < packet.failureCode || (code = packet.failureCode && detail < packet.failureDetail))))
  if earlierRank || sameRankBetter then
    { packet with failureRank := rank, failureCode := code, failureDetail := detail }
  else packet

/-- `select_failure` with the status of differing counts. -/
def selectCountMismatch (rank : ℕ) (packet : Packet F) : Packet F :=
  packet.selectFailure rank StatusCode.invalidPlan.toWire kCountMismatch.toNat

/-- The header of `combine_packets`. -/
def combineHeaders (input inout : Packet F) : Packet F :=
  let selected := inout.selectFailure input.failureRank input.failureCode input.failureDetail
  if input.referenceRank < inout.referenceRank then
    { (if input.referenceCount ≠ inout.referenceCount then selected.selectCountMismatch inout.referenceRank
        else selected) with
      referenceRank := input.referenceRank, referenceCount := input.referenceCount }
  else if input.referenceCount ≠ inout.referenceCount then selected.selectCountMismatch input.referenceRank
  else selected

/-- `combine_packets`, with the operation on two numbers. -/
def combinePackets (op : F → F → F) (input inout : Packet F) : Packet F :=
  { combineHeaders input inout with values := List.zipWith op inout.values input.values }

end Packet

namespace ReductionEngine

variable {F : Type}

/-- The checks of `validate_reduction` on one rank. -/
def localStatus (isFinite : F → Bool) (engine : ReductionEngine) (call : ReductionCall F) : Status :=
  let supplied := call.supplied.orElse ⟨.invalidPlan, kInvalidStatus⟩
  if !supplied.isOk then supplied
  else if call.localSpan.size = 0 || call.globalSize = 0 || call.localSpan.isNull || call.globalIsNull then
    ⟨.invalidPlan, kInvalidSpan⟩
  else if call.localSpan.size ≠ call.globalSize then ⟨.invalidPlan, kSpanMismatch⟩
  else if engine.maximumScalars < call.localSpan.size then ⟨.invalidPlan, kSpanCapacity⟩
  else if call.overlap then ⟨.invalidPlan, kSpanOverlap⟩
  else if !call.localSpan.values.all isFinite then ⟨.numericalFailure, kNonFiniteLocal⟩
  else {}

def nextCounters (engine : ReductionEngine) (scalarCount : ℕ) : Option LinearReductionCounters := do
  let logicalBytes ← checkedMultiply scalarCount 8
  let treeMessages ← checkedMultiply (engine.size - 1) 2
  let calls ← checkedAdd engine.counters.calls 1
  let scalars ← checkedAdd engine.counters.scalars scalarCount
  let bytes ← checkedAdd engine.counters.logicalBytes logicalBytes
  let messages ← checkedAdd engine.counters.treeMessages
    (if engine.mode = .reproducibleTree then treeMessages else 0)
  some ⟨calls, scalars, bytes, messages⟩

/-- The status a rank puts into its packet. -/
def packetStatus (isFinite : F → Bool) (engine : ReductionEngine) (call : ReductionCall F) : Status :=
  let status := engine.localStatus isFinite call
  if !status.isOk then status
  else
    match engine.nextCounters call.localSpan.size with
    | none => ⟨.invalidPlan, kCounterOverflow⟩
    | some _ => status

/-- The numbers of `initialize_packet`; the storage is cleared before. -/
def packetValues (zero : F) (engine : ReductionEngine) (span : Span F) (status : Status) : List F :=
  if status.isOk && !span.isNull && span.size ≤ engine.maximumScalars then
    span.values ++ List.replicate (engine.maximumScalars - span.size) zero
  else List.replicate engine.maximumScalars zero

/-- `initialize_packet`. -/
def initializePacket (zero : F) (engine : ReductionEngine) (span : Span F) (status : Status) : Packet F where
  size := engine.maximumScalars + kPacketWords
  referenceRank := engine.rank
  referenceCount := sizeAsDouble span.size
  failureRank := if status.isOk then engine.size else engine.rank
  failureCode := if status.isOk then StatusCode.ok.toWire else status.code.toWire
  failureDetail := if status.isOk then 0 else status.detail.toNat
  values := engine.packetValues zero span status

/-- The tail of `packet_collective`: what the received packet says. -/
def packetVerdict (engine : ReductionEngine) (packet : Packet F) : ReductionVerdict :=
  if packet.size ≠ engine.maximumScalars + kPacketWords || engine.size < packet.failureRank ||
      StatusCode.ioFailure.toWire < packet.failureCode || 2 ^ 32 - 1 < packet.failureDetail then
    ⟨⟨.mpiFailure, kPacketFailure⟩, -1⟩
  else if packet.failureRank < engine.size then
    match StatusCode.ofWire packet.failureCode with
    | some code => ⟨⟨code, UInt32.ofNat packet.failureDetail⟩, packet.failureRank⟩
    | none => ⟨⟨.mpiFailure, kPacketFailure⟩, -1⟩
  else {}

/-- `validate_reduction` behind the collective: the verdict, and on success the global span and
the engine with its counters. -/
def finishReduction (isFinite : F → Bool) (engine : ReductionEngine) (call : ReductionCall F) (packet : Packet F) :
    ReductionVerdict × Option (List F × ReductionEngine) :=
  let verdict := engine.packetVerdict packet
  if !verdict.status.isOk then (verdict, none)
  else
    let values := packet.values.take call.localSpan.size
    if !values.all isFinite then (⟨⟨.numericalFailure, kNonFiniteGlobal⟩, -1⟩, none)
    else
      match engine.nextCounters call.localSpan.size with
      | none => (verdict, some (values, engine))
      | some counters => (verdict, some (values, { engine with counters := counters }))

end ReductionEngine

variable {F : Type} {n : ℕ}

def rankZeroLoop (op : F → F → F) (hn : 0 < n) (packets : Fin n → Packet F) : Packet F :=
  ((List.finRange n).tail).foldl (fun inout source => Packet.combinePackets op (packets source) inout)
    (packets ⟨0, hn⟩)

/-- The packets a collective may hand to a rank. `MPI_Allreduce` combines the packets of all
ranks along any tree with its operands in any order. -/
inductive CombinedPacket (op : F → F → F) (hn : 0 < n) (packets : Fin n → Packet F) :
    ReductionMode → Packet F → Prop where
  | mpiAllreduce (tree : CombinationTree (Fin n)) (hparties : tree.parties = Finset.univ.val) :
      CombinedPacket op hn packets .mpiAllreduce (tree.eval (Packet.combinePackets op) packets)
  | reproducibleTree : CombinedPacket op hn packets .reproducibleTree (rankZeroLoop op hn packets)

end HundunFlow
