import HundunFlow.HaloEngine
import HundunFlow.Reduction

/-!
# Located maxima

Every rank brings one entry for each index of a span, and all ranks get the entry of the greatest
value together with its location and payload. The ranks first agree on a status. Then the entries
go through `MPI_Allreduce`, or to rank zero and back in messages. Nothing on the wire says how many
entries a rank has brought.
-/

namespace HundunFlow

open Lib

def kCollectiveFailure : UInt32 := 11016

/-- `sizeof(ReductionMaximumLocation)`. -/
def kMaximumLocationBytes : ℕ := 88

/-- What the code asks of a `double`. A finite one stands for a rational number. -/
class DoubleNumber (F : Type) where
  zero : F
  isFinite : F → Bool
  number : F → ℚ

/-- Rational numbers are finite. -/
instance rationalNumber : DoubleNumber ℚ where
  zero := 0
  isFinite _ := true
  number := id

structure ReductionMaximumLocation (F : Type) where
  valid : Bool
  value : F
  globalLocation : UInt64
  rank : ℤ
  payload : List F
  deriving DecidableEq

/-- A compiled engine with the counters that only located maxima check. -/
structure LocatingEngine extends ReductionEngine where
  blockingOperations : ℕ := 0
  wallNanoseconds : ℕ := 0

/-- What a rank hands to a call, the old entries of the global span included, and the nanoseconds that the
call takes. Whether the spans overlap is a fact about their addresses. -/
structure MaximumCall (F : Type) where
  localSpan : Span (ReductionMaximumLocation F)
  globalSpan : Span (ReductionMaximumLocation F)
  overlap : Bool
  supplied : RawStatus
  elapsed : ℕ

/-- What a call leaves: its status, the entries of the global span and the engine. -/
structure MaximumResult (F : Type) where
  status : Status
  output : List (ReductionMaximumLocation F)
  engine : LocatingEngine

section Entries

variable {F : Type} [DoubleNumber F]

def ReductionMaximumLocation.default : ReductionMaximumLocation F := ⟨false, DoubleNumber.zero, 0, -1, []⟩

def betterMaximumLocation (candidate selected : ReductionMaximumLocation F) : Bool :=
  candidate.valid && (!selected.valid || DoubleNumber.number selected.value < DoubleNumber.number candidate.value ||
    (DoubleNumber.number candidate.value = DoubleNumber.number selected.value &&
      (candidate.globalLocation < selected.globalLocation ||
        (candidate.globalLocation = selected.globalLocation && candidate.rank < selected.rank))))

def combineMaximumLocation (input inout : ReductionMaximumLocation F) : ReductionMaximumLocation F :=
  if betterMaximumLocation input inout then input else inout

/-- `combine_maximum_locations`, on as many entries as there are. -/
def combineMaximumLocations (input inout : List (ReductionMaximumLocation F)) : List (ReductionMaximumLocation F) :=
  List.zipWith combineMaximumLocation input inout

def finiteLocation (entry : ReductionMaximumLocation F) : Bool :=
  DoubleNumber.isFinite entry.value && 0 ≤ DoubleNumber.number entry.value &&
    entry.globalLocation ≠ 0xFFFFFFFFFFFFFFFF && entry.payload.all DoubleNumber.isFinite

end Entries

namespace LocatingEngine

variable {F : Type} [DoubleNumber F]

def validLocal (engine : LocatingEngine) (entry : ReductionMaximumLocation F) : Bool :=
  !entry.valid || (finiteLocation entry && entry.rank = engine.rank)

def validGlobal (engine : LocatingEngine) (entry : ReductionMaximumLocation F) : Bool :=
  entry.valid && finiteLocation entry && 0 ≤ entry.rank && entry.rank < engine.size

/-- The checks before the collective. -/
def maximumStatus (engine : LocatingEngine) (call : MaximumCall F) : Status :=
  let supplied := call.supplied.orElse ⟨.invalidPlan, kInvalidStatus⟩
  if !supplied.isOk then supplied
  else if call.localSpan.isNull || call.globalSpan.isNull || call.localSpan.size = 0 then
    ⟨.invalidPlan, kInvalidSpan⟩
  else if call.localSpan.size ≠ call.globalSpan.size then ⟨.invalidPlan, kSpanMismatch⟩
  else if engine.maximumScalars < call.localSpan.size || maxInt < call.localSpan.size then
    ⟨.invalidPlan, kSpanCapacity⟩
  else if call.overlap then ⟨.invalidPlan, kSpanOverlap⟩
  else if !call.localSpan.values.all engine.validLocal then ⟨.numericalFailure, kNonFiniteLocal⟩
  else {}

def nextMaximumCounters (engine : LocatingEngine) (count elapsed : ℕ) : Option LocatingEngine := do
  let calls ← checkedAdd engine.counters.calls 1
  let scalars ← checkedAdd engine.counters.scalars count
  let logicalBytes ← checkedAdd engine.counters.logicalBytes (count * kMaximumLocationBytes)
  let treeMessages ← checkedAdd engine.counters.treeMessages
    (if engine.mode = .reproducibleTree then (engine.size - 1) * 2 else 0)
  let blockingOperations ← checkedAdd engine.blockingOperations 2
  let wallNanoseconds ← checkedAdd engine.wallNanoseconds elapsed
  some { engine with
    counters := ⟨calls, scalars, logicalBytes, treeMessages⟩
    blockingOperations := blockingOperations
    wallNanoseconds := wallNanoseconds }

end LocatingEngine

/-- How the exchange of the entries ends for one rank: with entries in its receive storage, with an error of
MPI, or not at all. -/
inductive MaximumTransport (F : Type) where
  | received (storage : List (ReductionMaximumLocation F))
  | failed
  | waits

variable {F : Type} [DoubleNumber F] {n : ℕ}

/-- The loop of rank zero over the messages of the others. A message that is longer than the buffer is an
error; a shorter one leaves the rest of the buffer as it was. -/
def gatherLocations (count : ℕ) : List (List (ReductionMaximumLocation F)) →
    List (ReductionMaximumLocation F) → List (ReductionMaximumLocation F) → Option (List (ReductionMaximumLocation F))
  | [], _, receive => some receive
  | message :: rest, send, receive =>
    if count < message.length then none
    else
      let send := message ++ send.drop message.length
      gatherLocations count rest send (combineMaximumLocations send receive)

/-- The reproducible tree. When rank zero stops at a message that is too long, it sends nothing back, and
the others wait for it. -/
def reproducibleTransport (hn : 0 < n) (entries : Fin n → List (ReductionMaximumLocation F)) (i : Fin n) :
    MaximumTransport F :=
  let own := entries ⟨0, hn⟩
  match gatherLocations own.length ((List.finRange n).tail.map entries) own own with
  | none => if i = ⟨0, hn⟩ then .failed else .waits
  | some receive =>
    if i = ⟨0, hn⟩ then .received receive
    else if (entries i).length < own.length then .failed
    else .received receive

/-- How the exchange ends on all ranks. `MPI_Allreduce` has a meaning only when all ranks name one count; it
may combine every index along another tree, for every rank. -/
inductive MaximumExchange (hn : 0 < n) (entries : Fin n → List (ReductionMaximumLocation F)) :
    ReductionMode → (Fin n → MaximumTransport F) → Prop where
  | mpiAllreduce (count : ℕ) (hcount : ∀ i, (entries i).length = count) (tree : Fin n → ℕ → CombinationTree (Fin n))
      (hparties : ∀ i k, (tree i k).parties = Finset.univ.val) :
      MaximumExchange hn entries .mpiAllreduce fun i => .received ((List.range count).map fun k =>
        (tree i k).eval combineMaximumLocation fun j => (entries j).getD k .default)
  | reproducibleTree : MaximumExchange hn entries .reproducibleTree (reproducibleTransport hn entries)

/-- The tail of `checked_max_locations`; a rank that waits does not return. -/
def finishMaximum (engine : LocatingEngine) (call : MaximumCall F) : MaximumTransport F → Option (MaximumResult F)
  | .waits => none
  | .failed => some ⟨⟨.mpiFailure, kCollectiveFailure⟩, call.globalSpan.values, engine⟩
  | .received storage =>
    if !(storage.take call.localSpan.size).all engine.validGlobal then
      some ⟨⟨.numericalFailure, kNonFiniteGlobal⟩, call.globalSpan.values, engine⟩
    else
      match engine.nextMaximumCounters call.localSpan.size call.elapsed with
      | none => some ⟨⟨.invalidPlan, kCounterOverflow⟩, call.globalSpan.values, engine⟩
      | some next => some ⟨{}, storage.take call.localSpan.size, next⟩

/-- `raw_consensus` does what the consensus of the halo engine does. -/
abbrev rawConsensus (locals : Fin n → Status) : Option (Status × Fin n) := HaloEngine.haloConsensus locals

/-- `checked_max_locations` on all ranks. The first status that is not ok is that of all ranks. -/
inductive CheckedMaxLocations (hn : 0 < n) (engine : Fin n → LocatingEngine) (call : Fin n → MaximumCall F) :
    (Fin n → Option (MaximumResult F)) → Prop where
  | refused (status : Status) (lowest : Fin n)
      (h : rawConsensus (fun i => (engine i).maximumStatus (call i)) = some (status, lowest)) :
      CheckedMaxLocations hn engine call fun i => some ⟨status, (call i).globalSpan.values, engine i⟩
  | exchanged (ends : Fin n → MaximumTransport F)
      (h : rawConsensus (fun i => (engine i).maximumStatus (call i)) = none)
      (hends : MaximumExchange hn (fun i => (call i).localSpan.values) (engine ⟨0, hn⟩).mode ends) :
      CheckedMaxLocations hn engine call fun i => finishMaximum (engine i) (call i) (ends i)

end HundunFlow
