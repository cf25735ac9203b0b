import HundunFlow.MpiJob
import HundunFlow.Lib.Stage

/-!
# Scatter exchanges

The parts that the parcel migration and the exchange of source rows share: counting the items
for each rank, laying out the counts and offsets of an all-to-all exchange, and the exchange
itself. The consensus of the ranks, with its statuses and failures, is a parameter. What has no
defined behaviour in the code, a subscript outside an array or
a size beyond `int`, is a fault here and has no result.
-/

namespace HundunFlow

open Lib

/-- A 64-bit word of a message: an integer, or the bits of a number. -/
inductive Lane (F : Type) where
  | word (value : ℕ)
  | real (value : F)
  deriving DecidableEq

/-- `INT_MAX`. -/
def maxInt : ℕ := 2 ^ 31 - 1

/-- A size as an `int`. -/
def asInt (value : ℕ) : Option ℕ := if value ≤ maxInt then some value else none

def subscript (ranks : ℕ) (value : ℤ) : ℕ := if value < 0 then ranks else value.toNat

section Tally

variable {α : Type}

/-- `++counts[destination(item)]` for each item. -/
def tallyLoop (destination : α → ℕ) : List α → List ℕ → Option (List ℕ)
  | [], counts => some counts
  | a :: rest, counts =>
    match counts[destination a]? with
    | none => none
    | some count => tallyLoop destination rest (counts.set (destination a) (count + 1))

def tally (ranks : ℕ) (destination : α → ℕ) (items : List α) : Option (List ℕ) :=
  tallyLoop destination items (List.replicate ranks 0)

end Tally

structure Slot where
  sendOffset : ℕ
  receiveOffset : ℕ
  sendCount : ℕ
  receiveCount : ℕ
  deriving DecidableEq

/-- Why the layout loop stops early. -/
inductive LayoutEnd where
  | fault | refused
  deriving DecidableEq

/-- The loop over the ranks that turns item counts into counts and offsets of words. `before`
looks at the next receive count and the items so far, `after` at both sums. -/
def layoutLoop (lanes : ℕ) (before : ℕ → ℕ → Bool) (after : ℕ → ℕ → Bool) :
    List (ℕ × ℕ) → ℕ → ℕ → Except LayoutEnd (List Slot × ℕ)
  | [], _, received => .ok ([], received)
  | (s, r) :: rest, sent, received =>
    if before r received then .error .refused
    else
      match asInt (sent * lanes), asInt (received * lanes) with
      | some sendOffset, some receiveOffset =>
        if after (sent + s) (received + r) then .error .refused
        else
          match asInt (s * lanes), asInt (r * lanes) with
          | some sendCount, some receiveCount =>
            match layoutLoop lanes before after rest (sent + s) (received + r) with
            | .error e => .error e
            | .ok (slots, total) =>
              .ok (⟨sendOffset, receiveOffset, sendCount, receiveCount⟩ :: slots, total)
          | _, _ => .error .fault
      | _, _ => .error .fault

/-- A part of a rank's program that ends with a value or fails with an `E`. -/
abbrev ScatterStage (F E α : Type) := JobProg (Lane F) Unit (Stage E α)

variable {F E S α : Type}

/-- A local result, handed on when the ranks agree on it. -/
def settle (agree : S → ScatterStage F E Unit) : Option (S × α) → ScatterStage F E α
  | none => .done .fault
  | some (status, a) => (agree status).andThen fun _ => .done (.ok a)

/-- Passes when all ranks have the same numbers. -/
def compareAll (mpiFailure mismatch : E) (values : List ℕ) : ScatterStage F E Unit :=
  (Job.allreduceMany .min values).bind fun
  | none => .done (.failed mpiFailure)
  | some minima =>
    (Job.allreduceMany .max values).bind fun
    | none => .done (.failed mpiFailure)
    | some maxima => if minima ≠ maxima then .done (.failed mismatch) else .done (.ok ())

/-- The consensus on a layout. A refused one is scaled for some ranks only; going on with it
would be a fault. -/
def agreeOnLayout (agree : S → ScatterStage F E Unit) (accepted refused : S) :
    Except LayoutEnd (List Slot × ℕ) → ScatterStage F E (List Slot × ℕ)
  | .error .fault => .done .fault
  | .error .refused => (agree refused).andThen fun _ => .done .fault
  | .ok layout => (agree accepted).andThen fun _ => .done (.ok layout)

/-- The exchange of the counts, and the layout with the number of items that arrive. -/
def exchangeCounts (mpiFailure : E) (agree : S → ScatterStage F E Unit) (accepted refused : S) (lanes : ℕ)
    (before after : ℕ → ℕ → Bool) (sendCounts : List ℕ) : ScatterStage F E (List Slot × ℕ) :=
  (Job.alltoall sendCounts).bind fun
  | none => .done (.failed mpiFailure)
  | some receiveCounts =>
    agreeOnLayout agree accepted refused (layoutLoop lanes before after (sendCounts.zip receiveCounts) 0 0)

/-- The items packed by `encode` and exchanged in the layout `slots`: both buffers. -/
def sendPacked (mpiFailure : E) (lanes : ℕ) (destination : α → ℕ) (encode : α → List (Lane F))
    (items : List α) (send receive : List (Lane F)) (slots : List Slot) :
    ScatterStage F E (List (Lane F) × List (Lane F)) :=
  match pack lanes destination encode items send (slots.map (·.sendOffset)) with
  | none => .done .fault
  | some (packed, _) =>
    (Job.alltoallv
      ⟨packed, slots.map (·.sendCount), slots.map (·.sendOffset), receive, slots.map (·.receiveCount),
        slots.map (·.receiveOffset)⟩).bind fun
    | none => .done (.failed mpiFailure)
    | some received => .done (.ok (packed, received))

structure Exchanged (F : Type) where
  slots : List Slot
  received : ℕ
  send : List (Lane F)
  receive : List (Lane F)

/-- An exchange in the layout that `counts` agrees on. -/
def exchangeItems (mpiFailure : E) (counts : ScatterStage F E (List Slot × ℕ)) (lanes : ℕ)
    (destination : α → ℕ) (encode : α → List (Lane F)) (items : List α) (send receive : List (Lane F)) :
    ScatterStage F E (Exchanged F) :=
  counts.andThen fun (slots, received) =>
  (sendPacked mpiFailure lanes destination encode items send receive slots).andThen fun (send, receive) =>
  .done (.ok ⟨slots, received, send, receive⟩)

end HundunFlow
