import HundunFlow.Status
import HundunFlow.Lib.Collective

/-!
# The collective operations of the message-passing interface

The collectives the program uses, as requests of a `Lib.Prog`, and two readings of them.
`mpiNetwork` is the reliable job of `n` ranks: a reduction returns the minimum or maximum,
a broadcast the words of its root, an all-to-all the transposed words. `MpiFaithful` is
what one rank may rely on when nothing is said about the others.
-/

namespace HundunFlow

open Lib

/-- The communicators a rank can name: the caller's, and the two duplicates a plan owns,
before and after the plan is installed. -/
inductive CommHandle where
  | caller | candidateControl | candidateTransport | control | transport
  deriving DecidableEq

inductive ReduceOp where
  | min | max
  deriving DecidableEq

inductive MpiRequest where
  | allreduce (comm : CommHandle) (op : ReduceOp) (value : ℕ)
  | bcast (comm : CommHandle) (root : ℕ) (wire : List ℕ)
  | alltoall (comm : CommHandle) (sends : List ℕ)
  | commDup (comm dup : CommHandle)
  | commFree (comm : CommHandle)

/-- What all ranks must have in common to meet in one collective. -/
inductive MpiSignature where
  | allreduce (comm : CommHandle) (op : ReduceOp)
  | bcast (comm : CommHandle) (root count : ℕ)
  | alltoall (comm : CommHandle)
  | commDup (comm dup : CommHandle)
  | commFree (comm : CommHandle)
  deriving DecidableEq

inductive MpiReply where
  | failure
  | success
  | value (v : ℕ)
  | words (w : List ℕ)
  deriving DecidableEq

def MpiRequest.signature : MpiRequest → MpiSignature
  | .allreduce c op _ => .allreduce c op
  | .bcast c root w => .bcast c root w.length
  | .alltoall c _ => .alltoall c
  | .commDup c d => .commDup c d
  | .commFree c => .commFree c

def MpiRequest.value : MpiRequest → ℕ
  | .allreduce _ _ v => v
  | _ => 0

def MpiRequest.wire : MpiRequest → List ℕ
  | .bcast _ _ w => w
  | .alltoall _ w => w
  | _ => []

abbrev MpiProg (α : Type) := Prog MpiRequest MpiReply α

namespace Mpi

def allreduce (comm : CommHandle) (op : ReduceOp) (value : ℕ) : MpiProg (Option ℕ) :=
  .call (.allreduce comm op value) fun r => .done (match r with | .value v => some v | _ => none)

def bcast (comm : CommHandle) (root : ℕ) (wire : List ℕ) : MpiProg (Option (List ℕ)) :=
  .call (.bcast comm root wire) fun r => .done (match r with | .words w => some w | _ => none)

end Mpi

/-- A communicator as one rank sees it. Ranks and sizes are `int`s. -/
structure RankComm where
  size : ℕ
  rank : ℕ
  rank_lt : rank < size
  size_int : size < 2 ^ 31

/-- The communicator argument of a call: null, one whose rank and size queries fail, or a
usable one. -/
inductive MpiComm where
  | null
  | broken
  | valid (c : RankComm)

section Reliable

variable {n : ℕ} (hn : 0 < n)

/-- What a reliable job of `n` ranks returns to rank `i`. -/
def mpiReply (q : Fin n → MpiRequest) (i : Fin n) : MpiReply :=
  match q i with
  | .allreduce _ .min _ => .value (rankMin hn fun j => (q j).value)
  | .allreduce _ .max _ => .value (rankMax hn fun j => (q j).value)
  | .bcast _ root _ => if h : root < n then .words (q ⟨root, h⟩).wire else .failure
  | .alltoall _ _ => .words (List.ofFn fun j => (q j).wire.getD i 0)
  | .commDup _ _ => .success
  | .commFree _ => .success

def mpiNetwork : Network (Fin n) MpiRequest MpiReply MpiSignature where
  sig := MpiRequest.signature
  reply := mpiReply hn

end Reliable

/-- What rank `rank` may rely on: a reduction is on its side of the rank's own value, and a
broadcast returns the root its own words. Any collective may also fail. -/
def MpiFaithful (rank : ℕ) (q : MpiRequest) (r : MpiReply) : Prop :=
  match q, r with
  | .allreduce _ .min v, .value m => m ≤ v
  | .allreduce _ .max v, .value m => v ≤ m
  | .bcast _ root w, .words u => u.length = w.length ∧ (root = rank → u = w)
  | .alltoall _ _, .words _ => True
  | .commDup _ _, .success => True
  | .commFree _, .success => True
  | _, .failure => True
  | _, _ => False

variable {n : ℕ} (hn : 0 < n)

variable (comm : CommHandle)

lemma run_allreduce_min (v : Fin n → ℕ) :
    (mpiNetwork hn).Run (fun i => Mpi.allreduce comm .min (v i)) [.allreduce comm .min]
      (fun _ => some (rankMin hn v)) :=
  .call _ _ _ _ _ (fun _ => rfl) (.done _)

lemma run_bcast (root : Fin n) (w : Fin n → List ℕ) (count : ℕ) (hw : ∀ i, (w i).length = count) :
    (mpiNetwork hn).Run (fun i => Mpi.bcast comm root (w i)) [.bcast comm root count]
      (fun _ => some (w root)) := by
  have h := Network.Run.call (N := mpiNetwork hn) (fun i => .bcast comm root (w i))
    (fun _ r => .done (match r with | .words w => some w | _ => none)) (.bcast comm root count) []
    (fun _ => some (w root)) (fun i => by simp [mpiNetwork, MpiRequest.signature, hw i])
  refine h ?_
  simp only [mpiNetwork, mpiReply, root.isLt, dite_true, MpiRequest.wire]
  exact .done _

end HundunFlow
