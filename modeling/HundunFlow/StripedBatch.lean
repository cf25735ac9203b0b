import HundunFlow.ScatterExchange
import HundunFlow.ParcelContainer
import HundunFlow.Lib.Replies

/-!
# Batches that are dealt out to the ranks

Jobs of fixed width are dealt cyclically to all ranks, evaluated where they land, and their
results travel back to the slots they came from. What has no defined behaviour in the code, a
subscript outside a buffer or an integer beyond `int`, is a fault and has no result.
-/

namespace HundunFlow

open Lib

def batchFailure (code : StatusCode) : RawStatus := Status.raw ⟨code, 10360⟩

/-- `static_cast<bool>(status)`. -/
def RawStatus.isOk (s : RawStatus) : Bool := s.code = 0

abbrev BatchStage (W α : Type) := JobProg W Unit (Stage RawStatus α)

def RawStatus.toWord (s : RawStatus) : ℕ := (s.code.toNat <<< 32) ||| s.detail.toNat

def RawStatus.ofWord (word : ℕ) : RawStatus := ⟨UInt16.ofNat (word >>> 32), UInt32.ofNat word⟩

/-- The buffers of a batch, and the capacities they have been given. -/
structure StripedBatch (W : Type) where
  send : List W := []
  recv : List W := []
  result : List W := []
  returned : List W := []
  sendCapacity : ℕ := 0
  recvCapacity : ℕ := 0
  resultCapacity : ℕ := 0
  returnedCapacity : ℕ := 0

structure BatchMemory where
  counts : Bool := true
  buffers : Bool := true

namespace StripedBatch

variable {W : Type}

def agree (s : RawStatus) : JobProg W Unit RawStatus :=
  (Job.allreduce .max s.toWord).bind fun
  | none => .done (batchFailure .mpiFailure)
  | some global => .done (.ofWord global)

/-- `s = agree(comm, s); if (!s) return s;` -/
def agreed (s : RawStatus) : BatchStage W Unit :=
  (agree s).bind fun s => if s.isOk then .done (.ok ()) else .done (.failed s)

/-- `capacity + ranks - 1` is formed in 64 bits. -/
def stripe (capacity ranks : ℕ) : ℕ := (capacity + ranks - 1) % 2 ^ 64 / ranks

/-- The least upper bound a rank can give for what it receives is `received`. -/
def prepare (b : StripedBatch W) (comm : RankComm) (capacity ni no : ℕ) (memory : Bool) :
    BatchStage W (StripedBatch W) :=
  (Job.allreduceSum [stripe capacity comm.size]).bind fun
  | none => .done (.failed (batchFailure .mpiFailure))
  | some sums =>
    let received := sums.getD 0 0
    let width := max ni no
    let s :=
      if ni = 0 || no = 0 || maxInt < width || maxInt / width < capacity || maxInt / width < received then
        batchFailure .invalidPlan
      else if !memory then batchFailure .allocationFailure
      else {}
    (agreed s).andThen fun _ => .done (.ok { b with
      sendCapacity := max b.sendCapacity (capacity * ni)
      returnedCapacity := max b.returnedCapacity (capacity * no)
      recvCapacity := max b.recvCapacity (received * ni)
      resultCapacity := max b.resultCapacity (received * no) })

/-- The loop that turns record counts into counts and offsets of words. -/
def layout (ni : ℕ) : List (ℕ × ℕ) → ℕ → ℕ → Option (List Slot)
  | [], _, _ => some []
  | (s, r) :: rest, a, b =>
    match asInt (s * ni), asInt (r * ni) with
    | some sendCount, some receiveCount =>
      match asInt (a + sendCount), asInt (b + receiveCount) with
      | some nextA, some nextB =>
        (layout ni rest nextA nextB).map (⟨a, b, sendCount, receiveCount⟩ :: ·)
      | _, _ => none
    | _, _ => none

/-- `value / int(ni) * int(no)`. -/
def rescaled (ni no value : ℕ) : Option ℕ := asInt (value / ni * no)

def rescaledSlot (ni no : ℕ) (slot : Slot) : Option Slot :=
  match rescaled ni no slot.sendCount, rescaled ni no slot.receiveCount, rescaled ni no slot.sendOffset,
      rescaled ni no slot.receiveOffset with
  | some sendCount, some receiveCount, some sendOffset, some receiveOffset =>
    some ⟨sendOffset, receiveOffset, sendCount, receiveCount⟩
  | _, _, _, _ => none

/-- The evaluation loop, from record `i` on with `count` records to go: the first failure ends it.
The evaluator writes `no` words of the result. -/
def evaluateRecords (ni no : ℕ) (evaluate : List W → RawStatus × (ℕ → W)) (recv : List W) :
    ℕ → ℕ → List W → Option (RawStatus × List W)
  | _, 0, result => some ({}, result)
  | i, count + 1, result =>
    match load recv (i * ni) ni with
    | none => none
    | some record =>
      match store result (i * no) ((List.range no).map (evaluate record).2) with
      | none => none
      | some result =>
        if (evaluate record).1.isOk then evaluateRecords ni no evaluate recv (i + 1) count result
        else some ((evaluate record).1, result)

def checkShape (input : List W) (ni no : ℕ) (minimum maximum : List ℕ) : RawStatus :=
  if minimum ≠ maximum then batchFailure .invalidPlan
  else if ni = 0 || no = 0 || input.length % ni ≠ 0 || maxInt < ni || maxInt < no || maxInt < input.length ||
      maxInt / no < input.length / ni then batchFailure .invalidPlan
  else {}

def agreeOnShape (input : List W) (ni no : ℕ) : BatchStage W Unit :=
  (Job.allreduceMany .min [ni, no]).bind fun
  | none => .done (.failed (batchFailure .mpiFailure))
  | some minimum =>
    (Job.allreduceMany .max [ni, no]).bind fun
    | none => .done (.failed (batchFailure .mpiFailure))
    | some maximum => agreed (checkShape input ni no minimum maximum)

/-- `(i + rank) % ranks`. -/
def target (comm : RankComm) (i : ℕ) : ℕ := (i + comm.rank) % comm.size

variable [Zero W]

/-- Row `i` of `input`. -/
def job (input : List W) (ni i : ℕ) : List W := (List.range ni).map fun k => input.getD (i * ni + k) 0


def exchangeRecordCounts (comm : RankComm) (n ni no : ℕ) (memory : BatchMemory) : BatchStage W (List (ℕ × ℕ)) :=
  match tally comm.size (target comm) (List.range n) with
  | none => .done .fault
  | some sendCounts =>
    (agreed (if memory.counts then {} else batchFailure .allocationFailure)).andThen fun _ =>
    (Job.alltoall sendCounts).bind fun
    | none => .done (.failed (batchFailure .mpiFailure))
    | some receiveCounts =>
      let s :=
        if maxInt / max ni no < receiveCounts.sum then batchFailure .invalidPlan
        else if !memory.buffers then batchFailure .allocationFailure
        else {}
      (agreed s).andThen fun _ => .done (.ok (sendCounts.zip receiveCounts))

/-- The jobs, packed and sent: what arrives, in the layout that is used. -/
def sendJobs (b : StripedBatch W) (comm : RankComm) (input : List W) (ni : ℕ) (pairs : List (ℕ × ℕ)) :
    BatchStage W (List Slot × StripedBatch W) :=
  match layout ni pairs 0 0 with
  | none => .done .fault
  | some slots =>
    -- a cursor never passes the end of `send`, which fits an `int`
    match pack ni (target comm) (job input ni) (List.range (input.length / ni)) (resizeVector b.send input.length 0)
        (slots.map (·.sendOffset)) with
    | none => .done .fault
    | some (send, _) =>
      (Job.alltoallv
        ⟨send, slots.map (·.sendCount), slots.map (·.sendOffset),
          resizeVector b.recv ((pairs.map Prod.snd).sum * ni) 0, slots.map (·.receiveCount),
          slots.map (·.receiveOffset)⟩).bind fun
      | none => .done (.failed (batchFailure .mpiFailure))
      | some recv => .done (.ok (slots, { b with send := send, recv := recv }))

def returnResults (b : StripedBatch W) (comm : RankComm) (n ni no : ℕ) (output : List W) (slots : List Slot) :
    BatchStage W (StripedBatch W × List W) :=
  match slots.mapM (rescaledSlot ni no) with
  | none => .done .fault
  | some slots =>
    (Job.alltoallv
      ⟨b.result, slots.map (·.receiveCount), slots.map (·.receiveOffset), resizeVector b.returned (n * no) 0,
        slots.map (·.sendCount), slots.map (·.sendOffset)⟩).bind fun
    | none => .done (.failed (batchFailure .mpiFailure))
    | some returned =>
      match collect no (target comm) id (List.range n) returned (slots.map (·.sendOffset))
          (resizeVector output (n * no) 0) with
      | none => .done .fault
      | some output => .done (.ok ({ b with returned := returned }, output))

def run (b : StripedBatch W) (communicator : MpiComm) (input : List W) (ni no : ℕ) (output : List W)
    (evaluate : List W → RawStatus × (ℕ → W)) (memory : BatchMemory) : BatchStage W (StripedBatch W × List W) :=
  match communicator with
  | .valid comm =>
    (agreeOnShape input ni no).andThen fun _ =>
    let n := input.length / ni
    (exchangeRecordCounts comm n ni no memory).andThen fun pairs =>
    (sendJobs b comm input ni pairs).andThen fun (slots, b) =>
    let received := (pairs.map Prod.snd).sum
    match evaluateRecords ni no evaluate b.recv 0 received (resizeVector b.result (received * no) 0) with
    | none => .done .fault
    | some (s, result) =>
      (agreed s).andThen fun _ => returnResults { b with result := result } comm n ni no output slots
  | _ => .done (.failed (batchFailure .mpiFailure))

end StripedBatch

end HundunFlow
