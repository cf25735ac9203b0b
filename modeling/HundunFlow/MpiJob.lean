import HundunFlow.Mpi
import HundunFlow.Lib.Buffer
import HundunFlow.Lib.Routing

/-!
# Collectives over one communicator

The collectives of the modules that work on a single communicator and send more than
identities. The words of a message have a type `W` of their own, the numbers of a reduction
a type `D`.
-/

namespace HundunFlow

open Lib

/-- The arguments of an all-to-all exchange of stretches of a buffer. -/
structure ScatterMessage (W : Type) where
  send : List W
  sendCounts : List ℕ
  sendOffsets : List ℕ
  receive : List W
  receiveCounts : List ℕ
  receiveOffsets : List ℕ

structure GatherMessage (W : Type) where
  send : List W
  receive : List W
  counts : List ℕ
  offsets : List ℕ

/-- The arguments of a send to one rank joined with a receive from one; no rank is `MPI_PROC_NULL`. -/
structure SendrecvMessage (W : Type) where
  send : List W
  destination : Option ℕ
  source : Option ℕ
  /-- The entries the receive buffer has room for. -/
  receiveCount : ℕ
  tag : ℕ

inductive JobRequest (W D : Type) where
  | allreduce (op : ReduceOp) (value : ℕ)
  | allreduceMinDouble (value : D)
  | allreduceMany (op : ReduceOp) (values : List ℕ)
  | allreduceSum (values : List ℕ)
  | bcast (root : ℕ) (wire : List W)
  | alltoall (values : List ℕ)
  | alltoallv (message : ScatterMessage W)
  | allgather (value : ℕ)
  | allgatherv (message : GatherMessage W)
  | sendrecv (message : SendrecvMessage W)

/-- What all ranks must have in common to meet in one collective. -/
inductive JobSignature where
  | allreduce (op : ReduceOp)
  | allreduceMinDouble
  | allreduceMany (op : ReduceOp) (count : ℕ)
  | allreduceSum (count : ℕ)
  | bcast (root count : ℕ)
  | alltoall
  | alltoallv
  | allgather
  | allgatherv
  | sendrecv (tag : ℕ)
  deriving DecidableEq

inductive JobReply (W D : Type) where
  | failure
  | value (v : ℕ)
  | double (d : D)
  | values (v : List ℕ)
  | words (w : List W)
  deriving DecidableEq

namespace JobRequest

variable {W D : Type}

def signature : JobRequest W D → JobSignature
  | .allreduce op _ => .allreduce op
  | .allreduceMinDouble _ => .allreduceMinDouble
  | .allreduceMany op values => .allreduceMany op values.length
  | .allreduceSum values => .allreduceSum values.length
  | .bcast root wire => .bcast root wire.length
  | .alltoall _ => .alltoall
  | .alltoallv _ => .alltoallv
  | .allgather _ => .allgather
  | .allgatherv _ => .allgatherv
  | .sendrecv m => .sendrecv m.tag

def value : JobRequest W D → ℕ
  | .allreduce _ v => v
  | .allgather v => v
  | _ => 0

/-- Entry `k` of the integers a rank contributes. -/
def entry (k : ℕ) : JobRequest W D → ℕ
  | .allreduceMany _ values => values.getD k 0
  | .allreduceSum values => values.getD k 0
  | .alltoall values => values.getD k 0
  | _ => 0

/-- The stretch for rank `r`, when the send buffer holds it. -/
def stretch (r : ℕ) : JobRequest W D → Option (List W)
  | .alltoallv m => load m.send (m.sendOffsets.getD r 0) (m.sendCounts.getD r 0)
  | .allgatherv m => some m.send
  | _ => none

/-- What a rank sends to rank `r`. -/
def sendTo (r : ℕ) : JobRequest W D → Option (List W)
  | .sendrecv m => if m.destination = some r then some m.send else none
  | _ => none

def double (fallback : D) : JobRequest W D → D
  | .allreduceMinDouble d => d
  | _ => fallback

def wire : JobRequest W D → List W
  | .bcast _ w => w
  | _ => []

end JobRequest

abbrev JobProg (W D α : Type) := Prog (JobRequest W D) (JobReply W D) α

namespace Job

variable {W D : Type}

def allreduce (op : ReduceOp) (value : ℕ) : JobProg W D (Option ℕ) :=
  .call (.allreduce op value) fun r => .done (match r with | .value v => some v | _ => none)

def allreduceMinDouble (value : D) : JobProg W D (Option D) :=
  .call (.allreduceMinDouble value) fun r => .done (match r with | .double d => some d | _ => none)

def allreduceMany (op : ReduceOp) (values : List ℕ) : JobProg W D (Option (List ℕ)) :=
  .call (.allreduceMany op values) fun r => .done (match r with | .values v => some v | _ => none)

def allreduceSum (values : List ℕ) : JobProg W D (Option (List ℕ)) :=
  .call (.allreduceSum values) fun r => .done (match r with | .values v => some v | _ => none)

def bcast (root : ℕ) (wire : List W) : JobProg W D (Option (List W)) :=
  .call (.bcast root wire) fun r => .done (match r with | .words w => some w | _ => none)

def alltoall (values : List ℕ) : JobProg W D (Option (List ℕ)) :=
  .call (.alltoall values) fun r => .done (match r with | .values v => some v | _ => none)

/-- The receive buffer after the exchange. -/
def alltoallv (message : ScatterMessage W) : JobProg W D (Option (List W)) :=
  .call (.alltoallv message) fun r => .done (match r with | .words w => some w | _ => none)

def allgather (value : ℕ) : JobProg W D (Option (List ℕ)) :=
  .call (.allgather value) fun r => .done (match r with | .values v => some v | _ => none)

def sendrecv (message : SendrecvMessage W) : JobProg W D (Option (List W)) :=
  .call (.sendrecv message) fun r => .done (match r with | .words w => some w | _ => none)

end Job

/-- The communicator of a job as rank `i` sees it. -/
def jobComm {n : ℕ} (hsize : n < 2 ^ 31) (i : Fin n) : RankComm := ⟨n, i, i.isLt, hsize⟩

section Reliable

variable {W D : Type} [LinearOrder D] {n : ℕ} (hn : 0 < n)

def rankMinDouble (v : Fin n → D) : D :=
  Finset.univ.inf' (nonempty_ranks hn) v

variable (v : Fin n → List ℕ)

variable (count : ℕ)

lemma rankMinDouble_le (v : Fin n → D) (i : Fin n) : rankMinDouble hn v ≤ v i :=
  Finset.inf'_le v (Finset.mem_univ i)

/-- The pieces that arrive at rank `i`, where it wants them and as long as it expects them. -/
def incoming (q : Fin n → JobRequest W D) (i : Fin n) (counts offsets : List ℕ) : List (Piece W) :=
  (List.finRange n).map fun j : Fin n => ⟨offsets.getD j 0, counts.getD j 0, (q j).stretch i⟩

def placed (pieces : List (Piece W)) (buffer : List W) : JobReply W D :=
  match place pieces buffer with
  | none => .failure
  | some buffer => .words buffer

omit [LinearOrder D] in
lemma words_placed (pieces : List (Piece W)) (buffer : List W) :
    (match (placed pieces buffer : JobReply W D) with | .words w => some w | _ => none) =
      place pieces buffer := by
  unfold placed
  cases place pieces buffer <;> rfl

def received (q : Fin n → JobRequest W D) (i : Fin n) (m : SendrecvMessage W) : JobReply W D :=
  match m.source with
  | none => .words []
  | some s =>
    if h : s < n then
      match (q ⟨s, h⟩).sendTo i with
      | none => .failure
      | some sent => if sent.length ≤ m.receiveCount then .words sent else .failure
    else .failure

/-- What a reliable job of `n` ranks returns to rank `i`. Sums are formed in 64 bits. -/
def jobReply (q : Fin n → JobRequest W D) (i : Fin n) : JobReply W D :=
  match q i with
  | .allreduce .min _ => .value (rankMin hn fun j => (q j).value)
  | .allreduce .max _ => .value (rankMax hn fun j => (q j).value)
  | .allreduceMinDouble d => .double (rankMinDouble hn fun j => (q j).double d)
  | .allreduceMany .min values =>
    .values ((List.range values.length).map fun k => rankMin hn fun j => (q j).entry k)
  | .allreduceMany .max values =>
    .values ((List.range values.length).map fun k => rankMax hn fun j => (q j).entry k)
  | .allreduceSum values =>
    .values ((List.range values.length).map fun k => (∑ j : Fin n, (q j).entry k) % 2 ^ 64)
  | .bcast root _ => if h : root < n then .words (q ⟨root, h⟩).wire else .failure
  | .alltoall _ => .values (List.ofFn fun j => (q j).entry i)
  | .alltoallv m => placed (incoming q i m.receiveCounts m.receiveOffsets) m.receive
  | .allgather _ => .values (List.ofFn fun j => (q j).value)
  | .allgatherv m => placed (incoming q i m.counts m.offsets) m.receive
  | .sendrecv m => received q i m

def mpiJob : Network (Fin n) (JobRequest W D) (JobReply W D) JobSignature where
  sig := JobRequest.signature
  reply := jobReply hn

lemma job_allreduce_min (v : Fin n → ℕ) :
    (mpiJob (W := W) (D := D) hn).Run (fun i => Job.allreduce .min (v i)) [.allreduce .min]
      (fun _ => some (rankMin hn v)) :=
  .call _ _ _ _ _ (fun _ => rfl) (.done _)

lemma job_allreduce_max (v : Fin n → ℕ) :
    (mpiJob (W := W) (D := D) hn).Run (fun i => Job.allreduce .max (v i)) [.allreduce .max]
      (fun _ => some (rankMax hn v)) :=
  .call _ _ _ _ _ (fun _ => rfl) (.done _)

lemma job_allreduceMinDouble (v : Fin n → D) :
    (mpiJob (W := W) hn).Run (fun i => Job.allreduceMinDouble (v i)) [.allreduceMinDouble]
      (fun _ => some (rankMinDouble hn v)) :=
  .call _ _ _ _ _ (fun _ => rfl) (.done _)

lemma job_bcast (root : Fin n) (w : Fin n → List W) (count : ℕ) (hw : ∀ i, (w i).length = count) :
    (mpiJob (D := D) hn).Run (fun i => Job.bcast root (w i)) [.bcast root count]
      (fun _ => some (w root)) := by
  have h := Network.Run.call (N := mpiJob (D := D) hn) (fun i => .bcast root (w i))
    (fun _ r => .done (match r with | .words w => some w | _ => none)) (.bcast root count) []
    (fun _ => some (w root)) (fun i => by simp [mpiJob, JobRequest.signature, hw i])
  refine h ?_
  simp only [mpiJob, jobReply, root.isLt, dite_true, JobRequest.wire]
  exact .done _

lemma job_allreduceMany_min (hv : ∀ i, (v i).length = count) :
    (mpiJob (W := W) (D := D) hn).Run (fun i => Job.allreduceMany .min (v i)) [.allreduceMany .min count]
      (fun _ => some ((List.range count).map fun k => rankMin hn fun j => (v j).getD k 0)) := by
  refine .call _ _ _ _ _ (fun i => by simp [mpiJob, JobRequest.signature, hv i]) ?_
  simp only [mpiJob, jobReply, hv]
  exact .done _

lemma job_allreduceMany_max (hv : ∀ i, (v i).length = count) :
    (mpiJob (W := W) (D := D) hn).Run (fun i => Job.allreduceMany .max (v i)) [.allreduceMany .max count]
      (fun _ => some ((List.range count).map fun k => rankMax hn fun j => (v j).getD k 0)) := by
  refine .call _ _ _ _ _ (fun i => by simp [mpiJob, JobRequest.signature, hv i]) ?_
  simp only [mpiJob, jobReply, hv]
  exact .done _

lemma job_allreduceSum (hv : ∀ i, (v i).length = count) :
    (mpiJob (W := W) (D := D) hn).Run (fun i => Job.allreduceSum (v i)) [.allreduceSum count]
      (fun _ => some ((List.range count).map fun k => (∑ j : Fin n, (v j).getD k 0) % 2 ^ 64)) := by
  refine .call _ _ _ _ _ (fun i => by simp [mpiJob, JobRequest.signature, hv i]) ?_
  simp only [mpiJob, jobReply, hv]
  exact .done _

lemma job_alltoall (v : Fin n → List ℕ) :
    (mpiJob (W := W) (D := D) hn).Run (fun i => Job.alltoall (v i)) [.alltoall]
      (fun i => some (List.ofFn fun j => (v j).getD i 0)) :=
  .call _ _ _ _ _ (fun _ => rfl) (.done _)

lemma job_allgather (v : Fin n → ℕ) : (mpiJob (W := W) (D := D) hn).Run (fun i => Job.allgather (v i)) [.allgather]
      (fun _ => some (List.ofFn v)) :=
  .call _ _ _ _ _ (fun _ => rfl) (.done _)

lemma job_alltoallv (m : Fin n → ScatterMessage W) :
    (mpiJob (D := D) hn).Run (fun i => Job.alltoallv (m i)) [.alltoallv]
      (fun i => place (incoming (D := D) (fun j => .alltoallv (m j)) i (m i).receiveCounts
        (m i).receiveOffsets) (m i).receive) := by
  refine .call _ _ _ _ _ (fun _ => rfl) ?_
  simp only [mpiJob, jobReply, words_placed]
  exact .done _

lemma job_sendrecv (m : Fin n → SendrecvMessage W) (tag : ℕ) (htag : ∀ i, (m i).tag = tag)
    (source : Fin n → Option (Fin n)) (hsource : ∀ i, (m i).source = (source i).map Fin.val)
    (hmatch : ∀ i j, source i = some j → (m j).destination = some (i : ℕ) ∧ (m j).send.length ≤ (m i).receiveCount) :
    (mpiJob (D := D) hn).Run (fun i => Job.sendrecv (m i)) [.sendrecv tag]
      (fun i => some ((source i).elim [] fun j => (m j).send)) := by
  refine .call _ _ _ _ _ (fun i => by simp [mpiJob, JobRequest.signature, htag i]) ?_
  have hreply : ∀ i, (mpiJob (D := D) hn).reply (fun i => .sendrecv (m i)) i =
      .words ((source i).elim [] fun j => (m j).send) := by
    intro i
    simp only [mpiJob, jobReply, received, hsource]
    cases hi : source i with
    | none => rfl
    | some j =>
      obtain ⟨hdestination, hroom⟩ := hmatch i j hi
      simp only [Option.map_some, j.isLt, dite_true, JobRequest.sendTo, hdestination, if_true, Option.elim_some]
      rw [if_pos hroom]
  simp only [hreply]
  exact .done _

end Reliable

variable {n : ℕ}

def firstBad (ok : Fin n → Bool) : Option (Fin n) := (List.finRange n).find? fun i => !ok i

variable {ok : Fin n → Bool} {success : ℕ} {s : Fin n → Status}

lemma firstBad_none (h : firstBad ok = none) (i : Fin n) : ok i = true := by
  have hall := List.find?_eq_none.mp h i (List.mem_finRange i)
  simpa using hall

lemma firstBad_some {k : Fin n} (h : firstBad ok = some k) : ok k = false ∧ ∀ j < k, ok j = true := by
  obtain ⟨hk, i, hi, hget, hbefore⟩ := List.find?_eq_some_iff_getElem.mp h
  rw [List.getElem_finRange] at hget
  refine ⟨by simpa using hk, fun j hj => ?_⟩
  have hji : (j : ℕ) < i := by
    have hik := congrArg Fin.val hget
    have hlt := Fin.lt_def.mp hj
    simp only [Fin.val_cast] at hik
    omega
  have hj' := hbefore j hji
  simpa [List.getElem_finRange] using hj'

lemma firstBad_eq_none_iff : firstBad ok = none ↔ ∀ i, ok i = true := by
  refine ⟨firstBad_none, fun h => ?_⟩
  rw [firstBad, List.find?_eq_none]
  intro i _
  simp [h i]

lemma rankMin_firstBad (hn : 0 < n) (ok : Fin n → Bool) (hsuccess : n ≤ success) :
    rankMin hn (fun i => if ok i then success else i) =
      match firstBad ok with | none => success | some k => k := by
  cases h : firstBad ok with
  | none => exact rankMin_eq_of_forall hn _ _ fun i => if_pos (firstBad_none h i)
  | some k =>
    obtain ⟨hk, hbefore⟩ := firstBad_some h
    rw [rankMin_eq_iff]
    refine ⟨⟨k, by rw [hk]; rfl⟩, fun i => ?_⟩
    by_cases hi : ok i = true
    · rw [if_pos hi]
      exact k.isLt.le.trans hsuccess
    · rw [if_neg hi]
      exact not_lt.mp fun hlt => hi (hbefore i hlt)

def firstFailing (s : Fin n → Status) : Option (Fin n) :=
  (List.finRange n).find? fun i => !(s i).isOk

/-- The outcome all ranks take over, with the rank it comes from. -/
def agreed (s : Fin n → Status) : Status × ℤ :=
  match firstFailing s with
  | none => ({}, -1)
  | some k => (s k, k)

lemma firstFailing_none (h : firstFailing s = none) (i : Fin n) : (s i).isOk = true :=
  firstBad_none h i

lemma firstFailing_some {k : Fin n} (h : firstFailing s = some k) :
    (s k).isOk = false ∧ ∀ j < k, (s j).isOk = true := firstBad_some h

lemma firstFailing_eq_none_iff : firstFailing s = none ↔ ∀ i, (s i).isOk = true :=
  firstBad_eq_none_iff

lemma agreed_isOk_iff : (agreed s).1.isOk = true ↔ ∀ i, (s i).isOk = true := by
  rw [← firstFailing_eq_none_iff]
  unfold agreed
  cases h : firstFailing s with
  | none => simp [Status.isOk]
  | some k => simp [(firstFailing_some h).1]

lemma agreed_eq_of_isOk (h : (agreed s).1.isOk = true) : agreed s = ({}, -1) := by
  unfold agreed
  rw [firstFailing_eq_none_iff.mpr (agreed_isOk_iff.mp h)]

lemma rankMin_firstFailing (hn : 0 < n) (s : Fin n → Status) (hsuccess : n ≤ success) :
    rankMin hn (fun i => if (s i).isOk then success else i) =
      match firstFailing s with | none => success | some k => k := rankMin_firstBad hn _ hsuccess

end HundunFlow
