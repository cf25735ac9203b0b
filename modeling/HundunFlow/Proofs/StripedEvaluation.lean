import HundunFlow.StripedBatch
import HundunFlow.Proofs.ParcelRows
import HundunFlow.Proofs.ScatterStages
import HundunFlow.Lib.Dealing

/-!
# A dealt-out batch is local evaluation

Every job is sent to one rank, evaluated there, and its result comes back to its slot, so a run
is the evaluation of each rank's own jobs.
-/

namespace HundunFlow.Proofs

open Lib StripedBatch List

section Consensus

variable {W : Type} {n : ℕ} (hn : 0 < n)

variable (s : RawStatus)

lemma toWord_eq : s.toWord = s.code.toNat * 2 ^ 32 + s.detail.toNat := by
  rw [RawStatus.toWord, ← Nat.shiftLeft_add_eq_or_of_lt s.detail.toNat_lt, Nat.shiftLeft_eq]

lemma ofWord_isOk {word : ℕ} (h : word < 2 ^ 48) : (RawStatus.ofWord word).isOk = true ↔ word < 2 ^ 32 := by
  have hcode : (RawStatus.ofWord word).isOk = true ↔ UInt16.ofNat (word >>> 32) = 0 :=
    decide_eq_true_iff
  rw [hcode, ← UInt16.toNat_inj, UInt16.toNat_ofNat', Nat.shiftRight_eq_div_pow]
  have hsmall : word / 2 ^ 32 < 2 ^ 16 := by omega
  rw [Nat.mod_eq_of_lt hsmall]
  constructor
  · intro hzero
    have : word / 2 ^ 32 = 0 := hzero
    omega
  · intro hlt
    exact Nat.div_eq_of_lt hlt

lemma toWord_lt : s.toWord < 2 ^ 48 := by
  have hcode := s.code.toNat_lt
  have hdetail := s.detail.toNat_lt
  rw [toWord_eq]
  omega

lemma toWord_isOk : s.isOk = true ↔ s.toWord < 2 ^ 32 := by
  have hdetail := s.detail.toNat_lt
  have hzero : s.isOk = true ↔ s.code.toNat = 0 := by
    rw [RawStatus.isOk, decide_eq_true_iff]
    exact UInt16.toNat_inj.symm
  rw [hzero, toWord_eq]
  omega

def verdict (s : Fin n → RawStatus) : RawStatus := .ofWord (rankMax hn fun i => (s i).toWord)

lemma verdict_isOk_iff (s : Fin n → RawStatus) : (verdict hn s).isOk = true ↔ ∀ i, (s i).isOk = true := by
  have : Nonempty (Fin n) := ⟨⟨0, hn⟩⟩
  have hlt : ∀ bound, (rankMax hn fun i => (s i).toWord) < bound ↔ ∀ i, (s i).toWord < bound := by
    intro bound
    rw [rankMax, Finset.sup'_lt_iff]
    simp
  rw [verdict, ofWord_isOk ((hlt _).mpr fun i => toWord_lt (s i)), hlt]
  exact forall_congr' fun i => (toWord_isOk (s i)).symm

lemma stripedAgree_run (s : Fin n → RawStatus) :
    (mpiJob hn).Run (fun i => agree (W := W) (s i)) ([.allreduce .max] ++ []) fun _ => verdict hn s := by
  have hreduce : (mpiJob (W := W) (D := Unit) hn).Run (fun i => Job.allreduce .max (s i).toWord) [.allreduce .max]
      (fun _ => some (rankMax hn fun i => (s i).toWord)) := .call _ _ _ _ _ (fun _ => rfl) (.done _)
  exact Network.Run.bind hreduce (.done _)

lemma agreed_together (s : Fin n → RawStatus) :
    Network.Together (mpiJob hn) (fun i => StripedBatch.agreed (W := W) (s i)) (∀ i, (s i).isOk = true)
      (fun e => e.isOk = false) fun _ => () := by
  have hverdict := verdict_isOk_iff hn s
  refine Network.Together.after (stripedAgree_run hn s) ?_
  by_cases h : ∀ i, (s i).isOk = true
  · rw [hverdict.mpr h]
    exact Network.Together.done.congr (by simp [h])
  · have hfailed := Bool.eq_false_of_not_eq_true (mt hverdict.mp h)
    rw [hfailed]
    exact ⟨[], _, .done _, fun hok => absurd hok h, fun _ => ⟨verdict hn s, hfailed, rfl⟩⟩

end Consensus

section Layouts

variable {ni no : ℕ}

lemma layout_spec (pairs : List (ℕ × ℕ)) (sent received : ℕ)
    (hsent : (sent + (pairs.map Prod.fst).sum) * ni ≤ maxInt)
    (hreceived : (received + (pairs.map Prod.snd).sum) * ni ≤ maxInt) :
    layout ni pairs (sent * ni) (received * ni) = some (slotsFrom ni pairs sent received) := by
  induction pairs generalizing sent received with
  | nil => rfl
  | cons pair rest ih =>
    obtain ⟨s, r⟩ := pair
    simp only [map_cons, sum_cons, Nat.add_mul] at hsent hreceived
    have hsend : asInt (s * ni) = some (s * ni) := if_pos (by omega)
    have hreceive : asInt (r * ni) = some (r * ni) := if_pos (by omega)
    have hnextSent : asInt (sent * ni + s * ni) = some ((sent + s) * ni) := by
      rw [Nat.add_mul]
      exact if_pos (by omega)
    have hnextReceived : asInt (received * ni + r * ni) = some ((received + r) * ni) := by
      rw [Nat.add_mul]
      exact if_pos (by omega)
    rw [layout, hsend, hreceive]
    simp only [hnextSent, hnextReceived]
    rw [ih (sent + s) (received + r) (by simp only [Nat.add_mul]; omega) (by simp only [Nat.add_mul]; omega)]
    rfl

lemma rescaled_mul (hni : 0 < ni) {value : ℕ} (h : value * no ≤ maxInt) :
    rescaled ni no (value * ni) = some (value * no) := by
  rw [rescaled, Nat.mul_div_cancel _ hni]
  exact if_pos h

lemma rescaledSlots_spec (hni : 0 < ni) (pairs : List (ℕ × ℕ)) (sent received : ℕ)
    (hsent : (sent + (pairs.map Prod.fst).sum) * no ≤ maxInt)
    (hreceived : (received + (pairs.map Prod.snd).sum) * no ≤ maxInt) :
    (slotsFrom ni pairs sent received).mapM (rescaledSlot ni no) = some (slotsFrom no pairs sent received) := by
  induction pairs generalizing sent received with
  | nil => rfl
  | cons pair rest ih =>
    obtain ⟨s, r⟩ := pair
    simp only [map_cons, sum_cons, Nat.add_mul] at hsent hreceived
    have hslot : rescaledSlot ni no ⟨sent * ni, received * ni, s * ni, r * ni⟩ =
        some ⟨sent * no, received * no, s * no, r * no⟩ := by
      rw [rescaledSlot, rescaled_mul hni (by omega), rescaled_mul hni (by omega), rescaled_mul hni (by omega),
        rescaled_mul hni (by omega)]
    rw [slotsFrom, mapM_cons, hslot,
      ih (sent + s) (received + r) (by simp only [Nat.add_mul]; omega) (by simp only [Nat.add_mul]; omega), slotsFrom]
    rfl

end Layouts

variable {W : Type} {ni no : ℕ} (evaluate : List W → RawStatus × (ℕ → W))

def resultOf (no : ℕ) (evaluate : List W → RawStatus × (ℕ → W)) (record : List W) : List W :=
  (range no).map (evaluate record).2

@[simp] lemma length_resultOf (record : List W) : (resultOf no evaluate record).length = no := by
  simp [resultOf]

lemma evaluateRecords_spec (recv : List W) (records : List (List W)) (i : ℕ) (result : List W)
    (hrecv : ∀ k, ∀ hk : k < records.length, load recv ((i + k) * ni) ni = some records[k])
    (hresult : (i + records.length) * no ≤ result.length) :
    ∃ s filled, evaluateRecords ni no evaluate recv i records.length result = some (s, filled) ∧
      (s.isOk = true ↔ ∀ record ∈ records, (evaluate record).1.isOk = true) ∧
      (s.isOk = true → filled = result.take (i * no) ++ records.flatMap (resultOf no evaluate) ++
        result.drop ((i + records.length) * no)) := by
  induction records generalizing i result with
  | nil =>
    refine ⟨{}, result, rfl, by simp [RawStatus.isOk], fun _ => ?_⟩
    simp
  | cons record rest ih =>
    have hload := hrecv 0 (by simp)
    rw [Nat.add_zero, getElem_cons_zero] at hload
    rw [length_cons, Nat.add_mul, Nat.succ_mul] at hresult
    obtain ⟨stored, hstored⟩ := exists_store (show i * no + (resultOf no evaluate record).length ≤ result.length by
      rw [length_resultOf]
      omega)
    by_cases hok : (evaluate record).1.isOk = true
    · obtain ⟨s, filled, hloop, hiff, hfilled⟩ := ih (i + 1) stored
        (fun k hk => by
          have hnext := hrecv (k + 1) (by simpa using hk)
          rwa [getElem_cons_succ, ← Nat.add_assoc, Nat.add_right_comm] at hnext)
        (by
          rw [length_store hstored, Nat.add_mul, Nat.succ_mul]
          omega)
      refine ⟨s, filled, ?_, ?_, fun hs => ?_⟩
      · rw [length_cons, evaluateRecords, hload]
        simp only [resultOf] at hstored
        simp only [hstored, hok, if_true]
        exact hloop
      · rw [hiff]
        simp [hok]
      · have hend : i + 1 + rest.length = i + (record :: rest).length := by
          rw [length_cons]
          omega
        rw [hfilled hs, take_store_row (length_resultOf evaluate record) hstored, hend,
          drop_store_row (length_resultOf evaluate record) hstored (by rw [length_cons]; omega), flatMap_cons]
        simp only [append_assoc]
    · refine ⟨(evaluate record).1, stored, ?_, ?_, fun hs => absurd hs hok⟩
      · rw [length_cons, evaluateRecords, hload]
        simp only [resultOf] at hstored
        simp only [hstored]
        exact if_neg hok
      · constructor
        · intro hs
          exact absurd hs hok
        · intro hall
          exact absurd (hall record (by simp)) hok

section Run

variable {W : Type} [Zero W] {n : ℕ} (hn : 0 < n) (hsize : n < 2 ^ 31) (input : Fin n → List W)
  (ni no : Fin n → ℕ) (evaluate : List W → RawStatus × (ℕ → W))

abbrev JobName (n : ℕ) : Type := Fin n × ℕ

/-- The number of jobs of rank `j`. -/
def jobCount (j : Fin n) : ℕ := (input j).length / ni j

/-- The jobs of rank `j`. -/
def jobs (j : Fin n) : List (JobName n) := (range (jobCount input ni j)).map fun i => (j, i)

def dealtTo (name : JobName n) : ℕ := (name.2 + name.1) % n

/-- The input of a job of width `width`. -/
def jobInput (width : ℕ) (name : JobName n) : List W := job (input name.1) width name.2

/-- The number of records that arrive at rank `i`. -/
def arrivals (i : Fin n) : ℕ := (routed (jobs input ni) dealtTo i).length

include hn in
lemma dealtTo_lt (name : JobName n) : dealtTo name < n := Nat.mod_lt _ hn

lemma target_eq (j : Fin n) : target (jobComm hsize j) = dealtTo ∘ fun i => (j, i) := rfl

omit [Zero W] in
@[simp] lemma length_jobs (j : Fin n) : (jobs input ni j).length = jobCount input ni j := by
  simp [jobs]

@[simp] lemma length_jobInput (width : ℕ) (name : JobName n) : (jobInput input width name).length = width := by
  simp [jobInput, job]

include hn in
omit [Zero W] in
lemma jobs_dealt (j : Fin n) : ∀ name ∈ jobs input ni j, dealtTo name < n := fun name _ => dealtTo_lt hn name

/-- The ranks call with one shape, and every rank's own jobs fit into buffers. -/
structure ShapeAdmitted : Prop where
  same : ∀ i j, ni i = ni j ∧ no i = no j
  positive : ∀ i, 0 < ni i ∧ 0 < no i
  whole : ∀ i, (input i).length % ni i = 0
  widths : ∀ i, ni i ≤ maxInt ∧ no i ≤ maxInt
  inputs : ∀ i, (input i).length ≤ maxInt
  outputs : ∀ i, jobCount input ni i ≤ maxInt / no i

structure CountsAdmitted (memory : Fin n → BatchMemory) : Prop where
  memory : ∀ i, (memory i).counts = true ∧ (memory i).buffers = true
  received : ∀ i, arrivals input ni i ≤ maxInt / max (ni i) (no i)

omit [Zero W]

lemma checkShape_isOk_iff (i : Fin n) (minimum maximum : List ℕ) :
    (checkShape (input i) (ni i) (no i) minimum maximum).isOk = true ↔
      minimum = maximum ∧ (0 < ni i ∧ 0 < no i) ∧ (input i).length % ni i = 0 ∧ (ni i ≤ maxInt ∧ no i ≤ maxInt) ∧
        (input i).length ≤ maxInt ∧ jobCount input ni i ≤ maxInt / no i := by
  unfold checkShape jobCount
  split_ifs with hsame hbad
  · simp [hsame, batchFailure, RawStatus.isOk, Status.raw, StatusCode.toWire]
  · constructor
    · intro h
      exact absurd h (by simp [batchFailure, RawStatus.isOk, Status.raw, StatusCode.toWire])
    · intro h
      simp only [Bool.or_eq_true, decide_eq_true_eq] at hbad
      omega
  · simp only [Bool.or_eq_true, decide_eq_true_eq, not_or] at hbad
    constructor
    · intro _
      exact ⟨not_not.mp hsame, by omega, by omega, by omega, by omega, by omega⟩
    · intro _
      rfl

lemma agreeOnShape_together : Network.Together (mpiJob hn) (fun i => agreeOnShape (input i) (ni i) (no i))
    (ShapeAdmitted input ni no) (fun e => e.isOk = false) fun _ => () := by
  have hmin := job_allreduceMany_min (W := W) (D := Unit) hn (fun i => [ni i, no i]) 2 fun _ => rfl
  have hmax := job_allreduceMany_max (W := W) (D := Unit) hn (fun i => [ni i, no i]) 2 fun _ => rfl
  refine Network.Together.after hmin (Network.Together.after hmax ?_)
  refine (agreed_together hn _).congr ?_
  have hsame := @minima_eq_maxima_iff n hn (fun i => [ni i, no i]) 2 fun _ => rfl
  simp only [checkShape_isOk_iff, hsame]
  constructor
  · intro h
    refine ⟨fun i j => ?_, fun i => (h i).2.1, fun i => (h i).2.2.1, fun i => (h i).2.2.2.1, fun i => (h i).2.2.2.2.1,
      fun i => (h i).2.2.2.2.2⟩
    simpa using (h i).1 i j
  · intro h i
    exact ⟨fun j k => by simp [h.same j k], h.positive i, h.whole i, h.widths i, h.inputs i, h.outputs i⟩

include hn in
lemma tally_jobs (j : Fin n) : tally n (target (jobComm hsize j)) (range (jobCount input ni j)) =
      some (countsFor n dealtTo (jobs input ni j)) := by
  rw [← tally_spec (jobs_dealt hn input ni j), tally, tally, jobs, tallyLoop_map, target_eq]

lemma exchangeRecordCounts_together (memory : Fin n → BatchMemory) : Network.Together (mpiJob hn)
      (fun i => exchangeRecordCounts (W := W) (jobComm hsize i) (jobCount input ni i) (ni i) (no i) (memory i))
      (CountsAdmitted input ni no memory) (fun e => e.isOk = false) (pairsFor dealtTo (jobs input ni)) := by
  have htally := tally_jobs hn hsize input ni
  have hcounts := job_alltoall (W := W) (D := Unit) hn fun i => countsFor n dealtTo (jobs input ni i)
  simp only [alltoall_counts] at hcounts
  have hsize' : ∀ i : Fin n, (jobComm hsize i).size = n := fun _ => rfl
  simp only [exchangeRecordCounts, hsize', htally]
  refine Network.Together.congr ((agreed_together hn _).andThen fun _ => Network.Together.after hcounts
    ((agreed_together hn _).andThen fun _ => Network.Together.done)) ?_
  have hbad : ∀ code : StatusCode, code ≠ .ok → (batchFailure code).isOk = false := by
    intro code hcode
    cases code <;> simp_all [batchFailure, RawStatus.isOk, Status.raw, StatusCode.toWire]
  have harrivals : ∀ i, (receivesFor dealtTo (jobs input ni) i).sum = arrivals input ni i :=
    sum_receivesFor dealtTo (jobs input ni)
  simp only [harrivals]
  constructor
  · rintro ⟨hfirst, hsecond, -⟩
    refine ⟨fun i => ⟨?_, ?_⟩, fun i => ?_⟩
    · by_contra h
      have hi := hfirst i
      rw [if_neg h, hbad _ (by simp)] at hi
      cases hi
    · by_contra h
      have hi := hsecond i
      rw [Bool.not_eq_true] at h
      split_ifs at hi
      · rw [hbad _ (by simp)] at hi
        cases hi
      · rw [hbad _ (by simp)] at hi
        cases hi
      · simp_all
    · by_contra h
      have hi := hsecond i
      rw [if_pos (not_le.mp h), hbad _ (by simp)] at hi
      cases hi
  · intro h
    refine ⟨fun i => ?_, fun i => ?_, trivial⟩
    · rw [if_pos (h.memory i).1]
      rfl
    · rw [if_neg (not_lt.mpr (h.received i)), if_neg (by simp [(h.memory i).2])]
      rfl

end Run

section Exchange

variable {W : Type} [Zero W] {n : ℕ} (hn : 0 < n) (hsize : n < 2 ^ 31) (b : Fin n → StripedBatch W)
  (input output : Fin n → List W) {ni no : ℕ} (evaluate : List W → RawStatus × (ℕ → W))

/-- The inputs of the records that arrive at rank `i`, in the order of their senders. -/
def arrived (ni : ℕ) (i : Fin n) : List (List W) :=
  (routed (jobs input fun _ => ni) dealtTo i).map (jobInput input ni)

@[simp] lemma length_arrived (i : Fin n) : (arrived input ni i).length = arrivals input (fun _ => ni) i := by
  rw [arrived, length_map, arrivals]

lemma flatten_arrived (i : Fin n) : (arrived input ni i).flatten.length = arrivals input (fun _ => ni) i * ni := by
  rw [arrived, ← flatMap_def, length_flatMap]
  simp only [length_jobInput, map_const', sum_replicate, smul_eq_mul, arrivals]

lemma load_arrived (i : Fin n) (k : ℕ) (hk : k < (arrived input ni i).length) :
    load (arrived input ni i).flatten ((0 + k) * ni) ni = some (arrived input ni i)[k] := by
  rw [Nat.zero_add]
  apply load_row
  intro record hrecord
  obtain ⟨name, -, rfl⟩ := mem_map.mp hrecord
  exact length_jobInput input ni name

omit [Zero W] in
include hn in
lemma sum_jobs (i : Fin n) : ((pairsFor dealtTo (jobs input fun _ => ni) i).map Prod.fst).sum =
    jobCount input (fun _ => ni) i := by
  rw [pairsFor_fst, sum_countsFor (jobs_dealt hn input _ i), length_jobs]

omit [Zero W] in
lemma sum_arrivals (i : Fin n) : ((pairsFor dealtTo (jobs input fun _ => ni) i).map Prod.snd).sum =
    arrivals input (fun _ => ni) i := by
  rw [pairsFor_snd, sum_receivesFor, arrivals]

variable (hinput : ∀ i, (input i).length ≤ maxInt)
  (hreceived : ∀ i, arrivals input (fun _ => ni) i ≤ maxInt / max ni no)

include hreceived in
omit [Zero W] in
lemma arrivals_fit (i : Fin n) :
    arrivals input (fun _ => ni) i * ni ≤ maxInt ∧ arrivals input (fun _ => ni) i * no ≤ maxInt := by
  have h := Nat.mul_le_of_le_div _ _ _ (hreceived i)
  exact ⟨(Nat.mul_le_mul_left _ (le_max_left ni no)).trans h, (Nat.mul_le_mul_left _ (le_max_right ni no)).trans h⟩

include hinput hreceived in
lemma sendJobs_run : ∃ trace, ∃ batch : Fin n → StripedBatch W,
    (mpiJob hn).Run
      (fun i => sendJobs (b i) (jobComm hsize i) (input i) ni (pairsFor dealtTo (jobs input fun _ => ni) i)) trace
      (fun i => .ok (scatterSlots ni dealtTo (jobs input fun _ => ni) i, batch i)) ∧
    ∀ i, (batch i).recv = (arrived input ni i).flatten := by
  have hfits := arrivals_fit input hreceived
  have hcount : ∀ i, jobCount input (fun _ => ni) i * ni ≤ (input i).length := fun i => Nat.div_mul_le_self _ _
  have hlayout : ∀ i, layout ni (pairsFor dealtTo (jobs input fun _ => ni) i) 0 0 =
      some (scatterSlots ni dealtTo (jobs input fun _ => ni) i) := by
    intro i
    have h := @layout_spec ni (pairsFor dealtTo (jobs input fun _ => ni) i) 0 0
      (by
        rw [Nat.zero_add, sum_jobs hn]
        exact (hcount i).trans (hinput i))
      (by
        rw [Nat.zero_add, sum_arrivals]
        exact (hfits i).1)
    rwa [Nat.zero_mul] at h
  choose packed moved hpack hlength hload using fun i => pack_scatter ni (length_jobInput input ni)
    (jobs_dealt hn input fun _ => ni) i (resizeVector (b i).send (input i).length 0)
    (by
      rw [length_jobs, length_resizeVector]
      exact hcount i)
  let message : Fin n → ScatterMessage W := fun i =>
    ⟨packed i, (scatterSlots ni dealtTo (jobs input fun _ => ni) i).map (·.sendCount),
      (scatterSlots ni dealtTo (jobs input fun _ => ni) i).map (·.sendOffset),
      resizeVector (b i).recv (arrivals input (fun _ => ni) i * ni) 0,
      (scatterSlots ni dealtTo (jobs input fun _ => ni) i).map (·.receiveCount),
      (scatterSlots ni dealtTo (jobs input fun _ => ni) i).map (·.receiveOffset)⟩
  have hdeliv := fun i => deliver_scatter (D := Unit) ni (length_jobInput input ni) message hload i rfl rfl
    (by
      rw [length_resizeVector]
      exact le_rfl)
  have hexact : ∀ i, (message i).receive.drop ((routed (jobs input fun _ => ni) dealtTo i).length * ni) = [] := by
    intro i
    apply drop_of_length_le
    rw [length_resizeVector, arrivals]
  have hrun := job_alltoallv (D := Unit) hn message
  simp only [hdeliv, hexact, append_nil] at hrun
  refine ⟨[.alltoallv] ++ [], fun i => { b i with send := packed i, recv := (arrived input ni i).flatten }, ?_,
    fun i => rfl⟩
  have hprogram : ∀ i, pack ni (target (jobComm hsize i)) (job (input i) ni)
      (range ((input i).length / ni)) (resizeVector (b i).send (input i).length 0)
      ((scatterSlots ni dealtTo (jobs input fun _ => ni) i).map (·.sendOffset)) = some (packed i, moved i) := by
    intro i
    rw [← hpack i, jobs, pack_map]
    rfl
  simp only [sendJobs, hlayout, hprogram, sum_arrivals]
  exact Network.Run.bind hrun (.done _)

def jobResult (ni no : ℕ) (name : JobName n) : List W := resultOf no evaluate (jobInput input ni name)

lemma flatMap_arrived (i : Fin n) : (arrived input ni i).flatMap (resultOf no evaluate) =
    (routed (jobs input fun _ => ni) dealtTo i).flatMap (jobResult input evaluate ni no) := by
  rw [arrived, flatMap_map]
  rfl

def AllSucceed (ni : Fin n → ℕ) : Prop :=
  ∀ i, ∀ k < jobCount input ni i, (evaluate (job (input i) (ni i) k)).1.isOk = true

include hn in
lemma allSucceed_iff : (∀ i, ∀ record ∈ arrived input ni i, (evaluate record).1.isOk = true) ↔
    AllSucceed input evaluate fun _ => ni := by
  constructor
  · intro h i k hk
    have hmem : (i, k) ∈ routed (jobs input fun _ => ni) dealtTo (dealtTo (i, k)) :=
      mem_routed.mpr ⟨⟨i, mem_map.mpr ⟨k, mem_range.mpr hk, rfl⟩⟩, rfl⟩
    exact h ⟨dealtTo (i, k), dealtTo_lt hn _⟩ _ (mem_map_of_mem hmem)
  · intro h i record hrecord
    obtain ⟨name, hname, rfl⟩ := mem_map.mp hrecord
    obtain ⟨⟨j, hj⟩, -⟩ := mem_routed.mp hname
    obtain ⟨k, hk, rfl⟩ := mem_map.mp hj
    exact h j k (mem_range.mp hk)

lemma evaluate_arrived (i : Fin n) (result : List W) (hresult : result.length = arrivals input (fun _ => ni) i * no) :
    ∃ s filled, evaluateRecords ni no evaluate (arrived input ni i).flatten 0 (arrivals input (fun _ => ni) i) result =
      some (s, filled) ∧
      (s.isOk = true ↔ ∀ record ∈ arrived input ni i, (evaluate record).1.isOk = true) ∧
      (s.isOk = true → filled = (routed (jobs input fun _ => ni) dealtTo i).flatMap (jobResult input evaluate ni no)) := by
  obtain ⟨s, filled, hloop, hiff, hfilled⟩ := @evaluateRecords_spec W ni no evaluate (arrived input ni i).flatten
    (arrived input ni i) 0 result (load_arrived input i) (by
      rw [Nat.zero_add, length_arrived]
      exact hresult.ge)
  rw [length_arrived] at hloop
  refine ⟨s, filled, hloop, hiff, fun hs => ?_⟩
  have hdrop : result.drop ((0 + (arrived input ni i).length) * no) = [] := by
    apply drop_of_length_le
    rw [Nat.zero_add, length_arrived]
    exact hresult.le
  rw [hfilled hs, hdrop, Nat.zero_mul, take_zero, nil_append, append_nil, flatMap_arrived]

@[simp] lemma length_jobResult (name : JobName n) : (jobResult input evaluate ni no name).length = no :=
  length_resultOf evaluate _

include hreceived in
lemma returnResults_run (hni : 0 < ni) (houtput : ∀ i, jobCount input (fun _ => ni) i * no ≤ maxInt)
    (batch : Fin n → StripedBatch W)
    (hresult : ∀ i, (batch i).result =
      (routed (jobs input fun _ => ni) dealtTo i).flatMap (jobResult input evaluate ni no)) :
    ∃ trace, ∃ done : Fin n → StripedBatch W × List W,
    (mpiJob hn).Run
      (fun i => returnResults (batch i) (jobComm hsize i) (jobCount input (fun _ => ni) i) ni no (output i)
        (scatterSlots ni dealtTo (jobs input fun _ => ni) i)) trace (fun i => .ok (done i)) ∧
    ∀ i, (done i).1.recv = (batch i).recv ∧ (done i).2.length = jobCount input (fun _ => ni) i * no ∧
      ∀ k < jobCount input (fun _ => ni) i,
        slice (done i).2 (k * no) no = resultOf no evaluate (job (input i) ni k) := by
  have hfits := arrivals_fit input hreceived
  have hslots : ∀ i, (scatterSlots ni dealtTo (jobs input fun _ => ni) i).mapM (rescaledSlot ni no) =
      some (scatterSlots no dealtTo (jobs input fun _ => ni) i) := by
    intro i
    exact rescaledSlots_spec hni _ 0 0
      (by
        rw [Nat.zero_add, sum_jobs hn]
        exact houtput i)
      (by
        rw [Nat.zero_add, sum_arrivals]
        exact (hfits i).2)
  let message : Fin n → ScatterMessage W := fun i =>
    ⟨(batch i).result, (scatterSlots no dealtTo (jobs input fun _ => ni) i).map (·.receiveCount),
      (scatterSlots no dealtTo (jobs input fun _ => ni) i).map (·.receiveOffset),
      resizeVector (batch i).returned (jobCount input (fun _ => ni) i * no) 0,
      (scatterSlots no dealtTo (jobs input fun _ => ni) i).map (·.sendCount),
      (scatterSlots no dealtTo (jobs input fun _ => ni) i).map (·.sendOffset)⟩
  have hsendOffsets := fun i => scatterSlots_sendOffset no dealtTo (jobs input fun _ => ni) i
  choose returned hplace hlength hload using deliver_reply (D := Unit) (length_jobResult input evaluate) message
    (fun _ => []) (fun i => (hresult i).trans (append_nil _).symm) (scatterSlots_receiveCount no dealtTo _)
    (scatterSlots_receiveOffset no dealtTo _) (scatterSlots_sendCount no dealtTo _) hsendOffsets (jobs_dealt hn input fun _ => ni) (fun i => by
      rw [length_jobs, length_resizeVector])
  choose collected hcollect hcollected hslices hothers using fun i => @collect_spec W (JobName n) no dealtTo Prod.snd _
    (length_jobResult input evaluate) n (jobs input (fun _ => ni) i) (returned i)
    ((scatterSlots no dealtTo (jobs input fun _ => ni) i).map (·.sendOffset))
    (resizeVector (output i) (jobCount input (fun _ => ni) i * no) 0)
    (by rw [hsendOffsets, length_map, length_range]) (jobs_dealt hn input _ i) (hload i)
    (by
      rw [jobs, map_map]
      exact (map_id _).symm ▸ nodup_range)
    (fun name hname => by
      obtain ⟨k, hk, rfl⟩ := mem_map.mp hname
      rw [length_resizeVector, ← Nat.succ_mul]
      exact Nat.mul_le_mul_right no (mem_range.mp hk))
  have hrun := job_alltoallv (D := Unit) hn message
  simp only [hplace] at hrun
  refine ⟨[.alltoallv] ++ [], fun i => ({ batch i with returned := returned i }, collected i), ?_,
    fun i => ⟨rfl, ?_, ?_⟩⟩
  · have hprogram : ∀ i, collect no (target (jobComm hsize i)) id (range (jobCount input (fun _ => ni) i))
        (returned i) ((scatterSlots no dealtTo (jobs input fun _ => ni) i).map (·.sendOffset))
        (resizeVector (output i) (jobCount input (fun _ => ni) i * no) 0) = some (collected i) := by
      intro i
      rw [← hcollect i, jobs, collect_map]
      rfl
    simp only [returnResults, hslots]
    refine Network.Run.bind hrun ?_
    simp only [hprogram]
    exact .done _
  · rw [hcollected, length_resizeVector]
  · intro k hk
    exact hslices i (i, k) (mem_map.mpr ⟨k, mem_range.mpr hk, rfl⟩)

include hn hinput hreceived in
lemma evaluation_together (hni : 0 < ni) (houtput : ∀ i, jobCount input (fun _ => ni) i * no ≤ maxInt) :
    ∃ done : Fin n → StripedBatch W × List W,
    Network.Together (mpiJob hn)
      (fun i => (sendJobs (b i) (jobComm hsize i) (input i) ni (pairsFor dealtTo (jobs input fun _ => ni) i)).andThen
        fun (slots, batch) =>
          let received := ((pairsFor dealtTo (jobs input fun _ => ni) i).map Prod.snd).sum
          match evaluateRecords ni no evaluate batch.recv 0 received (resizeVector batch.result (received * no) 0) with
          | none => .done .fault
          | some (s, result) =>
            (StripedBatch.agreed s).andThen fun _ =>
              returnResults { batch with result := result } (jobComm hsize i) (jobCount input (fun _ => ni) i) ni no
                (output i) slots)
      (AllSucceed input evaluate fun _ => ni) (fun e => e.isOk = false) done ∧
    ((AllSucceed input evaluate fun _ => ni) → ∀ i,
      (done i).1.recv.length = arrivals input (fun _ => ni) i * ni ∧
      (done i).2.length = jobCount input (fun _ => ni) i * no ∧
      ∀ k < jobCount input (fun _ => ni) i,
        slice (done i).2 (k * no) no = resultOf no evaluate (job (input i) ni k)) := by
  obtain ⟨trace, batch, hsend, hrecv⟩ := sendJobs_run hn hsize b input hinput hreceived
  choose s filled hloop hiff hfilled using fun i => @evaluate_arrived W _ n input ni no evaluate i
    (resizeVector (batch i).result (arrivals input (fun _ => ni) i * no) 0) (length_resizeVector _ _ _)
  have hall : (∀ i, (s i).isOk = true) ↔ AllSucceed input evaluate fun _ => ni := by
    rw [← allSucceed_iff hn]
    exact forall_congr' hiff
  have hagreed := agreed_together (W := W) hn s
  by_cases hok : AllSucceed input evaluate fun _ => ni
  · obtain ⟨trace', done, hreturn, hdone⟩ := returnResults_run hn hsize input output evaluate hreceived hni houtput
      (fun i => { batch i with result := filled i }) fun i => hfilled i (hall.mpr hok i)
    simp only [hrecv] at hreturn
    refine ⟨done, ?_, fun _ i => ⟨?_, (hdone i).2⟩⟩
    rotate_left
    · rw [(hdone i).1]
      exact (congrArg length (hrecv i)).trans (flatten_arrived input i)
    apply hsend.andThen_together
    simp only [sum_arrivals, hrecv, hloop]
    exact (hagreed.andThen fun _ => hreturn.together).congr
      ⟨fun h => hall.mp h.1, fun h => ⟨hall.mpr h, trivial⟩⟩
  · refine ⟨fun i => (batch i, []), ?_, fun h => absurd h hok⟩
    apply hsend.andThen_together
    simp only [sum_arrivals, hrecv, hloop]
    exact (hagreed.andThen_failed (mt hall.mp hok)).congr ⟨False.elim, hok⟩

end Exchange

section Whole

variable {W : Type} [Zero W] {n : ℕ} (hn : 0 < n) (hsize : n < 2 ^ 31) (b : Fin n → StripedBatch W)
  (input output : Fin n → List W) (ni no : Fin n → ℕ) (evaluate : List W → RawStatus × (ℕ → W))
  (memory : Fin n → BatchMemory)

/-- The output slots hold the results of the rank's own jobs, after as many records as were
dealt to the rank have passed through it. -/
structure HoldsResults (i : Fin n) (done : StripedBatch W × List W) : Prop where
  received : done.1.recv.length = arrivals input ni i * ni i
  length : done.2.length = jobCount input ni i * no i
  slots : ∀ k < jobCount input ni i,
    slice done.2 (k * no i) (no i) = resultOf (no i) evaluate (job (input i) (ni i) k)

lemma stripedRun_together : ∃ done : Fin n → StripedBatch W × List W,
    Network.Together (mpiJob hn)
      (fun i => (b i).run (.valid (jobComm hsize i)) (input i) (ni i) (no i) (output i) evaluate (memory i))
      (ShapeAdmitted input ni no ∧ CountsAdmitted input ni no memory ∧ AllSucceed input evaluate ni)
      (fun e => e.isOk = false) done ∧
    (ShapeAdmitted input ni no ∧ CountsAdmitted input ni no memory ∧ AllSucceed input evaluate ni →
      ∀ i, HoldsResults input ni no evaluate i (done i)) := by
  have hshape := agreeOnShape_together hn input ni no
  have hcounts := exchangeRecordCounts_together hn hsize input ni no memory
  by_cases hadm : ShapeAdmitted input ni no
  · by_cases hfits : CountsAdmitted input ni no memory
    · obtain ⟨w, rfl⟩ : ∃ w, ni = fun _ => w := ⟨ni ⟨0, hn⟩, funext fun i => (hadm.same i ⟨0, hn⟩).1⟩
      obtain ⟨v, rfl⟩ : ∃ v, no = fun _ => v := ⟨no ⟨0, hn⟩, funext fun i => (hadm.same i ⟨0, hn⟩).2⟩
      have hpos := (hadm.positive ⟨0, hn⟩).1
      obtain ⟨done, hdone, hholds⟩ := evaluation_together hn hsize b input output evaluate hadm.inputs
        hfits.received hpos fun i => Nat.mul_le_of_le_div _ _ _ (hadm.outputs i)
      refine ⟨done, hshape.andThen fun _ => hcounts.andThen fun _ => hdone, fun h i => ?_⟩
      obtain ⟨hrecv, hlength, hslots⟩ := hholds h.2.2 i
      exact ⟨hrecv, hlength, hslots⟩
    · refine ⟨fun i => (b i, []), ?_, fun h => absurd h.2.1 hfits⟩
      exact (hshape.andThen fun _ => hcounts.andThen_failed hfits).congr
        ⟨fun h => h.2.elim, fun h => absurd h.2.1 hfits⟩
  · refine ⟨fun i => (b i, []), ?_, fun h => absurd h.1 hadm⟩
    exact (hshape.andThen_failed hadm).congr ⟨False.elim, fun h => absurd h.1 hadm⟩

section Reservation

variable (capacity : Fin n → ℕ) (memoryAtHand : Fin n → Bool)

/-- What `prepare` reserves for on every rank. -/
def reserved (capacity : Fin n → ℕ) : ℕ := (∑ j, stripe (capacity j) n) % 2 ^ 64

structure Reservable : Prop where
  positive : ∀ i, 0 < ni i ∧ 0 < no i
  widths : ∀ i, max (ni i) (no i) ≤ maxInt
  capacities : ∀ i, capacity i ≤ maxInt / max (ni i) (no i)
  received : ∀ i, reserved capacity ≤ maxInt / max (ni i) (no i)
  memory : ∀ i, memoryAtHand i = true

def reservedBatch (i : Fin n) : StripedBatch W :=
  { b i with
    sendCapacity := max (b i).sendCapacity (capacity i * ni i)
    returnedCapacity := max (b i).returnedCapacity (capacity i * no i)
    recvCapacity := max (b i).recvCapacity (reserved capacity * ni i)
    resultCapacity := max (b i).resultCapacity (reserved capacity * no i) }

omit [Zero W] in
lemma prepare_together : Network.Together (mpiJob hn)
    (fun i => (b i).prepare (jobComm hsize i) (capacity i) (ni i) (no i) (memoryAtHand i))
    (Reservable ni no capacity memoryAtHand) (fun e => e.isOk = false) (reservedBatch b ni no capacity) := by
  have hsum := job_allreduceSum (W := W) (D := Unit) hn (fun i => [stripe (capacity i) n]) 1 fun _ => rfl
  refine Network.Together.after hsum (((agreed_together hn _).andThen fun _ => Network.Together.done).congr ?_)
  have hreserved : ((range 1).map fun k => (∑ j, [stripe (capacity j) n].getD k 0) % 2 ^ 64).getD 0 0 =
      reserved capacity := rfl
  have hbad : ∀ code : StatusCode, code ≠ .ok → (batchFailure code).isOk = false := by
    intro code hcode
    cases code <;> simp_all [batchFailure, RawStatus.isOk, Status.raw, StatusCode.toWire]
  simp only [hreserved]
  constructor
  · rintro ⟨hok, -⟩
    have hfields : ∀ i, (0 < ni i ∧ 0 < no i) ∧ max (ni i) (no i) ≤ maxInt ∧ capacity i ≤ maxInt / max (ni i) (no i) ∧
        reserved capacity ≤ maxInt / max (ni i) (no i) ∧ memoryAtHand i = true := by
      intro i
      have hi := hok i
      split_ifs at hi with hshort hmemory
      · rw [hbad _ (by simp)] at hi
        cases hi
      · rw [hbad _ (by simp)] at hi
        cases hi
      · simp only [Bool.or_eq_true, decide_eq_true_eq, not_or, not_lt, Bool.not_eq_true', Bool.not_eq_false] at hshort hmemory
        exact ⟨⟨by omega, by omega⟩, hshort.1.1.2, hshort.1.2, hshort.2, hmemory⟩
    exact ⟨fun i => (hfields i).1, fun i => (hfields i).2.1, fun i => (hfields i).2.2.1, fun i => (hfields i).2.2.2.1,
      fun i => (hfields i).2.2.2.2⟩
  · intro h
    refine ⟨fun i => ?_, trivial⟩
    have hpos := h.positive i
    have hwidths := h.widths i
    have hcapacities := h.capacities i
    have hreceived := h.received i
    rw [if_neg (by simp only [Bool.or_eq_true, decide_eq_true_eq, not_or, not_lt]; omega),
      if_neg (by simp [h.memory i])]
    rfl

omit [Zero W] in
include hn hsize in
lemma arrivals_le_reserved (h : Reservable ni no capacity memoryAtHand)
    (hcapacity : ∀ i, jobCount input ni i ≤ capacity i) (i : Fin n) : arrivals input ni i ≤ reserved capacity := by
  have hmax : maxInt = 2 ^ 31 - 1 := rfl
  have hsmall : ∀ j, capacity j ≤ maxInt := fun j => (h.capacities j).trans (Nat.div_le_self _ _)
  have hstripe : ∀ j, stripe (capacity j) n = (capacity j + n - 1) / n := by
    intro j
    have := hsmall j
    rw [stripe, Nat.mod_eq_of_lt (by omega)]
  have hstripeLe : ∀ j, stripe (capacity j) n ≤ 2 ^ 32 := by
    intro j
    have := hsmall j
    rw [hstripe]
    exact (Nat.div_le_self _ _).trans (by omega)
  have htotal : (∑ j, stripe (capacity j) n) < 2 ^ 64 := by
    calc ∑ j, stripe (capacity j) n ≤ ∑ _j : Fin n, 2 ^ 32 := Finset.sum_le_sum fun j _ => hstripeLe j
      _ = n * 2 ^ 32 := by rw [Finset.sum_const, Finset.card_univ, Fintype.card_fin, smul_eq_mul]
      _ < 2 ^ 64 := by omega
  have harrivals : arrivals input ni i = ∑ j : Fin n, (jobs input ni j).countP fun name => dealtTo name = i := by
    rw [arrivals, length_routed, Fin.sum_univ_def]
  rw [harrivals, reserved, Nat.mod_eq_of_lt htotal]
  apply Finset.sum_le_sum
  intro j _
  rw [jobs, countP_map, hstripe]
  calc (range (jobCount input ni j)).countP _ ≤ (jobCount input ni j + n - 1) / n :=
        countP_dealt_le hn (jobCount input ni j) j i.isLt
    _ ≤ (capacity j + n - 1) / n := by
        have := hcapacity j
        exact Nat.div_le_div_right (by omega)

end Reservation

/-- A run on all ranks is the evaluation of each rank's own jobs: the ranks succeed together
exactly when the call is admitted and every job succeeds, and no subscript, count or displacement
leaves its range. A reservation bounds what any rank receives. -/
theorem striped_batch_equals_local (capacity : Fin n → ℕ) (memoryAtHand : Fin n → Bool) :
    ((∃ trace r, (mpiJob hn).Run (fun i => (b i).run (.valid (jobComm hsize i)) (input i) (ni i) (no i) (output i)
        evaluate (memory i)) trace r) ∧
      ∀ trace r, (mpiJob hn).Run (fun i => (b i).run (.valid (jobComm hsize i)) (input i) (ni i) (no i) (output i)
          evaluate (memory i)) trace r →
        ((∃ done : Fin n → StripedBatch W × List W, r = fun i => .ok (done i)) ↔
          ShapeAdmitted input ni no ∧ CountsAdmitted input ni no memory ∧ AllSucceed input evaluate ni) ∧
        ((∃ done : Fin n → StripedBatch W × List W, (r = fun i => .ok (done i)) ∧ ∀ i, HoldsResults input ni no evaluate i (done i)) ∨
          ∃ e, e.isOk = false ∧ r = fun _ => .failed e)) ∧
    ((∃ trace p, (mpiJob hn).Run
        (fun i => (b i).prepare (jobComm hsize i) (capacity i) (ni i) (no i) (memoryAtHand i)) trace p) ∧
      ∀ trace p, (mpiJob hn).Run
          (fun i => (b i).prepare (jobComm hsize i) (capacity i) (ni i) (no i) (memoryAtHand i)) trace p →
        (∃ e, e.isOk = false ∧ p = fun _ => .failed e) ∨
          (p = fun i => .ok (reservedBatch b ni no capacity i)) ∧
          ((∀ i, jobCount input ni i ≤ capacity i) → ∀ i, arrivals input ni i ≤ reserved capacity)) := by
  have : Nonempty (Fin n) := ⟨⟨0, hn⟩⟩
  constructor
  · obtain ⟨done, ⟨trace, r, hrun, hok, hbad⟩, hholds⟩ :=
      stripedRun_together hn hsize b input output ni no evaluate memory
    refine ⟨⟨trace, r, hrun⟩, fun trace' r' hrun' => ?_⟩
    obtain ⟨-, rfl⟩ := hrun.unique hrun'
    by_cases h : ShapeAdmitted input ni no ∧ CountsAdmitted input ni no memory ∧ AllSucceed input evaluate ni
    · exact ⟨⟨fun _ => h, fun _ => ⟨done, hok h⟩⟩, .inl ⟨done, hok h, hholds h⟩⟩
    · obtain ⟨e, he, hr⟩ := hbad h
      refine ⟨⟨?_, fun hall => absurd hall h⟩, .inr ⟨e, he, hr⟩⟩
      rintro ⟨done', hdone'⟩
      rw [hr] at hdone'
      exact nomatch congrFun hdone' ⟨0, hn⟩
  · obtain ⟨trace, p, hrun, hok, hbad⟩ := prepare_together hn hsize b ni no capacity memoryAtHand
    refine ⟨⟨trace, p, hrun⟩, fun trace' p' hrun' => ?_⟩
    obtain ⟨-, rfl⟩ := hrun.unique hrun'
    by_cases h : Reservable ni no capacity memoryAtHand
    · exact .inr ⟨hok h, arrivals_le_reserved hn hsize input ni no capacity memoryAtHand h⟩
    · exact .inl (hbad h)

end Whole

def doubling (record : List ℕ) : RawStatus × (ℕ → ℕ) := ({}, fun _ => 2 * record.getD 0 0)

/-- The second of two ranks has three jobs, the first none. -/
theorem striped_batch_equals_local_two :
    ∃ (trace : _) (done : Fin 2 → StripedBatch ℕ × List ℕ), (mpiJob (by decide : 0 < 2)).Run
      (fun i : Fin 2 => StripedBatch.run ({} : StripedBatch ℕ) (.valid (jobComm (by decide) i))
        (if i = 1 then [5, 6, 7] else []) 1 1 [] doubling {}) trace (fun i => .ok (done i)) ∧
      ∀ k < 3, slice (done 1).2 (k * 1) 1 = [10 + 2 * k] := by
  obtain ⟨⟨trace, r, hrun⟩, h⟩ := (striped_batch_equals_local (by decide : 0 < 2) (by decide)
    (fun _ : Fin 2 => ({} : StripedBatch ℕ)) (fun i => if i = 1 then [5, 6, 7] else []) (fun _ => [])
    (fun _ => 1) (fun _ => 1) doubling (fun _ => {}) (fun _ => 0) fun _ => true).1
  have hadmitted : ShapeAdmitted (fun i : Fin 2 => if i = 1 then [5, 6, 7] else []) (fun _ => 1) fun _ => 1 :=
    ⟨by decide, by decide, by decide, by decide, by decide, by decide⟩
  have hcounts : CountsAdmitted (fun i : Fin 2 => if i = 1 then [5, 6, 7] else []) (fun _ => 1) (fun _ => 1)
      fun _ => {} := ⟨by decide, by decide⟩
  obtain ⟨done, hdone⟩ := (h trace r hrun).1.mpr ⟨hadmitted, hcounts, fun _ _ _ => rfl⟩
  subst hdone
  refine ⟨trace, done, hrun, fun k hk => ?_⟩
  cases (h trace _ hrun).2 with
  | inl hholds =>
    obtain ⟨done', heq, hholds⟩ := hholds
    have hsame : done 1 = done' 1 := Stage.ok.inj (congrFun heq 1)
    have hresults : ∀ k < 3, resultOf 1 doubling (job [5, 6, 7] 1 k) = [10 + 2 * k] := by decide
    rw [hsame]
    exact ((hholds 1).slots k hk).trans (hresults k hk)
  | inr hfailed =>
    obtain ⟨e, -, heq⟩ := hfailed
    exact nomatch congrFun heq 0

end HundunFlow.Proofs
