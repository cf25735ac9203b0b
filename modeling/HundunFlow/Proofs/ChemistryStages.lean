import HundunFlow.Lib.Dealing
import HundunFlow.Proofs.ChemistryTasks

/-!
# The stages of the chemistry batch

The collectives of an execution, from the numbering of the tasks to the return of their results:
when a stage passes, and what it leaves on every rank.
-/

namespace HundunFlow.Proofs

open Lib ChemistryBatch List

section

section Consensus

variable {n : ℕ} (hn : 0 < n)

lemma rankMax_toNat (bad : Fin n → Bool) : (rankMax hn fun i => (bad i).toNat) = 0 ↔ ∀ i, bad i = false := by
  constructor
  · intro h i
    have hle := le_rankMax hn (fun i => (bad i).toNat) i
    rw [h] at hle
    exact Bool.toNat_eq_zero.mp (Nat.le_zero.mp hle)
  · intro h
    simp only [h]
    exact Finset.sup'_const _ _

lemma chemistryAgree_together {F : Type} (bad : Fin n → Bool) :
    Network.Together (mpiJob hn) (fun i => agree (F := F) (bad i)) (∀ i, bad i = false)
      (fun e => e = failure) fun _ => () := by
  have hreduce : (mpiJob (W := F) (D := Unit) hn).Run (fun i => Job.allreduce .max (bad i).toNat) [.allreduce .max]
      (fun _ => some (rankMax hn fun i => (bad i).toNat)) := .call _ _ _ _ _ (fun _ => rfl) (.done _)
  apply Network.Together.after hreduce
  by_cases h : ∀ i, bad i = false
  · rw [(rankMax_toNat hn bad).mpr h]
    exact Network.Together.done.congr (by simp [h])
  · have hnot := mt (rankMax_toNat hn bad).mp h
    simp only [hnot, ne_eq, not_false_eq_true, if_true]
    exact ⟨[], _, .done _, fun hok => absurd hok h, fun _ => ⟨failure, rfl, rfl⟩⟩

end Consensus

section Tasks

variable {F : Type} {n : ℕ} (b : Fin n → ChemistryBatch F)

abbrev TaskName (n : ℕ) : Type := Fin n × ℕ × ℕ

def hotCount (i : Fin n) : ℕ := (hotCells (b i).hot).length

/-- The number of hot cells of the ranks before rank `j`. -/
def hotBefore (j : ℕ) : ℕ := sumBefore (ofFn (hotCount b)) j

/-- The tasks of rank `j`. -/
def tasks (j : Fin n) : List (TaskName n) := (hotCells (b j).hot).zipIdx.map fun item => (j, item)

def integrator (name : TaskName n) : ℕ := (hotBefore b name.1 + name.2.2) % n

/-- The tasks rank `r` integrates. -/
def integrated (r : ℕ) : List (TaskName n) := routed (tasks b) (integrator b) r

lemma tasks_dealt (hn : 0 < n) (j : Fin n) : ∀ name ∈ tasks b j, integrator b name < n :=
  fun _ _ => Nat.mod_lt _ hn

lemma integrated_sum (hn : 0 < n) :
    ∑ r : Fin n, (integrated b r : Multiset (TaskName n)) = ∑ j, (tasks b j : Multiset (TaskName n)) :=
  sum_routed (tasks_dealt b hn)

@[simp] lemma length_tasks (j : Fin n) : (tasks b j).length = hotCount b j := by
  rw [tasks, length_map, length_zipIdx, hotCount]

lemma target_eq_integrator (hsize : n < 2 ^ 31) (j : Fin n) :
    ChemistryBatch.target (jobComm hsize j) (hotBefore b j) = integrator b ∘ fun item => (j, item) := rfl

lemma countP_tasks (r : ℕ) (j : Fin n) : ((tasks b j).countP fun name => integrator b name = r) =
    (range (hotCount b j)).countP fun k => (hotBefore b j + k) % n = r := by
  have hnumbers : (tasks b j).map (fun name => name.2.2) = range (hotCount b j) := by
    rw [tasks, map_map, range_eq_range']
    exact zipIdx_map_snd 0 _
  rw [← hnumbers, countP_map]
  apply countP_congr
  intro name hname
  obtain ⟨item, -, rfl⟩ := mem_map.mp hname
  rfl

lemma hotBefore_succ {k : ℕ} (hk : k < n) : hotBefore b (k + 1) = hotBefore b k + hotCount b ⟨k, hk⟩ := by
  rw [hotBefore, sumBefore_succ, getD_eq_getElem _ _ (by simpa using hk), List.getElem_ofFn]
  rfl

lemma length_integrated (r : ℕ) : (integrated b r).length =
    (range (hotBefore b n)).countP fun number => number % n = r := by
  have hsum : ∀ k ≤ n, (((finRange n).take k).map fun j =>
      (tasks b j).countP fun name => integrator b name = r).sum =
        (range (hotBefore b k)).countP fun number => number % n = r := by
    intro k
    induction k with
    | zero =>
      intro _
      rfl
    | succ k ih =>
      intro hk
      have hlt : k < (finRange n).length := by
        rw [length_finRange]
        exact hk
      have hget : (finRange n).get ⟨k, hlt⟩ = ⟨k, hk⟩ := by simp
      rw [get_eq_getElem] at hget
      rw [take_succ_eq_append_getElem hlt, map_append, sum_append, ih (by omega), hget,
        map_singleton, sum_singleton, countP_tasks, hotBefore_succ b hk, countP_range_add]
  have hall := hsum n le_rfl
  rw [take_of_length_le (by simp)] at hall
  rw [integrated, length_routed]
  exact hall

lemma integrated_even (hn : 0 < n) (r s : Fin n) : (integrated b r).length ≤ (integrated b s).length + 1 := by
  rw [length_integrated, length_integrated, countP_mod hn _ r.isLt, countP_mod hn _ s.isLt]
  split_ifs <;> omega

end Tasks

end

/-! ### The stages of the chemistry batch -/

variable {F : Type} [Field F] [LinearOrder F] [FloorRing F] {n : ℕ} (hn : 0 < n) (hsize : n < 2 ^ 31)
  (b : Fin n → ChemistryBatch F) (provider : GasAdvanceProvider F) (memory : Fin n → ChemistryMemory)

/-- The cells of every rank fit. -/
structure Numbered : Prop where
  inputs : ∀ i, (b i).input.length ≤ maxInt
  cells : ∀ i, (b i).hot.length ≤ maxInt / (b i).outputWidth
  budget : ∀ i, (b i).ownBytes (hotCount b i) ≤ (b i).budget
  memory : ∀ i, (memory i).counts = true

omit [Field F] [LinearOrder F] [FloorRing F] in
lemma numberTasks_together :
    Network.Together (mpiJob hn) (fun i => (b i).numberTasks (jobComm hsize i) (memory i)) (Numbered b memory)
      (fun e => e = failure) fun i => hotBefore b i := by
  have hgather := job_allgather (W := F) (D := Unit) hn (hotCount b)
  refine Network.Together.congr ((chemistryAgree_together hn _).andThen fun _ => Network.Together.after hgather
    Network.Together.done) ?_
  simp only [Bool.or_eq_false_iff, decide_eq_false_iff_not, not_lt, Bool.not_eq_false', and_true]
  constructor
  · intro h
    exact ⟨fun i => (h i).1.1.1, fun i => (h i).1.1.2, fun i => (h i).1.2, fun i => (h i).2⟩
  · intro h i
    exact ⟨⟨⟨h.inputs i, h.cells i⟩, h.budget i⟩, h.memory i⟩

def heldBytes (i : Fin n) : ℕ :=
  ((b i).input.length + (b i).hot.length * (b i).outputWidth + hotCount b i * (b i).inputWidth +
      hotCount b i * (b i).outputWidth +
    (integrated b i).length * ((b i).inputWidth + (b i).outputWidth)) * ChemistryBatch.doubleBytes +
      (b i).samples.length * sampleBytes

/-- What every rank is to integrate fits. -/
structure Distributable : Prop where
  memory : ∀ i, (memory i).send = true ∧ (memory i).receive = true
  shares : ∀ i : Fin n, (integrated b i).length ≤ maxInt / (b i).outputWidth
  budget : ∀ i, heldBytes b i ≤ (b i).budget

def distributedBatch (indices : Fin n → List ℕ) (send : Fin n → List F) (i : Fin n) : ChemistryBatch F :=
  { b i with
    indices := indices i
    send := send i
    output := resizeVector (b i).output ((b i).hot.length * (b i).outputWidth) 0
    recv := resizeVector (b i).recv ((integrated b i).length * (b i).inputWidth) 0
    result := resizeVector (b i).result ((integrated b i).length * (b i).outputWidth) 0
    returned := resizeVector (b i).returned (hotCount b i * (b i).outputWidth) 0 }

def taskRow (name : TaskName n) : List F := (b name.1).inputRow name.2.1

/-- The tasks of rank `i` in the order of their integrators. -/
def slotted (i : Fin n) : List (TaskName n) :=
  ((range n).map fun r => (tasks b i).filter fun name => integrator b name = r).flatten

omit [Field F] [LinearOrder F] [FloorRing F] in
lemma slotted_perm (hn : 0 < n) (i : Fin n) : (slotted b i).Perm (tasks b i) := by
  rw [← Multiset.coe_eq_coe, slotted, ← map_coe_finRange_eq_range, map_map, ← flatMap_def,
    coe_flatMap_finRange]
  exact sum_filter_destination (tasks b i : Multiset (TaskName n)) fun name hname => tasks_dealt b hn i name hname

omit [Field F] [LinearOrder F] [FloorRing F] in
lemma tasks_cells (i : Fin n) : (tasks b i).map (fun name => name.2.1) = hotCells (b i).hot := by
  rw [tasks, map_map]
  exact zipIdx_map_fst 0 _

omit [Field F] [LinearOrder F] [FloorRing F] in
lemma hot_of_mem_tasks {i : Fin n} {name : TaskName n} (h : name ∈ tasks b i) :
    name.2.1 < (b i).hot.length ∧ (b i).hot.getD name.2.1 false = true := by
  have hcell : name.2.1 ∈ hotCells (b i).hot := by
    rw [← tasks_cells]
    exact mem_map_of_mem h
  rw [hotCells, mem_filter, mem_range] at hcell
  exact hcell

variable {ns : ℕ} (hns : ∀ i, (b i).ns = ns)

include hns

omit [LinearOrder F] [FloorRing F] in
lemma length_taskRow (name : TaskName n) : (taskRow b name).length = ns + 2 := by
  simp [taskRow, inputRow, numbers, inputWidth, hns]

omit [LinearOrder F] [FloorRing F] in
include hn in
lemma fillTasks_run (i : Fin n) : ∃ indices send,
    fillTasks (b i).inputWidth (ChemistryBatch.target (jobComm hsize i) (hotBefore b i)) (b i).inputRow
        (hotCells (b i).hot).zipIdx
        ((range (countsFor n (integrator b) (tasks b i)).length).map
          (sumBefore (countsFor n (integrator b) (tasks b i))))
        (resizeVector (b i).indices (hotCount b i) 0)
        (resizeVector (b i).send (hotCount b i * (b i).inputWidth) 0) = some (indices, send) ∧
      indices = (slotted b i).map (fun name => name.2.1) ∧ send.length = hotCount b i * (ns + 2) ∧
      ∀ r < n, load send (((scatterSlots (ns + 2) (integrator b) (tasks b) i).map (·.sendOffset)).getD r 0)
          (((scatterSlots (ns + 2) (integrator b) (tasks b) i).map (·.sendCount)).getD r 0) =
        some (((tasks b i).filter fun name => integrator b name = r).flatMap (taskRow b)) := by
  have hwidth : (b i).inputWidth = ns + 2 := by rw [inputWidth, hns]
  obtain ⟨indices, moved, hindices, hlength, hcells⟩ := pack_scatter 1
    (show ∀ name : TaskName n, [name.2.1].length = 1 from fun _ => rfl) (tasks_dealt b hn) i
    (resizeVector (b i).indices (hotCount b i) 0) (by rw [length_tasks, length_resizeVector, Nat.mul_one])
  obtain ⟨send, moved', hsend, hsendLength, hrows⟩ := pack_scatter (ns + 2) (length_taskRow b hns) (tasks_dealt b hn) i
    (resizeVector (b i).send (hotCount b i * (b i).inputWidth) 0) (by rw [length_tasks, length_resizeVector, hwidth])
  have hdispl : (scatterSlots 1 (integrator b) (tasks b) i).map (·.sendOffset) =
      (range n).map (sumBefore (countsFor n (integrator b) (tasks b i))) := by
    rw [scatterSlots_sendOffset]
    simp only [Nat.mul_one, map_id']
  have hscaled : (scatterSlots (ns + 2) (integrator b) (tasks b) i).map (·.sendOffset) =
      ((range n).map (sumBefore (countsFor n (integrator b) (tasks b i)))).map (· * (ns + 2)) := by
    rw [scatterSlots_sendOffset, map_map]
    apply map_congr_left
    intro r _
    rw [Function.comp_apply, sumBefore, sumBefore, ← map_take, sum_map_mul_right, map_id']
  refine ⟨indices, send, ?_, ?_, ?_, hrows⟩
  · rw [length_countsFor]
    rw [tasks, pack_map, hdispl] at hindices
    rw [tasks, pack_map, hscaled] at hsend
    rw [hwidth] at hsend ⊢
    exact fillTasks_spec _ _ _ _ hindices hsend
  · have hflat := @eq_flatten_of_loads ℕ indices (countsFor n (integrator b) (tasks b i))
      (fun r => ((tasks b i).filter fun name => integrator b name = r).map fun name => name.2.1)
      (fun r hr => by
        rw [length_countsFor] at hr
        have hload := hcells r hr
        rw [hdispl, getD_map_range _ hr, scatterSlots_sendCount] at hload
        rw [map_eq_flatMap]
        simpa using hload)
      (by rw [hlength, length_resizeVector, sum_countsFor (tasks_dealt b hn i), length_tasks])
    rw [hflat, length_countsFor, slotted, map_flatten, map_map]
    rfl
  · rw [hsendLength, length_resizeVector, hwidth]

omit [Field F] [LinearOrder F] [FloorRing F] hns in
include hn in
lemma tally_tasks (i : Fin n) :
    tally n (ChemistryBatch.target (jobComm hsize i) (hotBefore b i)) (hotCells (b i).hot).zipIdx =
      some (countsFor n (integrator b) (tasks b i)) := by
  rw [← tally_spec (tasks_dealt b hn i), tally, tally, tasks, tallyLoop_map, target_eq_integrator]

omit [LinearOrder F] [FloorRing F] in
lemma distribute_together : ∃ (indices : Fin n → List ℕ) (send : Fin n → List F),
    Network.Together (mpiJob hn) (fun i => (b i).distribute (jobComm hsize i) (hotBefore b i) (memory i))
      (Distributable b memory) (fun e => e = failure) (fun i => (distributedBatch b indices send i,
        scatterSlots 1 (integrator b) (tasks b) i, (integrated b i).length)) ∧
    ∀ i, indices i = (slotted b i).map (fun name => name.2.1) ∧
      ∀ r < n, load (send i) (((scatterSlots (ns + 2) (integrator b) (tasks b) i).map (·.sendOffset)).getD r 0)
          (((scatterSlots (ns + 2) (integrator b) (tasks b) i).map (·.sendCount)).getD r 0) =
        some (((tasks b i).filter fun name => integrator b name = r).flatMap (taskRow b)) := by
  choose indices send hfill hindices hlength hrows using fillTasks_run hn hsize b hns
  refine ⟨indices, send, ?_, fun i => ⟨hindices i, hrows i⟩⟩
  have hcounts := job_alltoall (W := F) (D := Unit) hn fun i => countsFor n (integrator b) (tasks b i)
  simp only [alltoall_counts] at hcounts
  have hsel : ∀ i, ((hotCells (b i).hot).zipIdx).length = hotCount b i := fun i => length_zipIdx
  have hsize' : ∀ i : Fin n, (jobComm hsize i).size = n := fun _ => rfl
  have hshare : ∀ i, (receivesFor (integrator b) (tasks b) i).sum = (integrated b i).length := sum_receivesFor _ _
  let sized : Fin n → ChemistryBatch F := fun i => { b i with
    indices := indices i, send := send i
    output := resizeVector (b i).output ((b i).hot.length * (b i).outputWidth) 0 }
  let loop : Fin n → List ℕ × ℕ × Bool := fun i => offsetsLoop (receivesFor (integrator b) (tasks b) i) 0
  let bad : Fin n → Bool := fun i => (loop i).2.2 || decide (maxInt / (b i).outputWidth < (loop i).2.1) ||
    decide ((b i).budget < (sized i).allBytes (hotCount b i) (loop i).2.1) || !(memory i).receive
  have hbad : ∀ i, bad i = false ↔ (integrated b i).length ≤ maxInt / (b i).outputWidth ∧
      heldBytes b i ≤ (b i).budget ∧ (memory i).receive = true := by
    intro i
    by_cases hfits : (integrated b i).length ≤ maxInt
    · have hloop : (loop i).2 = ((integrated b i).length, false) := by
        simp only [loop]
        rw [offsetsLoop_fits _ _ (by rw [Nat.zero_add, hshare]; exact hfits), Nat.zero_add, hshare]
      have hbytes : (sized i).allBytes (hotCount b i) (integrated b i).length = heldBytes b i := by
        simp only [allBytes, heldBytes, sized, length_resizeVector, hlength, inputWidth, outputWidth, hns]
      simp only [bad, hloop, hbytes]
      simp only [Bool.false_or, Bool.or_eq_false_iff, decide_eq_false_iff_not, not_lt, Bool.not_eq_false', and_assoc]
    · have hloop : (loop i).2.2 = true := offsetsLoop_breaks _ _ (Nat.zero_le _) (by rw [Nat.zero_add, hshare]; omega)
      simp only [bad, hloop]
      constructor
      · intro h
        cases h
      · intro h
        exact absurd (h.1.trans (Nat.div_le_self _ _)) hfits
  have hprogram : ∀ i, (b i).distribute (jobComm hsize i) (hotBefore b i) (memory i) =
      (ChemistryBatch.agree (!(memory i).send)).andThen fun _ =>
      (Job.alltoall (countsFor n (integrator b) (tasks b i))).bind fun received =>
        received.elim (.done (.failed failure)) fun received =>
        let loop := offsetsLoop received 0
        (ChemistryBatch.agree (loop.2.2 || decide (maxInt / (b i).outputWidth < loop.2.1) ||
          decide ((b i).budget < (sized i).allBytes (hotCount b i) loop.2.1) || !(memory i).receive)).andThen fun _ =>
        .done (.ok ({ sized i with
          recv := resizeVector (b i).recv (loop.2.1 * (b i).inputWidth) 0
          result := resizeVector (b i).result (loop.2.1 * (b i).outputWidth) 0
          returned := resizeVector (b i).returned (hotCount b i * (b i).outputWidth) 0 },
          taskSlots (countsFor n (integrator b) (tasks b i))
            ((range (countsFor n (integrator b) (tasks b i)).length).map
              (sumBefore (countsFor n (integrator b) (tasks b i)))) received loop.1, loop.2.1)) := by
    intro i
    simp only [distribute, hsize', tally_tasks hn hsize b i, hsel, hfill i]
    refine congrArg _ (funext fun _ => congrArg _ (funext fun received => ?_))
    cases received <;> rfl
  simp only [hprogram]
  refine Network.Together.congr ((chemistryAgree_together hn _).andThen fun _ => Network.Together.after hcounts
    ((chemistryAgree_together hn bad).finish fun hok i => ?_)) ?_
  · have hfits : (receivesFor (integrator b) (tasks b) i).sum ≤ maxInt := by
      rw [hshare]
      exact ((hbad i).mp (hok i)).1.trans (Nat.div_le_self _ _)
    have hloop : (loop i).2.1 = (integrated b i).length := by
      simp only [loop]
      rw [offsetsLoop_fits _ _ (by rw [Nat.zero_add]; exact hfits), Nat.zero_add, hshare]
    simp only [loop] at hloop
    simp only [hloop, taskSlots_eq _ _ _ hfits]
    rfl
  · simp only [Bool.not_eq_false', hbad]
    constructor
    · intro h
      exact ⟨fun i => ⟨h.1 i, (h.2 i).2.2⟩, fun i => (h.2 i).1, fun i => (h.2 i).2.1⟩
    · intro h
      exact ⟨fun i => (h.memory i).1, fun i => ⟨h.shares i, h.budget i, (h.memory i).2⟩⟩

variable (batch : Fin n → ChemistryBatch F) (hbatch : ∀ i, (batch i).ns = ns)

include hbatch

omit [LinearOrder F] [FloorRing F] in
lemma sendTasks_run
    (hsend : ∀ i, ∀ r < n,
      load (batch i).send (((scatterSlots (ns + 2) (integrator b) (tasks b) i).map (·.sendOffset)).getD r 0)
          (((scatterSlots (ns + 2) (integrator b) (tasks b) i).map (·.sendCount)).getD r 0) =
        some (((tasks b i).filter fun name => integrator b name = r).flatMap (taskRow b)))
    (hrecv : ∀ i, (batch i).recv.length = (integrated b i).length * (ns + 2))
    (hsent : ∀ i, hotCount b i * (ns + 2) ≤ maxInt)
    (hreceived : ∀ i : Fin n, (integrated b i).length * (ns + 2) ≤ maxInt) : ∃ trace,
    (mpiJob hn).Run (fun i => (batch i).sendTasks (scatterSlots 1 (integrator b) (tasks b) i)) trace
      (fun i => .ok ({ batch i with recv := (integrated b i).flatMap (taskRow b) },
        scatterSlots 1 (integrator b) (tasks b) i)) := by
  have hwidth : ∀ i, (batch i).inputWidth = ns + 2 := by
    intro i
    rw [inputWidth, hbatch]
  have hscale : ∀ i, (scatterSlots 1 (integrator b) (tasks b) i).mapM (scaleSlot (ns + 2)) =
      some (scatterSlots (ns + 2) (integrator b) (tasks b) i) := by
    intro i
    apply scaleSlots_spec
    · rw [sum_countsFor (tasks_dealt b hn i), length_tasks]
      exact hsent i
    · rw [sum_receivesFor]
      exact hreceived i
  let message : Fin n → ScatterMessage F := fun i =>
    ⟨(batch i).send, (scatterSlots (ns + 2) (integrator b) (tasks b) i).map (·.sendCount),
      (scatterSlots (ns + 2) (integrator b) (tasks b) i).map (·.sendOffset), (batch i).recv,
      (scatterSlots (ns + 2) (integrator b) (tasks b) i).map (·.receiveCount),
      (scatterSlots (ns + 2) (integrator b) (tasks b) i).map (·.receiveOffset)⟩
  have hdeliv : ∀ i, place (incoming (D := Unit) (fun j => .alltoallv (message j)) i (message i).receiveCounts
      (message i).receiveOffsets) (message i).receive = some ((integrated b i).flatMap (taskRow b)) := by
    intro i
    have hplace := deliver_scatter (D := Unit) (ns + 2) (length_taskRow b hns) message hsend i rfl rfl (hrecv i).ge
    have hrest : (message i).receive.drop ((routed (tasks b) (integrator b) i).length * (ns + 2)) = [] :=
      drop_of_length_le (hrecv i).le
    rw [hrest, append_nil, ← flatMap_def] at hplace
    exact hplace
  have hrun := job_alltoallv (D := Unit) hn message
  simp only [hdeliv] at hrun
  refine ⟨[.alltoallv] ++ [], ?_⟩
  simp only [sendTasks, hwidth, hscale]
  refine Network.Run.bind hrun ?_
  simp only [unscaleSlots_spec _ _ (Nat.succ_pos (ns + 1))]
  exact .done _

omit [Field F] [LinearOrder F] [FloorRing F] hns in
lemma returnTasks_run {reply : TaskName n → List F} (hreply : ∀ name, (reply name).length = 2 * ns + 10)
    (hresult : ∀ i, (batch i).result = (integrated b i).flatMap reply)
    (hindices : ∀ i, (batch i).indices = (slotted b i).map (fun name => name.2.1))
    (hret : ∀ i, (batch i).returned.length = hotCount b i * (2 * ns + 10))
    (houtput : ∀ i, (batch i).output.length = (b i).hot.length * (2 * ns + 10))
    (hsent : ∀ i, hotCount b i * (2 * ns + 10) ≤ maxInt)
    (hreceived : ∀ i : Fin n, (integrated b i).length * (2 * ns + 10) ≤ maxInt) :
    ∃ trace, ∃ returned output : Fin n → List F,
    (mpiJob hn).Run (fun i => (batch i).returnTasks (scatterSlots 1 (integrator b) (tasks b) i)) trace
      (fun i => .ok { batch i with returned := returned i, output := output i }) ∧
    ∀ i, (output i).length = (b i).hot.length * (2 * ns + 10) ∧
      (∀ name ∈ tasks b i, slice (output i) (name.2.1 * (2 * ns + 10)) (2 * ns + 10) = reply name) ∧
      ∀ c, (b i).hot.getD c false = false →
        slice (output i) (c * (2 * ns + 10)) (2 * ns + 10) =
          slice (batch i).output (c * (2 * ns + 10)) (2 * ns + 10) := by
  have hwidth : ∀ i, (batch i).outputWidth = 2 * ns + 10 := by
    intro i
    rw [outputWidth, hbatch]
  have hscale : ∀ i, (scatterSlots 1 (integrator b) (tasks b) i).mapM (scaleSlot (2 * ns + 10)) =
      some (scatterSlots (2 * ns + 10) (integrator b) (tasks b) i) := by
    intro i
    apply scaleSlots_spec
    · rw [sum_countsFor (tasks_dealt b hn i), length_tasks]
      exact hsent i
    · rw [sum_receivesFor]
      exact hreceived i
  let message : Fin n → ScatterMessage F := fun i =>
    ⟨(batch i).result, (scatterSlots (2 * ns + 10) (integrator b) (tasks b) i).map (·.receiveCount),
      (scatterSlots (2 * ns + 10) (integrator b) (tasks b) i).map (·.receiveOffset), (batch i).returned,
      (scatterSlots (2 * ns + 10) (integrator b) (tasks b) i).map (·.sendCount),
      (scatterSlots (2 * ns + 10) (integrator b) (tasks b) i).map (·.sendOffset)⟩
  choose returned hplace hlength hload using deliver_reply (D := Unit) hreply message (fun _ => [])
    (fun i => (hresult i).trans (append_nil _).symm)
    (scatterSlots_receiveCount (2 * ns + 10) (integrator b) (tasks b))
    (scatterSlots_receiveOffset (2 * ns + 10) (integrator b) (tasks b))
    (scatterSlots_sendCount (2 * ns + 10) (integrator b) (tasks b))
    (scatterSlots_sendOffset (2 * ns + 10) (integrator b) (tasks b)) (tasks_dealt b hn)
    (fun i => by
      rw [length_tasks]
      exact (hret i).ge)
  have hflat : ∀ i, returned i = (slotted b i).flatMap reply := by
    intro i
    have h := @eq_flatten_of_loads F (returned i) ((countsFor n (integrator b) (tasks b i)).map (· * (2 * ns + 10)))
      (fun r => ((tasks b i).filter fun name => integrator b name = r).flatMap reply)
      (fun r hr => by
        rw [length_map, length_countsFor] at hr
        have hpiece := hload i r hr
        have hoffset : (message i).receiveOffsets.getD r 0 =
            sumBefore ((countsFor n (integrator b) (tasks b i)).map (· * (2 * ns + 10))) r := by
          simp only [message]
          rw [scatterSlots_sendOffset, getD_map_range _ hr]
        have hcount : ((countsFor n (integrator b) (tasks b i)).map (· * (2 * ns + 10))).getD r 0 =
            (2 * ns + 10) * countFor (integrator b) (tasks b i) r := by
          rw [countsFor, map_map, getD_map_range _ hr, Function.comp_apply, Nat.mul_comm]
        rw [hcount, ← hoffset]
        exact hpiece)
      (by
        rw [hlength, sum_map_mul_right, map_id', sum_countsFor (tasks_dealt b hn i), length_tasks]
        exact hret i)
    rw [length_map, length_countsFor] at h
    rw [h, slotted, ← flatMap_def, ← flatMap_def, flatMap_assoc]
  have hcells : ∀ i, ((slotted b i).map fun name => name.2.1).Nodup := by
    intro i
    rw [((slotted_perm b hn i).map _).nodup_iff, tasks_cells]
    exact nodup_range.filter _
  have hmem : ∀ i, ∀ name ∈ slotted b i, name.2.1 < (b i).hot.length ∧ (b i).hot.getD name.2.1 false = true := by
    intro i name hname
    exact hot_of_mem_tasks b ((slotted_perm b hn i).mem_iff.mp hname)
  choose copied hcopy hcopied hslices hframe using fun i => copyResults_spec hreply (slotted b i) (batch i).output
    (hcells i) fun name hname => by
      rw [houtput, ← Nat.succ_mul]
      exact Nat.mul_le_mul_right _ (hmem i name hname).1
  have hrun := job_alltoallv (D := Unit) hn message
  simp only [hplace, hflat] at hrun
  refine ⟨[.alltoallv] ++ [], fun i => (slotted b i).flatMap reply, copied, ?_, fun i => ⟨?_, ?_, ?_⟩⟩
  · simp only [returnTasks, hwidth, hscale]
    refine Network.Run.bind hrun ?_
    simp only [hindices, hcopy]
    exact .done _
  · exact (hcopied i).trans (houtput i)
  · intro name hname
    exact hslices i name ((slotted_perm b hn i).mem_iff.mpr hname)
  · intro c hc
    apply hframe i c
    rintro name hname rfl
    rw [(hmem i name hname).2] at hc
    cases hc

end HundunFlow.Proofs
