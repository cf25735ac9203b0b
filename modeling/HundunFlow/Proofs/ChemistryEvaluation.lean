import HundunFlow.Proofs.ChemistryStages

/-!
# A chemistry batch is an advance of every cell

An execution hands every hot cell to one integrator, and afterwards the owner finds for every cell
what the provider returns for its state.
-/

namespace HundunFlow.Proofs

open Lib ChemistryBatch List

variable {F : Type} [Field F] [LinearOrder F] [FloorRing F] {n : ℕ} (hn : 0 < n) (hsize : n < 2 ^ 31)
  (b : Fin n → ChemistryBatch F) (provider : GasAdvanceProvider F) (memory : Fin n → ChemistryMemory)

structure SameStep (ns : ℕ) (revision : GasRevision) (time dt : F) : Prop where
  species : ∀ i, (b i).ns = ns
  revision : ∀ i, (b i).revision = revision
  time : ∀ i, (b i).time = time
  dt : ∀ i, (b i).dt = dt

def taskReply (name : TaskName n) : List F := taskResult (b name.1) provider (taskRow b name)

/-- The provider advances every hot cell by the step, and closes the state of every cold cell that
has no sample. -/
structure AllAdvance : Prop where
  hot : ∀ i, ∀ name ∈ tasks b i, taskFails (b i) provider (taskRow b name) = false
  cold : ∀ i, ∀ c < (b i).hot.length, coldFails (b i) provider c = false

variable {ns : ℕ} {revision : GasRevision} {time dt : F} (hsame : SameStep b ns revision time dt)

include hsame

omit [LinearOrder F] [FloorRing F] in
lemma evaluate_same (i j : Fin n) (row : List F) (duration : F) :
    (b i).evaluate provider row duration = (b j).evaluate provider row duration := by
  have hrequest : (b i).request provider row duration = (b j).request provider row duration := by
    rw [request, request, hsame.species i, hsame.species j, hsame.revision i, hsame.revision j, hsame.time i,
      hsame.time j]
  rw [evaluate, evaluate, hrequest, hsame.species i, hsame.species j]

omit [LinearOrder F] [FloorRing F] in
lemma taskResult_same (i j : Fin n) : taskResult (b i) provider = taskResult (b j) provider := by
  funext row
  rw [taskResult, taskResult, evaluate_same b provider hsame i j, hsame.dt i, hsame.dt j, outputWidth, outputWidth,
    hsame.species i, hsame.species j]

omit [LinearOrder F] [FloorRing F] in
lemma taskFails_same (i j : Fin n) : taskFails (b i) provider = taskFails (b j) provider := by
  funext row
  rw [taskFails, taskFails, evaluate_same b provider hsame i j, hsame.dt i, hsame.dt j]

omit [LinearOrder F] [FloorRing F] in
lemma length_taskReply (name : TaskName n) : (taskReply b provider name).length = 2 * ns + 10 := by
  rw [taskReply, length_taskResult, outputWidth, hsame.species]

/-- Something fails at rank `i`. -/
def failsAt (i : Fin n) : Bool :=
  ((integrated b i).map (taskRow b)).any (taskFails (b i) provider) ||
    (range' 0 (b i).hot.length).any (coldFails (b i) provider)

omit [FloorRing F] in
include hn in
lemma allAdvance_iff : (∀ i, failsAt b provider i = false) ↔ AllAdvance b provider := by
  simp only [failsAt, Bool.or_eq_false_iff, any_eq_false, mem_map, forall_exists_index, and_imp,
    forall_apply_eq_imp_iff₂, Bool.not_eq_true, ← range_eq_range', mem_range]
  constructor
  · intro h
    refine ⟨fun i name hname => ?_, fun i => (h i).2⟩
    have hlt := tasks_dealt b hn i name hname
    have hfails := (h ⟨integrator b name, hlt⟩).1 name (mem_routed.mpr ⟨⟨i, hname⟩, rfl⟩)
    rwa [taskFails_same b provider hsame _ i] at hfails
  · intro h i
    refine ⟨fun name hname => ?_, h.cold i⟩
    obtain ⟨⟨j, hj⟩, -⟩ := mem_routed.mp hname
    rw [taskFails_same b provider hsame i j]
    exact h.hot j name hj

omit [FloorRing F] in
lemma evaluateAll_run (i : Fin n) (indices : List ℕ) (send recv result returned output : List F)
    (hrecv : recv = (integrated b i).flatMap (taskRow b))
    (hresult : result.length = (integrated b i).length * (2 * ns + 10))
    (houtput : output.length = (b i).hot.length * (2 * ns + 10)) :
    ∃ filled cells : List F,
      ({ b i with indices := indices, send := send, recv := recv, result := result, returned := returned,
                  output := output } : ChemistryBatch F).evaluateAll provider (integrated b i).length =
        some ({ b i with indices := indices, send := send, recv := recv, result := filled, returned := returned,
                         output := cells }, failsAt b provider i) ∧
      cells.length = (b i).hot.length * (2 * ns + 10) ∧
      (failsAt b provider i = false → filled = (integrated b i).flatMap (taskReply b provider) ∧
        ∀ c < (b i).hot.length, (b i).hot.getD c false = false → ∀ words, coldWords (b i) provider c = some words →
          slice cells (c * (2 * ns + 10)) (2 * ns + 10) = words) := by
  let batch : ChemistryBatch F := { b i with
    indices := indices, send := send, recv := recv, result := result, returned := returned, output := output }
  have hin : batch.inputWidth = ns + 2 := by
    rw [inputWidth]
    exact congrArg (· + 2) (hsame.species i)
  have hout : batch.outputWidth = 2 * ns + 10 := by
    rw [outputWidth]
    exact congrArg (2 * · + 10) (hsame.species i)
  have hrows : ∀ row ∈ (integrated b i).map (taskRow b), row.length = ns + 2 := by
    intro row hrow
    obtain ⟨name, -, rfl⟩ := mem_map.mp hrow
    exact length_taskRow b hsame.species name
  obtain ⟨filled, hint, hfilled⟩ := integrate_spec batch provider ((integrated b i).map (taskRow b)) 0 result false
    (by
      intro k hk
      have hbuffer : batch.recv = ((integrated b i).map (taskRow b)).flatten := by
        rw [← flatMap_def]
        exact hrecv
      rw [Nat.zero_add, hin, hbuffer]
      exact load_row _ hrows hk)
    (by rw [Nat.zero_add, length_map, hout, hresult])
  rw [length_map, Bool.false_or] at hint
  obtain ⟨cells, hcold, hlength, hslices, -⟩ := fillCold_spec batch provider 0 (b i).hot.length output
    (((integrated b i).map (taskRow b)).any (taskFails batch provider)) (by rw [Nat.zero_add, hout, houtput])
  refine ⟨filled, cells, ?_, hlength.trans houtput, fun hok => ⟨?_, fun c hc hcold' words hwords => ?_⟩⟩
  · rw [evaluateAll, hint]
    dsimp only
    rw [hcold]
    rfl
  · rw [failsAt, Bool.or_eq_false_iff] at hok
    have hdrop : result.drop ((0 + ((integrated b i).map (taskRow b)).length) * batch.outputWidth) = [] := by
      apply drop_of_length_le
      rw [Nat.zero_add, length_map, hout, hresult]
    rw [hfilled hok.1, hdrop, Nat.zero_mul, take_zero, nil_append, append_nil, flatMap_map]
    apply flatMap_congr
    intro name _
    exact congrFun (taskResult_same b provider hsame i name.1) (taskRow b name)
  · rw [← hout]
    exact hslices c (Nat.zero_le _) (by omega) hcold' words hwords

/-- What an execution leaves at rank `i`. -/
structure Executed (i : Fin n) (done : ChemistryBatch F) : Prop where
  step : done.ns = (b i).ns ∧ done.revision = (b i).revision ∧ done.time = (b i).time ∧ done.dt = (b i).dt
  cells : done.input = (b i).input ∧ done.hot = (b i).hot ∧ done.cursor = (b i).cursor
  received : done.recv = (integrated b i).flatMap (taskRow b)
  result : done.result = (integrated b i).flatMap (taskReply b provider)
  length : done.output.length = (b i).hot.length * (2 * (b i).ns + 10)
  hot : ∀ name ∈ tasks b i, slice done.output (name.2.1 * (2 * (b i).ns + 10)) (2 * (b i).ns + 10) =
    taskReply b provider name
  cold : ∀ c < (b i).hot.length, (b i).hot.getD c false = false → ∀ words, coldWords (b i) provider c = some words →
    slice done.output (c * (2 * (b i).ns + 10)) (2 * (b i).ns + 10) = words

omit [Field F] [LinearOrder F] [FloorRing F] hsame in
lemma hotCount_le (i : Fin n) : hotCount b i ≤ (b i).hot.length := by
  rw [hotCount, hotCells]
  calc ((range (b i).hot.length).filter _).length ≤ (range (b i).hot.length).length :=
        length_filter_le _ _
    _ = (b i).hot.length := length_range

omit [FloorRing F] in
lemma evaluation_passes (hnum : Numbered b memory) (hshares : Distributable b memory)
    (indices : Fin n → List ℕ) (send : Fin n → List F)
    (hindices : ∀ i, indices i = (slotted b i).map (fun name => name.2.1))
    (hsend : ∀ i, ∀ r < n,
      load (send i) (((scatterSlots (ns + 2) (integrator b) (tasks b) i).map (·.sendOffset)).getD r 0)
          (((scatterSlots (ns + 2) (integrator b) (tasks b) i).map (·.sendCount)).getD r 0) =
        some (((tasks b i).filter fun name => integrator b name = r).flatMap (taskRow b))) :
    ∃ done : Fin n → ChemistryBatch F,
    Network.Together (mpiJob hn)
      (fun i => ((distributedBatch b indices send i).sendTasks (scatterSlots 1 (integrator b) (tasks b) i)).andThen
        fun (batch, slots) =>
          match batch.evaluateAll provider (integrated b i).length with
          | none => .done .fault
          | some (batch, bad) => (ChemistryBatch.agree bad).andThen fun _ => batch.returnTasks slots)
      (AllAdvance b provider) (fun e => e = failure) done ∧
    (AllAdvance b provider → ∀ i, Executed b provider i (done i)) := by
  have hns := hsame.species
  have hwidth : ∀ i, (b i).inputWidth = ns + 2 ∧ (b i).outputWidth = 2 * ns + 10 := by
    intro i
    rw [inputWidth, outputWidth, hns]
    exact ⟨rfl, rfl⟩
  have hcells : ∀ i, (b i).hot.length * (2 * ns + 10) ≤ maxInt := by
    intro i
    rw [← (hwidth i).2]
    exact Nat.mul_le_of_le_div _ _ _ (hnum.cells i)
  have hsent : ∀ i, hotCount b i * (2 * ns + 10) ≤ maxInt :=
    fun i => (Nat.mul_le_mul_right _ (hotCount_le b i)).trans (hcells i)
  have hreceived : ∀ i : Fin n, (integrated b i).length * (2 * ns + 10) ≤ maxInt := by
    intro i
    rw [← (hwidth i).2]
    exact Nat.mul_le_of_le_div _ _ _ (hshares.shares i)
  have hnarrow : ∀ count, count * (2 * ns + 10) ≤ maxInt → count * (ns + 2) ≤ maxInt :=
    fun count h => (Nat.mul_le_mul_left count (by omega)).trans h
  obtain ⟨trace, htravel⟩ := sendTasks_run hn b hns (distributedBatch b indices send) hns hsend
    (fun i => by rw [← (hwidth i).1]; exact length_resizeVector _ _ _) (fun i => hnarrow _ (hsent i))
    (fun i => hnarrow _ (hreceived i))
  choose filled cells hevaluate hlength hslices using fun i => evaluateAll_run b provider hsame i (indices i) (send i)
    ((integrated b i).flatMap (taskRow b)) (distributedBatch b indices send i).result
    (distributedBatch b indices send i).returned (distributedBatch b indices send i).output rfl
    (by rw [← (hwidth i).2]; exact length_resizeVector _ _ _)
    (by rw [← (hwidth i).2]; exact length_resizeVector _ _ _)
  have hagree := chemistryAgree_together (F := F) hn (failsAt b provider)
  have hiff := allAdvance_iff hn b provider hsame
  by_cases hok : AllAdvance b provider
  · obtain ⟨trace', returned, output, hreturn, houtput⟩ := returnTasks_run hn b
      (fun i => { distributedBatch b indices send i with
        recv := (integrated b i).flatMap (taskRow b), result := filled i, output := cells i }) hns
      (length_taskReply b provider hsame) (fun i => (hslices i (hiff.mpr hok i)).1) hindices
      (fun i => by rw [← (hwidth i).2]; exact length_resizeVector _ _ _) hlength hsent hreceived
    refine ⟨fun i => { distributedBatch b indices send i with
      recv := (integrated b i).flatMap (taskRow b), result := filled i, returned := returned i, output := output i },
      htravel.andThen_together ?_, fun _ i => ?_⟩
    · simp only [distributedBatch] at hevaluate ⊢
      simp only [hevaluate]
      exact (hagree.andThen fun _ => hreturn.together).congr
        ⟨fun h => hiff.mp h.1, fun h => ⟨hiff.mpr h, trivial⟩⟩
    · obtain ⟨hcount, hhot, hcold⟩ := houtput i
      obtain ⟨hfilled, hcoldWords⟩ := hslices i (hiff.mpr hok i)
      refine ⟨⟨rfl, rfl, rfl, rfl⟩, ⟨rfl, rfl, rfl⟩, rfl, hfilled, ?_, ?_, ?_⟩
      · rw [hns]
        exact hcount
      · rw [hns]
        exact hhot
      · intro c hc hcold' words hwords
        rw [hns]
        exact (hcold c hcold').trans (hcoldWords c hc hcold' words hwords)
  · refine ⟨b, htravel.andThen_together ?_, fun h => absurd h hok⟩
    simp only [distributedBatch] at hevaluate ⊢
    simp only [hevaluate]
    exact (hagree.andThen_failed (mt hiff.mp hok)).congr ⟨False.elim, hok⟩

omit [FloorRing F] in
lemma execute_together : ∃ done : Fin n → ChemistryBatch F,
    Network.Together (mpiJob hn) (fun i => (b i).execute (jobComm hsize i) provider (memory i))
      (Numbered b memory ∧ Distributable b memory ∧ AllAdvance b provider) (fun e => e = failure) done ∧
    (Numbered b memory ∧ Distributable b memory ∧ AllAdvance b provider → ∀ i, Executed b provider i (done i)) := by
  obtain ⟨indices, send, hdistribute, hfilled⟩ := distribute_together hn hsize b memory hsame.species
  by_cases hnum : Numbered b memory
  · by_cases hshares : Distributable b memory
    · obtain ⟨done, hdone, hexecuted⟩ := evaluation_passes hn b provider memory hsame hnum hshares indices send
        (fun i => (hfilled i).1) fun i => (hfilled i).2
      exact ⟨done, (numberTasks_together hn hsize b memory).andThen fun _ => hdistribute.andThen fun _ => hdone,
        fun h => hexecuted h.2.2⟩
    · refine ⟨b, ?_, fun h => absurd h.2.1 hshares⟩
      exact ((numberTasks_together hn hsize b memory).andThen fun _ => hdistribute.andThen_failed hshares).congr
        ⟨fun h => h.2.elim, fun h => absurd h.2.1 hshares⟩
  · refine ⟨b, ?_, fun h => absurd h.1 hnum⟩
    exact ((numberTasks_together hn hsize b memory).andThen_failed hnum).congr
      ⟨False.elim, fun h => absurd h.1 hnum⟩

end HundunFlow.Proofs
