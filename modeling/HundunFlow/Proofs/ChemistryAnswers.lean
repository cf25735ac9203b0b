import HundunFlow.Proofs.ChemistryEvaluation

/-!
# The answers of a chemistry batch

After an execution the owner asks for its cells in the order in which it added them.
-/

namespace HundunFlow.Proofs

open Lib ChemistryBatch Option

section Added

variable {F : Type} [Field F] [LinearOrder F] [FloorRing F]

def cellRow (ns : ℕ) (cell : AddedCell F) : List F :=
  [cell.pressure, cell.enthalpy] ++ (List.range ns).map cell.massFractions

variable {k : ℕ}

omit [Field F] [LinearOrder F] [FloorRing F] in
@[simp] lemma length_cellRow (ns : ℕ) (cell : AddedCell F) : (cellRow ns cell).length = ns + 2 := by
  simp only [cellRow, List.length_append, List.length_cons, List.length_nil, List.length_map, List.length_range]
  omega

omit [LinearOrder F] [FloorRing F] in
lemma addAll_spec (cells : List (AddedCell F)) {b filled : ChemistryBatch F} (h : b.addAll cells = some filled) :
    filled = { b with
      input := b.input ++ cells.flatMap (cellRow b.ns)
      hot := b.hot ++ cells.map (·.hot)
      samples := b.samples ++ cells.map fun cell => cell.sample.getD noSample } := by
  induction cells generalizing b with
  | nil =>
    rw [addAll, some.injEq] at h
    simp [← h]
  | cons cell rest ih =>
    rw [addAll, add] at h
    split_ifs at h with hbudget
    rw [ih h]
    simp only [List.flatMap_cons, List.map_cons, List.append_assoc, List.cons_append, List.nil_append, cellRow]

structure Filled (ns : ℕ) (revision : GasRevision) (time dt : F) (cells : List (AddedCell F))
    (b : ChemistryBatch F) : Prop where
  step : b.ns = ns ∧ b.revision = revision ∧ b.time = time ∧ b.dt = dt ∧ b.cursor = 0
  input : b.input = (cells.map (cellRow ns)).flatten
  hot : b.hot = cells.map (·.hot)
  samples : b.samples = cells.map fun cell => cell.sample.getD noSample

omit [FloorRing F] [LinearOrder F] in
lemma filled_of_addAll {b filled : ChemistryBatch F} {ns : ℕ} {revision : GasRevision} {time dt : F}
    {cells : List (AddedCell F)} (h : (b.reset ns revision time dt).addAll cells = some filled) :
    Filled ns revision time dt cells filled := by
  have hspec := addAll_spec cells h
  subst hspec
  refine ⟨⟨rfl, rfl, rfl, rfl, rfl⟩, ?_, ?_, ?_⟩
  · rw [← List.flatMap_def]
    exact List.nil_append _
  · exact List.nil_append _
  · exact List.nil_append _

omit [LinearOrder F] [FloorRing F] in
lemma numbers_eq_slice {buffer : List F} {offset count : ℕ} (h : offset + count ≤ buffer.length) :
    numbers buffer offset count = slice buffer offset count := by
  apply List.ext_getElem?
  intro k
  rw [getElem?_slice, numbers, List.getElem?_map]
  by_cases hk : k < count
  · rw [List.getElem?_range hk, if_pos hk, map_some, List.getD_eq_getElem _ _ (by omega),
      List.getElem?_eq_getElem (by omega)]
  · rw [List.getElem?_eq_none (by simpa using hk), if_neg hk]
    rfl

variable {ns : ℕ} {revision : GasRevision} {time dt : F} {cells : List (AddedCell F)} {b : ChemistryBatch F}
  (hfilled : Filled ns revision time dt cells b)

include hfilled

omit [LinearOrder F] [FloorRing F] in
lemma inputRow_filled (hk : k < cells.length) : b.inputRow k = cellRow ns cells[k] := by
  have hrows : ∀ row ∈ cells.map (cellRow ns), row.length = ns + 2 := by
    intro row hrow
    obtain ⟨cell, -, rfl⟩ := List.mem_map.mp hrow
    exact length_cellRow ns cell
  have hlt : k < (cells.map (cellRow ns)).length := by
    rw [List.length_map]
    exact hk
  obtain ⟨hfits, -, hslice⟩ := load_fits (load_row _ hrows hlt)
  rw [inputRow, inputWidth, hfilled.step.1, hfilled.input, numbers_eq_slice hfits, hslice, List.getElem_map]

omit [LinearOrder F] [FloorRing F] in
lemma hot_filled (hk : k < cells.length) : b.hot.getD k false = cells[k].hot := by
  rw [hfilled.hot, List.getD_eq_getElem _ _ (by simpa using hk), List.getElem_map]

omit [LinearOrder F] [FloorRing F] in
lemma sample_filled (hk : k < cells.length) : b.samples.getD k noSample = cells[k].sample.getD noSample := by
  rw [hfilled.samples, List.getD_eq_getElem _ _ (by simpa using hk), List.getElem_map]

end Added

section Answers

variable {F : Type} [Field F] [LinearOrder F] [FloorRing F]

/-- The state of a cell, to be advanced by `duration`. -/
def cellQuery (ns : ℕ) (revision : GasRevision) (time : F) (provider : GasAdvanceProvider F) (cell : AddedCell F)
    (duration : F) : GasAdvanceQuery F where
  state :=
    { revision := revision, compositionFingerprint := provider.compositionFingerprint
      pressure := cell.pressure, enthalpy := cell.enthalpy, temperature := 0
      massFractions := some ((List.range ns).map cell.massFractions), speciesCount := ns }
  startTime := time
  duration := duration

/-- What the provider returns, under the revision and the composition of the batch and as the result
of the whole step. -/
def stamped (revision : GasRevision) (dt : F) (provider : GasAdvanceProvider F) (out : GasAdvanceOutput F) :
    GasAdvanceOutput F :=
  { out with
    finalSample := { out.finalSample with
      revision := revision, compositionFingerprint := provider.compositionFingerprint }
    completedDuration := dt }

def keptSample (cell : AddedCell F) (sample : GasSample F) : GasAdvanceOutput F where
  finalSample := { sample with enthalpy := cell.enthalpy }
  finalMassFractions := cell.massFractions
  integratedDelta := fun _ => 0
  completedDuration := 0
  internalStepCount := 0
  integratedHeatRelease := 0

def advanceOf (ns : ℕ) (revision : GasRevision) (time dt : F) (provider : GasAdvanceProvider F) (cell : AddedCell F) :
    Option (GasAdvanceOutput F) :=
  if cell.hot then provider.advanceGas (cellQuery ns revision time provider cell dt)
  else if 0 < (cell.sample.getD noSample).density then some (keptSample cell (cell.sample.getD noSample))
  else provider.advanceGas (cellQuery ns revision time provider cell 0)

def resultWords (ns : ℕ) (out : GasAdvanceOutput F) (duration : F) : List F :=
  (List.range ns).map out.finalMassFractions ++ (List.range ns).map out.integratedDelta ++
    tail out.finalSample out.finalSample.enthalpy (out.internalStepCount.toNat : F) out.integratedHeatRelease duration

section Words

variable {ns : ℕ} {revision : GasRevision} {time dt : F} {cells : List (AddedCell F)} {b : ChemistryBatch F}
  (hfilled : Filled ns revision time dt cells b) (provider : GasAdvanceProvider F)

variable (cell : AddedCell F)

omit [LinearOrder F] [FloorRing F] in
lemma numbers_cellRow : numbers (cellRow ns cell) 2 ns = (List.range ns).map cell.massFractions := by
  rw [numbers_eq_slice (by rw [length_cellRow, Nat.add_comm]), slice, cellRow]
  exact List.take_of_length_le (by simp)

include hfilled

omit [LinearOrder F] [FloorRing F] in
lemma evaluate_cellRow (duration : F) : b.evaluate provider (cellRow ns cell) duration =
    (provider.advanceGas (cellQuery ns revision time provider cell duration)).map fun out =>
      resultWords ns out duration := by
  have hrequest : b.request provider (cellRow ns cell) duration = cellQuery ns revision time provider cell duration := by
    rw [request, hfilled.step.1, hfilled.step.2.1, hfilled.step.2.2.1, numbers_cellRow]
    rfl
  rw [evaluate, hrequest, hfilled.step.1]
  rfl

omit [FloorRing F] in
lemma coldWords_filled {k : ℕ} (hk : k < cells.length) (hcold : cells[k].hot = false) : coldWords b provider k =
      (advanceOf ns revision time dt provider cells[k]).map fun out => resultWords ns out 0 := by
  have hadvance : advanceOf ns revision time dt provider cells[k] =
      if 0 < (cells[k].sample.getD noSample).density then some (keptSample cells[k] (cells[k].sample.getD noSample))
      else provider.advanceGas (cellQuery ns revision time provider cells[k] 0) := by
    rw [advanceOf, hcold]
    rfl
  rw [coldWords, sample_filled hfilled hk, inputRow_filled hfilled hk, hadvance]
  split_ifs with hsample
  · rw [coldRow, hfilled.step.1, numbers_cellRow, map_some]
    simp only [resultWords, keptSample, tail, List.map_const', List.length_range, UInt32.toNat_zero, Nat.cast_zero]
    rfl
  · exact evaluate_cellRow hfilled provider cells[k] 0

end Words

/-- Equal results, as far as the caller's arrays go. -/
structure SameOutput (ns : ℕ) (result out : GasAdvanceOutput F) : Prop where
  finalSample : result.finalSample = out.finalSample
  completedDuration : result.completedDuration = out.completedDuration
  internalStepCount : result.internalStepCount = out.internalStepCount
  integratedHeatRelease : result.integratedHeatRelease = out.integratedHeatRelease
  finalMassFractions : ∀ k < ns, result.finalMassFractions k = out.finalMassFractions k
  integratedDelta : ∀ k < ns, result.integratedDelta k = out.integratedDelta k

structure Asks (ns : ℕ) (revision : GasRevision) (time dt : F) (provider : GasAdvanceProvider F)
    (call : GasAdvanceQuery F × GasAdvanceArrays) (cell : AddedCell F) : Prop where
  coordinates : call.1.state.coordinates = .pressureEnthalpy
  identity : call.1.state.compositionFingerprint = provider.compositionFingerprint
  revision : call.1.state.revision = revision
  step : call.1.startTime = time ∧ call.1.duration = dt
  species : call.1.state.speciesCount = ns
  pressure : call.1.state.pressure = cell.pressure
  enthalpy : call.1.state.enthalpy = cell.enthalpy
  massFractions : ∃ y, call.1.state.massFractions = some y ∧ ∀ k < ns, y.getD k 0 = cell.massFractions k
  arrays : ns ≤ call.2.capacity ∧ call.2.hasMassFractions = true ∧ call.2.hasDelta = true

def Answers (ns : ℕ) (revision : GasRevision) (time dt : F) (provider : GasAdvanceProvider F)
    (answer : PortableStatus × Option (GasAdvanceOutput F)) (cell : AddedCell F) : Prop :=
  ∃ result out, answer = (.success, some result) ∧ advanceOf ns revision time dt provider cell = some out ∧
    SameOutput ns result (stamped revision dt provider out)

omit [FloorRing F] in
lemma answers_success {ns : ℕ} {revision : GasRevision} {time dt : F} {provider : GasAdvanceProvider F}
    {answers : List (PortableStatus × Option (GasAdvanceOutput F))} {asked : List (AddedCell F)}
    (h : List.Forall₂ (Answers ns revision time dt provider) answers asked) :
    answers.map Prod.fst = asked.map fun _ => .success := by
  induction h with
  | nil => rfl
  | cons hanswer _ ih =>
    obtain ⟨result, out, rfl, -⟩ := hanswer
    rw [List.map_cons, List.map_cons, ih]

section Owner

variable {ns : ℕ} {revision : GasRevision} {time dt : F} {cells : List (AddedCell F)} {b : ChemistryBatch F}
  (hfilled : Filled ns revision time dt cells b) (provider : GasAdvanceProvider F)

variable {done : ChemistryBatch F} {output : List F}

omit [LinearOrder F] [FloorRing F] in
lemma numbers_eq_map {buffer : List F} {f : ℕ → F} {offset count : ℕ}
    (h : ∀ k < count, buffer.getD (offset + k) 0 = f k) : numbers buffer offset count = (List.range count).map f := by
  apply List.map_congr_left
  intro k hk
  exact h k (List.mem_range.mp hk)

def HoldsCell (ns : ℕ) (revision : GasRevision) (time dt : F) (provider : GasAdvanceProvider F) (output : List F)
    (k : ℕ) (cell : AddedCell F) : Prop :=
  ∃ out duration, advanceOf ns revision time dt provider cell = some out ∧
    numbers output (k * (2 * ns + 10)) (2 * ns + 10) = resultWords ns out duration

omit [LinearOrder F] [FloorRing F] in
lemma resultWords_parts (out : GasAdvanceOutput F) (duration : F) :
    (∀ k < ns, (resultWords ns out duration).getD k 0 = out.finalMassFractions k) ∧
    (∀ k < ns, (resultWords ns out duration).getD (ns + k) 0 = out.integratedDelta k) ∧
    (resultWords ns out duration).drop (2 * ns) =
      tail out.finalSample out.finalSample.enthalpy (out.internalStepCount.toNat : F) out.integratedHeatRelease
        duration := by
  refine ⟨fun k hk => ?_, fun k hk => ?_, ?_⟩
  · rw [resultWords, List.append_assoc, List.getD_append _ _ _ _ (by simpa using hk), List.getD_eq_getElem _ _ (by simpa using hk)]
    simp
  · rw [resultWords, List.append_assoc, List.getD_append_right _ _ _ _ (by simp), List.length_map, List.length_range,
      Nat.add_sub_cancel_left, List.getD_append _ _ _ _ (by simpa using hk), List.getD_eq_getElem _ _ (by simpa using hk)]
    simp
  · rw [resultWords]
    apply List.drop_left'
    simp only [List.length_append, List.length_map, List.length_range]
    omega

include hfilled

variable [IsStrictOrderedRing F]

lemma advanceGas_answers {k : ℕ} (hk : k < cells.length)
    (hstep : done.ns = b.ns ∧ done.revision = b.revision ∧ done.time = b.time ∧ done.dt = b.dt)
    (hcells : done.input = b.input ∧ done.hot = b.hot ∧ done.cursor = k) (houtput : done.output = output)
    (hholds : HoldsCell ns revision time dt provider output k cells[k])
    {call : GasAdvanceQuery F × GasAdvanceArrays} (hcall : Asks ns revision time dt provider call cells[k]) :
    ∃ answer, done.advanceGas provider call.1 call.2 = ({ done with cursor := k + 1 }, answer) ∧
      Answers ns revision time dt provider answer cells[k] := by
  obtain ⟨out, duration, hadvance, hwords⟩ := hholds
  obtain ⟨hfrac, hdelta, htail⟩ := @resultWords_parts F _ ns out duration
  obtain ⟨hns, hrevision, htime, hdt, -⟩ := hfilled.step
  obtain ⟨y, hy, hvalues⟩ := hcall.massFractions
  have hrow : done.inputRow done.cursor = cellRow ns cells[k] := by
    rw [hcells.2.2, ← inputRow_filled hfilled hk, inputRow, inputRow, hcells.1, inputWidth, inputWidth, hstep.1]
  have hgiven : numbers y 0 ns = (List.range ns).map cells[k].massFractions := by
    apply numbers_eq_map
    intro j hj
    rw [Nat.zero_add]
    exact hvalues j hj
  have hlength : done.hot.length = cells.length := by
    rw [hcells.2.1, hfilled.hot, List.length_map]
  have hdata : numbers done.output (done.cursor * done.outputWidth) done.outputWidth = resultWords ns out duration := by
    rw [houtput, hcells.2.2, outputWidth, hstep.1, hns]
    exact hwords
  refine ⟨(.success, some (done.readResult provider (resultWords ns out duration))), ?_, _, out, rfl, hadvance, ?_⟩
  · rw [advanceGas, hy]
    simp only [hrow, hdata, hstep, hns, hrevision, htime, hdt, hgiven, numbers_cellRow, hcall.coordinates, hcall.identity,
      hcall.revision, hcall.step.1, hcall.step.2, hcall.species, hcall.pressure, hcall.enthalpy, hcall.arrays.2.1,
      hcall.arrays.2.2]
    rw [if_neg, if_neg]
    · rw [hcells.2.2]
    · simp [cellRow]
    · have := hcall.arrays.1
      simp
      omega
  · have hfields : done.ns = ns ∧ done.revision = revision ∧ done.dt = dt := by
      rw [hstep.1, hstep.2.1, hstep.2.2.2]
      exact ⟨hns, hrevision, hdt⟩
    obtain ⟨hdoneNs, hdoneRevision, hdoneDt⟩ := hfields
    refine ⟨?_, ?_, ?_, ?_, fun k hk => ?_, fun k hk => ?_⟩
    · simp only [readResult, hdoneNs, hdoneRevision, htail, tail, stamped]
      rfl
    · exact hdoneDt
    · simp only [readResult, hdoneNs, htail, tail, stamped, List.getD_cons_succ, List.getD_cons_zero, Int.floor_natCast,
        Int.toNat_natCast, UInt32.ofNat_toNat]
    · simp only [readResult, hdoneNs, htail, tail, stamped, List.getD_cons_succ, List.getD_cons_zero]
    · exact hfrac k hk
    · simp only [readResult, hdoneNs, stamped]
      exact hdelta k hk

lemma advanceAll_answers (hholds : ∀ k, ∀ hk : k < cells.length,
      HoldsCell ns revision time dt provider output k cells[k])
    {calls : List (GasAdvanceQuery F × GasAdvanceArrays)} {asked : List (AddedCell F)}
    (hcalls : List.Forall₂ (Asks ns revision time dt provider) calls asked) {k : ℕ}
    (hstep : done.ns = b.ns ∧ done.revision = b.revision ∧ done.time = b.time ∧ done.dt = b.dt)
    (hcells : done.input = b.input ∧ done.hot = b.hot ∧ done.cursor = k) (houtput : done.output = output)
    (hasked : asked <+: cells.drop k) :
    List.Forall₂ (Answers ns revision time dt provider) (done.advanceAll provider calls) asked := by
  induction hcalls generalizing done k with
  | nil => exact .nil
  | @cons call cell calls asked hcall _ ih =>
    obtain ⟨rest, hrest⟩ := hasked
    have hk : k < cells.length := by
      by_contra hge
      rw [List.drop_of_length_le (by omega)] at hrest
      exact nomatch hrest
    rw [List.drop_eq_getElem_cons hk, List.cons_append, List.cons.injEq] at hrest
    obtain ⟨rfl, hrest⟩ := hrest
    obtain ⟨answer, hadvance, hanswer⟩ := advanceGas_answers hfilled provider hk hstep hcells houtput (hholds k hk) hcall
    obtain ⟨q, out⟩ := call
    rw [advanceAll, hadvance]
    exact .cons hanswer (ih hstep ⟨hcells.1, hcells.2.1, rfl⟩ houtput ⟨rest, hrest⟩)

end Owner

end Answers

section Whole

variable {F : Type} [Field F] [LinearOrder F] [FloorRing F] {n : ℕ} {b : Fin n → ChemistryBatch F}
  (provider : GasAdvanceProvider F) {ns : ℕ} {revision : GasRevision} {time dt : F}
  {cells : Fin n → List (AddedCell F)} (hfilled : ∀ i, Filled ns revision time dt (cells i) (b i))

def Advances (ns : ℕ) (revision : GasRevision) (time dt : F) (provider : GasAdvanceProvider F)
    (cells : Fin n → List (AddedCell F)) : Prop :=
  ∀ i, ∀ cell ∈ cells i, (advanceOf ns revision time dt provider cell).isSome

/-- The hot cells of rank `j`. -/
def hotNames (cells : Fin n → List (AddedCell F)) (j : Fin n) : List (Fin n × ℕ) :=
  (hotCells ((cells j).map (·.hot))).map fun c => (j, c)

/-- Every hot cell is integrated once, by one of the ranks, and all ranks have equal shares up to one
cell. -/
structure DealtOut (ns : ℕ) (revision : GasRevision) (time dt : F) (provider : GasAdvanceProvider F)
    (cells : Fin n → List (AddedCell F)) (done : Fin n → ChemistryBatch F) (shares : Fin n → List (Fin n × ℕ)) :
    Prop where
  once : ∑ r, (shares r : Multiset (Fin n × ℕ)) = ∑ j, (hotNames cells j : Multiset (Fin n × ℕ))
  nodup : ∀ j, (hotNames cells j).Nodup
  even : ∀ r s, (shares r).length ≤ (shares s).length + 1
  received : ∀ r, (done r).recv = (shares r).flatMap fun name => ((cells name.1)[name.2]?).elim [] (cellRow ns)
  integrated : ∀ r, (done r).result = (shares r).flatMap fun name =>
    (((cells name.1)[name.2]?).bind (advanceOf ns revision time dt provider)).elim [] fun out => resultWords ns out dt

include hfilled

variable {name : TaskName n} {i : Fin n}

omit [LinearOrder F] [FloorRing F] in
lemma sameStep_filled : SameStep b ns revision time dt :=
  ⟨fun i => (hfilled i).step.1, fun i => (hfilled i).step.2.1, fun i => (hfilled i).step.2.2.1,
    fun i => (hfilled i).step.2.2.2.1⟩

omit [LinearOrder F] [FloorRing F] in
lemma length_hot (i : Fin n) : (b i).hot.length = (cells i).length := by
  rw [(hfilled i).hot, List.length_map]

omit [LinearOrder F] [FloorRing F] in
lemma task_cell (h : name ∈ tasks b i) : name.1 = i ∧
    ∃ hk : name.2.1 < (cells i).length, (cells i)[name.2.1].hot = true ∧ taskRow b name = cellRow ns (cells i)[name.2.1] := by
  obtain ⟨hlt, hhot⟩ := hot_of_mem_tasks b h
  have hrank : name.1 = i := by
    obtain ⟨item, -, rfl⟩ := List.mem_map.mp h
    rfl
  rw [length_hot hfilled] at hlt
  refine ⟨hrank, hlt, ?_, ?_⟩
  · rw [← hot_filled (hfilled i) hlt]
    exact hhot
  · rw [taskRow, hrank]
    exact inputRow_filled (hfilled i) hlt

omit [FloorRing F] in
lemma evaluate_task (h : name ∈ tasks b i) :
    ∃ hk : name.2.1 < (cells i).length, (b i).evaluate provider (taskRow b name) (b i).dt =
      (advanceOf ns revision time dt provider (cells i)[name.2.1]).map fun out => resultWords ns out dt := by
  obtain ⟨-, hk, hhot, hrow⟩ := task_cell hfilled h
  refine ⟨hk, ?_⟩
  rw [hrow, evaluate_cellRow (hfilled i), (hfilled i).step.2.2.2.1, advanceOf, if_pos hhot]

omit [FloorRing F] in
lemma allAdvance_filled : AllAdvance b provider ↔ Advances ns revision time dt provider cells := by
  constructor
  · intro h i cell hcell
    obtain ⟨k, hk, rfl⟩ := List.getElem_of_mem hcell
    cases hhot : (cells i)[k].hot with
    | true =>
      have hmem : k ∈ (tasks b i).map fun name => name.2.1 := by
        rw [tasks_cells, hotCells, List.mem_filter, List.mem_range, length_hot hfilled]
        exact ⟨hk, (hot_filled (hfilled i) hk).trans hhot⟩
      obtain ⟨name, hname, rfl⟩ := List.mem_map.mp hmem
      obtain ⟨_, hevaluate⟩ := evaluate_task provider hfilled hname
      have hfails := h.hot i name hname
      rw [taskFails, hevaluate, isNone_map] at hfails
      exact isNone_eq_false_iff.mp hfails
    | false =>
      have hfails := h.cold i k (by rw [length_hot hfilled]; exact hk)
      rw [coldFails, hot_filled (hfilled i) hk, hhot, coldWords_filled (hfilled i) provider hk hhot,
        isNone_map, Bool.not_false, Bool.true_and] at hfails
      exact isNone_eq_false_iff.mp hfails
  · intro h
    constructor
    · intro i name hname
      obtain ⟨hk, hevaluate⟩ := evaluate_task provider hfilled hname
      have hsome := h i _ (List.getElem_mem hk)
      rw [taskFails, hevaluate, isNone_map, ← not_isSome, hsome]
      rfl
    · intro i c hc
      rw [length_hot hfilled] at hc
      rw [coldFails]
      cases hhot : (cells i)[c].hot with
      | true => rw [hot_filled (hfilled i) hc, hhot]; rfl
      | false =>
        have hsome := h i _ (List.getElem_mem hc)
        rw [coldWords_filled (hfilled i) provider hc hhot, isNone_map, ← not_isSome, hsome]
        simp

omit [FloorRing F] in
lemma holdsCell_executed (hall : Advances ns revision time dt provider cells) {done : ChemistryBatch F}
    (h : Executed b provider i done) (k : ℕ) (hk : k < (cells i).length) :
    HoldsCell ns revision time dt provider done.output k (cells i)[k] := by
  have hns := (hfilled i).step.1
  have hlength := h.length
  rw [hns, length_hot hfilled] at hlength
  have hfits : k * (2 * ns + 10) + (2 * ns + 10) ≤ done.output.length := by
    rw [hlength, ← Nat.succ_mul]
    exact Nat.mul_le_mul_right _ hk
  obtain ⟨out, hout⟩ := isSome_iff_exists.mp (hall i _ (List.getElem_mem hk))
  cases hhot : (cells i)[k].hot with
  | true =>
    have hmem : k ∈ (tasks b i).map fun name => name.2.1 := by
      rw [tasks_cells, hotCells, List.mem_filter, List.mem_range, length_hot hfilled]
      exact ⟨hk, (hot_filled (hfilled i) hk).trans hhot⟩
    obtain ⟨name, hname, rfl⟩ := List.mem_map.mp hmem
    obtain ⟨_, hevaluate⟩ := evaluate_task provider hfilled hname
    have hslice := h.hot name hname
    rw [hns, taskReply, (task_cell hfilled hname).1, taskResult, hevaluate, hout] at hslice
    exact ⟨out, dt, hout, (numbers_eq_slice hfits).trans hslice⟩
  | false =>
    have hwords := coldWords_filled (hfilled i) provider hk hhot
    rw [hout, map_some] at hwords
    have hslice := h.cold k (by rw [length_hot hfilled]; exact hk) ((hot_filled (hfilled i) hk).trans hhot) _ hwords
    rw [hns] at hslice
    exact ⟨out, 0, hout, (numbers_eq_slice hfits).trans hslice⟩

omit [FloorRing F] in
lemma dealtOut_executed (hn : 0 < n) (hall : Advances ns revision time dt provider cells)
    {done : Fin n → ChemistryBatch F} (h : ∀ i, Executed b provider i (done i)) :
    DealtOut ns revision time dt provider cells done fun r =>
      (integrated b r).map fun name => (name.1, name.2.1) := by
  have hnames : ∀ j, (tasks b j).map (fun name => (name.1, name.2.1)) = hotNames cells j := by
    intro j
    rw [hotNames, ← (hfilled j).hot, ← tasks_cells, List.map_map]
    apply List.map_congr_left
    intro name hname
    rw [(task_cell hfilled hname).1]
    rfl
  have hmem : ∀ r : Fin n, ∀ name ∈ integrated b r, name ∈ tasks b name.1 := by
    intro r name hname
    obtain ⟨⟨j, hj⟩, -⟩ := mem_routed.mp hname
    rwa [(task_cell hfilled hj).1]
  refine ⟨?_, fun j => ?_, fun r s => ?_, fun r => ?_, fun r => ?_⟩
  · rw [sum_map_coe, integrated_sum b hn, ← sum_map_coe]
    simp only [hnames]
  · rw [hotNames]
    exact (List.nodup_range.filter _).map fun c c' hc => (Prod.mk.inj hc).2
  · rw [List.length_map, List.length_map]
    exact integrated_even b hn r s
  · rw [(h r).received, List.flatMap_map]
    apply List.flatMap_congr
    intro name hname
    obtain ⟨-, hk, -, hrow⟩ := task_cell hfilled (hmem r name hname)
    rw [hrow, List.getElem?_eq_getElem hk]
    rfl
  · rw [(h r).result, List.flatMap_map]
    apply List.flatMap_congr
    intro name hname
    obtain ⟨hk, hevaluate⟩ := evaluate_task provider hfilled (hmem r name hname)
    obtain ⟨out, hout⟩ := isSome_iff_exists.mp (hall name.1 _ (List.getElem_mem hk))
    rw [taskReply, taskResult, hevaluate, List.getElem?_eq_getElem hk, bind_some, hout]
    rfl

lemma chemistry_together [IsStrictOrderedRing F] (hn : 0 < n) (hsize : n < 2 ^ 31)
    (memory : Fin n → ChemistryMemory) :
    ∃ done : Fin n → ChemistryBatch F,
    Network.Together (mpiJob hn) (fun i => (b i).execute (jobComm hsize i) provider (memory i))
      (Numbered b memory ∧ Distributable b memory ∧ Advances ns revision time dt provider cells)
      (fun e => e = failure) done ∧
    (Numbered b memory ∧ Distributable b memory ∧ Advances ns revision time dt provider cells →
      (∀ i calls asked, List.Forall₂ (Asks ns revision time dt provider) calls asked → asked <+: cells i →
        List.Forall₂ (Answers ns revision time dt provider) ((done i).advanceAll provider calls) asked) ∧
      ∃ shares, DealtOut ns revision time dt provider cells done shares) := by
  obtain ⟨done, hrun, hexecuted⟩ := execute_together hn hsize b provider memory (sameStep_filled hfilled)
  rw [allAdvance_filled provider hfilled] at hrun hexecuted
  refine ⟨done, hrun, fun h => ⟨fun i calls asked hcalls hasked => ?_, _,
    dealtOut_executed provider hfilled hn h.2.2 (hexecuted h)⟩⟩
  have hdone := hexecuted h i
  have hcursor : (done i).cursor = 0 := hdone.cells.2.2.trans (hfilled i).step.2.2.2.2
  exact advanceAll_answers (hfilled i) provider (holdsCell_executed provider hfilled h.2.2 hdone) hcalls hdone.step
    ⟨hdone.cells.1, hdone.cells.2.1, hcursor⟩ rfl hasked

end Whole

/-- The ranks of an execution succeed together, exactly when everything fits and the provider
advances every cell of every rank. Then the calls for the cells, in the order in which they were
added, return the advance of each cell: a hot cell's by the step, a cold cell's composition and its
sample with the enthalpy of the cell, or its closure by no duration. Every hot cell is integrated once,
and the ranks have equal shares up to one cell. -/
theorem chemistry_batch_equals_advance {F : Type} [Field F] [LinearOrder F] [FloorRing F] [IsStrictOrderedRing F]
    {n : ℕ} (hn : 0 < n) (hsize : n < 2 ^ 31) (b added : Fin n → ChemistryBatch F) (provider : GasAdvanceProvider F)
    (memory : Fin n → ChemistryMemory) (ns : ℕ) (revision : GasRevision) (time dt : F)
    (cells : Fin n → List (AddedCell F))
    (hadded : ∀ i, ((b i).reset ns revision time dt).addAll (cells i) = some (added i)) :
    (∃ trace r, (mpiJob hn).Run (fun i => (added i).execute (jobComm hsize i) provider (memory i)) trace r) ∧
    ∀ trace r, (mpiJob hn).Run (fun i => (added i).execute (jobComm hsize i) provider (memory i)) trace r →
      ((∃ done : Fin n → ChemistryBatch F, r = fun i => .ok (done i)) ↔
        Numbered added memory ∧ Distributable added memory ∧ Advances ns revision time dt provider cells) ∧
      ((∃ done : Fin n → ChemistryBatch F, (r = fun i => .ok (done i)) ∧
          (∀ i calls asked, List.Forall₂ (Asks ns revision time dt provider) calls asked → asked <+: cells i →
            List.Forall₂ (Answers ns revision time dt provider) ((done i).advanceAll provider calls) asked) ∧
          ∃ shares, DealtOut ns revision time dt provider cells done shares) ∨
        r = fun _ => .failed failure) := by
  have : Nonempty (Fin n) := ⟨⟨0, hn⟩⟩
  obtain ⟨done, ⟨trace, r, hrun, hok, hbad⟩, hdone⟩ :=
    chemistry_together provider (fun i => filled_of_addAll (hadded i)) hn hsize memory
  refine ⟨⟨trace, r, hrun⟩, fun trace' r' hrun' => ?_⟩
  obtain ⟨-, rfl⟩ := hrun.unique hrun'
  by_cases h : Numbered added memory ∧ Distributable added memory ∧ Advances ns revision time dt provider cells
  · exact ⟨⟨fun _ => h, fun _ => ⟨done, hok h⟩⟩, .inl ⟨done, hok h, hdone h⟩⟩
  · obtain ⟨e, rfl, hr⟩ := hbad h
    refine ⟨⟨?_, fun hall => absurd hall h⟩, .inr hr⟩
    rintro ⟨done', hdone'⟩
    rw [hr] at hdone'
    exact nomatch congrFun hdone' ⟨0, hn⟩

/-- A provider that returns one temperature whatever it is asked. -/
def oneState : GasAdvanceProvider ℚ where
  compositionFingerprint := 7
  advanceGas q := some
    { finalSample := ⟨q.state.revision, 7, q.state.pressure, 300, 1, q.state.enthalpy, 1, 0, 0⟩
      finalMassFractions := fun _ => 1
      integratedDelta := fun _ => 0
      completedDuration := q.duration
      internalStepCount := 3
      integratedHeatRelease := 0 }

lemma advances_oneState {n : ℕ} (cells : Fin n → List (AddedCell ℚ)) : Advances 1 {} 0 1 oneState cells := by
  intro i cell _
  rw [advanceOf]
  split_ifs <;> rfl

def smallBatch : ChemistryBatch ℚ := { budget := 10000, time := 0, dt := 1 }

def smallAdded (cells : List (AddedCell ℚ)) : ChemistryBatch ℚ :=
  ((smallBatch.reset 1 {} 0 1).addAll cells).getD smallBatch

/-- The second of two ranks has a hot cell and a cold one, the first none. -/
def smallCells (i : Fin 2) : List (AddedCell ℚ) :=
  if i = 1 then [⟨1, 2, fun _ => 1, true, none⟩, ⟨1, 5, fun _ => 1, false, none⟩] else []

def smallCall : GasAdvanceQuery ℚ × GasAdvanceArrays :=
  (⟨⟨{}, 7, .pressureEnthalpy, 1, 2, 0, some [1], 1⟩, 0, 1⟩, ⟨1, true, true⟩)

lemma smallCall_asks {cell : AddedCell ℚ} (hpres : cell.pressure = 1) (henthalpy : cell.enthalpy = 2)
    (hfrac : cell.massFractions 0 = 1) : Asks 1 {} 0 1 oneState smallCall cell := by
  refine ⟨rfl, rfl, rfl, ⟨rfl, rfl⟩, rfl, hpres.symm, henthalpy.symm, ⟨[1], rfl, fun k hk => ?_⟩, ⟨le_rfl, rfl, rfl⟩⟩
  rw [Nat.lt_one_iff.mp hk, hfrac]
  rfl

theorem chemistry_batch_equals_advance_two :
    ∃ (trace : _) (done : Fin 2 → ChemistryBatch ℚ),
      (mpiJob (by decide : 0 < 2)).Run
        (fun i : Fin 2 => (smallAdded (smallCells i)).execute (jobComm (by decide) i) oneState {}) trace
        (fun i => .ok (done i)) ∧
      ((done 1).advanceAll oneState [smallCall]).map Prod.fst = [.success] := by
  obtain ⟨⟨trace, r, hrun⟩, h⟩ := chemistry_batch_equals_advance (by decide : 0 < 2) (by decide)
    (fun _ => smallBatch) (fun i => smallAdded (smallCells i)) oneState (fun _ => {}) 1 {} 0 1 smallCells (fun i =>
      match i with
      | 0 => rfl
      | 1 => rfl)
  have hadmitted : Numbered (fun i => smallAdded (smallCells i)) (fun _ => {}) ∧
      Distributable (fun i => smallAdded (smallCells i)) (fun _ => {}) ∧ Advances 1 {} 0 1 oneState smallCells :=
    ⟨⟨by decide, by decide, by decide, by decide⟩, ⟨by decide, by decide, by decide⟩, advances_oneState smallCells⟩
  obtain ⟨hiff, hcases⟩ := h trace r hrun
  obtain ⟨done, rfl⟩ := hiff.mpr hadmitted
  refine ⟨trace, done, hrun, ?_⟩
  cases hcases with
  | inl hdone =>
    obtain ⟨done', heq, hanswers, -⟩ := hdone
    have hsame : done 1 = done' 1 := Stage.ok.inj (congrFun heq 1)
    rw [hsame]
    exact answers_success (hanswers 1 [smallCall] _ (.cons (smallCall_asks rfl rfl rfl) .nil) ⟨_, rfl⟩)
  | inr hfailed => exact nomatch congrFun hfailed 0

def coldSample : GasSample ℚ := ⟨{}, 7, 1, 300, 1, 3, 1, 0, 0⟩

def coldCell : AddedCell ℚ := ⟨1, 2, fun _ => 1, false, some coldSample⟩

/-- The sample of a cold cell comes back with the enthalpy of the cell. -/
theorem stored_sample_not_returned :
    ∃ (trace : _) (done : Fin 1 → ChemistryBatch ℚ) (result : GasAdvanceOutput ℚ),
      (mpiJob (by decide : 0 < 1)).Run
        (fun i : Fin 1 => (smallAdded [coldCell]).execute (jobComm (by decide) i) oneState {}) trace
        (fun i => .ok (done i)) ∧
      (done 0).advanceAll oneState [smallCall] = [(.success, some result)] ∧ result.finalSample ≠ coldSample := by
  have hfilled : ∀ _ : Fin 1, Filled 1 {} 0 1 [coldCell] (smallAdded [coldCell]) := by
    intro _
    exact filled_of_addAll (show (smallBatch.reset 1 {} 0 1).addAll [coldCell] = some (smallAdded [coldCell]) from rfl)
  obtain ⟨done, ⟨trace, r, hrun, hok, -⟩, hdone⟩ :=
    chemistry_together oneState hfilled (by decide) (by decide) (fun _ => {})
  have hadmitted : Numbered (fun _ : Fin 1 => smallAdded [coldCell]) (fun _ => {}) ∧
      Distributable (fun _ : Fin 1 => smallAdded [coldCell]) (fun _ => {}) ∧
      Advances 1 {} 0 1 oneState (fun _ : Fin 1 => [coldCell]) :=
    ⟨⟨by decide, by decide, by decide, by decide⟩, ⟨by decide, by decide, by decide⟩, advances_oneState _⟩
  rw [hok hadmitted] at hrun
  have hall := (hdone hadmitted).1 0 [smallCall] [coldCell] (.cons (smallCall_asks rfl rfl rfl) .nil) ⟨[], rfl⟩
  generalize hanswers : (done 0).advanceAll oneState [smallCall] = answers at hall
  cases hall with
  | cons hanswer hrest =>
    cases hrest
    obtain ⟨result, out, rfl, hadvance, hsame⟩ := hanswer
    refine ⟨trace, done, result, hrun, hanswers, fun heq => ?_⟩
    have hout : out = keptSample coldCell coldSample := (some.inj hadvance).symm
    have henthalpy := congrArg GasSample.enthalpy hsame.finalSample
    rw [heq, hout] at henthalpy
    exact nomatch henthalpy

end HundunFlow.Proofs
