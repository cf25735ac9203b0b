import HundunFlow.StripedBatch
import Mathlib.Algebra.Order.Floor.Ring

/-!
# The chemistry batch

The cells of all ranks hand in their gas states. The hot ones are numbered through over the ranks
and dealt out in turn, the cold ones stay at home; afterwards the owner asks for its results in
the order of its cells. The gas provider is a function of the query. A subscript outside a buffer
or an integer beyond `int` is a fault.
-/

namespace HundunFlow

open Lib

structure GasRevision where
  acceptedStep : UInt64 := 0
  inputRevision : UInt64 := 0
  algorithmVersion : UInt32 := 1
  deriving DecidableEq

inductive GasStateCoordinates where
  | pressureEnthalpy | pressureTemperature
  deriving DecidableEq

/-- `none` is a null pointer. -/
structure GasQuery (F : Type) where
  revision : GasRevision
  compositionFingerprint : UInt64
  coordinates : GasStateCoordinates := .pressureEnthalpy
  pressure : F
  enthalpy : F
  temperature : F
  massFractions : Option (List F)
  speciesCount : ℕ
  deriving DecidableEq

structure GasSample (F : Type) where
  revision : GasRevision
  compositionFingerprint : UInt64
  pressure : F
  temperature : F
  density : F
  enthalpy : F
  cp : F
  viscosity : F
  conductivity : F
  deriving DecidableEq

structure GasAdvanceQuery (F : Type) where
  state : GasQuery F
  startTime : F
  duration : F
  deriving DecidableEq

/-- What an advance writes. The provider fills as many entries of the arrays as there are species. -/
structure GasAdvanceOutput (F : Type) where
  finalSample : GasSample F
  finalMassFractions : ℕ → F
  integratedDelta : ℕ → F
  completedDuration : F
  internalStepCount : UInt32
  integratedHeatRelease : F

/-- The arrays a caller of `advance_gas` provides. -/
structure GasAdvanceArrays where
  capacity : ℕ
  hasMassFractions : Bool
  hasDelta : Bool

inductive PortableStatus where
  | success | invalidInput | identityMismatch | staleRevision | capacityExceeded | providerFailure
  | unavailable | conservationFailure
  deriving DecidableEq

/-- `none` is a failure of any kind. -/
structure GasAdvanceProvider (F : Type) where
  compositionFingerprint : UInt64
  advanceGas : GasAdvanceQuery F → Option (GasAdvanceOutput F)

structure ChemistryBatch (F : Type) where
  budget : ℕ
  ns : ℕ := 0
  cursor : ℕ := 0
  revision : GasRevision := {}
  time : F
  dt : F
  samples : List (GasSample F) := []
  input : List F := []
  output : List F := []
  hot : List Bool := []
  indices : List ℕ := []
  send : List F := []
  recv : List F := []
  result : List F := []
  returned : List F := []

/-- Which allocations of a call succeed. -/
structure ChemistryMemory where
  counts : Bool := true
  send : Bool := true
  receive : Bool := true

namespace ChemistryBatch

/-- `sizeof(double)`. -/
def doubleBytes : ℕ := 8

/-- `sizeof(GasSample)`. -/
def sampleBytes : ℕ := 88

def failure : Status := ⟨.numericalFailure, 10242⟩

def hotCells (hot : List Bool) : List ℕ := (List.range hot.length).filter fun i => hot.getD i false

/-- The loop over the receive counts: the offsets, the number of tasks, and whether it broke off. -/
def offsetsLoop : List ℕ → ℕ → List ℕ × ℕ × Bool
  | [], number => ([], number, false)
  | received :: rest, number =>
    if maxInt - number < received then ([number], number, true)
    else
      match offsetsLoop rest (number + received) with
      | (offsets, total, bad) => (number :: offsets, total, bad)

/-- `scale(width)`. -/
def scaleSlot (width : ℕ) (slot : Slot) : Option Slot :=
  match asInt (slot.sendCount * width), asInt (slot.receiveCount * width), asInt (slot.sendOffset * width),
      asInt (slot.receiveOffset * width) with
  | some sendCount, some receiveCount, some sendOffset, some receiveOffset =>
    some ⟨sendOffset, receiveOffset, sendCount, receiveCount⟩
  | _, _, _, _ => none

def unscaleSlot (width : ℕ) (slot : Slot) : Slot :=
  ⟨slot.sendOffset / width, slot.receiveOffset / width, slot.sendCount / width, slot.receiveCount / width⟩

def taskSlots (counts displacements received offsets : List ℕ) : List Slot :=
  (List.range counts.length).map fun r =>
    ⟨displacements.getD r 0, offsets.getD r 0, counts.getD r 0, received.getD r 0⟩

/-- The loop that gives every hot cell a slot: `items` are the cells with their task numbers. -/
def fillTasks {F : Type} (iw : ℕ) (target : ℕ × ℕ → ℕ) (row : ℕ → List F) :
    List (ℕ × ℕ) → List ℕ → List ℕ → List F → Option (List ℕ × List F)
  | [], _, indices, send => some (indices, send)
  | item :: rest, position, indices, send =>
    match position[target item]? with
    | none => none
    | some slot =>
      match store indices slot [item.1], store send (slot * iw) (row item.1) with
      | some indices, some send =>
        fillTasks iw target row rest (position.set (target item) (slot + 1)) indices send
      | _, _ => none

variable {F : Type} [Field F] [LinearOrder F] [FloorRing F]

/-- `portable::GasSample{}`. -/
def noSample : GasSample F := ⟨{}, 0, 0, 0, 0, 0, 0, 0, 0⟩

def reset (b : ChemistryBatch F) (species : ℕ) (revision : GasRevision) (time dt : F) : ChemistryBatch F :=
  { b with
    ns := species, revision := revision, time := time, dt := dt, cursor := 0
    input := [], hot := [], output := [], samples := [] }

/-- `none` when the budget is exceeded, which throws. -/
def add (b : ChemistryBatch F) (p h : F) (y : ℕ → F) (hot : Bool) (sample : Option (GasSample F)) :
    Option (ChemistryBatch F) :=
  if b.budget / 4 < (b.hot.length + 1) * (b.ns + 2) * doubleBytes then none
  else
    some { b with
      input := b.input ++ [p, h] ++ (List.range b.ns).map y
      hot := b.hot ++ [hot]
      samples := b.samples ++ [sample.getD noSample] }

/-- The numbers of a cell in `input` and in `output`. -/
def inputWidth (b : ChemistryBatch F) : ℕ := b.ns + 2

def outputWidth (b : ChemistryBatch F) : ℕ := 2 * b.ns + 10

/-- The `count` numbers of `buffer` from `offset` on, which are there. -/
def numbers (buffer : List F) (offset count : ℕ) : List F :=
  (List.range count).map fun k => buffer.getD (offset + k) 0

/-- Row `i` of the input. -/
def inputRow (b : ChemistryBatch F) (i : ℕ) : List F := numbers b.input (i * b.inputWidth) b.inputWidth

def agree (bad : Bool) : JobProg F Unit (Stage Status Unit) :=
  (Job.allreduce .max bad.toNat).bind fun
  | none => .done (.failed failure)
  | some all => if all ≠ 0 then .done (.failed failure) else .done (.ok ())

def request (b : ChemistryBatch F) (provider : GasAdvanceProvider F) (row : List F) (duration : F) :
    GasAdvanceQuery F where
  state :=
    { revision := b.revision, compositionFingerprint := provider.compositionFingerprint
      pressure := row.getD 0 0, enthalpy := row.getD 1 0, temperature := 0
      massFractions := some (numbers row 2 b.ns), speciesCount := b.ns }
  startTime := b.time
  duration := duration

/-- The ten numbers behind the species. -/
def tail (sample : GasSample F) (enthalpy steps heatRelease duration : F) : List F :=
  [sample.pressure, sample.temperature, sample.density, enthalpy, sample.cp, sample.viscosity, sample.conductivity,
    steps, heatRelease, duration]

/-- What `evaluate` writes for a row, when the provider succeeds. -/
def evaluate (b : ChemistryBatch F) (provider : GasAdvanceProvider F) (row : List F) (duration : F) :
    Option (List F) :=
  (provider.advanceGas (b.request provider row duration)).map fun out =>
    (List.range b.ns).map out.finalMassFractions ++ (List.range b.ns).map out.integratedDelta ++
      tail out.finalSample out.finalSample.enthalpy (out.internalStepCount.toNat : F) out.integratedHeatRelease duration

/-- The integration of the tasks that have arrived: the results, and whether any has failed. The
results of a failed task are not looked at. -/
def integrate (b : ChemistryBatch F) (provider : GasAdvanceProvider F) :
    ℕ → ℕ → List F → Bool → Option (List F × Bool)
  | _, 0, result, bad => some (result, bad)
  | i, count + 1, result, bad =>
    match load b.recv (i * b.inputWidth) b.inputWidth with
    | none => none
    | some row =>
      match b.evaluate provider row b.dt with
      | none => integrate b provider (i + 1) count result true
      | some words =>
        match store result (i * b.outputWidth) words with
        | none => none
        | some result => integrate b provider (i + 1) count result bad

def coldRow (b : ChemistryBatch F) (row : List F) (sample : GasSample F) : List F :=
  numbers row 2 b.ns ++ List.replicate b.ns 0 ++ tail sample (row.getD 1 0) 0 0 0

/-- The loop over the cold cells, from cell `i` on. -/
def fillCold (b : ChemistryBatch F) (provider : GasAdvanceProvider F) :
    ℕ → ℕ → List F → Bool → Option (List F × Bool)
  | _, 0, output, bad => some (output, bad)
  | i, count + 1, output, bad =>
    if b.hot.getD i false then fillCold b provider (i + 1) count output bad
    else
      let sample := b.samples.getD i noSample
      let words := if 0 < sample.density then some (b.coldRow (b.inputRow i) sample)
        else b.evaluate provider (b.inputRow i) 0
      match words with
      | none => fillCold b provider (i + 1) count output true
      | some words =>
        match store output (i * b.outputWidth) words with
        | none => none
        | some output => fillCold b provider (i + 1) count output bad

/-- The bytes that are held before the receive buffers. -/
def ownBytes (b : ChemistryBatch F) (selected : ℕ) : ℕ :=
  (b.input.length + b.hot.length * b.outputWidth + selected * (b.inputWidth + b.outputWidth)) * doubleBytes +
    b.samples.length * sampleBytes

def allBytes (b : ChemistryBatch F) (selected number : ℕ) : ℕ :=
  (b.input.length + b.output.length + b.send.length + selected * b.outputWidth +
    number * (b.inputWidth + b.outputWidth)) * doubleBytes + b.samples.length * sampleBytes

/-- The numbering of the hot cells over the ranks: how many there are before this rank. -/
def numberTasks (b : ChemistryBatch F) (comm : RankComm) (memory : ChemistryMemory) :
    JobProg F Unit (Stage Status ℕ) :=
  let selected := (hotCells b.hot).length
  let bad := decide (maxInt < b.input.length) || decide (maxInt / b.outputWidth < b.hot.length) ||
    decide (b.budget < b.ownBytes selected) || !memory.counts
  (agree bad).andThen fun _ =>
  (Job.allgather selected).bind fun
  | none => .done (.failed failure)
  | some totals => .done (.ok (sumBefore totals comm.rank))

/-- `(prefix + task) % size`. -/
def target (comm : RankComm) (before : ℕ) (item : ℕ × ℕ) : ℕ := (before + item.2) % comm.size

def distribute (b : ChemistryBatch F) (comm : RankComm) (before : ℕ) (memory : ChemistryMemory) :
    JobProg F Unit (Stage Status (ChemistryBatch F × List Slot × ℕ)) :=
  let items := (hotCells b.hot).zipIdx
  let selected := items.length
  match tally comm.size (target comm before) items with
  | none => .done .fault
  | some counts =>
    let displacements := (List.range counts.length).map (sumBefore counts)
    match fillTasks b.inputWidth (target comm before) b.inputRow items displacements
        (resizeVector b.indices selected 0) (resizeVector b.send (selected * b.inputWidth) 0) with
    | none => .done .fault
    | some (indices, send) =>
      let b := { b with
        indices := indices, send := send, output := resizeVector b.output (b.hot.length * b.outputWidth) 0 }
      (agree (!memory.send)).andThen fun _ =>
      (Job.alltoall counts).bind fun
      | none => .done (.failed failure)
      | some received =>
        match offsetsLoop received 0 with
        | (offsets, number, broken) =>
          let bad := broken || decide (maxInt / b.outputWidth < number) ||
            decide (b.budget < b.allBytes selected number) || !memory.receive
          (agree bad).andThen fun _ =>
          .done (.ok ({ b with
            recv := resizeVector b.recv (number * b.inputWidth) 0
            result := resizeVector b.result (number * b.outputWidth) 0
            returned := resizeVector b.returned (selected * b.outputWidth) 0 },
            taskSlots counts displacements received offsets, number))

/-- The tasks travel to the ranks that integrate them. -/
def sendTasks (b : ChemistryBatch F) (slots : List Slot) :
    JobProg F Unit (Stage Status (ChemistryBatch F × List Slot)) :=
  match slots.mapM (scaleSlot b.inputWidth) with
  | none => .done .fault
  | some slots =>
    (Job.alltoallv
      ⟨b.send, slots.map (·.sendCount), slots.map (·.sendOffset), b.recv, slots.map (·.receiveCount),
        slots.map (·.receiveOffset)⟩).bind fun
    | none => .done (.failed failure)
    | some recv => .done (.ok ({ b with recv := recv }, slots.map (unscaleSlot b.inputWidth)))

/-- The results of the hot cells, copied to their owners' cells: task `i` belongs to `indices[i]`. -/
def copyResults (ow : ℕ) (returned : List F) : ℕ → List ℕ → List F → Option (List F)
  | _, [], output => some output
  | i, cell :: rest, output =>
    match load returned (i * ow) ow with
    | none => none
    | some words =>
      match store output (cell * ow) words with
      | none => none
      | some output => copyResults ow returned (i + 1) rest output

def returnTasks (b : ChemistryBatch F) (slots : List Slot) : JobProg F Unit (Stage Status (ChemistryBatch F)) :=
  match slots.mapM (scaleSlot b.outputWidth) with
  | none => .done .fault
  | some slots =>
    (Job.alltoallv
      ⟨b.result, slots.map (·.receiveCount), slots.map (·.receiveOffset), b.returned, slots.map (·.sendCount),
        slots.map (·.sendOffset)⟩).bind fun
    | none => .done (.failed failure)
    | some returned =>
      match copyResults b.outputWidth returned 0 b.indices b.output with
      | none => .done .fault
      | some output => .done (.ok { b with returned := returned, output := output })

/-- The tasks of other ranks and the cold cells of this one. -/
def evaluateAll (b : ChemistryBatch F) (provider : GasAdvanceProvider F) (number : ℕ) :
    Option (ChemistryBatch F × Bool) :=
  match integrate b provider 0 number b.result false with
  | none => none
  | some (result, bad) =>
    match fillCold b provider 0 b.hot.length b.output bad with
    | none => none
    | some (output, bad) => some ({ b with result := result, output := output }, bad)

def execute (b : ChemistryBatch F) (comm : RankComm) (provider : GasAdvanceProvider F) (memory : ChemistryMemory) :
    JobProg F Unit (Stage Status (ChemistryBatch F)) :=
  (numberTasks b comm memory).andThen fun before =>
  (distribute b comm before memory).andThen fun (b, slots, number) =>
  (sendTasks b slots).andThen fun (b, slots) =>
  match evaluateAll b provider number with
  | none => .done .fault
  | some (b, bad) => (agree bad).andThen fun _ => returnTasks b slots

def readResult (b : ChemistryBatch F) (provider : GasAdvanceProvider F) (data : List F) : GasAdvanceOutput F :=
  let tail := data.drop (2 * b.ns)
  { finalMassFractions := fun k => data.getD k 0
    integratedDelta := fun k => data.getD (b.ns + k) 0
    finalSample := ⟨b.revision, provider.compositionFingerprint, tail.getD 0 0, tail.getD 1 0, tail.getD 2 0,
      tail.getD 3 0, tail.getD 4 0, tail.getD 5 0, tail.getD 6 0⟩
    internalStepCount := UInt32.ofNat ⌊tail.getD 7 0⌋.toNat
    integratedHeatRelease := tail.getD 8 0
    completedDuration := b.dt }

/-- A call after an execution: the row at the cursor is in the buffer. -/
def advanceGas (b : ChemistryBatch F) (provider : GasAdvanceProvider F) (q : GasAdvanceQuery F)
    (out : GasAdvanceArrays) : ChemistryBatch F × PortableStatus × Option (GasAdvanceOutput F) :=
  match q.state.massFractions with
  | none => (b, .invalidInput, none)
  | some massFractions =>
    if q.state.coordinates ≠ .pressureEnthalpy ∨ q.state.compositionFingerprint ≠ provider.compositionFingerprint ∨
        b.hot.length ≤ b.cursor ∨ q.state.revision ≠ b.revision ∨ q.startTime ≠ b.time ∨ q.duration ≠ b.dt ∨
        q.state.speciesCount ≠ b.ns ∨ out.capacity < b.ns ∨ out.hasMassFractions = false ∨ out.hasDelta = false then
      (b, .invalidInput, none)
    else
      let input := b.inputRow b.cursor
      if q.state.pressure ≠ input.getD 0 0 ∨ q.state.enthalpy ≠ input.getD 1 0 ∨
          numbers input 2 b.ns ≠ numbers massFractions 0 b.ns then (b, .staleRevision, none)
      else
        let data := numbers b.output (b.cursor * b.outputWidth) b.outputWidth
        ({ b with cursor := b.cursor + 1 }, .success, some (b.readResult provider data))

/-- A call of `add`. -/
structure AddedCell (F : Type) where
  pressure : F
  enthalpy : F
  massFractions : ℕ → F
  hot : Bool
  sample : Option (GasSample F)

def addAll (b : ChemistryBatch F) : List (AddedCell F) → Option (ChemistryBatch F)
  | [] => some b
  | cell :: rest =>
    match b.add cell.pressure cell.enthalpy cell.massFractions cell.hot cell.sample with
    | none => none
    | some b => addAll b rest

/-- The answers to calls of `advance_gas`, one after the other. -/
def advanceAll (b : ChemistryBatch F) (provider : GasAdvanceProvider F) :
    List (GasAdvanceQuery F × GasAdvanceArrays) → List (PortableStatus × Option (GasAdvanceOutput F))
  | [] => []
  | (q, out) :: rest =>
    match b.advanceGas provider q out with
    | (b, status, result) => (status, result) :: advanceAll b provider rest

end ChemistryBatch

end HundunFlow
