import HundunFlow.SprayParcel

/-!
# The parcel container

A `ParcelContainer` keeps its parcels in seventeen parallel arrays, sorted by identity, once
as committed and once as trial. The staging operations shift the arrays of the trial entry
by entry. An index outside an array is never used; reading one gives a default here.
-/

namespace HundunFlow

structure ParcelSoASnapshot (F : Type) where
  idHigh : List UInt64 := []
  idLow : List UInt64 := []
  positionX : List F := []
  positionY : List F := []
  positionZ : List F := []
  velocityX : List F := []
  velocityY : List F := []
  velocityZ : List F := []
  dropletMass : List F := []
  dropletDiameter : List F := []
  multiplicity : List F := []
  temperature : List F := []
  liquidMaterialFingerprint : List UInt64 := []
  ownerGlobalCell : List UInt64 := []
  age : List F := []
  tabDeformation : List F := []
  tabDeformationRate : List F := []
  deriving DecidableEq

/-- `std::vector::resize`. -/
def resizeVector {α : Type} (l : List α) (count : ℕ) (value : α) : List α :=
  l.take count ++ List.replicate (count - l.length) value

namespace ParcelSoASnapshot

variable {F : Type}

def size (arrays : ParcelSoASnapshot F) : ℕ := arrays.idHigh.length

def sizes (arrays : ParcelSoASnapshot F) : List ℕ :=
  [arrays.idHigh.length, arrays.idLow.length, arrays.positionX.length, arrays.positionY.length,
    arrays.positionZ.length, arrays.velocityX.length, arrays.velocityY.length,
    arrays.velocityZ.length, arrays.dropletMass.length, arrays.dropletDiameter.length,
    arrays.multiplicity.length, arrays.temperature.length,
    arrays.liquidMaterialFingerprint.length, arrays.ownerGlobalCell.length, arrays.age.length,
    arrays.tabDeformation.length, arrays.tabDeformationRate.length]

def consistent (arrays : ParcelSoASnapshot F) : Bool := arrays.sizes.all fun count => count = arrays.size

def idAt (arrays : ParcelSoASnapshot F) (index : ℕ) : ParcelId :=
  ⟨arrays.idHigh.getD index 0, arrays.idLow.getD index 0⟩

def writeParcel (arrays : ParcelSoASnapshot F) (index : ℕ) (parcel : SprayParcelState F) :
    ParcelSoASnapshot F :=
  { arrays with
    idHigh := arrays.idHigh.set index parcel.id.high
    idLow := arrays.idLow.set index parcel.id.low
    positionX := arrays.positionX.set index parcel.position.x
    positionY := arrays.positionY.set index parcel.position.y
    positionZ := arrays.positionZ.set index parcel.position.z
    velocityX := arrays.velocityX.set index parcel.velocity.x
    velocityY := arrays.velocityY.set index parcel.velocity.y
    velocityZ := arrays.velocityZ.set index parcel.velocity.z
    dropletMass := arrays.dropletMass.set index parcel.dropletMass
    dropletDiameter := arrays.dropletDiameter.set index parcel.dropletDiameter
    multiplicity := arrays.multiplicity.set index parcel.multiplicity
    temperature := arrays.temperature.set index parcel.temperature
    liquidMaterialFingerprint :=
      arrays.liquidMaterialFingerprint.set index parcel.liquidMaterialFingerprint
    ownerGlobalCell := arrays.ownerGlobalCell.set index parcel.ownerGlobalCell
    age := arrays.age.set index parcel.age }

def writeTabState (arrays : ParcelSoASnapshot F) (index : ℕ) (deformation deformationRate : F) :
    ParcelSoASnapshot F :=
  { arrays with
    tabDeformation := arrays.tabDeformation.set index deformation
    tabDeformationRate := arrays.tabDeformationRate.set index deformationRate }

/-- The loop of `lower_bound_index`, which halves `count`. -/
def lowerBoundLoop (arrays : ParcelSoASnapshot F) (id : ParcelId) : ℕ → ℕ → ℕ → ℕ
  | 0, first, _ => first
  | fuel + 1, first, count =>
    if count = 0 then first
    else
      let step := count / 2
      let middle := first + step
      if (arrays.idAt middle).less id then lowerBoundLoop arrays id fuel (middle + 1) (count - (step + 1))
      else lowerBoundLoop arrays id fuel first step

def lowerBoundIndex (arrays : ParcelSoASnapshot F) (id : ParcelId) : ℕ :=
  lowerBoundLoop arrays id arrays.size 0 arrays.size

/-- `index != size && id_at(index) == id` at the lower bound. -/
def holds (arrays : ParcelSoASnapshot F) (id : ParcelId) : Bool :=
  arrays.lowerBoundIndex id ≠ arrays.size && arrays.idAt (arrays.lowerBoundIndex id) = id

variable [SprayReal F]

def parcelAt (arrays : ParcelSoASnapshot F) (index : ℕ) : SprayParcelState F where
  id := arrays.idAt index
  position := ⟨arrays.positionX.getD index SprayReal.zero, arrays.positionY.getD index SprayReal.zero,
    arrays.positionZ.getD index SprayReal.zero⟩
  velocity := ⟨arrays.velocityX.getD index SprayReal.zero, arrays.velocityY.getD index SprayReal.zero,
    arrays.velocityZ.getD index SprayReal.zero⟩
  dropletMass := arrays.dropletMass.getD index SprayReal.zero
  dropletDiameter := arrays.dropletDiameter.getD index SprayReal.zero
  multiplicity := arrays.multiplicity.getD index SprayReal.zero
  temperature := arrays.temperature.getD index SprayReal.zero
  liquidMaterialFingerprint := arrays.liquidMaterialFingerprint.getD index 0
  ownerGlobalCell := arrays.ownerGlobalCell.getD index 0
  age := arrays.age.getD index SprayReal.zero

def copyEntry (arrays : ParcelSoASnapshot F) (destination source : ℕ) : ParcelSoASnapshot F :=
  let moved := arrays.writeParcel destination (arrays.parcelAt source)
  moved.writeTabState destination (moved.tabDeformation.getD source SprayReal.zero)
    (moved.tabDeformationRate.getD source SprayReal.zero)

def resizeArrays (arrays : ParcelSoASnapshot F) (count : ℕ) : ParcelSoASnapshot F where
  idHigh := resizeVector arrays.idHigh count 0
  idLow := resizeVector arrays.idLow count 0
  positionX := resizeVector arrays.positionX count SprayReal.zero
  positionY := resizeVector arrays.positionY count SprayReal.zero
  positionZ := resizeVector arrays.positionZ count SprayReal.zero
  velocityX := resizeVector arrays.velocityX count SprayReal.zero
  velocityY := resizeVector arrays.velocityY count SprayReal.zero
  velocityZ := resizeVector arrays.velocityZ count SprayReal.zero
  dropletMass := resizeVector arrays.dropletMass count SprayReal.zero
  dropletDiameter := resizeVector arrays.dropletDiameter count SprayReal.zero
  multiplicity := resizeVector arrays.multiplicity count SprayReal.zero
  temperature := resizeVector arrays.temperature count SprayReal.zero
  liquidMaterialFingerprint := resizeVector arrays.liquidMaterialFingerprint count 0
  ownerGlobalCell := resizeVector arrays.ownerGlobalCell count 0
  age := resizeVector arrays.age count SprayReal.zero
  tabDeformation := resizeVector arrays.tabDeformation count SprayReal.zero
  tabDeformationRate := resizeVector arrays.tabDeformationRate count SprayReal.zero

/-- `for (index = ...; index > insertion; --index) copy_entry(index, index - 1)`. -/
def shiftUp (insertion : ℕ) (arrays : ParcelSoASnapshot F) : ℕ → ParcelSoASnapshot F
  | 0 => arrays
  | index + 1 =>
    if insertion < index + 1 then shiftUp insertion (arrays.copyEntry (index + 1) index) index else arrays

/-- `for (index = first; index < first + count; ++index) copy_entry(index - 1, index)`. -/
def shiftDown (arrays : ParcelSoASnapshot F) (first : ℕ) : ℕ → ParcelSoASnapshot F
  | 0 => arrays
  | count + 1 => shiftDown (arrays.copyEntry (first - 1) first) (first + 1) count

/-- The loop of `valid_ordered_snapshot` from `index` on. -/
def validEntries (snapshot : ParcelSoASnapshot F) (index : ℕ) : ℕ → Bool
  | 0 => true
  | count + 1 =>
    validateParcelState (snapshot.parcelAt index) &&
      SprayReal.isFinite (snapshot.tabDeformation.getD index SprayReal.zero) &&
      SprayReal.isFinite (snapshot.tabDeformationRate.getD index SprayReal.zero) &&
      (index = 0 || (snapshot.idAt (index - 1)).less (snapshot.idAt index)) &&
      validEntries snapshot (index + 1) count

def validOrderedSnapshot (snapshot : ParcelSoASnapshot F) : Bool :=
  snapshot.consistent && snapshot.validEntries 0 snapshot.size

end ParcelSoASnapshot

/-- The two capacities are the least `capacity()` among the arrays of either snapshot. -/
structure ParcelContainer (F : Type) where
  committed : ParcelSoASnapshot F := {}
  trial : ParcelSoASnapshot F := {}
  committedCapacity : ℕ := 0
  trialCapacity : ℕ := 0
  capacityLimit : ℕ := 0
  trialActive : Bool := false
  trialFailure : Status := {}
  deriving DecidableEq

namespace ParcelContainer

variable {F : Type}

/-- `reserve`, with the capacities the allocator adds; a failing reservation may have grown
some of the arrays. -/
def reserve (c : ParcelContainer F) (maximumParcels : ℕ) (memory : Bool)
    (committedExtra trialExtra : ℕ) : ParcelContainer F × Status :=
  if c.trialActive then (c, parcelFailure .rejectedStep .trialAlreadyActive)
  else if maximumParcels < c.committed.size then (c, parcelFailure .invalidPlan .capacityExceeded)
  else
    let grown := { c with
      committedCapacity := c.committedCapacity + committedExtra
      trialCapacity := c.trialCapacity + trialExtra }
    if !memory then (grown, parcelFailure .allocationFailure .capacityExceeded)
    else
      ({ grown with
          committedCapacity := max grown.committedCapacity maximumParcels
          trialCapacity := max grown.trialCapacity maximumParcels
          capacityLimit := maximumParcels }, {})

def beginTrial (c : ParcelContainer F) : ParcelContainer F × Status :=
  if c.trialActive then (c, parcelFailure .rejectedStep .trialAlreadyActive)
  else if c.trialCapacity < c.committed.size then (c, parcelFailure .invalidPlan .capacityExceeded)
  else ({ c with trial := c.committed, trialFailure := {}, trialActive := true }, {})

def latch (c : ParcelContainer F) (failureStatus : Status) : ParcelContainer F × Status :=
  let c := if c.trialFailure.isOk then { c with trialFailure := failureStatus } else c
  (c, c.trialFailure)

variable [SprayReal F]

def stageAdd (c : ParcelContainer F) (parcel : SprayParcelState F) : ParcelContainer F × Status :=
  if !c.trialActive then (c, parcelFailure .rejectedStep .trialNotActive)
  else if !c.trialFailure.isOk then (c, c.trialFailure)
  else if !validateParcelState parcel then c.latch (parcelFailure .invalidCase .invalidParcel)
  else
    let insertion := c.trial.lowerBoundIndex parcel.id
    if c.trial.holds parcel.id then c.latch (parcelFailure .invalidCase .duplicateId)
    else if c.capacityLimit ≤ c.trial.size || c.trialCapacity < c.trial.size + 1 then
      c.latch (parcelFailure .invalidPlan .capacityExceeded)
    else
      let oldSize := c.trial.size
      let shifted := (c.trial.resizeArrays (oldSize + 1)).shiftUp insertion oldSize
      ({ c with trial := (shifted.writeParcel insertion parcel).writeTabState insertion
                  SprayReal.zero SprayReal.zero }, {})

def stageUpdate (c : ParcelContainer F) (parcel : SprayParcelState F) : ParcelContainer F × Status :=
  if !c.trialActive then (c, parcelFailure .rejectedStep .trialNotActive)
  else if !c.trialFailure.isOk then (c, c.trialFailure)
  else if !validateParcelState parcel then c.latch (parcelFailure .invalidCase .invalidParcel)
  else if !c.trial.holds parcel.id then c.latch (parcelFailure .invalidCase .parcelNotFound)
  else ({ c with trial := c.trial.writeParcel (c.trial.lowerBoundIndex parcel.id) parcel }, {})

def stageTabState (c : ParcelContainer F) (id : ParcelId) (deformation deformationRate : F) :
    ParcelContainer F × Status :=
  if !c.trialActive then (c, parcelFailure .rejectedStep .trialNotActive)
  else if !c.trialFailure.isOk then (c, c.trialFailure)
  else if !validId id || !SprayReal.isFinite deformation || !SprayReal.isFinite deformationRate then
    c.latch (parcelFailure .invalidCase .invalidTabState)
  else if !c.trial.holds id then c.latch (parcelFailure .invalidCase .parcelNotFound)
  else
    ({ c with trial :=
        c.trial.writeTabState (c.trial.lowerBoundIndex id) deformation deformationRate }, {})

def stageRemove (c : ParcelContainer F) (id : ParcelId) : ParcelContainer F × Status :=
  if !c.trialActive then (c, parcelFailure .rejectedStep .trialNotActive)
  else if !c.trialFailure.isOk then (c, c.trialFailure)
  else if !validId id then c.latch (parcelFailure .invalidCase .invalidParcel)
  else if !c.trial.holds id then c.latch (parcelFailure .invalidCase .parcelNotFound)
  else
    let removal := c.trial.lowerBoundIndex id
    let shifted := c.trial.shiftDown (removal + 1) (c.trial.size - (removal + 1))
    ({ c with trial := shifted.resizeArrays (c.trial.size - 1) }, {})

def preflightCommit (c : ParcelContainer F) : Status :=
  if !c.trialActive then parcelFailure .rejectedStep .trialNotActive else c.trialFailure

def discardTrial (c : ParcelContainer F) : ParcelContainer F :=
  { c with trial := c.trial.resizeArrays 0, trialActive := false, trialFailure := {} }

/-- The swap exchanges the arrays with their capacities. -/
def publishPreflightedTrial (c : ParcelContainer F) : ParcelContainer F :=
  { c with
    committed := c.trial
    trial := c.committed
    committedCapacity := c.trialCapacity
    trialCapacity := c.committedCapacity }.discardTrial

def commitTrial (c : ParcelContainer F) : ParcelContainer F × Status :=
  let ready := c.preflightCommit
  if !ready.isOk then (if c.trialActive then c.discardTrial else c, ready)
  else (c.publishPreflightedTrial, {})

def rollbackTrial (c : ParcelContainer F) : ParcelContainer F × Status :=
  if !c.trialActive then (c, parcelFailure .rejectedStep .trialNotActive) else (c.discardTrial, {})

def restoreCommitted (c : ParcelContainer F) (snapshot : ParcelSoASnapshot F) :
    ParcelContainer F × Status :=
  if c.trialActive then (c, parcelFailure .rejectedStep .trialAlreadyActive)
  else if !snapshot.validOrderedSnapshot then (c, parcelFailure .invalidCase .invalidSnapshot)
  else if c.capacityLimit < snapshot.size || c.committedCapacity < snapshot.size then
    (c, parcelFailure .invalidPlan .capacityExceeded)
  else
    ({ c with committed := snapshot, trial := c.trial.resizeArrays 0, trialFailure := {} }, {})

end ParcelContainer

inductive ParcelOp (F : Type) where
  | reserve (maximumParcels : ℕ) (memory : Bool) (committedExtra trialExtra : ℕ)
  | beginTrial
  | stageAdd (parcel : SprayParcelState F)
  | stageUpdate (parcel : SprayParcelState F)
  | stageTabState (id : ParcelId) (deformation deformationRate : F)
  | stageRemove (id : ParcelId)
  | commitTrial
  | rollbackTrial
  | restoreCommitted (snapshot : ParcelSoASnapshot F)

def ParcelOp.run {F : Type} [SprayReal F] (c : ParcelContainer F) :
    ParcelOp F → ParcelContainer F × Status
  | .reserve maximumParcels memory committedExtra trialExtra =>
    c.reserve maximumParcels memory committedExtra trialExtra
  | .beginTrial => c.beginTrial
  | .stageAdd parcel => c.stageAdd parcel
  | .stageUpdate parcel => c.stageUpdate parcel
  | .stageTabState id deformation deformationRate => c.stageTabState id deformation deformationRate
  | .stageRemove id => c.stageRemove id
  | .commitTrial => c.commitTrial
  | .rollbackTrial => c.rollbackTrial
  | .restoreCommitted snapshot => c.restoreCommitted snapshot

/-- The container after a sequence of calls. -/
def ParcelOp.runAll {F : Type} [SprayReal F] (c : ParcelContainer F) (ops : List (ParcelOp F)) :
    ParcelContainer F :=
  ops.foldl (fun c op => (op.run c).1) c

/-- The calls that write to the trial. -/
def ParcelOp.isStaging {F : Type} : ParcelOp F → Bool
  | .stageAdd _ | .stageUpdate _ | .stageTabState .. | .stageRemove _ => true
  | _ => false

def ParcelOp.endsTrial {F : Type} : ParcelOp F → Bool
  | .commitTrial | .rollbackTrial => true
  | _ => false

end HundunFlow
