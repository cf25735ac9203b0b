import Mathlib.Data.Finmap
import HundunFlow.ParcelContainer

/-!
# The transactional map of parcels

What a parcel container is for: a finite map from identity to parcel and TAB state, and at
most one trial, which has contents of its own and remembers its first failure.
-/

namespace HundunFlow

structure ParcelEntry (F : Type) where
  parcel : SprayParcelState F
  tabDeformation : F
  tabDeformationRate : F
  deriving DecidableEq

abbrev ParcelMap (F : Type) := Finmap fun _ : ParcelId => ParcelEntry F

structure ParcelMapTrial (F : Type) where
  contents : ParcelMap F
  failure : Status := {}

structure TransactionalParcelMap (F : Type) where
  committed : ParcelMap F := ∅
  limit : ℕ := 0
  trial : Option (ParcelMapTrial F) := none

namespace TransactionalParcelMap

variable {F : Type}

def reserve (m : TransactionalParcelMap F) (maximumParcels : ℕ) (memory : Bool) :
    TransactionalParcelMap F × Status :=
  if m.trial.isSome then (m, parcelFailure .rejectedStep .trialAlreadyActive)
  else if maximumParcels < m.committed.keys.card then (m, parcelFailure .invalidPlan .capacityExceeded)
  else if !memory then (m, parcelFailure .allocationFailure .capacityExceeded)
  else ({ m with limit := maximumParcels }, {})

def beginTrial (m : TransactionalParcelMap F) : TransactionalParcelMap F × Status :=
  if m.trial.isSome then (m, parcelFailure .rejectedStep .trialAlreadyActive)
  else ({ m with trial := some { contents := m.committed } }, {})

/-- An edit of the trial; its failure is latched and answers every later edit. -/
def stage (m : TransactionalParcelMap F) (edit : ParcelMap F → Except Status (ParcelMap F)) :
    TransactionalParcelMap F × Status :=
  match m.trial with
  | none => (m, parcelFailure .rejectedStep .trialNotActive)
  | some t =>
    if !t.failure.isOk then (m, t.failure)
    else
      match edit t.contents with
      | .error failure => ({ m with trial := some { t with failure := failure } }, failure)
      | .ok contents => ({ m with trial := some { t with contents := contents } }, {})

/-- A commit publishes the trial unless a failure is latched. Either way the trial ends. -/
def commitTrial (m : TransactionalParcelMap F) : TransactionalParcelMap F × Status :=
  match m.trial with
  | none => (m, parcelFailure .rejectedStep .trialNotActive)
  | some t =>
    if !t.failure.isOk then ({ m with trial := none }, t.failure)
    else ({ m with committed := t.contents, trial := none }, {})

def rollbackTrial (m : TransactionalParcelMap F) : TransactionalParcelMap F × Status :=
  if m.trial.isNone then (m, parcelFailure .rejectedStep .trialNotActive)
  else ({ m with trial := none }, {})

/-- `contents` is `none` for a snapshot that is not a map. -/
def restoreCommitted (m : TransactionalParcelMap F) (contents : Option (ParcelMap F)) :
    TransactionalParcelMap F × Status :=
  if m.trial.isSome then (m, parcelFailure .rejectedStep .trialAlreadyActive)
  else
    match contents with
    | none => (m, parcelFailure .invalidCase .invalidSnapshot)
    | some contents =>
      if m.limit < contents.keys.card then (m, parcelFailure .invalidPlan .capacityExceeded)
      else ({ m with committed := contents }, {})

variable [SprayReal F]

def add (limit : ℕ) (parcel : SprayParcelState F) (contents : ParcelMap F) :
    Except Status (ParcelMap F) :=
  if !validateParcelState parcel then .error (parcelFailure .invalidCase .invalidParcel)
  else if parcel.id ∈ contents then .error (parcelFailure .invalidCase .duplicateId)
  else if limit ≤ contents.keys.card then .error (parcelFailure .invalidPlan .capacityExceeded)
  else .ok (contents.insert parcel.id ⟨parcel, SprayReal.zero, SprayReal.zero⟩)

def editEntry (id : ParcelId) (edit : ParcelEntry F → ParcelEntry F) (contents : ParcelMap F) :
    Except Status (ParcelMap F) :=
  match contents.lookup id with
  | none => .error (parcelFailure .invalidCase .parcelNotFound)
  | some entry => .ok (contents.insert id (edit entry))

def update (parcel : SprayParcelState F) (contents : ParcelMap F) : Except Status (ParcelMap F) :=
  if !validateParcelState parcel then .error (parcelFailure .invalidCase .invalidParcel)
  else editEntry parcel.id (fun entry => { entry with parcel := parcel }) contents

def tabState (id : ParcelId) (deformation deformationRate : F) (contents : ParcelMap F) :
    Except Status (ParcelMap F) :=
  if !validId id || !SprayReal.isFinite deformation || !SprayReal.isFinite deformationRate then
    .error (parcelFailure .invalidCase .invalidTabState)
  else
    editEntry id (fun entry => ⟨entry.parcel, deformation, deformationRate⟩) contents

def remove (id : ParcelId) (contents : ParcelMap F) : Except Status (ParcelMap F) :=
  if !validId id then .error (parcelFailure .invalidCase .invalidParcel)
  else if id ∈ contents then .ok (contents.erase id)
  else .error (parcelFailure .invalidCase .parcelNotFound)

end TransactionalParcelMap

end HundunFlow
