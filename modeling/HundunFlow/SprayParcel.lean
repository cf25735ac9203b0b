import HundunFlow.Status

/-!
# Spray parcels

Identity and state of a parcel, as the spray model passes them between injector, container
and migration. Numbers of the flow are values of a type `F`; the parcel code only compares
them and asks whether they are finite.
-/

namespace HundunFlow

/-- What the parcel code does with a `double`. -/
class SprayReal (F : Type) where
  zero : F
  isFinite : F → Bool
  lt : F → F → Bool

structure Vector3 (F : Type) where
  x : F
  y : F
  z : F
  deriving DecidableEq

structure ParcelId where
  high : UInt64 := 0
  low : UInt64 := 0
  deriving DecidableEq

namespace ParcelId

/-- `operator<`. -/
def less (left right : ParcelId) : Bool :=
  left.high < right.high || (left.high = right.high && left.low < right.low)

def key (id : ParcelId) : ℕ := id.high.toNat * 2 ^ 64 + id.low.toNat

lemma key_injective : Function.Injective key := by
  rintro ⟨h, l⟩ ⟨h', l'⟩ heq
  unfold key at heq
  have hl := l.toNat_lt
  have hl' := l'.toNat_lt
  dsimp only at heq
  have hhigh : h.toNat = h'.toNat := by omega
  have hlow : l.toNat = l'.toNat := by omega
  rw [UInt64.toNat_inj.mp hhigh, UInt64.toNat_inj.mp hlow]

instance : LinearOrder ParcelId where
  __ := PartialOrder.lift key key_injective
  le_total left right := Nat.le_total left.key right.key
  toDecidableLE left right := inferInstanceAs (Decidable (left.key ≤ right.key))
  toDecidableEq := inferInstance

lemma lt_iff_key (left right : ParcelId) : left < right ↔ left.key < right.key := Iff.rfl

lemma less_iff (left right : ParcelId) : left.less right = true ↔ left < right := by
  rcases left with ⟨h, l⟩
  rcases right with ⟨h', l'⟩
  have hl := l.toNat_lt
  have hl' := l'.toNat_lt
  rw [lt_iff_key]
  simp only [less, key, Bool.or_eq_true, Bool.and_eq_true, decide_eq_true_eq, UInt64.lt_iff_toNat_lt,
    ← UInt64.toNat_inj]
  omega

end ParcelId

def validId (id : ParcelId) : Bool := id.high ≠ 0 || id.low ≠ 0

structure SprayParcelState (F : Type) where
  id : ParcelId
  position : Vector3 F
  velocity : Vector3 F
  dropletMass : F
  dropletDiameter : F
  multiplicity : F
  temperature : F
  liquidMaterialFingerprint : UInt64
  ownerGlobalCell : UInt64
  age : F
  deriving DecidableEq

section Validation

variable {F : Type} [SprayReal F]

def finiteVector (value : Vector3 F) : Bool :=
  SprayReal.isFinite value.x && SprayReal.isFinite value.y && SprayReal.isFinite value.z

def finitePositive (value : F) : Bool :=
  SprayReal.isFinite value && SprayReal.lt SprayReal.zero value

/-- `validate_parcel_state(parcel) == ParcelStateStatus::success`. -/
def validateParcelState (parcel : SprayParcelState F) : Bool :=
  !((parcel.id.high = 0 && parcel.id.low = 0) || !finiteVector parcel.position ||
    !finiteVector parcel.velocity || !finitePositive parcel.dropletMass ||
    !finitePositive parcel.dropletDiameter || !finitePositive parcel.multiplicity ||
    !finitePositive parcel.temperature || parcel.liquidMaterialFingerprint = 0 ||
    !SprayReal.isFinite parcel.age || SprayReal.lt parcel.age SprayReal.zero)

end Validation

/-- `ParcelOperationDetail`. -/
inductive ParcelOperationDetail where
  | none | trialAlreadyActive | trialNotActive | invalidParcel | duplicateId | capacityExceeded
  | parcelNotFound | invalidSnapshot | invalidInjector | injectorNotConfigured
  | injectorCounterOverflow | invalidTabState
  deriving DecidableEq

def ParcelOperationDetail.value : ParcelOperationDetail → UInt32
  | none => 0
  | trialAlreadyActive => 1
  | trialNotActive => 2
  | invalidParcel => 3
  | duplicateId => 4
  | capacityExceeded => 5
  | parcelNotFound => 6
  | invalidSnapshot => 7
  | invalidInjector => 8
  | injectorNotConfigured => 9
  | injectorCounterOverflow => 10
  | invalidTabState => 11

/-- `failure` of the parcel code. -/
def parcelFailure (code : StatusCode) (detail : ParcelOperationDetail) : Status := ⟨code, detail.value⟩

end HundunFlow
