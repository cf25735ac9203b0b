import Mathlib.Algebra.Order.Ring.Int

/-!
# Status values, integer limits and identities

The status record every operation of the solver core returns, and the integers by which
statuses travel between ranks. Callers may hand over a code outside the enumeration, so an
incoming status is a `RawStatus` until `validStatusCode` has been checked.
-/

namespace HundunFlow

/-! The numerals of the model by name, so that a definition that uses one carries no proof of its own. -/

instance atLeastTwo_2 : Nat.AtLeastTwo 2 := ⟨by decide⟩
instance atLeastTwo_3 : Nat.AtLeastTwo 3 := ⟨by decide⟩
instance atLeastTwo_4 : Nat.AtLeastTwo 4 := ⟨by decide⟩
instance atLeastTwo_6 : Nat.AtLeastTwo 6 := ⟨by decide⟩
instance atLeastTwo_8 : Nat.AtLeastTwo 8 := ⟨by decide⟩
instance atLeastTwo_10 : Nat.AtLeastTwo 10 := ⟨by decide⟩
instance atLeastTwo_32 : Nat.AtLeastTwo 32 := ⟨by decide⟩
instance atLeastTwo_64 : Nat.AtLeastTwo 64 := ⟨by decide⟩
instance neZero_2 : NeZero 2 := ⟨by decide⟩
instance neZero_6 : NeZero 6 := ⟨by decide⟩

/-- `std::numeric_limits<std::int32_t>::max()`. -/
def maxI32 : ℤ := 2 ^ 31 - 1

/-- `std::numeric_limits<std::uint64_t>::max()`. -/
def maxU64 : ℕ := 2 ^ 64 - 1

/-- `issue_identity`: the identity, 0 when they are used up, and the next counter value. -/
def issueIdentity (next : ℕ) : ℕ × ℕ := if next = maxU64 then (0, next) else (next, next + 1)

inductive StatusCode where
  | ok | invalidCase | invalidPlan | allocationFailure | mpiFailure | numericalFailure
  | rejectedStep | ioFailure
  deriving DecidableEq

namespace StatusCode

def toWire : StatusCode → ℕ
  | ok => 0
  | invalidCase => 1
  | invalidPlan => 2
  | allocationFailure => 3
  | mpiFailure => 4
  | numericalFailure => 5
  | rejectedStep => 6
  | ioFailure => 7

/-- `none` beyond `io_failure`, the last enumerator. -/
def ofWire : ℕ → Option StatusCode
  | 0 => some ok
  | 1 => some invalidCase
  | 2 => some invalidPlan
  | 3 => some allocationFailure
  | 4 => some mpiFailure
  | 5 => some numericalFailure
  | 6 => some rejectedStep
  | 7 => some ioFailure
  | _ => none

@[simp] lemma ofWire_toWire (c : StatusCode) : ofWire c.toWire = some c := by
  cases c <;> rfl

/-- `numerical_failure` and `rejected_step` may be retried with a smaller step. -/
def retryable (c : StatusCode) : Bool :=
  c = numericalFailure || c = rejectedStep

end StatusCode

structure Status where
  code : StatusCode := .ok
  detail : UInt32 := 0
  deriving DecidableEq

/-- `explicit operator bool`. -/
def Status.isOk (s : Status) : Bool := s.code = .ok

@[simp] lemma Status.isOk_iff (s : Status) : s.isOk = true ↔ s.code = .ok := by
  simp [Status.isOk]

/-- A status as a caller passes it: the code is any 16-bit value. -/
structure RawStatus where
  code : UInt16 := 0
  detail : UInt32 := 0
  deriving DecidableEq

/-- `valid_status_code`: the enumerator the raw code stands for, if any. -/
def validStatusCode (code : UInt16) : Option StatusCode := StatusCode.ofWire code.toNat

def Status.raw (s : Status) : RawStatus := ⟨UInt16.ofNat s.code.toWire, s.detail⟩

/-- An incoming status, with `fallback` in place of a code outside the enumeration. -/
def RawStatus.orElse (s : RawStatus) (fallback : Status) : Status :=
  match validStatusCode s.code with
  | some c => ⟨c, s.detail⟩
  | none => fallback

def Status.toWire (s : Status) : List ℕ := [s.code.toWire, s.detail.toNat]

/-- The status in a received pair, when the code is an enumerator and the detail fits 32 bits. -/
def Status.ofWire : List ℕ → Option Status
  | [c, d] =>
    match StatusCode.ofWire c with
    | some code => if d < 2 ^ 32 then some ⟨code, UInt32.ofNat d⟩ else none
    | none => none
  | _ => none

@[simp] lemma Status.ofWire_toWire (s : Status) : Status.ofWire s.toWire = some s := by
  rcases s with ⟨c, d⟩
  have hd : d.toNat < 2 ^ 32 := d.toNat_lt
  rw [toWire, ofWire, StatusCode.ofWire_toWire]
  simp only [if_pos hd, UInt32.ofNat_toNat]

/-- A borrowed array; a null pointer may come with any size. -/
inductive Span (α : Type) where
  | null (size : ℕ)
  | of (values : List α)
  deriving DecidableEq

namespace Span

variable {α : Type}

def size : Span α → ℕ
  | null size => size
  | of values => values.length

def isNull : Span α → Bool
  | null _ => true
  | of _ => false

/-- The entries that can be read. -/
def values : Span α → List α
  | null _ => []
  | of values => values

lemma size_eq_length {span : Span α} (h : span.isNull = true → span.size = 0) : span.size = span.values.length := by
  cases span with
  | null size => exact h rfl
  | of values => rfl

end Span

end HundunFlow
