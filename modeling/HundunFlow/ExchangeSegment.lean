import HundunFlow.CellOwnership
import HundunFlow.ScatterExchange
import HundunFlow.Lib.Sorting
import Mathlib.Data.Prod.Lex

/-!
# Exchange segments

The rows by which parcels hand mass, momentum and energy to cells. The rows that deposit one
exchange into several cells share the parcel and the ordinal of the segment and form its
stencil.
-/

namespace HundunFlow

open Lib

namespace Portable

inductive Status where
  | success | invalidInput | identityMismatch | staleRevision | capacityExceeded | providerFailure
  | unavailable | conservationFailure
  deriving DecidableEq

namespace Status

def isOk (s : Status) : Bool := s = success

@[simp] lemma isOk_iff (s : Status) : s.isOk = true ↔ s = success := by
  simp [isOk]

def toWire : Status → ℕ
  | success => 0
  | invalidInput => 1
  | identityMismatch => 2
  | staleRevision => 3
  | capacityExceeded => 4
  | providerFailure => 5
  | unavailable => 6
  | conservationFailure => 7

/-- `none` beyond `conservation_failure`, the last enumerator. -/
def ofWire : ℕ → Option Status
  | 0 => some success
  | 1 => some invalidInput
  | 2 => some identityMismatch
  | 3 => some staleRevision
  | 4 => some capacityExceeded
  | 5 => some providerFailure
  | 6 => some unavailable
  | 7 => some conservationFailure
  | _ => none

@[simp] lemma ofWire_toWire (s : Status) : ofWire s.toWire = some s := by
  cases s <;> rfl

end Status

end Portable

inductive ExchangeChannel where
  | interphase | wall | outlet | external
  deriving DecidableEq

namespace ExchangeChannel

def toWire : ExchangeChannel → ℕ
  | interphase => 0
  | wall => 1
  | outlet => 2
  | external => 3

def ofWire : ℕ → Option ExchangeChannel
  | 0 => some interphase
  | 1 => some wall
  | 2 => some outlet
  | 3 => some external
  | _ => none

@[simp] lemma ofWire_toWire (c : ExchangeChannel) : ofWire c.toWire = some c := by
  cases c <;> rfl

end ExchangeChannel

structure ParcelExchangeBudget (F : Type) where
  massDelta : F
  momentumDelta : Vector3 F
  thermochemicalEnthalpyDelta : F
  kineticEnergyDelta : F
  thermalExchangeToGas : F
  deriving DecidableEq

structure ExchangeSegment (F : Type) where
  revision : Revision
  globalCell : UInt64
  parcelId : ParcelId
  segmentOrdinal : UInt64
  depositionWeight : F
  channel : ExchangeChannel
  delta : ParcelExchangeBudget F
  vaporSpeciesIndex : UInt64
  deriving DecidableEq

namespace ExchangeSegment

variable {F : Type}

/-- `key`: what the rows of one stencil have in common. -/
def key (s : ExchangeSegment F) : ParcelId ×ₗ ℕ := toLex (s.parcelId, s.segmentOrdinal.toNat)

/-- `lanes`. -/
def lanes : ℕ := 17

def encode (s : ExchangeSegment F) : List (Lane F) :=
  [.word s.revision.acceptedStep, .word s.revision.inputRevision, .word s.revision.algorithmVersion,
    .word s.globalCell.toNat, .word s.parcelId.high.toNat, .word s.parcelId.low.toNat,
    .word s.segmentOrdinal.toNat, .real s.depositionWeight, .word s.channel.toWire, .real s.delta.massDelta,
    .real s.delta.momentumDelta.x, .real s.delta.momentumDelta.y, .real s.delta.momentumDelta.z,
    .real s.delta.thermochemicalEnthalpyDelta, .real s.delta.kineticEnergyDelta,
    .real s.delta.thermalExchangeToGas, .word s.vaporSpeciesIndex.toNat]

/-- The version is cut to 32 bits. A channel beyond the enumeration has no value. -/
def decode : List (Lane F) → Option (ExchangeSegment F)
  | [.word acceptedStep, .word inputRevision, .word version, .word cell, .word high, .word low, .word ordinal,
      .real weight, .word channel, .real mass, .real mx, .real my, .real mz, .real enthalpy, .real kinetic,
      .real thermal, .word species] =>
    (ExchangeChannel.ofWire channel).map fun channel =>
      { revision := ⟨acceptedStep, inputRevision, version % 2 ^ 32⟩, globalCell := UInt64.ofNat cell
        parcelId := ⟨UInt64.ofNat high, UInt64.ofNat low⟩, segmentOrdinal := UInt64.ofNat ordinal
        depositionWeight := weight, channel := channel
        delta :=
          { massDelta := mass, momentumDelta := ⟨mx, my, mz⟩, thermochemicalEnthalpyDelta := enthalpy
            kineticEnergyDelta := kinetic, thermalExchangeToGas := thermal }
        vaporSpeciesIndex := UInt64.ofNat species }
  | _ => none

@[simp] lemma length_encode (s : ExchangeSegment F) : s.encode.length = lanes := rfl

lemma decode_encode {s : ExchangeSegment F} (h : s.revision.algorithmVersion < 2 ^ 32) :
    decode s.encode = some s := by
  rcases s with ⟨⟨step, input, version⟩, cell, ⟨high, low⟩, ordinal, weight, channel,
    ⟨mass, ⟨mx, my, mz⟩, enthalpy, kinetic, thermal⟩, species⟩
  unfold decode encode
  dsimp only
  simpa using h

end ExchangeSegment

end HundunFlow
