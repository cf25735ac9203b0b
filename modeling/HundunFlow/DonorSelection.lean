import HundunFlow.CartesianKernel
import Mathlib.Algebra.Order.Field.Basic

/-!
# Selection of donors

`choose_donors` picks the donors of a stencil from candidates that are sorted by their distance. The
indices of the selected candidates, in the order in which they are taken, stand for the mask and `out`.
-/

namespace HundunFlow

structure QuadraticDonorCell where
  globalCell : ℕ
  globalIndex : Int3
  localIndex : Int3

structure CandidateDonor (F : Type) where
  donor : QuadraticDonorCell
  distanceSquared : F
  normalCoordinate : F
  tangent1Coordinate : F
  tangent2Coordinate : F

namespace DonorSelection

open Lib List

variable {F : Type} [Field F] [LinearOrder F]

def donorQuadrant (donor : CandidateDonor F) : ℕ :=
  (if 0 ≤ donor.tangent1Coordinate then 1 else 0) * 2 + if 0 ≤ donor.tangent2Coordinate then 1 else 0

def donorLess (left right : CandidateDonor F) : Bool :=
  if left.distanceSquared ≠ right.distanceSquared then left.distanceSquared < right.distanceSquared
  else left.donor.globalCell < right.donor.globalCell

/-- `same_coordinate_band`, with the distance of two neighbouring numbers at one as an argument. -/
def sameCoordinateBand (epsilon left right : F) : Bool :=
  |left - right| ≤ 512 * epsilon * max (max 1 |left|) |right|

/-- The comparison in `take_bands`. -/
def coordinateLess (coordinate : CandidateDonor F → F) (left right : CandidateDonor F) : Bool :=
  let a := coordinate left
  let b := coordinate right
  if |a| ≠ |b| then |a| < |b| else if a ≠ b then a < b else donorLess left right

abbrev Selection (candidates : List (CandidateDonor F)) := List (Fin candidates.length)

variable (same : F → F → Bool) (candidates : List (CandidateDonor F)) (maximum : ℕ)

def take (selected : Selection candidates) (index : Fin candidates.length) : Selection candidates :=
  if selected.length < maximum ∧ index ∉ selected then selected ++ [index] else selected

def firstOf (quadrant : ℕ) : Option (Fin candidates.length) :=
  (finRange candidates.length).find? fun index => donorQuadrant (candidates.get index) = quadrant

def takeQuadrants (selected : Selection candidates) : Selection candidates :=
  (range 4).foldl (fun selected quadrant => match firstOf candidates quadrant with
    | some index => take candidates maximum selected index
    | none => selected) selected

variable (coordinate : CandidateDonor F → F)

def coordinateOrder : Selection candidates :=
  (finRange candidates.length).mergeSort fun left right => !coordinateLess coordinate (candidates.get right) (candidates.get left)

/-- The loop of `take_bands`; `values` are the coordinates of the bands found so far. -/
def takeBandsLoop : Selection candidates → List F → Selection candidates → Selection candidates × ℕ
  | [], values, selected => (selected, values.length)
  | index :: rest, values, selected =>
    if values.any fun value => same value (coordinate (candidates.get index)) then takeBandsLoop rest values selected
    else
      let selected := take candidates maximum selected index
      if values.length + 1 = 3 then (selected, 3)
      else takeBandsLoop rest (values ++ [coordinate (candidates.get index)]) selected

def takeBands (selected : Selection candidates) : Selection candidates × ℕ :=
  takeBandsLoop same candidates maximum coordinate (coordinateOrder candidates coordinate) [] selected

def chooseDonors : List QuadraticDonorCell × ℕ :=
  let selected := takeQuadrants candidates maximum []
  let (selected, bands) := takeBands same candidates maximum CandidateDonor.normalCoordinate selected
  let selected := (takeBands same candidates maximum CandidateDonor.tangent1Coordinate selected).1
  let selected := (takeBands same candidates maximum CandidateDonor.tangent2Coordinate selected).1
  let selected := (finRange candidates.length).foldl (take candidates maximum) selected
  (sortOn (·.globalCell) (selected.map fun index => (candidates.get index).donor), bands)

end DonorSelection

end HundunFlow
