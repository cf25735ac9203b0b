import HundunFlow.Lib.LazySweep
import HundunFlow.Lib.Sorting
import Mathlib.Algebra.Order.Field.Basic
import Mathlib.Data.Prod.Lex

/-!
# Spacings near focuses

A stretched axis is finer inside focus intervals. The spacing at a sample is bounded by the targets
of the focuses that contain it, and grows away from them with a bounded slope. The faces of a number of
cells are read off the integral of the spacings, smoothed, and checked. Arithmetic is exact.
-/

namespace HundunFlow

open Lib

structure IntervalTarget (F : Type) where
  lower : F
  upper : F
  spacing : F
  deriving DecidableEq

structure ActiveFocus (F : Type) where
  spacing : F
  upper : F
  id : ℕ
  deriving DecidableEq

inductive FaceBuildResult where
  | feasible | tooCoarse | tooFine
  deriving DecidableEq

variable {F : Type} [Field F] [LinearOrder F]

/-- The order of `FocusStartLess`. -/
def focusStartKey (focus : IntervalTarget F) : F ×ₗ F ×ₗ F := toLex (focus.lower, toLex (focus.upper, focus.spacing))

/-- The order of `ActiveFocusGreater`: the least key is on top. -/
def activeKey (focus : ActiveFocus F) : F ×ₗ F ×ₗ ℕ := toLex (focus.spacing, toLex (focus.upper, focus.id))

def orderedFocuses (focuses : List (IntervalTarget F)) : List (IntervalTarget F × ℕ) :=
  (sortOn focusStartKey focuses).zipIdx

def activate (focus : IntervalTarget F × ℕ) : ActiveFocus F := ⟨focus.1.spacing, focus.1.upper, focus.2⟩

def activeTops (focuses : List (IntervalTarget F)) (coordinates : List F) : List (Option (ActiveFocus F)) :=
  (⟨orderedFocuses focuses, []⟩ : LazySweep _ _).tops (fun focus => focus.1.lower) activate
    (fun focus => focus.upper) activeKey coordinates

def sampleSpacing (baseSpacing : F) : Option (ActiveFocus F) → F
  | none => baseSpacing
  | some top => min baseSpacing top.spacing

/-- The forward loop behind a sample: pairs of a centre and its spacing. -/
def forwardSweep (slope : F) : F × F → List (F × F) → List (F × F)
  | _, [] => []
  | (x, h), (y, k) :: rest =>
    let next := (y, min k (h + slope * (y - x)))
    next :: forwardSweep slope next rest

def backwardSweep (slope : F) : List (F × F) → List (F × F)
  | [] => []
  | (x, h) :: rest =>
    match backwardSweep slope rest with
    | [] => [(x, h)]
    | (y, k) :: behind => (x, min h (k + slope * (y - x))) :: (y, k) :: behind

def limitGrowth (growthRatio : F) (samples : List (F × F)) : List (F × F) :=
  match samples with
  | [] => []
  | first :: rest =>
    if 1 < growthRatio then backwardSweep (growthRatio - 1) (first :: forwardSweep (growthRatio - 1) first rest)
    else first :: rest

/-- `fill_spacing_envelope`. -/
def fillSpacingEnvelope (sampleCentres : List F) (baseSpacing minimumSpacing growthRatio : F)
    (focuses : List (IntervalTarget F)) : List F :=
  let spacing := (activeTops focuses sampleCentres).map (sampleSpacing baseSpacing)
  (limitGrowth growthRatio (sampleCentres.zip spacing)).map fun sample =>
    max minimumSpacing (min baseSpacing sample.2)

/-- `inverse_cumulative`, on lists of one length that are not empty. -/
def inverseCumulative (coordinates cumulative : List F) (target : F) : F :=
  let right := cumulative.findIdx fun c => target ≤ c
  if right = 0 then coordinates.getD 0 0
  else if cumulative.length ≤ right then coordinates.getD (coordinates.length - 1) 0
  else
    let left := right - 1
    let weight := (target - cumulative.getD left 0) / (cumulative.getD right 0 - cumulative.getD left 0)
    coordinates.getD left 0 + weight * (coordinates.getD right 0 - coordinates.getD left 0)

def metricFaces (lower upper : F) (coordinates cumulative : List F) (cellCount : ℕ) : List F :=
  let integralStep := cumulative.getD (cumulative.length - 1) 0 / cellCount
  lower :: (List.range (cellCount - 1)).map (fun index =>
    inverseCumulative coordinates cumulative (integralStep * ((index + 1 : ℕ) : F))) ++ [upper]

def kProjectionTolerance : F := 1 / 10 ^ 13

def kConstraintTolerance : F := 1 / 10 ^ 12

/-- `128 * epsilon`. -/
def kFaceTolerance : F := 128 / 2 ^ 52

abbrev Projection (F : Type) := List F × Bool

def projectUp (growthRatio : F) (state : Projection F) (index : ℕ) : Projection F :=
  let faces := state.1
  let left := faces.getD index 0 - faces.getD (index - 1) 0
  let right := faces.getD (index + 1) 0 - faces.getD index 0
  if growthRatio * right * (1 + kProjectionTolerance) < left then
    let replacement := (faces.getD (index - 1) 0 + growthRatio * faces.getD (index + 1) 0) / (1 + growthRatio)
    if replacement < faces.getD index 0 then (faces.set index replacement, true) else state
  else state

def projectDown (growthRatio : F) (state : Projection F) (index : ℕ) : Projection F :=
  let faces := state.1
  let left := faces.getD index 0 - faces.getD (index - 1) 0
  let right := faces.getD (index + 1) 0 - faces.getD index 0
  if growthRatio * left * (1 + kProjectionTolerance) < right then
    let replacement := (growthRatio * faces.getD (index - 1) 0 + faces.getD (index + 1) 0) / (1 + growthRatio)
    if faces.getD index 0 < replacement then (faces.set index replacement, true) else state
  else state

def projectFaces (growthRatio : F) (faces : List F) : Projection F :=
  let inner := (List.range (faces.length - 2)).map (· + 1)
  inner.reverse.foldl (projectDown growthRatio) (inner.foldl (projectUp growthRatio) (faces, false))

/-- At most so many iterations, until one moves no face. -/
def smoothFaces (growthRatio : F) : ℕ → List F → List F
  | 0, faces => faces
  | iterations + 1, faces =>
    match projectFaces growthRatio faces with
    | (faces, true) => smoothFaces growthRatio iterations faces
    | (faces, false) => faces

def widths : List F → List F
  | a :: b :: rest => (b - a) :: widths (b :: rest)
  | _ => []

/-- The centres of the cells between faces. -/
def centres : List F → List F
  | a :: b :: rest => 1 / 2 * (a + b) :: centres (b :: rest)
  | _ => []

def checkWidths (baseSpacing minimumSpacing : F) : List F → Option FaceBuildResult
  | [] => none
  | width :: rest =>
    if !(0 < width) || width + kFaceTolerance * max 1 |width| < minimumSpacing then some .tooFine
    else if baseSpacing * (1 + kFaceTolerance) < width then some .tooCoarse
    else checkWidths baseSpacing minimumSpacing rest

def checkRatios (growthRatio : F) : List F → Option FaceBuildResult
  | left :: right :: rest =>
    if growthRatio * (1 + kConstraintTolerance) < max (left / right) (right / left) then some .tooCoarse
    else checkRatios growthRatio (right :: rest)
  | _ => none

def checkFocuses : List (F × Option (ActiveFocus F)) → FaceBuildResult
  | [] => .feasible
  | (width, top) :: rest =>
    if top.any fun focus => focus.spacing * (1 + 16 * kFaceTolerance) < width then .tooCoarse
    else checkFocuses rest

/-- `build_faces_for_count`. Without cells its backward loop would start outside of the faces. -/
def buildFacesForCount (lower upper baseSpacing minimumSpacing growthRatio : F) (focuses : List (IntervalTarget F))
    (coordinates cumulative : List F) (cellCount : ℕ) : Option (FaceBuildResult × List F) :=
  if cellCount = 0 then none
  else
    let faces := smoothFaces growthRatio 1024 (metricFaces lower upper coordinates cumulative cellCount)
    match checkWidths baseSpacing minimumSpacing (widths faces) with
    | some result => some (result, faces)
    | none =>
      match checkRatios growthRatio (widths faces) with
      | some result => some (result, faces)
      | none => some (checkFocuses ((widths faces).zip (activeTops focuses (centres faces))), faces)

end HundunFlow
