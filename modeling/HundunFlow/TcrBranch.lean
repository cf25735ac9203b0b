import HundunFlow.CartesianKernel
import HundunFlow.CellOwnership
import Mathlib.Tactic.LinearCombination

/-!
# Branches of the mixing control

The mixing control of a cell is a root of a quadratic equation, and a cell stays on one of the two
branches until fold evidence lets it leave. `prepare` evaluates a trial against a history, `accept`
evaluates it again against the history it is to follow, and `restore` takes up a stored history.

The square root is a parameter, and numbers are those of an ordered field, so all values are finite.
-/

namespace HundunFlow.Tcr

inductive Status where
  | success | invalidInput | negativeDiscriminant | weakDenominator | noAdmissibleRoot | branchRequired
  | foldUnresolved | branchCrossing | statisticsUnavailable | mappingUnavailable | staleRevision
  | scientificEvidenceUnavailable
  deriving DecidableEq

inductive Mode where
  | off | shadow | experimental | validated | outOfRange
  deriving DecidableEq

/-- The members of `portable::Revision` by default. -/
def initialRevision : Revision := ⟨0, 0, 1⟩

structure AlgebraInput (F : Type) where
  eta : F
  rateRatio : F
  deriving DecidableEq

structure AlgebraReport (F : Type) where
  status : Status
  discriminant : F
  signedRoot : F
  control : F
  roots : F × F
  admissible : Bool × Bool
  admissibleCount : ℕ
  selectedSign : ℤ
  deriving DecidableEq

structure MappingReport (F : Type) where
  status : Status
  input : AlgebraInput F
  mappingIdentity : ℕ
  deriving DecidableEq

structure History (F : Type) where
  revision : Revision
  initialized : Bool
  input : AlgebraInput F
  signedRoot : F
  control : F
  branchSign : ℤ
  mappingIdentity : ℕ
  initializationSign : ℤ
  foldCount : ℕ
  lastFold : AlgebraInput F
  lastFoldBaseRevision : Revision
  deriving DecidableEq

/-- Evidence that a cell has reached a fold, bound to a revision. -/
structure FoldEvent (F : Type) where
  supplied : Bool
  baseRevision : Revision
  atFold : AlgebraInput F
  departureSign : ℤ
  deriving DecidableEq

structure TrialRequest (F : Type) where
  expectedRevision : Revision
  mapping : MappingReport F
  mode : Mode
  initializationSign : ℤ
  fold : FoldEvent F
  deriving DecidableEq

structure Trial (F : Type) where
  status : Status
  observed : AlgebraReport F
  candidate : History F
  baseRevision : Revision
  mode : Mode
  available : Bool
  feedback : Bool
  mixerControl : F
  request : TrialRequest F
  deriving DecidableEq

section Values

variable {F : Type} [Field F]

def AlgebraInput.zero : AlgebraInput F := ⟨0, 0⟩

def AlgebraReport.initial : AlgebraReport F := ⟨.invalidInput, 0, 0, 0, (0, 0), (false, false), 0, 0⟩

def History.empty (revision : Revision) : History F where
  revision := revision
  initialized := false
  input := .zero
  signedRoot := 0
  control := 0
  branchSign := 0
  mappingIdentity := 0
  initializationSign := 0
  foldCount := 0
  lastFold := .zero
  lastFoldBaseRevision := initialRevision

def FoldEvent.none : FoldEvent F := ⟨false, initialRevision, .zero, 0⟩

def TrialRequest.initial : TrialRequest F := ⟨initialRevision, ⟨.mappingUnavailable, .zero, 0⟩, .off, 0, .none⟩

def Trial.initial : Trial F := ⟨.invalidInput, .initial, .empty initialRevision, initialRevision, .off, false, false, 1, .initial⟩

end Values

variable {F : Type} [Field F] [LinearOrder F]

/-- `64 * std::numeric_limits<double>::epsilon()`. -/
def tolerance : F := 64 / 2 ^ 52

def close (a b : F) : Bool := |a - b| ≤ tolerance + tolerance * |b|

def validSign (sign : ℤ) : Bool := sign = -1 || sign = 1

def discriminant (a : AlgebraInput F) : F := 1 - 4 * a.eta * (1 - a.eta) * a.rateRatio

def denominator (a : AlgebraInput F) : F := 2 * (1 - a.eta)

variable (sqrt : F → F)

def roots (a : AlgebraInput F) : F × F :=
  (2 * a.eta * a.rateRatio / (1 + sqrt (discriminant a)), (1 + sqrt (discriminant a)) / denominator a)

def admissible (a : AlgebraInput F) : Bool × Bool :=
  (0 ≤ (roots sqrt a).1 && (roots sqrt a).1 ≤ 1, 0 ≤ (roots sqrt a).2 && (roots sqrt a).2 ≤ 1)

def selectRoot (a : AlgebraInput F) (sign : ℤ) : AlgebraReport F :=
  let admissible := admissible sqrt a
  let report : AlgebraReport F :=
    { AlgebraReport.initial with
      discriminant := discriminant a
      roots := roots sqrt a
      admissible := admissible
      admissibleCount := admissible.1.toNat + admissible.2.toNat }
  if report.admissibleCount = 0 then { report with status := .noAdmissibleRoot }
  else if sign = 0 && report.admissibleCount = 2 then { report with status := .branchRequired }
  else
    let sign := if sign = 0 then (if admissible.1 then -1 else 1) else sign
    if sign < 0 then
      if admissible.1 then
        { report with
          status := .success, selectedSign := sign, signedRoot := sign * sqrt (discriminant a), control := report.roots.1 }
      else { report with status := .branchCrossing }
    else if admissible.2 then
      { report with
        status := .success, selectedSign := sign, signedRoot := sign * sqrt (discriminant a), control := report.roots.2 }
    else { report with status := .branchCrossing }

def algebra (a : AlgebraInput F) (sign : ℤ) : AlgebraReport F :=
  if a.eta < 0 || 1 < a.eta || a.rateRatio < 0 || (sign ≠ 0 && !validSign sign) then .initial
  else
    let report : AlgebraReport F := { AlgebraReport.initial with discriminant := discriminant a }
    if discriminant a < 0 then { report with status := .negativeDiscriminant }
    else if |denominator a| ≤ tolerance then { report with status := .weakDenominator }
    else if discriminant a ≤ tolerance then { report with status := .foldUnresolved }
    else selectRoot sqrt a sign

def validInitialized (h : History F) : Bool :=
  validSign h.initializationSign &&
    !(h.foldCount ≠ 0 && ((algebra sqrt h.lastFold 0).status ≠ .foldUnresolved ||
      h.lastFoldBaseRevision.algorithmVersion ≠ 1 ||
      h.revision.acceptedStep < h.lastFoldBaseRevision.acceptedStep ||
      h.revision.inputRevision < h.lastFoldBaseRevision.inputRevision)) &&
    h.mappingIdentity ≠ 0 && (algebra sqrt h.input h.branchSign).status = .success &&
    close h.signedRoot (algebra sqrt h.input h.branchSign).signedRoot &&
    close h.control (algebra sqrt h.input h.branchSign).control

def validHistory (h : History F) : Bool :=
  h.revision.algorithmVersion = 1 &&
    if h.initialized then validInitialized sqrt h
    else h.branchSign = 0 && h.signedRoot = 0 && h.control = 0 && h.mappingIdentity = 0 && h.input.eta = 0 &&
      h.input.rateRatio = 0 && h.initializationSign = 0 && h.foldCount = 0

def foldAccepted (h : History F) (q : TrialRequest F) : Bool :=
  h.initialized && q.fold.baseRevision = h.revision && validSign q.fold.departureSign &&
    (algebra sqrt q.fold.atFold 0).status = .foldUnresolved && close q.fold.atFold.eta h.input.eta &&
    close q.mapping.input.eta h.input.eta

def trialSign (h : History F) (q : TrialRequest F) : ℤ :=
  if q.fold.supplied then q.fold.departureSign else if h.initialized then h.branchSign else q.initializationSign

def evaluatedCandidate (h : History F) (q : TrialRequest F) (observed : AlgebraReport F) : History F :=
  { h with
    initialized := true
    input := q.mapping.input
    signedRoot := observed.signedRoot
    control := observed.control
    branchSign := observed.selectedSign
    mappingIdentity := q.mapping.mappingIdentity
    initializationSign := if h.initialized then h.initializationSign else observed.selectedSign
    foldCount := if q.fold.supplied then h.foldCount + 1 else h.foldCount
    lastFold := if q.fold.supplied then q.fold.atFold else h.lastFold
    lastFoldBaseRevision := if q.fold.supplied then h.revision else h.lastFoldBaseRevision }

/-- How a request fares against a history: it is refused, it leaves the history as it is, or its root is
observed. -/
inductive Assessment (F : Type) where
  | refused (status : Status)
  | unchanged
  | unmapped (status : Status)
  | unselected (observed : AlgebraReport F)
  | exhausted (observed : AlgebraReport F)
  | selected (observed : AlgebraReport F)

/-- The checks of `prepare` in their order. -/
def assess (h : History F) (q : TrialRequest F) : Assessment F :=
  if h.revision ≠ q.expectedRevision then .refused .staleRevision
  else if !validHistory sqrt h then .refused .invalidInput
  else if q.mode = .outOfRange then .refused .invalidInput
  else if q.mode = .validated then .refused .scientificEvidenceUnavailable
  else if q.mode = .off then .unchanged
  else if q.mapping.status ≠ .success then .unmapped q.mapping.status
  else if q.mapping.mappingIdentity = 0 then .unmapped .mappingUnavailable
  else if h.initialized && h.mappingIdentity ≠ q.mapping.mappingIdentity then .refused .mappingUnavailable
  else if h.initialized && q.initializationSign ≠ 0 then .refused .branchCrossing
  else if q.fold.supplied && !foldAccepted sqrt h q then .refused .branchCrossing
  else
    let observed := algebra sqrt q.mapping.input (trialSign h q)
    if observed.status ≠ .success then .unselected observed
    else if q.fold.supplied && h.foldCount = maxU64 then .exhausted observed
    else .selected observed

def shadowed (h : History F) (r : Trial F) : Trial F :=
  if r.mode = .shadow then { r with available := true, candidate := h } else r

def prepare (h : History F) (q : TrialRequest F) : Trial F :=
  let r : Trial F := { Trial.initial with baseRevision := h.revision, mode := q.mode, request := q }
  match assess sqrt h q with
  | .refused status => { r with status := status }
  | .unchanged => { r with status := .success, available := true, candidate := h }
  | .unmapped status => shadowed h { r with status := status }
  | .unselected observed => shadowed h { r with status := observed.status, observed := observed }
  | .exhausted observed =>
    { r with
      status := .invalidInput
      observed := observed
      candidate := { evaluatedCandidate h q observed with
        foldCount := h.foldCount, lastFold := h.lastFold, lastFoldBaseRevision := h.lastFoldBaseRevision } }
  | .selected observed =>
    { r with
      status := .success
      observed := observed
      candidate := evaluatedCandidate h q observed
      available := true
      feedback := q.mode = .experimental
      mixerControl := if q.mode = .experimental then observed.control else 1 }

/-- What `accept` compares of the candidate and of the candidate evaluated again. -/
def sameCandidate (checked candidate : History F) : Bool :=
  checked.branchSign = candidate.branchSign && checked.control = candidate.control &&
    checked.signedRoot = candidate.signedRoot && checked.input.eta = candidate.input.eta &&
    checked.input.rateRatio = candidate.input.rateRatio && checked.mappingIdentity = candidate.mappingIdentity &&
    checked.foldCount = candidate.foldCount

def accept (h : History F) (t : Trial F) (next : Revision) : Trial F :=
  if !t.available || !validHistory sqrt h || !validHistory sqrt t.candidate || h.revision ≠ t.baseRevision ||
      t.candidate.revision ≠ h.revision || next.algorithmVersion ≠ 1 || h.revision.acceptedStep = maxU64 ||
      next.acceptedStep ≠ h.revision.acceptedStep + 1 || next.inputRevision ≤ h.revision.inputRevision then
    { Trial.initial with status := .staleRevision }
  else
    let checked := prepare sqrt h t.request
    if !checked.available || !sameCandidate checked.candidate t.candidate then
      { Trial.initial with status := .invalidInput }
    else { checked with candidate := { checked.candidate with revision := next } }

def restore (snapshot : History F) (expected : Revision) : Trial F :=
  if snapshot.revision ≠ expected then { Trial.initial with status := .staleRevision }
  else if !validHistory sqrt snapshot then .initial
  else
    { Trial.initial with status := .success, available := true, baseRevision := expected, candidate := snapshot }

end HundunFlow.Tcr
