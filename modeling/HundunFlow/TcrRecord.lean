import HundunFlow.Lib.Codec
import HundunFlow.TcrBranch

/-!
# Stored histories of the mixing control

A store keeps the history of each cell together with a record of 120 bytes. A call is staged cell by
cell on a trial; sealing and committing publish it, and a restart takes the records back.

The numbers are those of the code, given by their operations. `prepare` and `accept` are evaluated
on them as in `TcrBranch`.
-/

namespace HundunFlow.TcrStore

open Lib Tcr

/-- The numbers of the code. `toBits` and `ofBits` are the copies between a number and its bits. -/
structure StoredNumbers (V : Type) where
  ofInt : ℤ → V
  tolerance : V
  add : V → V → V
  sub : V → V → V
  mul : V → V → V
  div : V → V → V
  sqrt : V → V
  abs : V → V
  isFinite : V → Bool
  less : V → V → Bool
  lessEq : V → V → Bool
  equal : V → V → Bool
  toBits : V → ℕ
  ofBits : ℕ → V

variable {V : Type} (m : StoredNumbers V)

namespace StoredNumbers

def zero : V := m.ofInt 0

def one : V := m.ofInt 1

end StoredNumbers

def close (a b : V) : Bool :=
  m.isFinite a && m.isFinite b && m.lessEq (m.abs (m.sub a b)) (m.add m.tolerance (m.mul m.tolerance (m.abs b)))

def discriminant (a : AlgebraInput V) : V :=
  m.sub m.one (m.mul (m.mul (m.mul (m.ofInt 4) a.eta) (m.sub m.one a.eta)) a.rateRatio)

def denominator (a : AlgebraInput V) : V := m.mul (m.ofInt 2) (m.sub m.one a.eta)

def roots (a : AlgebraInput V) : V × V :=
  let s := m.sqrt (discriminant m a)
  (m.div (m.mul (m.mul (m.ofInt 2) a.eta) a.rateRatio) (m.add m.one s), m.div (m.add m.one s) (denominator m a))

def admissibleRoot (x : V) : Bool := m.isFinite x && m.lessEq m.zero x && m.lessEq x m.one

def emptyReport : AlgebraReport V :=
  ⟨.invalidInput, m.zero, m.zero, m.zero, (m.zero, m.zero), (false, false), 0, 0⟩

def selectRoot (a : AlgebraInput V) (sign : ℤ) : AlgebraReport V :=
  let roots := roots m a
  let admissible := (admissibleRoot m roots.1, admissibleRoot m roots.2)
  let report : AlgebraReport V :=
    { emptyReport m with
      discriminant := discriminant m a
      roots := roots
      admissible := admissible
      admissibleCount := admissible.1.toNat + admissible.2.toNat }
  if !admissible.1 && !admissible.2 then { report with status := .noAdmissibleRoot }
  else if sign = 0 && admissible.1 && admissible.2 then { report with status := .branchRequired }
  else
    let sign := if sign = 0 then (if admissible.1 then -1 else 1) else sign
    if sign < 0 then
      if admissible.1 then
        { report with
          status := .success, selectedSign := sign, signedRoot := m.mul (m.ofInt sign) (m.sqrt (discriminant m a))
          control := roots.1 }
      else { report with status := .branchCrossing }
    else if admissible.2 then
      { report with
        status := .success, selectedSign := sign, signedRoot := m.mul (m.ofInt sign) (m.sqrt (discriminant m a))
        control := roots.2 }
    else { report with status := .branchCrossing }

def earlyReport (a : AlgebraInput V) : Option (AlgebraReport V) :=
  let d := discriminant m a
  let report : AlgebraReport V := { emptyReport m with discriminant := d }
  if !m.isFinite a.eta || m.less a.eta m.zero || m.less m.one a.eta || !m.isFinite a.rateRatio ||
      m.less a.rateRatio m.zero then some (emptyReport m)
  else if !m.isFinite d then some report
  else if m.less d m.zero then some { report with status := .negativeDiscriminant }
  else if m.lessEq (m.abs (denominator m a)) m.tolerance then some { report with status := .weakDenominator }
  else if m.lessEq d m.tolerance then some { report with status := .foldUnresolved }
  else none

def algebra (a : AlgebraInput V) (sign : ℤ) : AlgebraReport V :=
  if sign ≠ 0 && !validSign sign then emptyReport m else (earlyReport m a).getD (selectRoot m a sign)

/-- `History{}` at a revision. -/
def emptyHistory (revision : Revision) : History V where
  revision := revision
  initialized := false
  input := ⟨m.zero, m.zero⟩
  signedRoot := m.zero
  control := m.zero
  branchSign := 0
  mappingIdentity := 0
  initializationSign := 0
  foldCount := 0
  lastFold := ⟨m.zero, m.zero⟩
  lastFoldBaseRevision := initialRevision

def validFold (h : History V) : Bool :=
  (algebra m h.lastFold 0).status = .foldUnresolved && h.lastFoldBaseRevision.algorithmVersion = 1 &&
    h.lastFoldBaseRevision.acceptedStep ≤ h.revision.acceptedStep &&
    h.lastFoldBaseRevision.inputRevision ≤ h.revision.inputRevision

def validInitialized (h : History V) : Bool :=
  validSign h.initializationSign && (h.foldCount = 0 || validFold m h) && h.mappingIdentity ≠ 0 &&
    (algebra m h.input h.branchSign).status = .success &&
    close m h.signedRoot (algebra m h.input h.branchSign).signedRoot &&
    close m h.control (algebra m h.input h.branchSign).control

/-- `valid_history` -/
def validHistory (h : History V) : Bool :=
  h.revision.algorithmVersion = 1 &&
    if h.initialized then validInitialized m h
    else h.branchSign = 0 && m.equal h.signedRoot m.zero && m.equal h.control m.zero && h.mappingIdentity = 0 &&
      m.equal h.input.eta m.zero && m.equal h.input.rateRatio m.zero && h.initializationSign = 0 && h.foldCount = 0

def foldAccepted (h : History V) (q : TrialRequest V) : Bool :=
  h.initialized && q.fold.baseRevision = h.revision && validSign q.fold.departureSign &&
    (algebra m q.fold.atFold 0).status = .foldUnresolved && close m q.fold.atFold.eta h.input.eta &&
    close m q.mapping.input.eta h.input.eta

def signOfTrial (h : History V) (q : TrialRequest V) : ℤ :=
  if q.fold.supplied then q.fold.departureSign else if h.initialized then h.branchSign else q.initializationSign

def candidateOf (h : History V) (q : TrialRequest V) (observed : AlgebraReport V) : History V :=
  { h with
    initialized := true
    input := q.mapping.input
    signedRoot := observed.signedRoot
    control := observed.control
    branchSign := observed.selectedSign
    mappingIdentity := q.mapping.mappingIdentity
    initializationSign := if h.initialized then h.initializationSign else observed.selectedSign
    foldCount := if q.fold.supplied then h.foldCount + 1 else h.foldCount
    lastFold := if q.fold.supplied then q.fold.atFold else h.lastFold
    lastFoldBaseRevision := if q.fold.supplied then h.revision else h.lastFoldBaseRevision }

/-- The candidate of `prepare`, if the trial is available. -/
def prepareCandidate (h : History V) (q : TrialRequest V) : Option (History V) :=
  if h.revision ≠ q.expectedRevision || !validHistory m h || q.mode = .outOfRange || q.mode = .validated then none
  else if q.mode = .off then some h
  else if q.mapping.status ≠ .success || q.mapping.mappingIdentity = 0 then if q.mode = .shadow then some h else none
  else if h.initialized && h.mappingIdentity ≠ q.mapping.mappingIdentity then none
  else if h.initialized && q.initializationSign ≠ 0 then none
  else if q.fold.supplied && !foldAccepted m h q then none
  else
    let observed := algebra m q.mapping.input (signOfTrial h q)
    if observed.status ≠ .success then if q.mode = .shadow then some h else none
    else if q.fold.supplied && h.foldCount = maxU64 then none
    else some (candidateOf h q observed)

/-- What `accept` compares of the candidate and of the candidate evaluated again. -/
def sameCandidate (checked candidate : History V) : Bool :=
  checked.branchSign = candidate.branchSign && m.equal checked.control candidate.control &&
    m.equal checked.signedRoot candidate.signedRoot && m.equal checked.input.eta candidate.input.eta &&
    m.equal checked.input.rateRatio candidate.input.rateRatio && checked.mappingIdentity = candidate.mappingIdentity &&
    checked.foldCount = candidate.foldCount

/-- The candidate of `accept`, if there is one. -/
def acceptCandidate (h : History V) (t : Trial V) (next : Revision) : Option (History V) :=
  if !t.available || !validHistory m h || !validHistory m t.candidate || h.revision ≠ t.baseRevision ||
      t.candidate.revision ≠ h.revision || next.algorithmVersion ≠ 1 || h.revision.acceptedStep = maxU64 ||
      next.acceptedStep ≠ h.revision.acceptedStep + 1 || next.inputRevision ≤ h.revision.inputRevision then none
  else
    match prepareCandidate m h t.request with
    | none => none
    | some checked => if sameCandidate m checked t.candidate then some { checked with revision := next } else none

def layout : List ℕ := [8, 8, 4, 4, 8, 8, 8, 8, 4, 4, 8, 8, 8, 8, 8, 8, 4, 4]

def recordBytes : ℕ := 120

/-- The words that `encode` puts. -/
def historyWords (h : History V) : List ℕ :=
  [h.revision.acceptedStep, h.revision.inputRevision, h.revision.algorithmVersion, if h.initialized then 1 else 0,
    m.toBits h.input.eta, m.toBits h.input.rateRatio, m.toBits h.signedRoot, m.toBits h.control,
    (h.branchSign + 1).toNat, (h.initializationSign + 1).toNat, h.mappingIdentity, h.foldCount,
    m.toBits h.lastFold.eta, m.toBits h.lastFold.rateRatio, h.lastFoldBaseRevision.acceptedStep,
    h.lastFoldBaseRevision.inputRevision, h.lastFoldBaseRevision.algorithmVersion, 0]

def encode (h : History V) : List UInt8 := writeWords layout (historyWords m h)

/-- The history that `decode` fills in from the words of a record, the flags aside. -/
def wordsHistory (w : ℕ → ℕ) : History V where
  revision := ⟨w 0, w 1, w 2⟩
  initialized := w 3 != 0
  input := ⟨m.ofBits (w 4), m.ofBits (w 5)⟩
  signedRoot := m.ofBits (w 6)
  control := m.ofBits (w 7)
  branchSign := (w 8 : ℤ) - 1
  initializationSign := (w 9 : ℤ) - 1
  mappingIdentity := w 10
  foldCount := w 11
  lastFold := ⟨m.ofBits (w 12), m.ofBits (w 13)⟩
  lastFoldBaseRevision := ⟨w 14, w 15, w 16⟩

/-- The absent fold that `decode` admits. -/
def absentFold (h : History V) : Bool :=
  m.equal h.lastFold.eta m.zero && m.equal h.lastFold.rateRatio m.zero && h.lastFoldBaseRevision = initialRevision

def flagsInRange (w : ℕ → ℕ) : Bool := w 3 ≤ 1 && w 8 ≤ 2 && w 9 ≤ 2 && w 17 = 0

/-- Word `i` of a record. -/
def recordWord (record : List UInt8) (i : ℕ) : ℕ := (readWords layout record).getD i 0

def decode (record : List UInt8) : Option (History V) :=
  let w := recordWord record
  let h := wordsHistory m w
  if flagsInRange w && (w 11 ≠ 0 || absentFold m h) then some h else none

/-- `kReactantMoleFractionMappingIdentity` -/
def reactantMapping : ℕ := 0x5443524d4f4c0001

structure Store (V : Type) where
  initializationSign : ℤ
  identity : ℕ
  cells : ℕ
  pending : Bool
  accepted : ℕ → History V
  trial : ℕ → History V
  acceptedBytes : ℕ → List UInt8
  trialBytes : ℕ → List UInt8

namespace Store

def invalid : Status := ⟨.invalidPlan, 10217⟩

def configure (model cells : ℕ) (initializationSign : ℤ) : Store V :=
  let identity := ((model ^^^ 0x5443524849530001) * 1099511628211) % 2 ^ 64
  { initializationSign := initializationSign
    identity := if identity = 0 then 1 else identity
    cells := cells
    pending := false
    accepted := fun _ => emptyHistory m ⟨0, 1, 1⟩
    trial := fun _ => emptyHistory m initialRevision
    acceptedBytes := fun _ => encode m (emptyHistory m ⟨0, 1, 1⟩)
    trialBytes := fun _ => List.replicate recordBytes 0 }

/-- `snapshot().values` -/
def snapshot (s : Store V) : List UInt8 := (List.range s.cells).flatMap s.acceptedBytes

def stage (s : Store V) (cell : ℕ) (t : Trial V) (step : ℕ) : Bool × Store V :=
  let old := s.accepted cell
  if old.revision.acceptedStep ≠ step || old.revision.inputRevision = maxU64 then (false, s)
  else
    match acceptCandidate m old t ⟨step + 1, old.revision.inputRevision + 1, 1⟩ with
    | none => (false, s)
    | some h =>
      (true,
        { s with
          trial := Function.update s.trial cell h
          trialBytes := Function.update s.trialBytes cell (encode m h) })

def discard (s : Store V) : Store V := { s with pending := false }

/-- `seal` -/
def sealTrial (s : Store V) : Store V := { s with pending := true }

def commit (s : Store V) : Store V :=
  if !s.pending then s
  else
    { s with
      accepted := s.trial
      trial := s.accepted
      acceptedBytes := s.trialBytes
      trialBytes := s.acceptedBytes
      pending := false }

def recordAccepted (s : Store V) (record : List UInt8) (step : ℕ) : Bool :=
  match decode m record with
  | none => false
  | some h =>
    h.revision.acceptedStep = step && h.revision.inputRevision ≠ 0 && validHistory m h &&
      (!h.initialized || (h.mappingIdentity = reactantMapping &&
        (s.initializationSign = 0 || h.initializationSign = s.initializationSign)))

/-- `stage_restore_records`. What a failure leaves in the trial is staged anew before it is sealed. -/
def stageRestoreRecords (s : Store V) (records : List UInt8) (step : ℕ) : Status × Store V :=
  if records.length ≠ s.cells * recordBytes then (invalid, s.discard)
  else
    let trial := fun i => (decode m (recordAt recordBytes records i)).getD (s.trial i)
    let s : Store V := { s.discard with trial := trial }
    if (List.range s.cells).all fun i => recordAccepted m s (recordAt recordBytes records i) step then
      ({}, { s with trialBytes := fun i => recordAt recordBytes records i, pending := true })
    else (invalid, s)

end Store

end HundunFlow.TcrStore
