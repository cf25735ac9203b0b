import HundunFlow.CartesianKernel
import HundunFlow.ChemistryBatch
import HundunFlow.Lib.CountedLoop

/-!
# The workspace of an ensemble of fields

A workspace publishes its results in a buffer of its own, and a view of that buffer may be the
input of the next operation. A buffer is a function of the index. Tuples are stored one field
after the other, the mass fractions first and the enthalpy last. Numbers are those of an ordered
field, so all values are finite.
-/

namespace HundunFlow.Esf

open Lib

/-- `View::values`: a null pointer, storage outside the workspace, or the candidate of the workspace itself. -/
inductive Values (F : Type) where
  | null
  | outside (values : ℕ → F)
  | candidate

/-- `View::owner`, where another workspace is given by its present generation. -/
inductive Owner where
  | none | this | other (generation : ℕ)
  deriving DecidableEq

structure View (F : Type) where
  revision : GasRevision
  compositionFingerprint : UInt64
  fields : ℕ
  species : ℕ
  values : Values F
  owner : Owner
  generation : ℕ

structure Workspace (F : Type) where
  deterministic : Bool
  generation : ℕ
  capacity : ℕ
  fieldCapacity : ℕ
  wiener : ℕ → ℕ → F
  finalDensities : ℕ → F
  candidate : ℕ → F
  transported : ℕ → F
  means : ℕ → F
  variances : ℕ → F
  nextY : ℕ → F
  speciesDelta : ℕ → F
  meanSpeciesDelta : ℕ → F
  meanFractionDelta : ℕ → F

def maximumFields : ℕ := 64

def validFieldCount (n : ℕ) : Bool := decide (2 ≤ n) && decide (n ≤ maximumFields) && n % 2 == 0

def Values.isNull {F : Type} : Values F → Bool
  | .null => true
  | .outside _ | .candidate => false

/-- The pointers into the workspace are null until `published`. -/
structure Report (F : Type) where
  status : PortableStatus
  failureField : ℕ
  failureComponent : ℕ
  candidate : Option (View F)
  relaxationFactor : F
  maxMeanResidual : F
  maxElementResidual : F
  modelIdentity : UInt64
  chemistryCallCount : ℕ
  ensembleHeatRelease : F
  published : Bool

structure ChemicalSpeciesIdentity (F : Type) where
  molecularWeight : F
  elementCounts : List ℕ
  formationEnthalpy : F
  deriving DecidableEq

structure ChemistryIdentity (F : Type) where
  elementCount : ℕ
  species : List (ChemicalSpeciesIdentity F)
  fingerprint : UInt64
  deriving DecidableEq

variable {F : Type} [Field F] [LinearOrder F]

def Report.initial (modelIdentity : UInt64) : Report F where
  status := .invalidInput
  failureField := 0
  failureComponent := 0
  candidate := none
  relaxationFactor := 1
  maxMeanResidual := 0
  maxElementResidual := 0
  modelIdentity := modelIdentity
  chemistryCallCount := 0
  ensembleHeatRelease := 0
  published := false

namespace Workspace

def validPopulation (w : Workspace F) (n : ℕ) : Bool := if w.deterministic then n == 1 else validFieldCount n

def load (w : Workspace F) : Values F → ℕ → F
  | .null => fun _ => 0
  | .outside values => values
  | .candidate => w.candidate

/-- `!view.owner || view.owner->valid(view)` -/
def validBorrow (w : Workspace F) (v : View F) : Bool :=
  match v.owner with
  | .none => true
  | .this => v.generation == w.generation && !v.values.isNull
  | .other generation => v.generation == generation && !v.values.isNull

/-- `++generation_` -/
def nextGeneration (w : Workspace F) : Workspace F := { w with generation := (w.generation + 1) % 2 ^ 64 }

end Workspace

/-- `fraction_tuple` -/
def fractionTuple (y : ℕ → F) (n : ℕ) : Bool :=
  (List.range n).all (fun i => decide (0 ≤ y i) && decide (y i ≤ 1)) && decide (|runningSum n y - 1| ≤ 2 / 10 ^ 12)

def row (buffer : ℕ → F) (stride f : ℕ) : ℕ → F := fun j => buffer (f * stride + j)

/-- A store to the first `width` components of a field. -/
def setRow (buffer : ℕ → F) (stride f width : ℕ) (value : ℕ → F) : ℕ → F := fun k =>
  if k / stride = f ∧ k % stride < width then value (k % stride) else buffer k

/-- A store to one component of each of the first `n` fields. -/
def setColumn (buffer : ℕ → F) (stride n j : ℕ) (value : ℕ → F) : ℕ → F := fun k =>
  if k % stride = j ∧ k / stride < n then value (k / stride) else buffer k

/-- The mean of `n` values. -/
def ensembleMean (n : ℕ) (value : ℕ → F) : F := runningSum n fun f => value f / n

/-- The mean square distance of `n` values from `mean`. -/
def ensembleVariance (n : ℕ) (mean : F) (value : ℕ → F) : F :=
  runningSum n fun f => (value f - mean) * (value f - mean) / n

variable {F : Type} {buffer value : ℕ → F} {stride f g j n width : ℕ}

lemma slot_div (hj : j < stride) : (f * stride + j) / stride = f := by
  rw [Nat.add_comm, Nat.add_mul_div_right _ _ (Nat.zero_lt_of_lt hj), Nat.div_eq_of_lt hj, Nat.zero_add]

lemma slot_mod (hj : j < stride) : (f * stride + j) % stride = j := by
  rw [Nat.add_comm, Nat.add_mul_mod_self_right, Nat.mod_eq_of_lt hj]

lemma row_setRow_self (hj : j < stride) :
    row (setRow buffer stride f width value) stride f j = if j < width then value j else row buffer stride f j := by
  simp only [row, setRow, slot_div hj, slot_mod hj, true_and]

lemma row_setRow_of_ne (hj : j < stride) (hg : g ≠ f) :
    row (setRow buffer stride f width value) stride g j = row buffer stride g j := by
  simp only [row, setRow, slot_div hj, hg, false_and, if_false]

lemma row_setColumn {i : ℕ} (hj : j < stride) (hf : f < n) :
    row (setColumn buffer stride n i value) stride f j = if j = i then value f else row buffer stride f j := by
  simp only [row, setColumn, slot_div hj, slot_mod hj, hf, and_true]

end HundunFlow.Esf
