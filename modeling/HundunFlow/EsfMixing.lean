import HundunFlow.EsfWorkspace

/-!
# Mixing and recentring of an ensemble of fields

`advance` transports each field and then draws all of them towards their mean. `recenter` moves the
mean to a target and contracts the deviations by one factor, so that all fields stay admissible.
Square root, cube root, exponential and the next smaller number are parameters.
-/

namespace HundunFlow.Esf

open Lib

structure RealFunctions (F : Type) where
  sqrt : F → F
  cbrt : F → F
  exp : F → F
  /-- `nextafter(x, 0)` -/
  nextBelow : F → F

structure CounterAddress where
  seed : UInt64
  acceptedStep : UInt64
  stochasticStage : UInt32
  fieldPair : UInt32
  spatialDirection : UInt32
  purpose : UInt32 := 1

structure Request (F : Type) where
  accepted : View F
  expectedRevision : GasRevision
  identity : Option (ChemistryIdentity F)
  dt : F
  mixingTime : F
  tcrControl : F
  turbulentDiffusivity : F
  deterministicRates : Option (ℕ → F)
  gradients : Option (ℕ → F)
  random : CounterAddress

/-- Where the target of `recenter` is read: it may be what the workspace itself has published. -/
inductive Target (F : Type) where
  | null
  | outside (values : ℕ → F)
  | means
  | candidate

/-- What `advance` and `recenter` work on. -/
structure Mixing (F : Type) where
  report : Report F
  workspace : Workspace F

def Mixing.fail {F : Type} (r : Mixing F) (status : PortableStatus) : Mixing F :=
  { r with report := { r.report with status := status } }

def rot (x n : UInt32) : UInt32 := (x <<< n) ||| (x >>> (32 - n))

structure PhiloxWords where
  c0 : UInt32
  c1 : UInt32
  c2 : UInt32
  c3 : UInt32
  deriving DecidableEq

def philoxRound (c : PhiloxWords) (k0 k1 : UInt32) : PhiloxWords :=
  let a : UInt64 := 0xd2511f53 * c.c0.toUInt64
  let b : UInt64 := 0xcd9e8d57 * c.c2.toUInt64
  ⟨(b >>> 32).toUInt32 ^^^ c.c1 ^^^ k0, b.toUInt32, (a >>> 32).toUInt32 ^^^ c.c3 ^^^ k1, a.toUInt32⟩

def philoxWords : ℕ → PhiloxWords → UInt32 → UInt32 → PhiloxWords
  | 0, c, _, _ => c
  | rounds + 1, c, k0, k1 => philoxWords rounds (philoxRound c k0 k1) (k0 + 0x9e3779b9) (k1 + 0xbb67ae85)

def philox (a : CounterAddress) (lane : UInt32) : PhiloxWords :=
  philoxWords 10
    ⟨a.acceptedStep.toUInt32, (a.acceptedStep >>> 32).toUInt32, a.fieldPair ^^^ rot a.spatialDirection 11,
      lane ^^^ rot a.stochasticStage 17⟩
    (a.seed.toUInt32 ^^^ rot a.purpose 5) ((a.seed >>> 32).toUInt32 ^^^ rot 1 23)

variable {F : Type} [Field F] [LinearOrder F]

def wienerIncrement (m : RealFunctions F) (dt : F) (a : CounterAddress) (pair direction : ℕ) : F :=
  if dt = 0 then 0
  else
    let words := philox { a with fieldPair := pair.toUInt32, spatialDirection := direction.toUInt32 } 0x57494e31
    if words.c0 &&& 1 ≠ 0 then - m.sqrt dt else m.sqrt dt

/-- `balanced_wiener`: the fields of a pair have opposite increments. -/
def balancedWiener (m : RealFunctions F) (n : ℕ) (dt : F) (a : CounterAddress) (increments : ℕ → ℕ → F) (capacity : ℕ) :
    PortableStatus × (ℕ → ℕ → F) :=
  if !validFieldCount n || dt < 0 then (.invalidInput, increments)
  else if capacity < n then (.capacityExceeded, increments)
  else
    (.success, fun f d =>
      if f < n ∧ d < 3 then
        if f % 2 = 0 then wienerIncrement m dt a (f / 2) d else - wienerIncrement m dt a (f / 2) d
      else increments f d)

/-- `iem_factor` -/
def iemFactor (m : RealFunctions F) (dt tau control : F) : Option F :=
  if dt < 0 ∨ tau ≤ 0 ∨ control < 0 then none
  else some (if dt = 0 ∨ control = 0 then 1 else m.exp (-(1 / 2) * m.cbrt control * (dt / tau)))

def validSpecies (id : ChemistryIdentity F) : Bool :=
  id.species.all fun s => decide (0 < s.molecularWeight) && s.elementCounts.length == id.elementCount

/-- The value that transport gives to entry `k`, a component of field `f`. -/
def transportedValue (m : RealFunctions F) (q : Request F) (wiener : ℕ → ℕ → F) (values : ℕ → F) (f k : ℕ) : F :=
  let rate := match q.deterministicRates with
    | some rates => rates k
    | none => 0
  let amplitude := m.sqrt (2 * q.turbulentDiffusivity)
  let value := values k + q.dt * rate
  match q.gradients with
  | some gradients =>
    if amplitude ≠ 0 then (List.range 3).foldl (fun value d => value + amplitude * gradients (3 * k + d) * wiener f d) value
    else value
  | none => value

def transportField (m : RealFunctions F) (q : Request F) (r : Mixing F) (f : ℕ) : Except (Mixing F) (Mixing F) :=
  let ns := q.accepted.species
  let values := r.workspace.load q.accepted.values
  if !fractionTuple (row values (ns + 1) f) ns then .error { r with report := { r.report with failureField := f } }
  else
    let value := fun j => transportedValue m q r.workspace.wiener values f (f * (ns + 1) + j)
    let transported := setRow r.workspace.transported (ns + 1) f (ns + 1) value
    let r : Mixing F :=
      { report := { r.report with failureField := f, failureComponent := ns }
        workspace := { r.workspace with transported := transported } }
    if fractionTuple (row transported (ns + 1) f) ns then .ok r else .error (r.fail .conservationFailure)

def mixComponent (stride n : ℕ) (r : Mixing F) (j : ℕ) : Except (Mixing F) (Mixing F) :=
  let old := fun f => r.workspace.transported (f * stride + j)
  let factor := r.report.relaxationFactor
  let mean := ensembleMean n old
  let value := fun f => if factor = 1 then old f else factor * (old f - mean) + mean
  let sum := ensembleMean n value
  let r : Mixing F :=
    { report := { r.report with maxMeanResidual := max r.report.maxMeanResidual |sum - mean| }
      workspace :=
        { r.workspace with
          means := Function.update r.workspace.means j mean
          candidate := setColumn r.workspace.candidate stride n j value
          variances := Function.update r.workspace.variances j (ensembleVariance n mean value) } }
  if |sum - mean| ≤ 2 / 10 ^ 12 + 2 / 10 ^ 12 * |mean| then .ok r else .error (r.fail .conservationFailure)

def elementTotal (id : ChemistryIdentity F) (ns n : ℕ) (values : ℕ → F) (e : ℕ) : F :=
  runningSum n fun f => runningSum ns fun s =>
    match id.species[s]? with
    | some species =>
      values (f * (ns + 1) + s) * (((species.elementCounts.getD e 0 : ℕ) : F) / species.molecularWeight / (n : F))
    | none => 0

def checkElement (id : ChemistryIdentity F) (ns n : ℕ) (r : Mixing F) (e : ℕ) : Except (Mixing F) (Mixing F) :=
  let before := elementTotal id ns n r.workspace.transported e
  let after := elementTotal id ns n r.workspace.candidate e
  let r := { r with report := { r.report with maxElementResidual := max r.report.maxElementResidual |after - before| } }
  if |after - before| ≤ 2 / 10 ^ 12 + 2 / 10 ^ 12 * |before| then .ok r else .error (r.fail .conservationFailure)

def Mixing.publish (a : View F) (r : Mixing F) : Mixing F :=
  { r with
    report :=
      { r.report with
        status := .success
        candidate := some { a with values := .candidate, owner := .this, generation := r.workspace.generation }
        published := true } }

/-- The loops of `advance`, once the request is admitted. -/
def advanceFields (m : RealFunctions F) (q : Request F) (id : ChemistryIdentity F) (r : Mixing F) :
    Except (Mixing F) (Mixing F) := do
  let ns := q.accepted.species
  let n := q.accepted.fields
  let r ← (List.range n).foldlM (transportField m q) r
  let r ← (List.range (ns + 1)).foldlM (mixComponent (ns + 1) n) r
  if (List.range n).all fun f => fractionTuple (row r.workspace.candidate (ns + 1) f) ns then
    let r ← (List.range id.elementCount).foldlM (checkElement id ns n) r
    .ok (r.publish q.accepted)
  else .error (r.fail .conservationFailure)

def advance (m : RealFunctions F) (w : Workspace F) (q : Request F) : Mixing F :=
  let a := q.accepted
  let r : Mixing F := ⟨Report.initial 0x4553465048490001, w.nextGeneration⟩
  if !w.validBorrow a then r.fail .staleRevision
  else if a.revision != q.expectedRevision || a.revision.algorithmVersion != 1 ||
      q.random.acceptedStep != a.revision.acceptedStep then r.fail .staleRevision
  else if w.capacity < a.species || w.fieldCapacity < a.fields then r.fail .capacityExceeded
  else
    match q.identity with
    | none => r
    | some id =>
      if a.species = 0 || !validFieldCount a.fields || a.values.isNull || id.species.length != a.species ||
          a.compositionFingerprint != id.fingerprint || q.turbulentDiffusivity < 0 then r
      else
        match iemFactor m q.dt q.mixingTime q.tcrControl with
        | none => r
        | some factor =>
          let r := { r with report := { r.report with relaxationFactor := factor } }
          if !validSpecies id then r
          else
            match balancedWiener m a.fields q.dt q.random r.workspace.wiener w.fieldCapacity with
            | (.success, wiener) =>
              match advanceFields m q id { r with workspace := { r.workspace with wiener := wiener } } with
              | .ok r => r
              | .error r => r
            | (_, wiener) => { r with workspace := { r.workspace with wiener := wiener } }

def Workspace.loadTarget (w : Workspace F) : Target F → ℕ → F
  | .null => fun _ => 0
  | .outside values => values
  | .means => w.means
  | .candidate => w.candidate

def Target.isNull {F : Type} : Target F → Bool
  | .null => true
  | .outside _ | .means | .candidate => false

def limitFactor (target factor deviation : F) : F :=
  if deviation < 0 ∧ target + deviation < 0 then min factor (target / -deviation)
  else if 0 < deviation ∧ 1 < target + deviation then min factor ((1 - target) / deviation)
  else factor

def commonFactor (n ns : ℕ) (target : ℕ → F) (deviation : ℕ → ℕ → F) : F :=
  (List.range n).foldl
    (fun factor f => (List.range ns).foldl (fun factor c => limitFactor (target c) factor (deviation f c)) factor) 1

def recenterComponent (input : Values F) (stride n : ℕ) (target : ℕ → F) (r : Mixing F) (c : ℕ) :
    Except (Mixing F) (Mixing F) :=
  let values := r.workspace.load input
  let value := fun f => r.report.relaxationFactor * (values (f * stride + c) - r.workspace.means c) + target c
  let mean := ensembleMean n value
  let r : Mixing F :=
    { report := { r.report with maxMeanResidual := max r.report.maxMeanResidual |mean - target c| }
      workspace := { r.workspace with candidate := setColumn r.workspace.candidate stride n c value } }
  if |mean - target c| ≤ 2 / 10 ^ 12 * max 1 |target c| then
    .ok
      { r with
        workspace :=
          { r.workspace with
            means := Function.update r.workspace.means c mean
            variances := Function.update r.workspace.variances c (ensembleVariance n (target c) value) } }
  else .error (r.fail .conservationFailure)

/-- The loops of `recenter`, once the input is admitted. -/
def recenterFields (m : RealFunctions F) (input : View F) (target : ℕ → F) (r : Mixing F) : Except (Mixing F) (Mixing F) := do
  let ns := input.species
  let n := input.fields
  let values := r.workspace.load input.values
  -- The species of the target are kept in `next_y_`, its enthalpy in a local variable.
  let nextY := fun c => if c < ns then target c else r.workspace.nextY c
  let targetValue := fun c => if c = ns then target ns else nextY c
  let means := fun c =>
    if c < ns + 1 then ensembleMean n fun f => values (f * (ns + 1) + c) else r.workspace.means c
  let factor := commonFactor n ns targetValue fun f c => values (f * (ns + 1) + c) - means c
  let factor := if 0 < factor ∧ factor < 1 then m.nextBelow factor else factor
  let r : Mixing F :=
    { report := { r.report with relaxationFactor := factor }
      workspace := { r.workspace with nextY := nextY, means := means } }
  let r ← (List.range (ns + 1)).foldlM (recenterComponent input.values (ns + 1) n targetValue) r
  if (List.range n).all fun f => fractionTuple (row r.workspace.candidate (ns + 1) f) ns then .ok (r.publish input)
  else .error (r.fail .conservationFailure)

/-- The checks of the numbers that `recenter` is given. -/
def recenterInput (w : Workspace F) (input : View F) (target : Target F) : Bool :=
  input.species != 0 && w.validPopulation input.fields && !input.values.isNull && !target.isNull &&
    fractionTuple (w.loadTarget target) input.species &&
    (List.range input.fields).all fun f => fractionTuple (row (w.load input.values) (input.species + 1) f) input.species

def recenter (m : RealFunctions F) (w : Workspace F) (input : View F) (target : Target F) : Mixing F :=
  let r : Mixing F := ⟨Report.initial 0x4553465245430001, w.nextGeneration⟩
  if !w.validBorrow input || input.revision.algorithmVersion != 1 then r.fail .staleRevision
  else if w.capacity < input.species || w.fieldCapacity < input.fields then r.fail .capacityExceeded
  else if !recenterInput w input target then r
  else
    match recenterFields m input (w.loadTarget target) r with
    | .ok r => r
    | .error r => r

/-- The checks of `recenter` together. -/
def recenterAdmits (w : Workspace F) (input : View F) (target : Target F) : Bool :=
  w.validBorrow input && input.revision.algorithmVersion == 1 && decide (input.species ≤ w.capacity) &&
    decide (input.fields ≤ w.fieldCapacity) && recenterInput w input target

end HundunFlow.Esf
