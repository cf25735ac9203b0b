import HundunFlow.EsfWorkspace

/-!
# Chemistry of an ensemble of fields

`react` copies the population, lets the provider advance each field through one or two intervals,
and publishes the result. The provider has a state of its own, and is handed the buffers of the
workspace as they were left by the call before.
-/

namespace HundunFlow.Esf

open Lib

/-- The comparison of all members is `same_gas_identity`. -/
structure GasIdentity (F : Type) where
  mechanismSha256 : String
  phase : String
  speciesNames : List String
  elementNames : List String
  elementCounts : List ℕ
  molecularWeights : List F
  enthalpyReference : String
  compositionFingerprint : UInt64
  closureFingerprint : UInt64
  thermodynamicModel : String
  deriving DecidableEq

/-- `ReactionIntervals`, which may be no enumerator. -/
inductive ReactionIntervals where
  | full | twoHalves | outOfRange
  deriving DecidableEq

structure ReactionRequest (F : Type) where
  accepted : View F
  expectedRevision : GasRevision
  chemistryIdentity : Option (ChemistryIdentity F)
  gasIdentity : Option (GasIdentity F)
  pressures : Option (ℕ → F)
  initialDensities : Option (ℕ → F)
  startTime : F
  duration : F
  intervals : ReactionIntervals
  observeElementBalance : Bool

/-- `GasAdvanceOutput` with what the two arrays of the workspace hold. `keepsArrays` says that the
pointers to them are the ones handed over. -/
structure AdvanceOutput (F : Type) where
  finalSample : GasSample F
  finalMassFractions : ℕ → F
  integratedDelta : ℕ → F
  keepsArrays : Bool
  capacity : ℕ
  completedDuration : F
  integratedHeatRelease : F

structure Provider (F σ : Type) where
  gasIdentity : GasIdentity F
  advanceGas : σ → GasAdvanceQuery F → AdvanceOutput F → σ × PortableStatus × AdvanceOutput F

/-- What `react` works on. `density` is that of the field under way. -/
structure Reaction (F σ : Type) where
  report : Report F
  workspace : Workspace F
  provider : σ
  density : F

namespace Reaction

variable {F σ : Type}

def fail (r : Reaction F σ) (status : PortableStatus) : Reaction F σ :=
  { r with report := { r.report with status := status } }

def atField (r : Reaction F σ) (f : ℕ) : Reaction F σ := { r with report := { r.report with failureField := f } }

def atComponent (r : Reaction F σ) (s : ℕ) : Reaction F σ := { r with report := { r.report with failureComponent := s } }

end Reaction

variable {F σ : Type} [Field F] [LinearOrder F]

def near (x y : F) : Bool := decide (|x - y| ≤ 1 / 10 ^ 10 + 2 / 10 ^ 12 * |y|)

namespace ReactionRequest

def intervalCount (q : ReactionRequest F) : ℕ := if q.intervals = .full then 1 else 2

def interval (q : ReactionRequest F) : F := q.duration / q.intervalCount

def modelIdentity (q : ReactionRequest F) : UInt64 :=
  if q.intervals = .full then 0x4553465245410002 else 0x4553465245410001

def validTimes (q : ReactionRequest F) : Bool :=
  decide (0 ≤ q.startTime) && decide (0 < q.duration) && decide (q.startTime < q.startTime + q.duration) &&
    q.intervals != .outOfRange

def validInterval (q : ReactionRequest F) : Bool :=
  decide (0 < q.interval) && decide (q.startTime < q.startTime + q.interval)

end ReactionRequest

def matchingIdentities (id : ChemistryIdentity F) (gas : GasIdentity F) (fingerprint : UInt64) (ns : ℕ) : Bool :=
  fingerprint == id.fingerprint && gas.closureFingerprint == id.fingerprint && gas.compositionFingerprint != 0 &&
    gas.mechanismSha256 != "" && gas.phase != "" && gas.enthalpyReference != "" && id.species.length == ns &&
    gas.speciesNames.length == ns && gas.molecularWeights.length == ns && gas.elementNames.length == id.elementCount &&
    gas.elementCounts.length == ns * id.elementCount

def matchingSpecies (id : ChemistryIdentity F) (gas : GasIdentity F) (s : ℕ) (species : ChemicalSpeciesIdentity F) : Bool :=
  decide (0 < species.molecularWeight) && species.elementCounts.length == id.elementCount &&
    gas.molecularWeights[s]? == some species.molecularWeight &&
    (List.range id.elementCount).all fun e => gas.elementCounts[s * id.elementCount + e]? == species.elementCounts[e]?

def admitField (q : ReactionRequest F) (pressures densities : ℕ → F) (r : Reaction F σ) (f : ℕ) :
    Except (Reaction F σ) (Reaction F σ) :=
  let ns := q.accepted.species
  let r := r.atField f
  let values := row (r.workspace.load q.accepted.values) (ns + 1) f
  if fractionTuple values ns && decide (0 < pressures f) && decide (0 < densities f) then
    .ok { r with workspace := { r.workspace with transported := setRow r.workspace.transported (ns + 1) f (ns + 1) values } }
  else .error r

/-- The query for one interval of a field of the given mass fractions and enthalpy. -/
def advanceQuery (q : ReactionRequest F) (gas : GasIdentity F) (pressure enthalpy : F) (fractions : List F) (part : ℕ) :
    GasAdvanceQuery F where
  state :=
    { revision := q.accepted.revision, compositionFingerprint := gas.compositionFingerprint, pressure := pressure,
      enthalpy := enthalpy, temperature := 0, massFractions := some fractions, speciesCount := q.accepted.species }
  startTime := q.startTime + part * q.interval
  duration := q.interval

def emptyOutput (ns : ℕ) (nextY speciesDelta : ℕ → F) : AdvanceOutput F where
  finalSample :=
    { revision := {}, compositionFingerprint := 0, pressure := 0, temperature := 0, density := 0, enthalpy := 0, cp := 0,
      viscosity := 0, conductivity := 0 }
  finalMassFractions := nextY
  integratedDelta := speciesDelta
  keepsArrays := true
  capacity := ns
  completedDuration := 0
  integratedHeatRelease := 0

/-- The checks of an output of the provider, the balances apart. -/
def acceptableOutput (q : ReactionRequest F) (gas : GasIdentity F) (query : GasAdvanceQuery F) (out : AdvanceOutput F) :
    Bool :=
  let sample := out.finalSample
  sample.revision == q.accepted.revision && sample.compositionFingerprint == gas.compositionFingerprint &&
    near sample.pressure query.state.pressure && near sample.enthalpy query.state.enthalpy && decide (0 < sample.density) &&
    decide (0 < sample.temperature) && decide (0 < sample.cp) && out.completedDuration == query.duration &&
    out.keepsArrays && out.capacity == q.accepted.species && fractionTuple out.finalMassFractions q.accepted.species

def heatOf (id : ChemistryIdentity F) (ns : ℕ) (delta : ℕ → F) : F :=
  - runningSum ns fun s => ((id.species[s]?.map (·.formationEnthalpy)).getD 0) * delta s

def elementDelta (id : ChemistryIdentity F) (ns : ℕ) (delta : ℕ → F) (e : ℕ) : F :=
  runningSum ns fun s =>
    match id.species[s]? with
    | some species => delta s * (species.elementCounts.getD e 0 : ℕ) / species.molecularWeight
    | none => 0

def advancePart (q : ReactionRequest F) (p : Provider F σ) (id : ChemistryIdentity F) (gas : GasIdentity F)
    (pressures : ℕ → F) (f : ℕ) (r : Reaction F σ) (part : ℕ) : Except (Reaction F σ) (Reaction F σ) :=
  let ns := q.accepted.species
  let n := q.accepted.fields
  let fractions := row r.workspace.transported (ns + 1) f
  let query := advanceQuery q gas (pressures f) (fractions ns) ((List.range ns).map fractions) part
  let reply := p.advanceGas r.provider query (emptyOutput ns r.workspace.nextY r.workspace.speciesDelta)
  let out := reply.2.2
  let delta := out.integratedDelta
  let r : Reaction F σ :=
    { r with
      provider := reply.1
      report := { r.report with chemistryCallCount := r.report.chemistryCallCount + 1 }
      workspace := { r.workspace with nextY := out.finalMassFractions, speciesDelta := delta } }
  if reply.2.1 ≠ .success then .error (r.fail reply.2.1)
  else if !acceptableOutput q gas query out then .error (r.fail .providerFailure)
  else
    match (List.range ns).find? fun s => !near (delta s) (r.density * (out.finalMassFractions s - fractions s)) with
    | some s => .error ((r.atComponent s).fail .conservationFailure)
    | none =>
      let r := r.atComponent (ns - 1)
      let heat := heatOf id ns delta
      if !near (runningSum ns delta) 0 || !near out.integratedHeatRelease heat then .error (r.fail .conservationFailure)
      else if !q.observeElementBalance && (List.range id.elementCount).any fun e => !near (elementDelta id ns delta e) 0 then
        .error (r.fail .conservationFailure)
      else
        .ok
          { r with
            workspace :=
              { r.workspace with
                meanSpeciesDelta := fun s =>
                  if s < ns then r.workspace.meanSpeciesDelta s + delta s / n else r.workspace.meanSpeciesDelta s
                transported := setRow r.workspace.transported (ns + 1) f ns out.finalMassFractions }
            density := out.finalSample.density
            report := { r.report with ensembleHeatRelease := r.report.ensembleHeatRelease + heat / n } }

def advanceField (q : ReactionRequest F) (p : Provider F σ) (id : ChemistryIdentity F) (gas : GasIdentity F)
    (pressures densities : ℕ → F) (r : Reaction F σ) (f : ℕ) : Except (Reaction F σ) (Reaction F σ) := do
  let r := { r.atField f with density := densities f }
  let r ← (List.range q.intervalCount).foldlM (advancePart q p id gas pressures f) r
  .ok
    { r with
      workspace := { r.workspace with finalDensities := Function.update r.workspace.finalDensities f r.density } }

/-- The loop that fills the candidate, its means and variances. -/
def publishComponent (stride n : ℕ) (w : Workspace F) (j : ℕ) : Workspace F :=
  let value := fun f => w.transported (f * stride + j)
  let mean := ensembleMean n value
  { w with
    candidate := setColumn w.candidate stride n j value
    means := Function.update w.means j mean
    variances := Function.update w.variances j (ensembleVariance n mean value) }

/-- The loop over the species after the candidate is published. The input is read once more. -/
def publishFractionDelta (input : Values F) (ns n : ℕ) (w : Workspace F) : Workspace F :=
  { w with
    meanFractionDelta := fun s =>
      if s < ns then runningSum n fun f => (w.candidate (f * (ns + 1) + s) - w.load input (f * (ns + 1) + s)) / n
      else w.meanFractionDelta s }

def publishReaction (a : View F) (r : Reaction F σ) : Reaction F σ :=
  let w := (List.range (a.species + 1)).foldl (publishComponent (a.species + 1) a.fields) r.workspace
  { r with
    workspace := publishFractionDelta a.values a.species a.fields w
    report :=
      { r.report with
        status := .success
        candidate := some { a with values := .candidate, owner := .this, generation := w.generation }
        published := true } }

/-- The loops of `react`, once the request is admitted. -/
def reactFields (q : ReactionRequest F) (p : Provider F σ) (id : ChemistryIdentity F) (gas : GasIdentity F)
    (pressures densities : ℕ → F) (r : Reaction F σ) : Except (Reaction F σ) (Reaction F σ) := do
  let r := { r with workspace := { r.workspace with meanSpeciesDelta := fun _ => 0 } }
  let r ← (List.range q.accepted.fields).foldlM (admitField q pressures densities) r
  let r ← (List.range q.accepted.fields).foldlM (advanceField q p id gas pressures densities) r
  .ok (publishReaction q.accepted r)

def react (w : Workspace F) (q : ReactionRequest F) (p : Provider F σ) (state : σ) : Reaction F σ :=
  let a := q.accepted
  let r : Reaction F σ :=
    { report := Report.initial q.modelIdentity, workspace := w.nextGeneration
      provider := state, density := 0 }
  if !w.validBorrow a || a.revision != q.expectedRevision || a.revision.algorithmVersion != 1 then r.fail .staleRevision
  else if w.capacity < a.species || w.fieldCapacity < a.fields then r.fail .capacityExceeded
  else if a.species = 0 || !w.validPopulation a.fields || a.values.isNull then r
  else
    match q.chemistryIdentity, q.gasIdentity, q.pressures, q.initialDensities with
    | some id, some gas, some pressures, some densities =>
      if !q.validTimes || !q.validInterval then r
      else if gas ≠ p.gasIdentity then r.fail .identityMismatch
      else if !matchingIdentities id gas a.compositionFingerprint a.species then r.fail .identityMismatch
      else if (List.range a.species).any fun s => !(id.species[s]?.any (matchingSpecies id gas s)) then
        r.fail .identityMismatch
      else
        match reactFields q p id gas pressures densities r with
        | .ok r => r
        | .error r => r
    | _, _, _, _ => r

end HundunFlow.Esf
