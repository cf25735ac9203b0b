import HundunFlow.OwnerExchange

/-!
# Exchange batches

Adds up what the exchange rows hand to the gas of every cell. `evaluate` takes the rows of the
whole domain and checks their stencils itself, `evaluate_routed` takes the rows an exchange has
delivered to the owner of the cells. The arithmetic is that of an ordered field, in which
`double` and `long double` are one type.
-/

namespace HundunFlow

open Lib

structure GasCellExchangeInput (F : Type) where
  gasMass : F
  gasMomentum : Vector3 F
  parcel : ParcelExchangeBudget F
  thermalAbsoluteTolerance : F
  thermalRelativeTolerance : F
  deriving DecidableEq

inductive GasCellExchangeStatus where
  | success | invalidInput | exhaustedGasMass | inconsistentThermalBudget | nonFiniteOutput
  deriving DecidableEq

structure GasCellExchangeCandidate (F : Type) where
  status : GasCellExchangeStatus
  available : Bool
  gasMassDelta : F
  gasMomentumDelta : Vector3 F
  gasMassCandidate : F
  gasMomentumCandidate : Vector3 F
  gasKineticEnergyDelta : F
  gasThermochemicalEnthalpyDelta : F
  thermalBudgetResidual : F
  totalEnergyResidual : F
  deriving DecidableEq

section Gas

variable {F : Type} [Field F] [LinearOrder F]

def finiteVector3 (v : Vector3 F) : Bool :=
  ExchangeReal.isFinite v.x && ExchangeReal.isFinite v.y && ExchangeReal.isFinite v.z

/-- `succeeded`. -/
def GasCellExchangeCandidate.succeeded (c : GasCellExchangeCandidate F) : Bool :=
  c.status = .success && c.available

/-- `failure`. -/
def gasFailure (status : GasCellExchangeStatus) : GasCellExchangeCandidate F :=
  ⟨status, false, 0, ⟨0, 0, 0⟩, 0, ⟨0, 0, 0⟩, 0, 0, 0, 0⟩

/-- `scalar`. -/
def scalar (value : F) : F := if value = 0 then 0 else value

def thermalLimit (atol rtol enthalpy exchange : F) : F := atol + rtol * (|enthalpy| + |exchange|)

/-- The contribution of one component of the momentum to the kinetic energy. -/
def kineticTerm (mass deltaMass newMass p deltaP : F) : F :=
  let velocity := p / mass
  let relativeImpulse := deltaP - deltaMass * velocity
  velocity * deltaP - 1 / 2 * deltaMass * velocity * velocity +
    1 / 2 * relativeImpulse * relativeImpulse / newMass

def validGasInput (input : GasCellExchangeInput F) : Bool :=
  ExchangeReal.isFinite input.gasMass && 0 < input.gasMass && finiteVector3 input.gasMomentum &&
    ExchangeReal.isFinite input.parcel.massDelta && finiteVector3 input.parcel.momentumDelta &&
    ExchangeReal.isFinite input.parcel.thermochemicalEnthalpyDelta &&
    ExchangeReal.isFinite input.parcel.kineticEnergyDelta &&
    ExchangeReal.isFinite input.parcel.thermalExchangeToGas &&
    ExchangeReal.isFinite input.thermalAbsoluteTolerance && 0 ≤ input.thermalAbsoluteTolerance &&
    ExchangeReal.isFinite input.thermalRelativeTolerance && 0 ≤ input.thermalRelativeTolerance &&
    input.thermalRelativeTolerance < 1

/-- `make_gas_cell_exchange_candidate`. -/
def makeGasCellExchangeCandidate (input : GasCellExchangeInput F) : GasCellExchangeCandidate F :=
  let parcel := input.parcel
  if !validGasInput input then gasFailure .invalidInput
  else
    let mass := input.gasMass
    let deltaMass := -parcel.massDelta
    let newMass := mass + deltaMass
    if newMass ≤ 0 then gasFailure .exhaustedGasMass
    else
      let thermalResidual := parcel.thermochemicalEnthalpyDelta + parcel.thermalExchangeToGas
      if thermalLimit input.thermalAbsoluteTolerance input.thermalRelativeTolerance
          parcel.thermochemicalEnthalpyDelta parcel.thermalExchangeToGas < |thermalResidual| then
        gasFailure .inconsistentThermalBudget
      else
        let p := input.gasMomentum
        let deltaP : Vector3 F :=
          ⟨-parcel.momentumDelta.x, -parcel.momentumDelta.y, -parcel.momentumDelta.z⟩
        let deltaK := 0 + kineticTerm mass deltaMass newMass p.x deltaP.x +
          kineticTerm mass deltaMass newMass p.y deltaP.y + kineticTerm mass deltaMass newMass p.z deltaP.z
        let enthalpy := scalar (-parcel.thermochemicalEnthalpyDelta - parcel.kineticEnergyDelta - deltaK)
        let result : GasCellExchangeCandidate F :=
          { status := .success, available := true
            gasMassDelta := scalar deltaMass
            gasMomentumDelta := ⟨scalar deltaP.x, scalar deltaP.y, scalar deltaP.z⟩
            gasMassCandidate := scalar newMass
            gasMomentumCandidate := ⟨scalar (p.x + deltaP.x), scalar (p.y + deltaP.y), scalar (p.z + deltaP.z)⟩
            gasKineticEnergyDelta := scalar deltaK
            gasThermochemicalEnthalpyDelta := enthalpy
            thermalBudgetResidual := scalar thermalResidual
            totalEnergyResidual := scalar (enthalpy + scalar deltaK + parcel.thermochemicalEnthalpyDelta +
              parcel.kineticEnergyDelta) }
        if !(ExchangeReal.isFinite result.gasMassCandidate && finiteVector3 result.gasMomentumCandidate &&
            ExchangeReal.isFinite result.gasKineticEnergyDelta &&
            ExchangeReal.isFinite result.gasThermochemicalEnthalpyDelta &&
            ExchangeReal.isFinite result.thermalBudgetResidual &&
            ExchangeReal.isFinite result.totalEnergyResidual) then
          gasFailure .nonFiniteOutput
        else result

end Gas

structure ExchangeCell (F : Type) where
  globalCell : UInt64
  volume : F
  gasMass : F
  gasMomentum : Vector3 F
  deriving DecidableEq

structure CellExchange (F : Type) where
  globalCell : UInt64
  volume : F
  gas : GasCellExchangeCandidate F
  gasSpeciesMassDelta : List F
  deriving DecidableEq

@[ext]
structure ExchangeDelta (F : Type) where
  mass : F
  momentumX : F
  momentumY : F
  momentumZ : F
  thermochemicalEnthalpy : F
  kineticEnergy : F
  deriving DecidableEq

structure ExchangeBatchReport (F : Type) where
  status : Portable.Status := .invalidInput
  failureIndex : ℕ := 0
  generation : ℕ := 0
  revision : Revision := {}
  cells : List (CellExchange F) := []
  wall : ExchangeDelta F
  outlet : ExchangeDelta F
  external : ExchangeDelta F
  available : Bool := false
  deriving DecidableEq

structure ExchangeWorkspace where
  cellCapacity : ℕ
  segmentCapacity : ℕ
  species : ℕ
  generation : ℕ := 0
  deriving DecidableEq

section Sums

variable {F : Type} [Field F]

def ExchangeDelta.zero : ExchangeDelta F := ⟨0, 0, 0, 0, 0, 0⟩

/-- `add` of a row's whole budget. -/
def ExchangeDelta.add (sum : ExchangeDelta F) (d : ParcelExchangeBudget F) : ExchangeDelta F :=
  ⟨sum.mass + d.massDelta, sum.momentumX + d.momentumDelta.x, sum.momentumY + d.momentumDelta.y,
    sum.momentumZ + d.momentumDelta.z, sum.thermochemicalEnthalpy + d.thermochemicalEnthalpyDelta,
    sum.kineticEnergy + d.kineticEnergyDelta⟩

def ParcelExchangeBudget.zero : ParcelExchangeBudget F := ⟨0, ⟨0, 0, 0⟩, 0, 0, 0⟩

/-- `add` of a weighted budget. -/
def ParcelExchangeBudget.add (sum d : ParcelExchangeBudget F) (w : F) : ParcelExchangeBudget F :=
  ⟨sum.massDelta + w * d.massDelta,
    ⟨sum.momentumDelta.x + w * d.momentumDelta.x, sum.momentumDelta.y + w * d.momentumDelta.y,
      sum.momentumDelta.z + w * d.momentumDelta.z⟩,
    sum.thermochemicalEnthalpyDelta + w * d.thermochemicalEnthalpyDelta,
    sum.kineticEnergyDelta + w * d.kineticEnergyDelta,
    sum.thermalExchangeToGas + w * d.thermalExchangeToGas⟩

end Sums

namespace ExchangeWorkspace

variable {F : Type} [Field F] [LinearOrder F]

abbrev Failure := Portable.Status × ℕ

/-- The loop over the cells: positive volumes and ascending ids. -/
def cellsFailure : Option (ExchangeCell F) → ℕ → List (ExchangeCell F) → Option Failure
  | _, _, [] => none
  | previous, i, cell :: rest =>
    if !(0 < cell.volume) || !ExchangeReal.isFinite cell.volume ||
        previous.any (fun p => cell.globalCell ≤ p.globalCell) then
      some (.invalidInput, i)
    else cellsFailure (some cell) (i + 1) rest

/-- `std::lower_bound` in the ascending cells, and the comparison with what it finds. -/
def knownCell (cells : List (ExchangeCell F)) (id : UInt64) : Bool :=
  match (cells.dropWhile fun c => c.globalCell < id).head? with
  | none => false
  | some found => found.globalCell = id

def rowFailure (species : ℕ) (revision : Revision) (cells : List (ExchangeCell F)) (atol rtol : F)
    (s : ExchangeSegment F) : Option Portable.Status :=
  if s.revision ≠ revision then some .staleRevision
  else if (s.parcelId.high = 0 && s.parcelId.low = 0) || !OwnerExchangeRoutingPlan.finiteDelta s.delta ||
      !ExchangeReal.isFinite s.depositionWeight || s.depositionWeight ≤ 0 || 1 < s.depositionWeight ||
      ExchangeChannel.external.toWire < s.channel.toWire then
    some .invalidInput
  else if s.channel ≠ .interphase && s.depositionWeight ≠ 1 then some .invalidInput
  else if s.channel = .interphase then
    if species ≤ s.vaporSpeciesIndex.toNat then some .identityMismatch
    else if !knownCell cells s.globalCell then some .invalidInput
    else if thermalLimit atol rtol s.delta.thermochemicalEnthalpyDelta s.delta.thermalExchangeToGas <
        |s.delta.thermochemicalEnthalpyDelta + s.delta.thermalExchangeToGas| then
      some .conservationFailure
    else none
  else none

def rowsFailure (species : ℕ) (revision : Revision) (cells : List (ExchangeCell F)) (atol rtol : F) :
    ℕ → List (ExchangeSegment F) → Option Failure
  | _, [] => none
  | i, s :: rest =>
    match rowFailure species revision cells atol rtol s with
    | some status => some (status, i)
    | none => rowsFailure species revision cells atol rtol (i + 1) rest

/-- All deposition rows refer to the same unsplit physical exchange. -/
def sameDelta (a b : ParcelExchangeBudget F) : Bool :=
  a.massDelta = b.massDelta && a.momentumDelta.x = b.momentumDelta.x &&
    a.momentumDelta.y = b.momentumDelta.y && a.momentumDelta.z = b.momentumDelta.z &&
    a.thermochemicalEnthalpyDelta = b.thermochemicalEnthalpyDelta &&
    a.kineticEnergyDelta = b.kineticEnergyDelta && a.thermalExchangeToGas = b.thermalExchangeToGas

/-- The inner loop of the stencil audit, for row `i`, from row `j` on. -/
def stencilWeight (i : ℕ) (a : ExchangeSegment F) : ℕ → List (ExchangeSegment F) → F → Except Failure F
  | _, [], weight => .ok weight
  | j, b :: rest, weight =>
    if a.parcelId ≠ b.parcelId || a.segmentOrdinal ≠ b.segmentOrdinal then
      stencilWeight i a (j + 1) rest weight
    else if a.channel ≠ b.channel || a.vaporSpeciesIndex ≠ b.vaporSpeciesIndex then .error (.invalidInput, j)
    else if j ≠ i && (a.globalCell = b.globalCell || a.channel ≠ .interphase) then .error (.invalidInput, j)
    else if !sameDelta a.delta b.delta then .error (.invalidInput, j)
    else stencilWeight i a (j + 1) rest (weight + b.depositionWeight)

def stencilsFailure (all : List (ExchangeSegment F)) : ℕ → List (ExchangeSegment F) → Option Failure
  | _, [] => none
  | i, a :: rest =>
    match stencilWeight i a 0 all 0 with
    | .error e => some e
    | .ok weight =>
      if ExchangeReal.farFromOne (F := F) weight then some (.conservationFailure, i)
      else stencilsFailure all (i + 1) rest

def addRow (sum : ParcelExchangeBudget F) (s : ExchangeSegment F) : ParcelExchangeBudget F :=
  if s.channel = .interphase then sum.add s.delta s.depositionWeight else sum

/-- What the rows of one cell take from the masses of its species. -/
def addSpecies (mass : List F) (s : ExchangeSegment F) : List F :=
  if s.channel = .interphase then
    mass.set s.vaporSpeciesIndex.toNat
      (mass.getD s.vaporSpeciesIndex.toNat 0 - s.depositionWeight * s.delta.massDelta)
  else mass

def exchangeCell (species : ℕ) (atol rtol : F) (cell : ExchangeCell F) (mine : List (ExchangeSegment F)) :
    CellExchange F where
  globalCell := cell.globalCell
  volume := cell.volume
  gas := makeGasCellExchangeCandidate
    { gasMass := cell.gasMass, gasMomentum := cell.gasMomentum
      parcel := mine.foldl addRow ParcelExchangeBudget.zero
      thermalAbsoluteTolerance := atol, thermalRelativeTolerance := rtol }
  gasSpeciesMassDelta := mine.foldl addSpecies (List.replicate species 0)

def accumulate (species : ℕ) (atol rtol : F) :
    ℕ → List (ExchangeCell F) → List (ExchangeSegment F) → Except Failure (List (CellExchange F))
  | _, [], _ => .ok []
  | i, cell :: rest, sorted =>
    let sorted := sorted.dropWhile fun s => s.globalCell < cell.globalCell
    let mine := sorted.takeWhile fun s => s.globalCell = cell.globalCell
    let exchange := exchangeCell species atol rtol cell mine
    if !exchange.gas.succeeded then .error (.conservationFailure, i)
    else if !exchange.gasSpeciesMassDelta.all ExchangeReal.isFinite then .error (.conservationFailure, i)
    else
      match accumulate species atol rtol (i + 1) rest
          (sorted.dropWhile fun s => s.globalCell = cell.globalCell) with
      | .error e => .error e
      | .ok exchanges => .ok (exchange :: exchanges)

def channelSum (channel : ExchangeChannel) (sorted : List (ExchangeSegment F)) : ExchangeDelta F :=
  sorted.foldl (fun sum s => if s.channel = channel then sum.add s.delta else sum) ExchangeDelta.zero

def finiteExchange (d : ExchangeDelta F) : Bool :=
  ExchangeReal.isFinite d.mass && ExchangeReal.isFinite d.thermochemicalEnthalpy &&
    ExchangeReal.isFinite d.kineticEnergy && ExchangeReal.isFinite d.momentumX &&
    ExchangeReal.isFinite d.momentumY && ExchangeReal.isFinite d.momentumZ

/-- `fail`. -/
def fail (generation : ℕ) (revision : Revision) (failure : Failure) : ExchangeBatchReport F :=
  { status := failure.1, failureIndex := failure.2, revision := revision, generation := generation
    wall := .zero, outlet := .zero, external := .zero }

/-- The tail of `evaluate_impl`, after all checks of the input. The order of equal rows does not
matter, as a stencil has no two rows in one cell. -/
def totals (generation species : ℕ) (revision : Revision) (cells : List (ExchangeCell F))
    (segments : List (ExchangeSegment F)) (atol rtol : F) : ExchangeBatchReport F :=
  let sorted := sortOn OwnerExchangeRoutingPlan.deliveryKey segments
  match accumulate species atol rtol 0 cells sorted with
  | .error e => fail generation revision e
  | .ok exchanges =>
    let wall := channelSum .wall sorted
    let outlet := channelSum .outlet sorted
    let external := channelSum .external sorted
    if !finiteExchange wall || !finiteExchange outlet || !finiteExchange external then
      fail generation revision (.conservationFailure, segments.length)
    else
      { status := .success, available := true, generation := generation, revision := revision
        cells := exchanges, wall := wall, outlet := outlet, external := external }

def validTolerances (atol rtol : F) : Bool :=
  ExchangeReal.isFinite atol && 0 ≤ atol && ExchangeReal.isFinite rtol && 0 ≤ rtol && rtol < 1

/-- `evaluate_impl`: the report, for the generation after the workspace's. -/
def evaluateImpl (w : ExchangeWorkspace) (revision : Revision) (cells : Span (ExchangeCell F))
    (segments : Span (ExchangeSegment F)) (atol rtol : F) (completeStencils : Bool) : ExchangeBatchReport F :=
  let generation := w.generation + 1
  if w.cellCapacity < cells.size || w.segmentCapacity < segments.size then
    fail generation revision (.capacityExceeded, 0)
  else if (cells.size ≠ 0 && cells.isNull) || (segments.size ≠ 0 && segments.isNull) ||
      revision.algorithmVersion ≠ 1 || !validTolerances atol rtol then
    fail generation revision (.invalidInput, 0)
  else
    match cellsFailure none 0 cells.values with
    | some e => fail generation revision e
    | none =>
      match rowsFailure w.species revision cells.values atol rtol 0 segments.values with
      | some e => fail generation revision e
      | none =>
        match if completeStencils then stencilsFailure segments.values 0 segments.values else none with
        | some e => fail generation revision e
        | none => totals generation w.species revision cells.values segments.values atol rtol

/-- `evaluate`. -/
def evaluate (w : ExchangeWorkspace) (revision : Revision) (cells : Span (ExchangeCell F))
    (segments : Span (ExchangeSegment F)) (atol rtol : F) : ExchangeBatchReport F :=
  w.evaluateImpl revision cells segments atol rtol true

/-- `evaluate_routed`, with a certificate that was borrowed from a plan. -/
def evaluateRouted (w : ExchangeWorkspace) (revision : Revision) (cells : Span (ExchangeCell F))
    (rows : Option (RoutedExchangeSegments F)) (plan : OwnerExchangeRoutingPlan F) (atol rtol : F) :
    ExchangeBatchReport F :=
  match rows with
  | none => fail (w.generation + 1) revision (.staleRevision, 0)
  | some rows =>
    if plan.generation ≠ rows.capturedGeneration || rows.revision ≠ revision then
      fail (w.generation + 1) revision (.staleRevision, 0)
    else w.evaluateImpl revision cells (.of rows.data) atol rtol false

end ExchangeWorkspace

end HundunFlow
