import HundunFlow.Status
import HundunFlow.Lib.CountedLoop

/-!
# Windows of the cumulative rates

A cell keeps for each species the sums of a window of eight calls and the control that the ninth
call takes from them. The clock of the windows is kept as a number of calls only. A call is
prepared on a trial, sealed and committed; the accepted state is stored with every commit.

The numbers are of any type with operations, of which no law is used. All stores into a record are
of eight bytes at a multiple of eight, so a record is a sequence of words. Counters are below `2^64`.
-/

namespace HundunFlow.Dyn711

open Lib

structure Clock where
  rateIntervals : ℕ
  cphiCount : ℕ
  ratesInitialized : Bool
  deriving DecidableEq

structure Tick where
  available : Bool
  evaluateRates : Bool
  updateCphi : Bool
  next : Clock
  deriving DecidableEq

def zeroClock : Clock := ⟨0, 0, false⟩

/-- `dyn711_tick` -/
def tick (c : Clock) : Tick :=
  if 8 < c.rateIntervals ∨ 12 < c.cphiCount ∨ (0 < c.cphiCount ∧ c.cphiCount < 6) then ⟨false, false, false, zeroClock⟩
  else
    let evaluateRates := c.rateIntervals == 8
    let updateCphi := decide (c.cphiCount ≤ 6)
    ⟨true, evaluateRates, updateCphi,
      { rateIntervals := if evaluateRates then 0 else c.rateIntervals + 1
        cphiCount := if updateCphi then c.cphiCount + 6 else c.cphiCount - 1
        ratesInitialized := c.ratesInitialized || evaluateRates }⟩

/-- `clock_at` -/
def clockAt (calls : ℕ) : Clock where
  rateIntervals := calls % 9
  cphiCount := if calls = 0 then 0 else if calls = 1 then 6 else 12 - (calls - 2) % 7
  ratesInitialized := decide (9 ≤ calls)

/-- `pack` -/
def pack (c : Clock) : ℕ := c.rateIntervals + c.cphiCount * 2 ^ 8 + (if c.ratesInitialized then 2 ^ 16 else 0)

/-- What the code uses of the numbers beside their operations. `toBits` and `ofBits` are the copies
between a number and a word. -/
structure Numbers (F : Type) where
  isFinite : F → Bool
  isNaN : F → Bool
  isNegative : F → Bool
  less : F → F → Bool
  equal : F → F → Bool
  sqrt : F → F
  initialControl : F
  toBits : F → ℕ
  ofBits : ℕ → F

structure RateState (F : Type) where
  pdfSum : F
  psrSum : F
  selected : F
  effective : F
  upperBranch : Bool
  linearEndpoint : Bool

/-- The arguments of `stage_rate` after the place. -/
structure RateInput (F : Type) where
  dt : F
  pdfRate : F
  psrRate : F
  eta : F
  chemicalTime : F
  flowTime : F
  weakSum : F

structure Control (F : Type) where
  upperBranch : Bool
  linearEndpoint : Bool
  ratio : F
  selected : F
  effective : F

variable {F : Type} [Zero F] [One F] [Add F] [Sub F] [Mul F] [Div F] [NatCast F]

namespace Numbers

variable (m : Numbers F)

/-- `std::min(1., x)` -/
def minOne (x : F) : F := if m.less x 1 then x else 1

def magnitude (x : F) : F := if m.isNegative x then 0 - x else x

def greatest (x y : F) : F := if m.less x y then y else x

def least (x y : F) : F := if m.less y x then y else x

end Numbers

/-- The default members of `Dyn711RateState`. -/
def initialRate (m : Numbers F) : RateState F := ⟨0, 0, m.initialControl, m.initialControl, false, false⟩

/-- The ratio of the sums, between zero and the ratio at which the roots meet. -/
def controlRatio (m : Numbers F) (eta pdf psr weak : F) : F :=
  let ratio := if !m.less weak (m.magnitude psr) then 1 else pdf / psr
  let ratio := if !m.less 0 ratio then 1 else ratio
  if m.less 0 eta && m.less eta 1 then m.least ratio (1 / ((4 : ℕ) * eta * (1 - eta))) else ratio

/-- `dyn711_species_control`. `none` is an unavailable control. -/
def speciesControl (m : Numbers F) (eta pdf psr chemicalTime flowTime weak : F) : Option (Control F) :=
  if !m.isFinite eta || m.less eta 0 || m.less 1 eta || !m.isFinite pdf || !m.isFinite psr ||
      !m.isFinite chemicalTime || m.less chemicalTime 0 || m.isNaN flowTime || m.less flowTime 0 ||
      !m.isFinite weak || !m.less 0 weak then none
  else
    let ratio := controlRatio m eta pdf psr weak
    let upper := !m.less ratio 1 && m.less ((100 : ℕ) * flowTime) chemicalTime
    let root := m.sqrt (m.greatest 0 (1 - (4 : ℕ) * eta * (1 - eta) * ratio))
    let selected :=
      if m.equal eta 1 then ratio
      else if upper then (1 + root) / ((2 : ℕ) * (1 - eta))
      else ((2 : ℕ) * eta * ratio) / (1 + root)
    if m.isFinite ratio && m.isFinite selected then
      some ⟨!m.equal eta 1 && upper, m.equal eta 1, ratio, selected, m.minOne selected⟩
    else none

def cumulative (dt rate : F) : F := dt * (100000 : ℕ) * rate

/-- `dyn711_advance_rate`. `none` leaves the candidate as it is. -/
def advanceRate (m : Numbers F) (accepted : RateState F) (clock : Clock) (x : RateInput F) : Option (RateState F) :=
  if !(tick clock).available || !m.isFinite x.dt || !m.less 0 x.dt || !m.isFinite x.pdfRate || !m.isFinite x.psrRate ||
      !m.isFinite accepted.pdfSum || !m.isFinite accepted.psrSum || !m.isFinite accepted.selected ||
      m.less accepted.selected 0 || !m.isFinite accepted.effective ||
      !m.equal accepted.effective (m.minOne accepted.selected) then none
  else if (tick clock).evaluateRates then
    (speciesControl m x.eta accepted.pdfSum accepted.psrSum x.chemicalTime x.flowTime x.weakSum).map fun c =>
      ⟨0, 0, c.selected, c.effective, c.upperBranch, c.linearEndpoint⟩
  else
    let next := { accepted with
      pdfSum := accepted.pdfSum + cumulative x.dt x.pdfRate, psrSum := accepted.psrSum + cumulative x.dt x.psrRate }
    let next := if clock.ratesInitialized then next
      else { next with
        selected := m.initialControl, effective := m.initialControl, upperBranch := false, linearEndpoint := false }
    if m.isFinite next.pdfSum && m.isFinite next.psrSum then some next else none

/-- The sizes of the buffers are those that `configure` gives them. -/
structure History (F : Type) where
  identity : ℕ
  ns : ℕ
  cells : ℕ
  step : ℕ
  calls : ℕ
  candidateStep : ℕ
  candidateCalls : ℕ
  preparing : Bool
  pending : Bool
  accepted : ℕ → RateState F
  trial : ℕ → RateState F
  cphi : ℕ → F
  trialCphi : ℕ → F
  staged : ℕ → Bool
  cphiStaged : ℕ → Bool
  inactive : ℕ → Bool
  words : ℕ → ℕ
  trialWords : ℕ → ℕ

namespace History

def invalid : Status := ⟨.invalidPlan, 10241⟩

def width (ns : ℕ) : ℕ := 5 + 5 * ns

def flags (r : RateState F) : ℕ := if r.upperBranch then 1 else if r.linearEndpoint then 2 else 0

/-- Word `k` of what `encode` writes for one species. -/
def rateWord (m : Numbers F) (r : RateState F) (k : ℕ) : ℕ :=
  if k = 0 then m.toBits r.pdfSum
  else if k = 1 then m.toBits r.psrSum
  else if k = 2 then m.toBits r.selected
  else if k = 3 then m.toBits r.effective
  else flags r

/-- Word `k` of the record of one cell. -/
def cellWord (m : Numbers F) (ns : ℕ) (rates : ℕ → RateState F) (cphi : F) (step calls k : ℕ) : ℕ :=
  if k = 0 then step
  else if k = 1 then calls
  else if k = 2 then ns
  else if k = 3 then pack (clockAt calls)
  else if k = 4 then m.toBits cphi
  else rateWord m (rates ((k - 5) / 5)) ((k - 5) % 5)

/-- `encode` -/
def encode (m : Numbers F) (ns : ℕ) (values : ℕ → RateState F) (cphi : ℕ → F) (step calls : ℕ) : ℕ → ℕ := fun k =>
  let cell := k / width ns
  cellWord m ns (fun q => values (cell * ns + q)) (cphi cell) step calls (k % width ns)

def validRate (m : Numbers F) (r : RateState F) : Bool :=
  m.isFinite r.pdfSum && m.isFinite r.psrSum && m.isFinite r.selected && !m.less r.selected 0 && m.isFinite r.effective &&
    m.equal r.effective (m.minOne r.selected) && !(r.upperBranch && r.linearEndpoint)

def validCphi (m : Numbers F) (c : F) : Bool := m.isFinite c && !m.less c 1 && !m.less ((16 : ℕ) : F) c

/-- `valid` -/
def valid (m : Numbers F) (cells ns : ℕ) (values : ℕ → RateState F) (cphi : ℕ → F) : Bool :=
  (List.range (cells * ns)).all (fun i => validRate m (values i)) && (List.range cells).all fun cell => validCphi m (cphi cell)

/-- `configure`. The buffers that it only resizes keep what they hold; here they are new. -/
def configure (m : Numbers F) (model cells ns : ℕ) (initialCphi : F) (initialStep : ℕ) : History F :=
  let identity := (((model ^^^ 0x5443523731310001) ^^^ ns) * 1099511628211) % 2 ^ 64
  { identity := if identity = 0 then 1 else identity
    ns := ns
    cells := cells
    step := initialStep
    calls := 0
    candidateStep := 0
    candidateCalls := 0
    preparing := false
    pending := false
    accepted := fun _ => initialRate m
    trial := fun _ => initialRate m
    cphi := fun _ => initialCphi
    trialCphi := fun _ => initialCphi
    staged := fun _ => false
    cphiStaged := fun _ => false
    inactive := fun _ => false
    words := encode m ns (fun _ => initialRate m) (fun _ => initialCphi) initialStep 0
    trialWords := fun _ => 0 }

def clock (h : History F) : Clock := clockAt h.calls

def discard (h : History F) : History F := { h with preparing := false, pending := false }

def begin (h : History F) (step : ℕ) : Status × History F :=
  if step ≠ h.step ∨ step = maxU64 ∨ h.calls = maxU64 ∨ h.ns = 0 then (invalid, h.discard)
  else
    ({},
      { h.discard with
        trial := h.accepted
        trialCphi := h.cphi
        staged := fun _ => false
        inactive := fun _ => false
        cphiStaged := fun _ => !(tick h.clock).updateCphi
        candidateStep := step + 1
        candidateCalls := h.calls + 1
        preparing := true })

def stageRate (m : Numbers F) (h : History F) (cell species : ℕ) (x : RateInput F) : Status × History F :=
  if !h.preparing || h.cells ≤ cell || h.ns ≤ species || h.inactive cell then (invalid, h)
  else
    let i := cell * h.ns + species
    match advanceRate m (h.accepted i) h.clock x with
    | none => (invalid, h)
    | some next => ({}, { h with trial := Function.update h.trial i next, staged := Function.update h.staged i true })

def stageCphi (m : Numbers F) (h : History F) (cell : ℕ) (value : F) : Status × History F :=
  if !h.preparing || h.cells ≤ cell || h.inactive cell || !(tick h.clock).updateCphi || !validCphi m value then (invalid, h)
  else
    ({},
      { h with
        trialCphi := Function.update h.trialCphi cell value
        cphiStaged := Function.update h.cphiStaged cell true })

def stageInactive (h : History F) (cell : ℕ) : Status × History F :=
  if !h.preparing || h.cells ≤ cell then (invalid, h)
  else
    ({},
      { h with
        trial := fun i => if i / h.ns = cell then h.accepted i else h.trial i
        trialCphi := Function.update h.trialCphi cell (h.cphi cell)
        staged := fun i => if i / h.ns = cell then true else h.staged i
        cphiStaged := Function.update h.cphiStaged cell true
        inactive := Function.update h.inactive cell true })

/-- `seal` -/
def sealTrial (m : Numbers F) (h : History F) : Status × History F :=
  if !h.preparing || (List.range (h.cells * h.ns)).any (fun i => !h.staged i) ||
      (List.range h.cells).any (fun cell => !h.cphiStaged cell) || !valid m h.cells h.ns h.trial h.trialCphi then (invalid, h)
  else
    ({},
      { h with
        trialWords := encode m h.ns h.trial h.trialCphi h.candidateStep h.candidateCalls
        preparing := false
        pending := true })

def commit (h : History F) : History F :=
  if !h.pending then h
  else
    { h.discard with
      accepted := h.trial
      trial := h.accepted
      cphi := h.trialCphi
      trialCphi := h.cphi
      words := h.trialWords
      trialWords := h.words
      step := h.candidateStep
      calls := h.candidateCalls }

def size (h : History F) : ℕ := h.cells * width h.ns

def readRate (m : Numbers F) (data : ℕ → ℕ) (at_ : ℕ) : RateState F :=
  ⟨m.ofBits (data at_), m.ofBits (data (at_ + 1)), m.ofBits (data (at_ + 2)), m.ofBits (data (at_ + 3)),
    data (at_ + 4) == 1, data (at_ + 4) == 2⟩

/-- `restore` of `size` words at `data`. What a failure leaves in the trial is overwritten by the next `begin`. -/
def restore (m : Numbers F) (h : History F) (data : ℕ → ℕ) (size step : ℕ) : Status × History F :=
  if size ≠ h.size ∨ h.cells = 0 then (invalid, h.discard)
  else
    let calls := data 1
    if step < calls then (invalid, h.discard)
    else
      let w := width h.ns
      let cellFits := fun cell =>
        data (cell * w) == step && data (cell * w + 1) == calls && data (cell * w + 2) == h.ns &&
          data (cell * w + 3) == pack (clockAt calls) && (List.range h.ns).all fun q => decide (data (cell * w + 5 + 5 * q + 4) ≤ 2)
      let trial := fun i => readRate m data (i / h.ns * w + 5 + 5 * (i % h.ns))
      let trialCphi := fun cell => m.ofBits (data (cell * w + 4))
      let h : History F := { h.discard with trial := trial, trialCphi := trialCphi }
      if !(List.range h.cells).all cellFits || !valid m h.cells h.ns trial trialCphi then (invalid, h)
      else ({}, { h with trialWords := data, candidateStep := step, candidateCalls := calls, pending := true })

end History

end HundunFlow.Dyn711
