import HundunFlow.Proofs.InjectorTrials
import Mathlib.Data.Rat.Floor

/-!
# The mass ledger of the injector

Runs of the injector beside a log of the ordinals whose parcels were committed.
-/

namespace HundunFlow

open List

/-- `count` ordinals from `first` on. -/
def ordinalRange (first : UInt64) (count : ℕ) : List UInt64 :=
  (range count).map fun j => first + UInt64.ofNat j

/-- The ordinals of the injected parcels: the one the counter was set to by the last
`configure` or restored state, those of the active trial, and those of committed trials. -/
structure OrdinalLog where
  start : UInt64 := 0
  pending : List UInt64 := []
  restoring : Bool := false
  injected : List UInt64 := []
  deriving DecidableEq

namespace OrdinalLog

variable {F : Type} [Field F] [LinearOrder F] [FloorRing F] [SprayMath F]

/-- The log after a call made in the state `inj`. -/
def step (inj : DeterministicInjector F) (log : OrdinalLog) : InjectorOp F → OrdinalLog
  | .reserve _ _ _ => log
  | .configure spec initialState =>
    if (inj.configure spec initialState).2.isOk then { start := initialState.nextOrdinal } else log
  | .beginTrial acceptedStep duration =>
    let report := (inj.beginTrial acceptedStep duration).2
    if report.status = .success then
      { log with pending := ordinalRange report.firstOrdinal report.parcelCount, restoring := false }
    else log
  | .stageRestore state =>
    if (inj.stageRestore state).2.isOk then { log with pending := [], restoring := true } else log
  | .commitTrial =>
    if !inj.commitTrial.2.isOk then log
    else if log.restoring then { start := inj.trialState.nextOrdinal }
    else { log with pending := [], injected := log.injected ++ log.pending }
  | .rollbackTrial =>
    if inj.rollbackTrial.2.isOk then { log with pending := [], restoring := false } else log

def runAll (inj : DeterministicInjector F) (log : OrdinalLog) : List (InjectorOp F) → OrdinalLog
  | [] => log
  | op :: ops => runAll (InjectorOp.run inj op) (log.step inj op) ops

end OrdinalLog

namespace Proofs

variable {F : Type} [Field F] [LinearOrder F] [IsStrictOrderedRing F] [FloorRing F] [SprayMath F]

variable {first : UInt64} {count : ℕ} {op : InjectorOp F}

@[simp] lemma length_ordinalRange (first : UInt64) (count : ℕ) : (ordinalRange first count).length = count := by
  simp [ordinalRange]

lemma ordinalRange_append (first : UInt64) (n m : ℕ) :
    ordinalRange first n ++ ordinalRange (first + UInt64.ofNat n) m = ordinalRange first (n + m) := by
  rw [ordinalRange, ordinalRange, ordinalRange, range_add, map_append, map_map]
  congr 1
  apply map_congr_left
  intro j _
  rw [Function.comp_apply, UInt64.ofNat_add, UInt64.add_assoc]

lemma toNat_ordinal {j : ℕ} (hroom : first.toNat + count ≤ maxU64) (hj : j ≤ count) :
    (first + UInt64.ofNat j).toNat = first.toNat + j := by
  simp only [maxU64] at hroom
  rw [UInt64.toNat_add, UInt64.toNat_ofNat']
  omega

lemma ordinalRange_toNat (hroom : first.toNat + count ≤ maxU64) :
    (ordinalRange first count).map UInt64.toNat = (range count).map (first.toNat + ·) := by
  rw [ordinalRange, map_map]
  apply map_congr_left
  intro j hj
  exact toNat_ordinal hroom (mem_range.mp hj).le

lemma ordinalRange_nodup (hroom : first.toNat + count ≤ maxU64) : (ordinalRange first count).Nodup := by
  apply Nodup.of_map UInt64.toNat
  rw [ordinalRange_toNat hroom]
  exact nodup_range.map fun _ _ h => Nat.add_left_cancel h

omit [IsStrictOrderedRing F] in
lemma beginTrial_congr {inj inj' : DeterministicInjector F} (h : SameAccepted inj inj')
    (hconf : inj.configured = true) (hidle : inj.trialActive = false) (acceptedStep : UInt64)
    (duration : F) : inj'.beginTrial acceptedStep duration = inj.beginTrial acceptedStep duration := by
  rw [h]
  simp only [DeterministicInjector.beginTrial, hconf, hidle, Bool.not_true, Bool.false_eq_true,
    if_false, DeterministicInjector.clearCandidates,
    resizeArrays_zero, DeterministicInjector.answer, DeterministicInjector.planInjection,
    DeterministicInjector.makeCandidates]

omit [IsStrictOrderedRing F] in
lemma active_run {inj : DeterministicInjector F} (hactive : inj.trialActive = true)
    (hop : op.endsTrial = false) : InjectorOp.run inj op = inj := by
  cases op with
  | reserve maximumCandidates memory extra =>
    simp [InjectorOp.run, DeterministicInjector.reserve, hactive]
  | configure spec initialState => simp [InjectorOp.run, DeterministicInjector.configure, hactive]
  | beginTrial acceptedStep duration =>
    simp only [InjectorOp.run, DeterministicInjector.beginTrial, hactive, if_true]
    split <;> rfl
  | stageRestore state =>
    simp only [InjectorOp.run, DeterministicInjector.stageRestore, hactive, if_true]
    split <;> rfl
  | commitTrial => exact Bool.noConfusion hop
  | rollbackTrial => exact Bool.noConfusion hop

omit [IsStrictOrderedRing F] in
lemma active_runAll {inj : DeterministicInjector F} (hactive : inj.trialActive = true) {ops : List (InjectorOp F)}
    (hops : ∀ op ∈ ops, op.endsTrial = false) : InjectorOp.runAll inj ops = inj := by
  induction ops with
  | nil => rfl
  | cons op ops ih =>
    rw [InjectorOp.runAll, foldl_cons, active_run hactive (hops op (by simp))]
    exact ih fun op hop => hops op (by simp [hop])

structure LedgerSound (inj : DeterministicInjector F) (log : OrdinalLog) : Prop where
  range : inj.configured = true → ResidualInRange inj.spec inj.committed
  trial : inj.trialActive = true → inj.configured = true ∧ ResidualInRange inj.spec inj.trialState
  settled : inj.trialActive = false → inj.trialState = inj.committed
  injected : log.injected = ordinalRange log.start log.injected.length
  next : inj.committed.nextOrdinal = log.start + UInt64.ofNat log.injected.length
  room : log.start.toNat + log.injected.length ≤ maxU64
  pending : inj.trialActive = true → log.restoring = false → ∃ count,
    log.pending = ordinalRange inj.committed.nextOrdinal count ∧
    inj.committed.nextOrdinal.toNat + count ≤ maxU64 ∧
    inj.trialState.nextOrdinal = inj.committed.nextOrdinal + UInt64.ofNat count ∧
    CandidatesOf inj inj.committed.nextOrdinal count

omit [IsStrictOrderedRing F] [FloorRing F] in
lemma initial_ledgerSound : LedgerSound (default : DeterministicInjector F) {} where
  range h := Bool.noConfusion h
  trial h := Bool.noConfusion h
  settled _ := rfl
  injected := rfl
  next := rfl
  room := Nat.zero_le _
  pending h := Bool.noConfusion h

variable {inj : DeterministicInjector F} {log : OrdinalLog}

section

omit [IsStrictOrderedRing F]

omit [FloorRing F] in
lemma ledgerSound_restart {inj' : DeterministicInjector F} (hidle : inj'.trialActive = false)
    (hrange : ResidualInRange inj'.spec inj'.committed) (hsettled : inj'.trialState = inj'.committed) :
    LedgerSound inj' { start := inj'.committed.nextOrdinal } where
  range _ := hrange
  trial h := nomatch hidle.symm.trans h
  settled _ := hsettled
  injected := rfl
  next := (UInt64.add_zero _).symm
  room := by
    have hordinal := inj'.committed.nextOrdinal.toNat_lt
    simp only [maxU64, length_nil]
    omega
  pending h := nomatch hidle.symm.trans h

lemma reserve_ledger (h : LedgerSound inj log) (maximumCandidates : ℕ) (memory : Bool) (extra : ℕ) :
    LedgerSound (InjectorOp.run inj (.reserve maximumCandidates memory extra)) log := by
  simp only [InjectorOp.run, DeterministicInjector.reserve]
  split_ifs
  · exact h
  · exact ⟨h.range, h.trial, h.settled, h.injected, h.next, h.room, h.pending⟩
  · exact ⟨h.range, h.trial, h.settled, h.injected, h.next, h.room, h.pending⟩

lemma configure_ledger (h : LedgerSound inj log) (spec : InjectorSpec F) (initialState : InjectorCommittedState F) :
    LedgerSound (InjectorOp.run inj (.configure spec initialState))
      (log.step inj (.configure spec initialState)) := by
  rw [InjectorOp.run, OrdinalLog.step]
  rcases configure_cases inj spec initialState with ⟨hfail, hstate⟩ | ⟨hok, hidle, hvalid, hstate⟩
  · rw [hstate, if_neg (by simp [hfail])]
    exact h
  · rw [hstate, if_pos hok]
    exact ledgerSound_restart hidle (validInjectorSpec_residual hvalid) rfl

end

lemma beginTrial_ledger (h : LedgerSound inj log) (acceptedStep : UInt64) (duration : F) :
    LedgerSound (InjectorOp.run inj (.beginTrial acceptedStep duration))
      (log.step inj (.beginTrial acceptedStep duration)) := by
  by_cases hactive : inj.trialActive = true
  · rw [active_run hactive rfl, OrdinalLog.step]
    rcases beginTrial_cases inj acceptedStep duration h.range with ⟨hfail, -⟩ | ⟨-, hopened⟩
    · rw [if_neg hfail]
      exact h
    · exact nomatch hopened.idle.symm.trans hactive
  · rw [InjectorOp.run, OrdinalLog.step]
    rcases beginTrial_cases inj acceptedStep duration h.range with ⟨hfail, hsame⟩ | ⟨hok, hopened⟩
    · rw [if_neg hfail, hsame]
      exact ⟨h.range, h.trial, h.settled, h.injected, h.next, h.room, fun ha => absurd ha hactive⟩
    · have hcandidates := hopened.candidates
      rw [if_pos hok, hopened.first]
      rw [hopened.state] at hcandidates ⊢
      refine ⟨h.range, fun _ => ⟨hopened.configured, hopened.residual⟩, fun ha => Bool.noConfusion ha, h.injected,
        h.next, h.room, fun _ _ => ⟨_, rfl, hopened.room, hopened.next, hcandidates⟩⟩

section

omit [IsStrictOrderedRing F]

lemma stageRestore_ledger (h : LedgerSound inj log) (state : InjectorCommittedState F) :
    LedgerSound (InjectorOp.run inj (.stageRestore state)) (log.step inj (.stageRestore state)) := by
  rw [InjectorOp.run, OrdinalLog.step]
  rcases stageRestore_cases inj state with ⟨hfail, hstate⟩ | ⟨hok, hconf, hidle, hvalid, hstate⟩
  · rw [hstate, if_neg (by simp [hfail])]
    exact h
  · rw [hstate, if_pos hok]
    exact ⟨h.range, fun _ => ⟨hconf, validInjectorSpec_residual hvalid⟩,
      fun ha => Bool.noConfusion ha, h.injected, h.next, h.room, fun _ hrest => Bool.noConfusion hrest⟩

lemma commitTrial_ledger (h : LedgerSound inj log) :
    LedgerSound (InjectorOp.run inj .commitTrial) (log.step inj .commitTrial) := by
  rw [InjectorOp.run, OrdinalLog.step]
  rcases commitTrial_cases inj with ⟨hfail, hstate⟩ | ⟨hok, hactive, hstate⟩
  · rw [hstate, if_pos (by simp [hfail])]
    exact h
  rw [hstate, if_neg (by simp [hok])]
  have hrange := (h.trial hactive).2
  by_cases hrest : log.restoring = true
  · rw [if_pos hrest]
    exact ledgerSound_restart rfl hrange rfl
  · -- The parcels of the trial continue the ordinals that are logged.
    obtain ⟨count, hpending, hroom, hnext, -⟩ := h.pending hactive (by simpa using hrest)
    have hcount : log.pending.length = count := by rw [hpending, length_ordinalRange]
    have hordinal : inj.committed.nextOrdinal.toNat = log.start.toNat + log.injected.length := by
      rw [h.next]
      exact toNat_ordinal h.room le_rfl
    rw [if_neg hrest]
    refine ⟨fun _ => hrange, fun ha => Bool.noConfusion ha, fun _ => rfl, ?_, ?_, ?_, fun ha => Bool.noConfusion ha⟩
    · rw [length_append, hcount, ← ordinalRange_append, ← h.injected, ← h.next, hpending]
    · rw [length_append, hcount, UInt64.ofNat_add, ← UInt64.add_assoc, ← h.next]
      exact hnext
    · have hlog : log.start.toNat + (log.injected.length + count) ≤ maxU64 := by omega
      rw [length_append, hcount]
      exact hlog

lemma rollbackTrial_ledger (h : LedgerSound inj log) :
    LedgerSound (InjectorOp.run inj .rollbackTrial) (log.step inj .rollbackTrial) := by
  rw [InjectorOp.run, OrdinalLog.step]
  rcases rollbackTrial_cases inj with ⟨hfail, hstate⟩ | ⟨hok, hactive, hstate⟩
  · rw [hstate, if_neg (by simp [hfail])]
    exact h
  · rw [hstate, if_pos hok]
    exact ⟨h.range, fun ha => Bool.noConfusion ha, fun _ => rfl, h.injected, h.next, h.room,
      fun ha => Bool.noConfusion ha⟩

end

/-- One call. -/
theorem step_ledger (h : LedgerSound inj log) (op : InjectorOp F) :
    LedgerSound (InjectorOp.run inj op) (log.step inj op) := by
  cases op with
  | reserve maximumCandidates memory extra => exact reserve_ledger h _ _ _
  | configure spec initialState => exact configure_ledger h _ _
  | beginTrial acceptedStep duration => exact beginTrial_ledger h _ _
  | stageRestore state => exact stageRestore_ledger h _
  | commitTrial => exact commitTrial_ledger h
  | rollbackTrial => exact rollbackTrial_ledger h

theorem runAll_ledger (h : LedgerSound inj log) (ops : List (InjectorOp F)) :
    LedgerSound (InjectorOp.runAll inj ops) (log.runAll inj ops) := by
  induction ops generalizing inj log with
  | nil => exact h
  | cons op ops ih => exact ih (step_ledger h op)

lemma rolledBack_sameAccepted (h : LedgerSound inj log)
    (hop : (∃ acceptedStep duration, op = .beginTrial acceptedStep duration) ∨ ∃ state, op = .stageRestore state)
    (hidle : inj.trialActive = false) (hopened : (InjectorOp.run inj op).trialActive = true)
    {during : List (InjectorOp F)} (hduring : ∀ op ∈ during, op.endsTrial = false) : inj.configured = true ∧
      SameAccepted inj (InjectorOp.runAll (InjectorOp.run inj op) during).rollbackTrial.1 := by
  rw [active_runAll hopened hduring]
  have hsettled := h.settled hidle
  rcases rollbackTrial_cases (InjectorOp.run inj op) with ⟨hfail, -⟩ | ⟨-, -, hstate⟩
  · simp [DeterministicInjector.rollbackTrial, hopened, Status.isOk] at hfail
  rw [hstate]
  rcases hop with ⟨acceptedStep, duration, rfl⟩ | ⟨state, rfl⟩
  · rcases beginTrial_cases inj acceptedStep duration h.range with ⟨-, hsame⟩ | ⟨-, htrial⟩
    · rw [InjectorOp.run, hsame] at hopened
      cases hidle.symm.trans hopened
    · refine ⟨htrial.configured, ?_⟩
      rw [InjectorOp.run, htrial.state, SameAccepted, ← hsettled, ← hidle]
  · rcases stageRestore_cases inj state with ⟨-, hrun⟩ | ⟨-, hconf, -, -, hrun⟩
    · rw [InjectorOp.run, hrun] at hopened
      cases hidle.symm.trans hopened
    · refine ⟨hconf, ?_⟩
      rw [InjectorOp.run, hrun, SameAccepted, ← hsettled, ← hidle]

/-- `inj'` continues where `inj` stood: the residual and the counter are the same, and so is
the outcome of every trial. -/
def Untouched (inj inj' : DeterministicInjector F) : Prop :=
  inj'.committed = inj.committed ∧
    ∀ acceptedStep duration, inj'.beginTrial acceptedStep duration = inj.beginTrial acceptedStep duration

omit [IsStrictOrderedRing F] in
lemma untouched_of_same {inj' : DeterministicInjector F} (h : SameAccepted inj inj')
    (hconf : inj.configured = true) (hidle : inj.trialActive = false) : Untouched inj inj' :=
  ⟨by rw [h], beginTrial_congr h hconf hidle⟩

lemma failed_untouched (h : LedgerSound inj log) (acceptedStep : UInt64) (duration : F)
    (hfail : (inj.beginTrial acceptedStep duration).2.status ≠ .success) :
    Untouched inj (inj.beginTrial acceptedStep duration).1 := by
  by_cases hactive : inj.trialActive = true
  · have hsame : (inj.beginTrial acceptedStep duration).1 = inj :=
      active_run hactive (show (InjectorOp.beginTrial acceptedStep duration).endsTrial = false from rfl)
    rw [hsame]
    exact ⟨rfl, fun _ _ => rfl⟩
  by_cases hconf : inj.configured = true
  · rcases beginTrial_cases inj acceptedStep duration h.range with ⟨-, hsame⟩ | ⟨hok, -⟩
    · exact untouched_of_same hsame hconf (by simpa using hactive)
    · exact absurd hok hfail
  · have hsame : (inj.beginTrial acceptedStep duration).1 = inj := by
      simp [DeterministicInjector.beginTrial, hconf]
    rw [hsame]
    exact ⟨rfl, fun _ _ => rfl⟩

/-- In every run of a default injector: the committed residual is a fraction of a parcel, a
successful trial balances the mass, the ordinals of the injected parcels run from the one the
counter was set to without gap or repetition, and a trial that fails or is rolled back
changes neither the accepted state nor the outcome of the next one. -/
theorem injector_mass_ledger (ops : List (InjectorOp F)) :
    let inj := InjectorOp.runAll (default : DeterministicInjector F) ops
    let log := OrdinalLog.runAll (default : DeterministicInjector F) {} ops
    (inj.configured = true → 0 ≤ inj.committed.residualMass ∧
      inj.committed.residualMass < inj.spec.representedMassPerParcel) ∧
    (∀ acceptedStep duration, let r := inj.beginTrial acceptedStep duration
      r.2.status = .success →
        r.2.requestedMass = inj.spec.massFlowRate * duration ∧
        r.2.residualMassBefore = inj.committed.residualMass ∧
        r.1.trialState = ⟨r.2.residualMassAfter, r.2.nextOrdinal⟩ ∧
        r.2.residualMassBefore + r.2.requestedMass =
          r.2.parcelCount * inj.spec.representedMassPerParcel + r.2.residualMassAfter) ∧
    (log.injected.map UInt64.toNat = (range log.injected.length).map (log.start.toNat + ·) ∧
      log.injected.Nodup ∧ inj.committed.nextOrdinal.toNat = log.start.toNat + log.injected.length ∧
      (inj.trialActive = true → log.restoring = false →
        log.pending = ordinalRange inj.committed.nextOrdinal log.pending.length ∧
        CandidatesOf inj inj.committed.nextOrdinal log.pending.length)) ∧
    (∀ acceptedStep duration, (inj.beginTrial acceptedStep duration).2.status ≠ .success →
      Untouched inj (inj.beginTrial acceptedStep duration).1) ∧
    ∀ op : InjectorOp F,
      (∃ acceptedStep duration, op = .beginTrial acceptedStep duration) ∨ (∃ state, op = .stageRestore state) →
      inj.trialActive = false → (InjectorOp.run inj op).trialActive = true →
      ∀ during : List (InjectorOp F), (∀ op' ∈ during, op'.endsTrial = false) →
        Untouched inj (InjectorOp.runAll (InjectorOp.run inj op) during).rollbackTrial.1 := by
  intro inj log
  have h : LedgerSound inj log := runAll_ledger initial_ledgerSound ops
  refine ⟨h.range, ?_, ⟨?_, ?_, ?_, ?_⟩, failed_untouched h, ?_⟩
  · intro acceptedStep duration r hok
    rcases beginTrial_cases inj acceptedStep duration h.range with ⟨hfail, -⟩ | ⟨-, hopened⟩
    · exact absurd hok hfail
    · exact ⟨hopened.requested, hopened.before, by rw [hopened.state], hopened.balance⟩
  · rw [h.injected, length_ordinalRange]
    exact ordinalRange_toNat h.room
  · rw [h.injected]
    exact ordinalRange_nodup h.room
  · rw [h.next]
    exact toNat_ordinal h.room le_rfl
  · intro hactive hrestoring
    obtain ⟨count, hpending, -, -, hcandidates⟩ := h.pending hactive hrestoring
    rw [hpending, length_ordinalRange]
    exact ⟨rfl, hcandidates⟩
  · intro op hop hidle hopened during hduring
    obtain ⟨hconfigured, hsame⟩ := rolledBack_sameAccepted h hop hidle hopened hduring
    exact untouched_of_same hsame hconfigured hidle

/-- Rational arithmetic, with the square root that is exact on squares. -/
instance sampleMath : SprayMath ℚ where
  isFinite _ := true
  sqrt x := (x.num.toNat.sqrt : ℚ) / x.den.sqrt
  cos _ := 1
  sin _ := 0

/-- A point injector that releases two and a half parcels in a step of two and a half seconds. -/
def sampleSpec : InjectorSpec ℚ :=
  { (default : InjectorSpec ℚ) with
    injectionSpeed := 3, massFlowRate := 1, representedMassPerParcel := 1, dropletMass := 1 / 100,
    dropletDiameter := 1 / 1000, temperature := 300, liquidMaterialFingerprint := 1 }

def sampleRun : List (InjectorOp ℚ) :=
  [.reserve 4 true 0, .configure sampleSpec ⟨0, 7⟩, .beginTrial 1 (5 / 2), .rollbackTrial,
    .beginTrial 1 (5 / 2), .commitTrial]

theorem injector_mass_ledger_sample :
    let inj := InjectorOp.runAll (default : DeterministicInjector ℚ) sampleRun
    let log := OrdinalLog.runAll (default : DeterministicInjector ℚ) {} sampleRun
    inj.committed = ⟨1 / 2, 9⟩ ∧ log = { start := 7, injected := [7, 8] } ∧
      0 ≤ inj.committed.residualMass ∧ inj.committed.residualMass < inj.spec.representedMassPerParcel :=
  ⟨by decide +kernel, by decide +kernel, (injector_mass_ledger sampleRun).1 (by decide +kernel)⟩

/-- Trials of these accepted steps and durations that all succeed and are committed; `count` parcels are injected. -/
inductive Injects : DeterministicInjector F → List (UInt64 × F) → ℕ → DeterministicInjector F → Prop where
  | nil (inj : DeterministicInjector F) : Injects inj [] 0 inj
  | cons (inj inj' : DeterministicInjector F) (acceptedStep : UInt64) (duration : F) (rest : List (UInt64 × F)) (count : ℕ)
      (h : (inj.beginTrial acceptedStep duration).2.status = .success)
      (hrest : Injects (inj.beginTrial acceptedStep duration).1.commitTrial.1 rest count inj') :
      Injects inj ((acceptedStep, duration) :: rest) ((inj.beginTrial acceptedStep duration).2.parcelCount + count) inj'

variable {inj' : DeterministicInjector F} {steps : List (UInt64 × F)}

lemma Injects.balance (h : Injects inj steps count inj') (hrange : ResidualInRange inj.spec inj.committed) :
    ResidualInRange inj.spec inj'.committed ∧
    inj.committed.residualMass + inj.spec.massFlowRate * (steps.map Prod.snd).sum =
      count * inj.spec.representedMassPerParcel + inj'.committed.residualMass ∧
    inj'.committed.nextOrdinal = inj.committed.nextOrdinal + UInt64.ofNat count := by
  induction h with
  | nil inj => simp [hrange]
  | cons inj inj' acceptedStep duration rest count h hrest ih =>
    rcases beginTrial_cases inj acceptedStep duration fun _ => hrange with ⟨hfailed, -⟩ | ⟨-, hopened⟩
    · exact absurd h hfailed
    · generalize inj.beginTrial acceptedStep duration = r at *
      have hstate := hopened.state
      unfold SameAccepted at hstate
      have hcommitted : r.1.commitTrial.1.committed = ⟨r.2.residualMassAfter, r.2.nextOrdinal⟩ ∧ r.1.commitTrial.1.spec = inj.spec := by
        rcases commitTrial_cases r.1 with ⟨hfailed, -⟩ | ⟨-, -, hdone⟩
        · rw [hstate] at hfailed
          exact nomatch hfailed
        · rw [hdone, hstate]
          exact ⟨rfl, rfl⟩
      rw [hcommitted.1, hcommitted.2] at ih
      obtain ⟨hrange', hbalance, hordinal⟩ := ih hopened.residual
      dsimp only at hbalance hordinal
      refine ⟨hrange', ?_, ?_⟩
      · have hopen := hopened.balance
        rw [hopened.before, hopened.requested] at hopen
        rw [List.map_cons, List.sum_cons, mul_add, ← add_assoc, hopen, add_assoc, hbalance, Nat.cast_add, add_mul, add_assoc]
      · rw [hordinal, hopened.next, UInt64.add_assoc, ← UInt64.ofNat_add]

omit [IsStrictOrderedRing F] in
lemma Injects.unconfigured (h : Injects inj steps count inj') (hconfigured : ¬ inj.configured = true) : count = 0 ∧ inj' = inj := by
  cases h with
  | nil => exact ⟨rfl, rfl⟩
  | cons _ _ acceptedStep duration rest count h =>
    simp [DeterministicInjector.beginTrial, hconfigured] at h

omit [FloorRing F] [SprayMath F] in
lemma count_le_of_balance {represented r r' : F} {a b : ℕ} (hr : 0 ≤ r) (hr' : 0 ≤ r' ∧ r' < represented)
    (h : a * represented + r = b * represented + r') : a ≤ b := by
  by_contra hlt
  have hcast : ((b + 1 : ℕ) : F) ≤ a := Nat.cast_le.mpr (not_le.mp hlt)
  have hmore := mul_le_mul_of_nonneg_right hcast (hr'.1.trans hr'.2.le)
  rw [Nat.cast_add, Nat.cast_one, add_mul, one_mul] at hmore
  linarith [hr'.2]

/-- How a duration is divided into steps does not matter: the same number of parcels is injected, and the same state is left. -/
theorem injection_independent_of_steps (ops : List (InjectorOp F)) {steps steps' : List (UInt64 × F)} {count count' : ℕ}
    {inj₁ inj₂ : DeterministicInjector F} (h : Injects (InjectorOp.runAll default ops) steps count inj₁)
    (h' : Injects (InjectorOp.runAll default ops) steps' count' inj₂)
    (hduration : (steps.map Prod.snd).sum = (steps'.map Prod.snd).sum) :
    count = count' ∧ inj₁.committed = inj₂.committed := by
  by_cases hconfigured : (InjectorOp.runAll (default : DeterministicInjector F) ops).configured = true
  · have hrange := (runAll_ledger initial_ledgerSound ops).range hconfigured
    obtain ⟨hrange₁, hbalance₁, hordinal₁⟩ := h.balance hrange
    obtain ⟨hrange₂, hbalance₂, hordinal₂⟩ := h'.balance hrange
    rw [hduration, hbalance₂] at hbalance₁
    obtain rfl : count = count' := le_antisymm (count_le_of_balance hrange₁.1 hrange₂ hbalance₁.symm)
      (count_le_of_balance hrange₂.1 hrange₁ hbalance₁)
    refine ⟨rfl, ?_⟩
    rw [← hordinal₂] at hordinal₁
    have hresidual := add_left_cancel hbalance₁
    generalize inj₁.committed = state₁ at *
    generalize inj₂.committed = state₂ at *
    cases state₁
    cases state₂
    simp_all
  · obtain ⟨rfl, rfl⟩ := h.unconfigured hconfigured
    obtain ⟨rfl, rfl⟩ := h'.unconfigured hconfigured
    exact ⟨rfl, rfl⟩

/-- Two and a half seconds in one step or in two. -/
theorem injection_independent_of_steps_sample : ∃ count inj₁ inj₂,
    Injects (InjectorOp.runAll default [.reserve 4 true 0, .configure sampleSpec ⟨0, 7⟩]) [(1, 5 / 2)] count inj₁ ∧
    Injects (InjectorOp.runAll default [.reserve 4 true 0, .configure sampleSpec ⟨0, 7⟩]) [(1, 1), (2, 3 / 2)] count inj₂ ∧
    inj₁.committed = inj₂.committed := by
  have hone := Injects.cons (InjectorOp.runAll default [.reserve 4 true 0, .configure sampleSpec ⟨0, 7⟩]) _ 1 (5 / 2) [] 0
    (by decide +kernel) (.nil _)
  have htwo := Injects.cons (InjectorOp.runAll default [.reserve 4 true 0, .configure sampleSpec ⟨0, 7⟩]) _ 1 1 [(2, 3 / 2)] _
    (by decide +kernel) (.cons _ _ 2 (3 / 2) [] 0 (by decide +kernel) (.nil _))
  obtain ⟨hcount, hsame⟩ := injection_independent_of_steps _ hone htwo (by norm_num)
  exact ⟨_, _, _, hone, hcount ▸ htwo, hsame⟩

end Proofs

end HundunFlow
