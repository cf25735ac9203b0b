import HundunFlow.Injector
import HundunFlow.Proofs.ParcelRows

/-!
# Trials of the injector

What one call of `begin_trial` can do: fail and touch nothing that later calls read, or open
a trial whose report balances the mass and whose candidates are the parcels of consecutive
ordinals.
-/

namespace HundunFlow.Proofs

variable {F : Type} [Field F] [LinearOrder F] [SprayMath F]

def ResidualInRange (spec : InjectorSpec F) (state : InjectorCommittedState F) : Prop :=
  0 ≤ state.residualMass ∧ state.residualMass < spec.representedMassPerParcel

variable {inj : DeterministicInjector F}

lemma validInjectorSpec_residual {spec : InjectorSpec F} {state : InjectorCommittedState F}
    (h : validInjectorSpec spec state = true) : ResidualInRange spec state := by
  simp only [validInjectorSpec, finiteNonNegative, Bool.and_eq_true, decide_eq_true_eq] at h
  exact ⟨h.1.2.2, h.2⟩

structure PlanBalances (spec : InjectorSpec F) (committed : InjectorCommittedState F) (duration : F)
    (plan : InjectionPlan F) : Prop where
  requested : plan.requestedMass = spec.massFlowRate * duration
  injected : plan.injectedMass = plan.count * spec.representedMassPerParcel
  balance : committed.residualMass + plan.requestedMass =
    plan.count * spec.representedMassPerParcel + plan.residualMass
  residual : 0 ≤ plan.residualMass ∧ plan.residualMass < spec.representedMassPerParcel
  room : committed.nextOrdinal.toNat + plan.count ≤ maxU64

variable [IsStrictOrderedRing F] [FloorRing F]

lemma planInjection_balances {duration : F} {plan : InjectionPlan F}
    (hrange : ResidualInRange inj.spec inj.committed) (h : inj.planInjection duration = .ok plan) :
    PlanBalances inj.spec inj.committed duration plan := by
  have hpos : 0 < inj.spec.representedMassPerParcel := hrange.1.trans_lt hrange.2
  have hordinal := inj.committed.nextOrdinal.toNat_lt
  simp only [DeterministicInjector.planInjection] at h
  set represented := inj.spec.representedMassPerParcel with hrepresented
  set available := inj.committed.residualMass + inj.spec.massFlowRate * duration with havail
  have hfloor := Int.fract_div_mul_self_add_zsmul_eq represented available hpos.ne'
  have hfract := Int.fract_div_mul_self_mem_Ico represented available hpos
  rw [zsmul_eq_mul] at hfloor
  split at h
  · cases h
  split at h
  · cases h
  rename_i hcount
  simp only [Bool.or_eq_true, decide_eq_true_eq, not_or, not_lt, Int.cast_nonneg_iff] at hcount
  have hcast : ((⌊(⌊available / represented⌋ : F)⌋.toNat : ℕ) : F) = ⌊available / represented⌋ := by
    rw [Int.floor_intCast, ← Int.cast_natCast, Int.toNat_of_nonneg hcount.1.1.2]
  have hres : available - ⌊available / represented⌋ * represented =
      Int.fract (available / represented) * represented := by
    rw [sub_eq_iff_eq_add]
    exact hfloor.symm
  -- The exact residual is never negative, so the tolerance is not needed.
  have hclamp : ¬ (Int.fract (available / represented) * represented < 0 ∧
      -(8 * doubleEpsilon * max |available| (max |⌊available / represented⌋ * represented| |represented|)) ≤
        Int.fract (available / represented) * represented) :=
    fun hneg => absurd hneg.1 (not_lt.mpr hfract.1)
  split at h
  · cases h
  split at h
  · cases h
  rename_i hroom
  rw [hcast, hres, if_neg hclamp] at h
  split at h
  · cases h
  split at h
  · cases h
  obtain rfl := Except.ok.inj h
  refine ⟨rfl, by rw [hcast], ?_, hfract, ?_⟩
  · rw [hcast, add_comm (_ * represented)]
    exact hfloor.symm
  · simp only [maxU64] at hroom ⊢
    omega

omit [IsStrictOrderedRing F] in
lemma planInjection_error {duration requestedMass : F} {status : InjectionStatus}
    (h : inj.planInjection duration = .error (status, requestedMass)) : status ≠ .success := by
  simp only [DeterministicInjector.planInjection] at h
  split_ifs at h <;> cases h <;> simp

omit [IsStrictOrderedRing F] [FloorRing F] in
lemma fillCandidates_spec (parcelOf : UInt64 → SprayParcelState F) (nextOrdinal : UInt64)
    {index count : ℕ} {candidates result : ParcelSoASnapshot F} {scratch ids : List ParcelId}
    (hc : candidates.consistent = true) (hsize : index + count ≤ candidates.size)
    (h : fillCandidates parcelOf nextOrdinal index candidates scratch count = some (result, ids)) :
    result.consistent = true ∧ result.size = candidates.size ∧
    (∀ j < index, result.row j = candidates.row j) ∧
    ∀ j, index ≤ j → j < index + count →
      result.parcelAt j = parcelOf (nextOrdinal + UInt64.ofNat j) := by
  induction count generalizing index candidates scratch with
  | zero =>
    obtain ⟨rfl, -⟩ : candidates = result ∧ scratch = ids := by simpa [fillCandidates] using h
    exact ⟨hc, rfl, fun _ _ => rfl, fun j hj hj' => by omega⟩
  | succ count ih =>
    rw [fillCandidates] at h
    split at h
    · cases h
    have hwrite := writeParcel_writes hc (show index < candidates.size by omega)
      (parcelOf (nextOrdinal + UInt64.ofNat index))
    obtain ⟨hconsis, hresult, hbefore, hfilled⟩ :=
      ih hwrite.consistent (by rw [hwrite.size]; omega) h
    refine ⟨hconsis, hresult.trans hwrite.size, ?_, ?_⟩
    · intro j hj
      rw [hbefore j (by omega), hwrite.row, if_neg (by omega)]
    · intro j hj hj'
      rcases Nat.eq_or_lt_of_le hj with rfl | hlt
      · have hrow := hbefore index (by omega)
        rw [hwrite.row, if_pos rfl] at hrow
        exact congrArg (fun row => row.2.parcel) hrow
      · exact hfilled j hlt (by omega)

/-- The candidates are the parcels of `count` consecutive ordinals. -/
def CandidatesOf (inj : DeterministicInjector F) (firstOrdinal : UInt64) (count : ℕ) : Prop :=
  inj.candidates.consistent = true ∧ inj.candidates.size = count ∧
  ∃ acceptedStep multiplicity, ∀ j < count, inj.candidates.parcelAt j =
    injectedParcel inj.spec acceptedStep multiplicity (firstOrdinal + UInt64.ofNat j)

omit [IsStrictOrderedRing F] [FloorRing F] in
lemma makeCandidates_spec {acceptedStep : UInt64} {count : ℕ} {multiplicity : F} {candidates : ParcelSoASnapshot F}
    {scratch : List ParcelId} (h : inj.makeCandidates acceptedStep count multiplicity = some (candidates, scratch)) :
    candidates.consistent = true ∧ candidates.size = count ∧
    ∀ j < count, candidates.parcelAt j =
      injectedParcel inj.spec acceptedStep multiplicity (inj.committed.nextOrdinal + UInt64.ofNat j) := by
  rw [DeterministicInjector.makeCandidates] at h
  split at h
  · cases h
  rename_i filled ids hfill
  dsimp only at h
  split at h
  · cases h
  obtain ⟨rfl, -⟩ : filled = candidates ∧ _ = scratch := by simpa using h
  obtain ⟨hconsis, hsize, -, hfilled⟩ :=
    fillCandidates_spec _ _ (consistent_resizeArrays _ _) (by simp) hfill
  refine ⟨hconsis, by rw [hsize, size_resizeArrays], fun j hj => ?_⟩
  exact hfilled j (Nat.zero_le _) (by omega)

/-- `inj'` differs from `inj` in the candidates and the report only. -/
def SameAccepted (inj inj' : DeterministicInjector F) : Prop :=
  inj' = { inj with
    candidates := inj'.candidates, candidateIdScratch := inj'.candidateIdScratch, report := inj'.report }

structure TrialOpened (inj : DeterministicInjector F) (duration : F)
    (r : DeterministicInjector F × InjectionReport F) : Prop where
  configured : inj.configured = true
  idle : inj.trialActive = false
  state : SameAccepted { inj with
    trialState := ⟨r.2.residualMassAfter, r.2.nextOrdinal⟩, trialActive := true } r.1
  before : r.2.residualMassBefore = inj.committed.residualMass
  requested : r.2.requestedMass = inj.spec.massFlowRate * duration
  injected : r.2.injectedMass = r.2.parcelCount * inj.spec.representedMassPerParcel
  balance : r.2.residualMassBefore + r.2.requestedMass =
    r.2.parcelCount * inj.spec.representedMassPerParcel + r.2.residualMassAfter
  residual : 0 ≤ r.2.residualMassAfter ∧ r.2.residualMassAfter < inj.spec.representedMassPerParcel
  first : r.2.firstOrdinal = inj.committed.nextOrdinal
  next : r.2.nextOrdinal = inj.committed.nextOrdinal + UInt64.ofNat r.2.parcelCount
  room : inj.committed.nextOrdinal.toNat + r.2.parcelCount ≤ maxU64
  candidates : CandidatesOf r.1 inj.committed.nextOrdinal r.2.parcelCount

theorem beginTrial_cases (inj : DeterministicInjector F) (acceptedStep : UInt64) (duration : F)
    (hrange : inj.configured = true → ResidualInRange inj.spec inj.committed) :
    let r := inj.beginTrial acceptedStep duration
    (r.2.status ≠ .success ∧ SameAccepted inj r.1) ∨
      (r.2.status = .success ∧ TrialOpened inj duration r) := by
  intro r
  have hr : r = inj.beginTrial acceptedStep duration := rfl
  clear_value r
  rw [DeterministicInjector.beginTrial] at hr
  by_cases hconf : inj.configured = true
  swap
  · rw [if_pos (by simpa using hconf)] at hr
    subst hr
    exact .inl ⟨by simp, rfl⟩
  rw [if_neg (by simp [hconf])] at hr
  by_cases hactive : inj.trialActive = true
  · rw [if_pos hactive] at hr
    subst hr
    exact .inl ⟨by simp, rfl⟩
  rw [if_neg hactive] at hr
  have hrep := hrange hconf
  have hidle : inj.trialActive = false := by simpa using hactive
  dsimp only at hr
  split_ifs at hr with hinput hzero
  · subst hr
    exact .inl ⟨by simp [DeterministicInjector.answer], rfl⟩
  · subst hr
    refine .inr ⟨rfl, ⟨hconf, hidle, rfl, rfl, ?_, ?_, ?_, hrep, rfl, ?_, ?_, ?_⟩⟩
    · rcases hzero with hduration | hrate
      · rw [hduration, mul_zero]
        rfl
      · rw [show inj.spec.massFlowRate = 0 from hrate, zero_mul]
        rfl
    · simp [DeterministicInjector.answer, baseReport]
    · simp [DeterministicInjector.answer, baseReport]
    · simp [DeterministicInjector.answer, baseReport, DeterministicInjector.clearCandidates]
    · have hordinal := inj.committed.nextOrdinal.toNat_lt
      simp only [DeterministicInjector.answer, baseReport, maxU64]
      omega
    · exact ⟨consistent_resizeArrays _ _, size_resizeArrays _ _, 0, 0, fun j hj => absurd hj (Nat.not_lt_zero j)⟩
  · split at hr
    · rename_i status requestedMass hplan
      subst hr
      exact .inl ⟨planInjection_error hplan, rfl⟩
    · rename_i plan hplan
      have hbal := planInjection_balances hrep hplan
      split at hr
      · subst hr
        exact .inl ⟨by simp [DeterministicInjector.answer], rfl⟩
      · rename_i candidates scratch hmade
        obtain ⟨hconsis, hsize, hparcels⟩ := makeCandidates_spec hmade
        subst hr
        exact .inr ⟨rfl, ⟨hconf, hidle, rfl, rfl, hbal.requested, hbal.injected, hbal.balance,
          hbal.residual, rfl, rfl, hbal.room, hconsis, hsize, acceptedStep, _, hparcels⟩⟩

omit [IsStrictOrderedRing F] [FloorRing F]

/-- The state `configure` leaves. -/
def configuredWith (inj : DeterministicInjector F) (spec : InjectorSpec F)
    (initialState : InjectorCommittedState F) : DeterministicInjector F :=
  { inj with
    spec := spec, committed := initialState, trialState := initialState
    candidates := inj.candidates.resizeArrays 0, candidateIdScratch := [], configured := true
    report := baseReport spec initialState 0 }

lemma configure_cases (inj : DeterministicInjector F) (spec : InjectorSpec F)
    (initialState : InjectorCommittedState F) :
    let r := inj.configure spec initialState
    (r.2.isOk = false ∧ r.1 = inj) ∨
      (r.2.isOk = true ∧ inj.trialActive = false ∧ validInjectorSpec spec initialState = true ∧
        r.1 = configuredWith inj spec initialState) := by
  simp only [DeterministicInjector.configure]
  split_ifs with hactive hinvalid
  · exact .inl ⟨rfl, rfl⟩
  · exact .inl ⟨rfl, rfl⟩
  · exact .inr ⟨rfl, by simpa using hactive, by simpa using hinvalid, rfl⟩

lemma stageRestore_cases (inj : DeterministicInjector F) (state : InjectorCommittedState F) :
    let r := inj.stageRestore state
    (r.2.isOk = false ∧ r.1 = inj) ∨
      (r.2.isOk = true ∧ inj.configured = true ∧ inj.trialActive = false ∧
        validInjectorSpec inj.spec state = true ∧
        r.1 = { inj with trialState := state, report := default, trialActive := true }) := by
  simp only [DeterministicInjector.stageRestore]
  split_ifs with hconf hactive hinvalid
  · exact .inl ⟨rfl, rfl⟩
  · exact .inl ⟨rfl, rfl⟩
  · exact .inl ⟨rfl, rfl⟩
  · exact .inr ⟨rfl, by simpa using hconf, by simpa using hactive, by simpa using hinvalid, rfl⟩

lemma commitTrial_cases (inj : DeterministicInjector F) :
    let r := inj.commitTrial
    (r.2.isOk = false ∧ r.1 = inj) ∨
      (r.2.isOk = true ∧ inj.trialActive = true ∧ r.1 = { inj with
        committed := inj.trialState, candidates := inj.candidates.resizeArrays 0,
        candidateIdScratch := [], trialActive := false }) := by
  intro r
  by_cases h : inj.trialActive = true
  · have hready : inj.preflightCommit = {} := by simp [DeterministicInjector.preflightCommit, h]
    have hr : r = (inj.publishPreflightedTrial, {}) := by
      rw [show r = inj.commitTrial from rfl, DeterministicInjector.commitTrial, hready]
      rfl
    exact .inr ⟨by rw [hr]; rfl, h, by rw [hr]; rfl⟩
  · have hr : r = (inj, inj.preflightCommit) := by
      simp [r, DeterministicInjector.commitTrial, DeterministicInjector.preflightCommit, h, parcelFailure]
    exact .inl ⟨by rw [hr]; simp [DeterministicInjector.preflightCommit, h, parcelFailure, Status.isOk], by rw [hr]⟩

lemma rollbackTrial_cases (inj : DeterministicInjector F) :
    let r := inj.rollbackTrial
    (r.2.isOk = false ∧ r.1 = inj) ∨
      (r.2.isOk = true ∧ inj.trialActive = true ∧ r.1 = { inj with
        trialState := inj.committed, candidates := inj.candidates.resizeArrays 0,
        candidateIdScratch := [], trialActive := false }) := by
  simp only [DeterministicInjector.rollbackTrial]
  by_cases h : inj.trialActive = true
  · rw [if_neg (by simp [h])]
    exact .inr ⟨rfl, h, rfl⟩
  · rw [if_pos (by simp [h])]
    exact .inl ⟨rfl, rfl⟩

end HundunFlow.Proofs
