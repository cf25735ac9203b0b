import HundunFlow.SprayAttempt
import HundunFlow.Proofs.FinishAgreement
import HundunFlow.Proofs.InjectorLedger

/-!
# A spray attempt ends in one way on all ranks

A rank hands in success exactly when its parcels and its injectors can be published; the gas
transaction then decides for all ranks, and nothing that follows the decision can fail.
-/

namespace HundunFlow.Proofs

open Lib List

variable {F : Type}

variable (injectors : ℕ → DeterministicInjector F) (s : SprayRank F)

variable (span : InjectorSpan)

variable (localStatus : RawStatus)

lemma raw_code_iff (s : Status) : s.raw.code = 0 ↔ s.isOk = true := by
  rcases s with ⟨code, detail⟩
  cases code <;> simp [Status.raw, StatusCode.toWire]

lemma includeFailure_ok_iff (candidate : Status) (localStatus : RawStatus) :
    (includeFailure candidate localStatus).code = 0 ↔ candidate.isOk = true ∧ localStatus.code = 0 := by
  unfold includeFailure
  dsimp only
  split_ifs with h
  · simp only [Bool.and_eq_true, Bool.not_eq_true'] at h
    rw [raw_code_iff, h.1]
    simp
  · constructor
    · intro hcode
      refine ⟨?_, hcode⟩
      by_contra hfailed
      exact h (by simp [hcode, hfailed])
    · exact fun hboth => hboth.2

lemma duplicates_ok_iff (entry : Option ℕ) (before : List (Option ℕ)) (localStatus : RawStatus) :
    (before.foldl (fun localStatus earlier =>
      if earlier = entry then includeFailure ⟨.invalidPlan, 26202⟩ localStatus else localStatus)
        localStatus).code = 0 ↔ entry ∉ before ∧ localStatus.code = 0 := by
  induction before generalizing localStatus with
  | nil => simp
  | cons earlier before ih =>
    rw [foldl_cons, ih]
    by_cases h : earlier = entry
    · rw [if_pos h, includeFailure_ok_iff]
      simp [h, Status.isOk]
    · rw [if_neg h]
      simp [Ne.symm h]

def Publishable (injectors : ℕ → DeterministicInjector F) (entry : Option ℕ) : Prop :=
  ∃ ref, entry = some ref ∧ (injectors ref).trialActive = true

lemma injector_preflight_ok_iff (injector : DeterministicInjector F) :
    injector.preflightCommit.isOk = true ↔ injector.trialActive = true := by
  unfold DeterministicInjector.preflightCommit
  cases injector.trialActive <;> simp [parcelFailure]

lemma checkInjector_ok_iff (before : List (Option ℕ)) (entry : Option ℕ) (localStatus : RawStatus) :
    (checkInjector injectors before entry localStatus).code = 0 ↔
      Publishable injectors entry ∧ entry ∉ before ∧ localStatus.code = 0 := by
  unfold checkInjector Publishable
  cases entry with
  | none => simp [includeFailure_ok_iff, Status.isOk]
  | some ref =>
    rw [includeFailure_ok_iff, duplicates_ok_iff, injector_preflight_ok_iff]
    simp

lemma checkInjectors_ok_iff (rest before : List (Option ℕ)) (localStatus : RawStatus) :
    (checkInjectors injectors before rest localStatus).code = 0 ↔
      (∀ entry ∈ rest, Publishable injectors entry ∧ entry ∉ before) ∧ rest.Nodup ∧ localStatus.code = 0 := by
  induction rest generalizing before localStatus with
  | nil => simp [checkInjectors]
  | cons entry rest ih =>
    rw [checkInjectors, ih, checkInjector_ok_iff]
    simp only [mem_append, not_or, mem_cons, not_mem_nil, or_false, forall_eq_or_imp, nodup_cons]
    constructor
    · rintro ⟨hrest, hnodup, hentry, hbefore, hcode⟩
      exact ⟨⟨⟨hentry, hbefore⟩, fun other h => ⟨(hrest other h).1, (hrest other h).2.1⟩⟩,
        ⟨fun h => (hrest entry h).2.2 rfl, hnodup⟩, hcode⟩
    · rintro ⟨⟨hentry, hrest⟩, ⟨hfresh, hnodup⟩, hcode⟩
      refine ⟨fun other h => ⟨(hrest other h).1, (hrest other h).2, ?_⟩, hnodup, hentry.1, hentry.2, hcode⟩
      intro hsame
      exact hfresh (hsame ▸ h)

section Loops

variable (f : DeterministicInjector F → DeterministicInjector F) (entries : List (Option ℕ))
  (injectors : ℕ → DeterministicInjector F)

lemma forEachInjector_apply (ref : ℕ) :
    forEachInjector f entries injectors ref = f^[entries.count (some ref)] (injectors ref) := by
  unfold forEachInjector
  induction entries generalizing injectors with
  | nil => rfl
  | cons entry entries ih =>
    rw [foldl_cons, ih]
    cases entry with
    | none => simp
    | some other =>
      dsimp only
      by_cases h : other = ref
      · subst h
        simp
      · rw [count_cons_of_ne (by simpa using h), Function.update_of_ne (Ne.symm h)]

end Loops

structure SprayReady (s : SprayRank F) (span : InjectorSpan) (localStatus : RawStatus) : Prop where
  caller : localStatus.code = 0
  parcels : s.parcels.preflightCommit.isOk = true
  valid : span.isValid = true
  injectors : ∀ entry ∈ span.entries, Publishable s.injectors entry
  once : span.entries.Nodup
  gas : LocallyReady s.gas.transaction s.gas.attempt.current s.gas.readyForCollective localStatus

lemma preflight_ok_iff :
    (s.preflight span localStatus).code = 0 ↔ localStatus.code = 0 ∧ s.parcels.preflightCommit.isOk = true ∧
      span.isValid = true ∧ (∀ entry ∈ span.entries, Publishable s.injectors entry) ∧ span.entries.Nodup := by
  unfold SprayRank.preflight
  dsimp only
  cases hvalid : span.isValid with
  | false => simp [includeFailure_ok_iff, Status.isOk]
  | true =>
    rw [if_neg (by simp), checkInjectors_ok_iff, includeFailure_ok_iff]
    simp only [not_mem_nil, not_false_eq_true, and_true, true_and]
    tauto

lemma sprayReady_iff : (s.gas.transaction.readiness s.gas.attempt.current s.gas.readyForCollective
      (s.preflight span localStatus)).code = .ok ↔ SprayReady s span localStatus := by
  rw [readiness_ok_iff]
  constructor
  · intro h
    obtain ⟨hcaller, hparcels, hspan, hinj, honce⟩ := (preflight_ok_iff s span localStatus).mp h.caller
    exact ⟨hcaller, hparcels, hspan, hinj, honce,
      ⟨h.active, hcaller, h.attempt, h.writer, h.published, h.revised, h.bound⟩⟩
  · intro h
    exact ⟨h.gas.active,
      (preflight_ok_iff s span localStatus).mpr ⟨h.caller, h.parcels, h.valid, h.injectors, h.once⟩,
      h.gas.attempt, h.gas.writer, h.gas.published, h.gas.revised, h.gas.bound⟩

variable [Field F] [LinearOrder F] [SprayMath F]

section Rank

variable (span : InjectorSpan) (s : SprayRank F)

/-- Everything on this rank is published. -/
structure SprayCommitted (span : InjectorSpan) (s : SprayRank F) (r : SprayFinish F) : Prop where
  report : r.report = { committed := true }
  status : r.status = {}
  gas : r.rank.gas = { s.gas with attempt := acceptedState s.gas.attempt }.completions
    (s.gas.transaction.completion true)
  parcels : r.rank.parcels = s.parcels.publishPreflightedTrial
  injectors : ∀ ref, r.rank.injectors ref =
    if some ref ∈ span.entries then (s.injectors ref).publishPreflightedTrial else s.injectors ref

/-- Nothing that is committed on this rank has changed, and no trial is left. -/
structure SprayRolledBack (span : InjectorSpan) (s : SprayRank F) (r : SprayFinish F) : Prop where
  report : r.report.committed = false
  status : r.status.isOk = false ∧ r.report.status = r.status
  gas : ∃ lowest, r.rank.gas = { s.gas with attempt := discardedState s.gas.attempt lowest }.completions
    (s.gas.transaction.completion false)
  layers : r.rank.gas.attempt.layers = s.gas.attempt.layers
  caches : r.rank.gas.transaction.activeCaches = s.gas.transaction.activeCaches
  rejected : r.rank.gas.transaction.active = false ∧ r.rank.gas.transaction.committed = false
  parcels : r.rank.parcels.committed = s.parcels.committed ∧ r.rank.parcels.trialActive = false
  listed : ∀ ref, some ref ∈ span.entries → (r.rank.injectors ref).committed = (s.injectors ref).committed ∧
    (r.rank.injectors ref).trialActive = false
  unlisted : ∀ ref, some ref ∉ span.entries → r.rank.injectors ref = s.injectors ref

def rolledBack (injector : DeterministicInjector F) : DeterministicInjector F :=
  if injector.trialActive then injector.rollbackTrial.1 else injector

variable (injector : DeterministicInjector F)

lemma rolledBack_spec :
    (rolledBack injector).committed = injector.committed ∧ (rolledBack injector).trialActive = false := by
  unfold rolledBack DeterministicInjector.rollbackTrial
  cases h : injector.trialActive with
  | false => simp [h]
  | true => simp [DeterministicInjector.clearCandidates]

lemma rolledBack_iterate (count : ℕ) : (rolledBack^[count] injector).committed = injector.committed ∧
      (0 < count → (rolledBack^[count] injector).trialActive = false) := by
  induction count with
  | zero => exact ⟨rfl, fun h => absurd h (lt_irrefl 0)⟩
  | succ count ih =>
    rw [Function.iterate_succ_apply']
    exact ⟨(rolledBack_spec _).1.trans ih.1, fun _ => (rolledBack_spec _).2⟩

lemma finishPrepared_committed {localStatus : RawStatus} (hready : SprayReady s span localStatus) :
    SprayCommitted span s (s.finishPrepared span
      ⟨{}, s.gas.transaction, s.gas.transaction.certificate .accept {} (-1), []⟩) := by
  have hactive : s.gas.attempt.transaction.locallyActive = true := (locallyActive_iff _).mpr hready.gas.active
  have hcommit := commitAccept_certificate s.gas.attempt hactive
  have hresult : s.finishPrepared span
      ⟨{}, s.gas.transaction, s.gas.transaction.certificate .accept {} (-1), []⟩ =
        ⟨(s.afterCommit (s.gas.attempt.commitAccept
          (s.gas.attempt.transaction.certificate .accept {} (-1)))).publish span, { committed := true }, {}⟩ := rfl
  rw [hresult, hcommit]
  refine ⟨rfl, rfl, rfl, rfl, fun ref => ?_⟩
  refine (forEachInjector_apply _ span.entries s.injectors ref).trans ?_
  split_ifs with hlisted
  · rw [count_eq_one_of_mem hready.once hlisted]
    rfl
  · rw [count_eq_zero_of_not_mem hlisted]
    rfl

lemma rollback_spec :
    ((s.rollback span).parcels.committed = s.parcels.committed ∧ (s.rollback span).parcels.trialActive = false) ∧
      (∀ ref, some ref ∈ span.entries → ((s.rollback span).injectors ref).committed = (s.injectors ref).committed ∧
        ((s.rollback span).injectors ref).trialActive = false) ∧
      ∀ ref, some ref ∉ span.entries → (s.rollback span).injectors ref = s.injectors ref := by
  have hinj : ∀ ref, (s.rollback span).injectors ref =
      rolledBack^[span.entries.count (some ref)] (s.injectors ref) := by
    intro ref
    cases hvalid : span.isValid with
    | true =>
      have hloop : (s.rollback span).injectors = forEachInjector rolledBack span.entries s.injectors := if_pos hvalid
      rw [hloop, forEachInjector_apply]
    | false =>
      have hkept : (s.rollback span).injectors = s.injectors := if_neg (by simp [hvalid])
      have hnull : span.entries = [] := by
        unfold InjectorSpan.isValid at hvalid
        unfold InjectorSpan.entries
        cases hdata : span.data with
        | none => rfl
        | some data => simp [hdata] at hvalid
      rw [hkept, hnull]
      rfl
  refine ⟨?_, fun ref hlisted => ?_, fun ref hlisted => ?_⟩
  · have hparcels : (s.rollback span).parcels =
        if s.parcels.trialActive then s.parcels.rollbackTrial.1 else s.parcels := rfl
    rw [hparcels]
    cases hactive : s.parcels.trialActive with
    | false => exact ⟨rfl, hactive⟩
    | true => simp [ParcelContainer.rollbackTrial, hactive, ParcelContainer.discardTrial]
  · rw [hinj ref]
    have hspec := rolledBack_iterate (s.injectors ref) (span.entries.count (some ref))
    exact ⟨hspec.1, hspec.2 (count_pos_iff.mpr hlisted)⟩
  · rw [hinj ref, count_eq_zero_of_not_mem hlisted]
    rfl

lemma finishPrepared_rolledBack {outcome : Status} (hfailed : outcome.isOk = false) (lowest : ℤ) :
    (s.finishPrepared span
      ⟨{}, s.gas.transaction, s.gas.transaction.certificate .reject outcome lowest, []⟩).status = outcome ∧
    SprayRolledBack span s (s.finishPrepared span
      ⟨{}, s.gas.transaction, s.gas.transaction.certificate .reject outcome lowest, []⟩) := by
  have hcommit := commitReject_certificate s.gas.attempt outcome lowest
  have hresult : s.finishPrepared span
      ⟨{}, s.gas.transaction, s.gas.transaction.certificate .reject outcome lowest, []⟩ =
        ⟨(s.afterCommit (s.gas.attempt.commitReject
            (s.gas.attempt.transaction.certificate .reject outcome lowest))).rollback span,
          { status := outcome, lowestFailingRank := lowest }, outcome⟩ := rfl
  rw [hresult, hcommit]
  obtain ⟨hparcels, hlisted, hunlisted⟩ := rollback_spec span (s.afterCommit _)
  have hattempt : (({ s.gas with attempt := discardedState s.gas.attempt lowest } : FluxWorld F).completions
      (s.gas.transaction.completion false)).attempt = discardedState s.gas.attempt lowest :=
    completions_attempt _ _
  have hlayers := congrArg Attempt.layers hattempt
  have hcaches := congrArg (fun a => a.transaction.activeCaches) hattempt
  have hrej := congrArg (fun a => a.transaction.active) hattempt
  have hcommitted := congrArg (fun a => a.transaction.committed) hattempt
  exact ⟨rfl, rfl, ⟨hfailed, rfl⟩, ⟨lowest, rfl⟩, hlayers, hcaches, ⟨hrej, hcommitted⟩, hparcels, hlisted,
    hunlisted⟩

end Rank

section Ranks

variable {n : ℕ} (hn : 0 < n) (hsize : n < 2 ^ 31) (s : Fin n → SprayRank F) (span : Fin n → InjectorSpan)
  (localStatus : Fin n → RawStatus)

end Ranks

/-- A rank with parcels on trial, and one injector of two. -/
def sampleSpray : SprayRank ℚ where
  gas := { attempt := { transaction := { active := true, layers := some 0 } }, memory := fun _ => 0 }
  parcels := { trialActive := true }
  injectors := fun ref => { (default : DeterministicInjector ℚ) with trialActive := ref = 0 }

end HundunFlow.Proofs
