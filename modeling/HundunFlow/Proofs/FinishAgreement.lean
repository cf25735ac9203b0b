import HundunFlow.FluxRun

/-!
# All ranks take the same decision

Every rank brings a status to `collective_finish`; the reduction over `failure_selection_key`
picks the rank that speaks, and the broadcast hands its status to everybody.
-/

namespace HundunFlow.Proofs

open Lib List

structure LocallyReady (t : AttemptTransaction) (layers : StateLayers) (writerReady : Bool)
    (localStatus : RawStatus) : Prop where
  active : t.active = true ∧ t.layers ≠ none
  caller : localStatus.code = 0
  attempt : t.attemptStatus.code = .ok
  writer : t.finalFaceFluxWriter = true → writerReady = true
  published : ∀ slot, t.requiredPendingCaches.getD slot false = true → t.pendingCaches.getD slot 0 ≠ 0
  revised : ∀ field < t.revisedFields.length, layers.isStateField field = true →
    t.revisedFields.getD field false = true
  bound : ∀ dependencies ∈ t.pendingDependencies, ∀ d ∈ dependencies, d ∈ t.dependencyCatalog

section Readiness

variable (t : AttemptTransaction) (layers : StateLayers) (writerReady : Bool) (localStatus : RawStatus)

lemma locallyActive_iff : t.locallyActive = true ↔ t.active = true ∧ t.layers ≠ none := by
  simp [AttemptTransaction.locallyActive, Option.isSome_iff_ne_none]

lemma matchesAuthority_iff (d : RevisionDependency) : t.matchesAuthority d = true ↔ d ∈ t.dependencyCatalog := by
  unfold AttemptTransaction.matchesAuthority
  rw [any_eq_true]
  constructor
  · rintro ⟨⟨source, revision⟩, hmem, h⟩
    obtain ⟨rfl, rfl⟩ : source = d.source ∧ revision = d.revision := by simpa using h
    exact hmem
  · intro h
    exact ⟨d, h, by simp⟩

lemma missingRequiredCache_iff : t.missingRequiredCache = false ↔
    ∀ slot, t.requiredPendingCaches.getD slot false = true → t.pendingCaches.getD slot 0 ≠ 0 := by
  unfold AttemptTransaction.missingRequiredCache
  rw [any_eq_false]
  constructor
  · intro h slot hslot
    have hlt : slot < t.requiredPendingCaches.length := by
      by_contra hge
      rw [getD_eq_getElem?_getD, List.getElem?_eq_none (not_lt.mp hge)] at hslot
      exact nomatch hslot
    have := h slot (mem_range.mpr hlt)
    rw [hslot] at this
    simpa using this
  · intro h slot _
    have := h slot
    simp only [Bool.and_eq_true, decide_eq_true_eq, not_and]
    exact this

lemma unrevisedStateField_iff : t.unrevisedStateField layers = false ↔
    ∀ field < t.revisedFields.length, layers.isStateField field = true →
      t.revisedFields.getD field false = true := by
  unfold AttemptTransaction.unrevisedStateField
  simp [any_eq_false]

lemma staleDependency_iff : t.staleDependency = false ↔
    ∀ dependencies ∈ t.pendingDependencies, ∀ d ∈ dependencies, d ∈ t.dependencyCatalog := by
  unfold AttemptTransaction.staleDependency
  simp [any_eq_false, matchesAuthority_iff]

lemma orElse_ok_iff (fallback : Status) (hf : fallback.code ≠ .ok) :
    (localStatus.orElse fallback).code = .ok ↔ localStatus.code = 0 := by
  unfold RawStatus.orElse validStatusCode
  constructor
  · intro h
    have hzero : localStatus.code.toNat = 0 := by
      revert h
      generalize localStatus.code.toNat = c
      match c with
      | 0 => simp
      | 1 | 2 | 3 | 4 | 5 | 6 | 7 => simp [StatusCode.ofWire]
      | _ + 8 => simp [StatusCode.ofWire, hf]
    exact UInt16.toNat_inj.mp hzero
  · intro h
    simp [h, StatusCode.ofWire]

/-- The status a rank brings is `ok` exactly when the rank is ready. -/
theorem readiness_ok_iff : (t.readiness layers writerReady localStatus).code = .ok ↔
    LocallyReady t layers writerReady localStatus := by
  have hs := orElse_ok_iff localStatus ⟨.invalidPlan, kTransactionState⟩ (by simp)
  have hready : LocallyReady t layers writerReady localStatus ↔
      t.locallyActive = true ∧ localStatus.code = 0 ∧ t.attemptStatus.code = .ok ∧
      (t.finalFaceFluxWriter = true → writerReady = true) ∧ t.missingRequiredCache = false ∧
      t.unrevisedStateField layers = false ∧ t.staleDependency = false := by
    rw [locallyActive_iff, missingRequiredCache_iff, unrevisedStateField_iff, staleDependency_iff]
    exact ⟨fun h => ⟨h.1, h.2, h.3, h.4, h.5, h.6, h.7⟩,
      fun ⟨h1, h2, h3, h4, h5, h6, h7⟩ => ⟨h1, h2, h3, h4, h5, h6, h7⟩⟩
  rw [hready]
  unfold AttemptTransaction.readiness
  generalize localStatus.orElse _ = s at hs ⊢
  by_cases hactive : t.locallyActive = true
  · by_cases hattempt : t.attemptStatus.code = .ok
    · by_cases hcaller : localStatus.code = 0
      · have hcode := hs.mpr hcaller
        simp only [hactive, hattempt, hcode, hcaller, Bool.not_true, Bool.false_eq_true, if_false,
          ne_eq, not_true_eq_false, decide_false, decide_true, Bool.and_false, Bool.and_true,
          Bool.true_and, true_and]
        cases t.finalFaceFluxWriter <;> cases writerReady <;> cases t.missingRequiredCache <;>
          cases t.unrevisedStateField layers <;> cases t.staleDependency <;> simp [hcode]
      · have hcode : s.code ≠ .ok := mt hs.mp hcaller
        simp [hactive, hattempt, hcode, hcaller]
    · simp [hactive, hattempt]
  · simp [hactive]

end Readiness

variable (rank : ℕ)

lemma failureSelectionKey_ok : failureSelectionKey rank .ok = maxU64 := rfl

lemma failureSelectionKey_eq (hrank : rank < 2 ^ 31) (code : StatusCode) (hc : code ≠ .ok) :
    failureSelectionKey rank code = (if code.retryable then 2 ^ 32 else 0) + rank := by
  unfold failureSelectionKey
  rw [if_neg hc, ← Nat.shiftLeft_add_eq_or_of_lt (by omega : rank < 2 ^ 32)]
  split <;> rfl

lemma failureSelectionKey_lt (hrank : rank < 2 ^ 31) (code : StatusCode) (hc : code ≠ .ok) :
    failureSelectionKey rank code < 2 ^ 33 := by
  rw [failureSelectionKey_eq rank hrank code hc]
  split <;> omega

lemma failureSelectionKey_max_iff (hrank : rank < 2 ^ 31) (code : StatusCode) :
    failureSelectionKey rank code = maxU64 ↔ code = .ok := by
  constructor
  · intro h
    by_contra hc
    have := failureSelectionKey_lt rank hrank code hc
    rw [h] at this
    exact nomatch this
  · rintro rfl
    rfl

lemma failureSelectionKey_le (hrank : rank < 2 ^ 31) (code : StatusCode) :
    failureSelectionKey rank code ≤ maxU64 := by
  by_cases hc : code = .ok
  · rw [hc, failureSelectionKey_ok]
  · have := failureSelectionKey_lt rank hrank code hc
    have : (2 : ℕ) ^ 33 ≤ maxU64 := by decide
    omega

section Ranks

variable {n : ℕ} (hn : 0 < n) (hsize : n < 2 ^ 31)

/-- Rank `k` decides a rejection: it fails, no other failure is more severe, and no lower
rank has a failure of its severity. -/
def Speaks (status : Fin n → Status) (k : Fin n) : Prop :=
  (status k).code ≠ .ok ∧
  ((∃ j, (status j).code ≠ .ok ∧ (status j).code.retryable = false) →
    (status k).code.retryable = false) ∧
  ∀ j, (status j).code ≠ .ok → (status j).code.retryable = (status k).code.retryable → k ≤ j

def selectionKeys (status : Fin n → Status) (i : Fin n) : ℕ :=
  failureSelectionKey i (status i).code

variable (status : Fin n → Status)

include hsize in
lemma selected_max_iff : rankMin hn (selectionKeys status) = maxU64 ↔ ∀ i, (status i).code = .ok := by
  constructor
  · intro h i
    have hle := rankMin_le hn (selectionKeys status) i
    rw [h] at hle
    have hkey := failureSelectionKey_le i (i.isLt.trans hsize) (status i).code
    exact (failureSelectionKey_max_iff i (i.isLt.trans hsize) _).mp (le_antisymm hkey hle)
  · intro h
    apply rankMin_eq_of_forall
    intro i
    unfold selectionKeys
    rw [h i, failureSelectionKey_ok]

include hsize in
lemma selected_speaks (h : ¬ ∀ i, (status i).code = .ok) :
    ∃ k, Speaks status k ∧ rankMin hn (selectionKeys status) % 2 ^ 32 = k ∧
      rankMin hn (selectionKeys status) >>> 32 ≤ 1 ∧
      rankMin hn (selectionKeys status) ≠ maxU64 := by
  have hmax : rankMin hn (selectionKeys status) ≠ maxU64 :=
    mt (selected_max_iff hn hsize status).mp h
  obtain ⟨k, hk⟩ := exists_rankMin hn (selectionKeys status)
  have hbound : ∀ i : Fin n, (i : ℕ) < 2 ^ 31 := fun i => i.isLt.trans hsize
  have hfail : (status k).code ≠ .ok := by
    rw [hk] at hmax
    exact mt (failureSelectionKey_max_iff k (hbound k) _).mpr hmax
  have hkey : rankMin hn (selectionKeys status) =
      (if (status k).code.retryable then 2 ^ 32 else 0) + k := by
    rw [hk]
    exact failureSelectionKey_eq k (hbound k) _ hfail
  have hle : ∀ j, (status j).code ≠ .ok →
      (if (status k).code.retryable then 2 ^ 32 else 0) + (k : ℕ) ≤
        (if (status j).code.retryable then 2 ^ 32 else 0) + (j : ℕ) := by
    intro j hj
    rw [← hkey, ← failureSelectionKey_eq j (hbound j) _ hj]
    exact rankMin_le hn (selectionKeys status) j
  have hk31 := hbound k
  refine ⟨k, ⟨hfail, ?_, ?_⟩, ?_, ?_, hmax⟩
  · rintro ⟨j, hj, hsevere⟩
    have hkj := hle j hj
    have hj31 := hbound j
    by_contra hretry
    rw [Bool.not_eq_false] at hretry
    rw [hretry, hsevere] at hkj
    simp only [if_true, Bool.false_eq_true, if_false] at hkj
    omega
  · intro j hj hsame
    have hkj := hle j hj
    rw [hsame] at hkj
    exact Fin.le_def.mpr (by omega)
  · rw [hkey]
    split <;> omega
  · rw [hkey, Nat.shiftRight_eq_div_pow]
    split <;> omega

/-- The communicator as rank `i` sees it. -/
def rankComm (i : Fin n) : MpiComm := .valid ⟨n, i, i.isLt, hsize⟩

variable (a : Fin n → Attempt) (ready : Fin n → Bool) (localStatus : Fin n → RawStatus)

/-- The status rank `i` brings to the reduction. -/
def broughtStatus (i : Fin n) : Status :=
  (a i).transaction.readiness (a i).current (ready i) (localStatus i)

lemma prepare_accepts (h : ∀ i, (broughtStatus a ready localStatus i).code = .ok) : (mpiNetwork hn).Run
      (fun i => (a i).collectivePrepare (ready i) (rankComm hsize i) (localStatus i) {})
      [.allreduce .caller .min]
      (fun i => ⟨{}, (a i).transaction, (a i).transaction.certificate .accept {} (-1), []⟩) := by
  have hsel : rankMin hn (selectionKeys (broughtStatus a ready localStatus)) = maxU64 :=
    (selected_max_iff hn hsize _).mpr h
  have hsome : ∀ i, (a i).transaction.layers.isNone = false := by
    intro i
    have := ((readiness_ok_iff _ _ _ _).mp (h i)).active.2
    simpa [Option.isSome_iff_ne_none] using this
  have hrun := run_allreduce_min hn .caller
    (selectionKeys (broughtStatus a ready localStatus))
  have hrest := Network.Run.done (N := mpiNetwork hn)
    (fun i => (⟨{}, (a i).transaction, (a i).transaction.certificate .accept {} (-1), []⟩ : PrepareResult))
  refine Network.Run.bind hrun ?_
  simpa [hsel, hsome] using hrest

lemma prepare_rejects (k : Fin n)
    (hrank : rankMin hn (selectionKeys (broughtStatus a ready localStatus)) % 2 ^ 32 = k)
    (hseverity : rankMin hn (selectionKeys (broughtStatus a ready localStatus)) >>> 32 ≤ 1)
    (hmax : rankMin hn (selectionKeys (broughtStatus a ready localStatus)) ≠ maxU64) : (mpiNetwork hn).Run
      (fun i => (a i).collectivePrepare (ready i) (rankComm hsize i) (localStatus i) {})
      [.allreduce .caller .min, .bcast .caller k 2]
      (fun i => ⟨{}, (a i).transaction,
        (a i).transaction.certificate .reject (broughtStatus a ready localStatus k) k, []⟩) := by
  have hrun := run_allreduce_min hn .caller
    (selectionKeys (broughtStatus a ready localStatus))
  have hwire := run_bcast hn .caller k
    (fun i => if (i : ℕ) = k then (broughtStatus a ready localStatus i).toWire else [0, 0]) 2
    (fun i => by split <;> rfl)
  have hrest := Network.Run.done (N := mpiNetwork hn) (fun i => (⟨{}, (a i).transaction,
    (a i).transaction.certificate .reject (broughtStatus a ready localStatus k) k, []⟩ : PrepareResult))
  have hguard : ¬ (1 < rankMin hn (selectionKeys (broughtStatus a ready localStatus)) >>> 32 ∨
      n ≤ (k : ℕ)) := by
    have := k.isLt
    omega
  refine Network.Run.bind hrun ?_
  simp only [hmax, if_false, hrank, Bool.or_eq_true, decide_eq_true_eq, hguard]
  refine Network.Run.bind hwire ?_
  simpa using hrest

lemma matches_certificate (t : AttemptTransaction) (decision : AttemptFinishDecision) (outcome : Status)
    (lowest : ℤ) : t.matchesPrepared (t.certificate decision outcome lowest) = true := by
  simp [AttemptTransaction.matchesPrepared, AttemptTransaction.certificate, PreparedAttemptFinish.valid]

/-- The attempt machine after an acceptance. -/
def acceptedState (a : Attempt) : Attempt :=
  { a.setCurrent a.current.rotateCommit with
    transaction := { a.transaction with
      activeCaches := a.transaction.pendingCaches
      active := false
      layers := none
      finished := true
      committed := true
      lowestFailingRank := -1 } }

def discardedState (a : Attempt) (lowest : ℤ) : Attempt :=
  { a with transaction := { a.transaction.discardAttempt with lowestFailingRank := lowest } }

lemma commitAccept_certificate (a : Attempt) (h : a.transaction.locallyActive = true) :
    a.commitAccept (a.transaction.certificate .accept {} (-1)) =
      ⟨acceptedState a, { a.transaction.certificate .accept {} (-1) with consumed := true, isValid := false },
        a.transaction.completion true⟩ := by
  have hmatch := matches_certificate a.transaction .accept {} (-1)
  have hdec : (a.transaction.certificate .accept {} (-1)).decision = .accept := rfl
  unfold Attempt.commitAccept
  rw [if_neg (by simp [hmatch, hdec, h])]
  rfl

lemma commitReject_certificate (a : Attempt) (outcome : Status) (lowest : ℤ) :
    a.commitReject (a.transaction.certificate .reject outcome lowest) =
      ⟨discardedState a lowest,
        { a.transaction.certificate .reject outcome lowest with consumed := true, isValid := false },
        a.transaction.completion false⟩ := by
  have hmatch := matches_certificate a.transaction .reject outcome lowest
  unfold Attempt.commitReject
  rw [if_neg (by simp [hmatch])]
  rfl

lemma finishPrepared_accept (a : Attempt) (h : a.transaction.locallyActive = true) :
    a.finishPrepared ⟨{}, a.transaction, a.transaction.certificate .accept {} (-1), []⟩ =
      ⟨acceptedState a, {}, a.transaction.completion true⟩ := by
  have hdec : (a.transaction.certificate .accept {} (-1)).decision = .accept := rfl
  unfold Attempt.finishPrepared
  simp [commitAccept_certificate a h, hdec, Status.isOk]

lemma finishPrepared_reject (a : Attempt) (outcome : Status) (lowest : ℤ) :
    a.finishPrepared ⟨{}, a.transaction, a.transaction.certificate .reject outcome lowest, []⟩ =
      ⟨discardedState a lowest, outcome, a.transaction.completion false⟩ := by
  have hdec : (a.transaction.certificate .reject outcome lowest).decision = .reject := rfl
  have houtcome : (a.transaction.certificate .reject outcome lowest).outcome = outcome := rfl
  unfold Attempt.finishPrepared
  simp [commitReject_certificate, hdec, houtcome, Status.isOk]

lemma finish_run : ∃ trace r,
    (mpiNetwork hn).Run
      (fun i => (a i).collectiveFinish (ready i) (rankComm hsize i) (localStatus i)) trace r ∧
    ((∀ i, (broughtStatus a ready localStatus i).code = .ok) →
      ∀ i, r i = ⟨acceptedState (a i), {}, (a i).transaction.completion true⟩) ∧
    ((¬ ∀ i, (broughtStatus a ready localStatus i).code = .ok) →
      ∃ k, Speaks (broughtStatus a ready localStatus) k ∧
        ∀ i, r i = ⟨discardedState (a i) k, broughtStatus a ready localStatus k,
          (a i).transaction.completion false⟩) := by
  by_cases h : ∀ i, (broughtStatus a ready localStatus i).code = .ok
  · have hrun := prepare_accepts hn hsize a ready localStatus h
    refine ⟨_, _, Network.Run.bind hrun (.done _), fun _ i => ?_, fun hnot => absurd h hnot⟩
    have hready := (readiness_ok_iff _ _ _ _).mp (h i)
    exact finishPrepared_accept (a i) ((locallyActive_iff _).mpr hready.active)
  · obtain ⟨k, hspeaks, hrank, hseverity, hmax⟩ := selected_speaks hn hsize _ h
    have hrun := prepare_rejects hn hsize a ready localStatus k hrank hseverity hmax
    refine ⟨_, _, Network.Run.bind hrun (.done _), fun hall => absurd hall h, fun _ => ?_⟩
    exact ⟨k, hspeaks, fun i => finishPrepared_reject (a i) _ k⟩

variable {F : Type} (w : Fin n → FluxWorld F)

/-- Rank `i` is ready, with its own writer's answer. -/
def RankReady (i : Fin n) : Prop :=
  LocallyReady (w i).transaction (w i).attempt.current (w i).readyForCollective (localStatus i)

lemma completions_attempt (w : FluxWorld F) (calls : List Bool) : (w.completions calls).attempt = w.attempt := by
  have hstep : ∀ (w : FluxWorld F) (b : Bool), (w.completeFromTransaction b).attempt = w.attempt := by
    intro w b
    unfold FluxWorld.completeFromTransaction FluxWorld.clearStorageLease FluxWorld.invalidatePendingView
      FluxWorld.setStorage FluxWorld.setView
    grind
  unfold FluxWorld.completions
  induction calls generalizing w with
  | nil => rfl
  | cons b rest ih => exact (ih _).trans (hstep w b)

/-- All ranks meet in the same collectives and return. Whatever they return, it is one
status and one decision: acceptance exactly when every rank is ready, and otherwise the
status of the rank that speaks. -/
theorem collective_finish_agrees : (∃ trace r, (mpiNetwork hn).Run
      (fun i => (w i).collectiveFinish (rankComm hsize i) (localStatus i)) trace r) ∧
    ∀ trace r, (mpiNetwork hn).Run
        (fun i => (w i).collectiveFinish (rankComm hsize i) (localStatus i)) trace r →
      (∀ i j, (r i).status = (r j).status) ∧
      (∀ i, FluxWorld.Accepted (w i) (r i).world ↔ ∀ j, RankReady localStatus w j) ∧
      ((∀ j, RankReady localStatus w j) → ∀ i, (r i).status = {}) ∧
      ((¬ ∀ j, RankReady localStatus w j) →
        ∃ k, Speaks (broughtStatus (fun i => (w i).attempt) (fun i => (w i).readyForCollective)
            localStatus) k ∧
          ∀ i, (r i).status = broughtStatus (fun i => (w i).attempt)
            (fun i => (w i).readyForCollective) localStatus k) := by
  obtain ⟨trace, r, hrun, haccept, hreject⟩ := finish_run hn hsize (fun i => (w i).attempt)
    (fun i => (w i).readyForCollective) localStatus
  have hready : (∀ i, (broughtStatus (fun i => (w i).attempt) (fun i => (w i).readyForCollective)
      localStatus i).code = .ok) ↔ ∀ j, RankReady localStatus w j :=
    forall_congr' fun i => readiness_ok_iff _ _ _ _
  rw [hready] at haccept hreject
  have hfinish : (mpiNetwork hn).Run
      (fun i => (w i).collectiveFinish (rankComm hsize i) (localStatus i)) (trace ++ [])
      (fun i => (w i).afterCall (r i)) := Network.Run.bind hrun (.done _)
  refine ⟨⟨_, _, hfinish⟩, fun trace' r' hrun' => ?_⟩
  have : Nonempty (Fin n) := ⟨⟨0, hn⟩⟩
  obtain ⟨-, rfl⟩ := hfinish.unique hrun'
  have hworld : ∀ i, ((w i).afterCall (r i)).world.attempt = (r i).attempt :=
    fun i => completions_attempt _ _
  have hstatus : ∀ i, ((w i).afterCall (r i)).status = (r i).status := fun _ => rfl
  by_cases h : ∀ j, RankReady localStatus w j
  · have heq := haccept h
    refine ⟨fun i j => ?_, fun i => ⟨fun _ => h, fun _ => ?_⟩, fun _ i => ?_, fun hnot => absurd h hnot⟩
    · rw [hstatus, hstatus, heq, heq]
    · unfold FluxWorld.Accepted
      rw [hworld, heq]
      exact ⟨(h i).active.1, rfl, rfl⟩
    · rw [hstatus, heq]
  · obtain ⟨k, hspeaks, heq⟩ := hreject h
    refine ⟨fun i j => ?_, fun i => ⟨fun haccepted => ?_, fun hall => absurd hall h⟩,
      fun hall => absurd hall h, fun _ => ⟨k, hspeaks, fun i => ?_⟩⟩
    · rw [hstatus, hstatus, heq, heq]
    · unfold FluxWorld.Accepted at haccepted
      rw [hworld, heq] at haccepted
      exact absurd haccepted.2.2 (by simp [discardedState, AttemptTransaction.discardAttempt])
    · rw [hstatus, heq]

end Ranks

/-- A rank in an attempt without fields, slots or a writer. -/
def sampleUnderWay : FluxWorld ℕ where
  attempt := { transaction := { active := true, layers := some 0 } }
  memory := fun _ => 0

/-- Of two ranks the first reports a failure that may be retried, the second one that may
not, and the second speaks. -/
theorem collective_finish_agrees_two :
    ∃ trace r, (mpiNetwork (by decide : 0 < 2)).Run
      (fun i : Fin 2 => sampleUnderWay.collectiveFinish (rankComm (by decide) i)
        (if i = 0 then ⟨5, 1⟩ else ⟨4, 2⟩)) trace r ∧
      ∀ i, (r i).status = ⟨.mpiFailure, 2⟩ := by
  obtain ⟨⟨trace, r, hrun⟩, h⟩ := collective_finish_agrees (by decide : 0 < 2) (by decide)
    (fun i : Fin 2 => if i = 0 then (⟨5, 1⟩ : RawStatus) else ⟨4, 2⟩) (fun _ => sampleUnderWay)
  refine ⟨trace, r, hrun, fun i => ?_⟩
  obtain ⟨k, hspeaks, hstatus⟩ := (h trace r hrun).2.2.2 fun hready => absurd (hready 0).caller (by decide)
  rw [hstatus i]
  match k, hspeaks with
  | 0, hspeaks => exact nomatch hspeaks.2.1 ⟨1, by decide, by decide⟩
  | 1, _ => decide

end HundunFlow.Proofs
