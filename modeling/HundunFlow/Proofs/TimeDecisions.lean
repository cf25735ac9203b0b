import HundunFlow.TimeJob

/-!
# The collective calls of the time controller

The two reductions of statuses end on every rank with the status of one of the ranks that failed;
from them, what `propose` and `prepare_finish` return.
-/

namespace HundunFlow.Proofs

section Consensus

open Lib

variable {F : Type}

lemma decodeStatus_append (status : Status) (rest : List (TimeWord F)) :
    decodeStatus (statusWire status ++ rest) = some (status, rest) := by
  have h := Status.ofWire_toWire status
  rw [Status.toWire] at h
  simp [statusWire, decodeStatus, h]

lemma decodeStatus_statusWire (status : Status) :
    decodeStatus (statusWire (F := F) status) = some (status, []) := by
  have h := decodeStatus_append (F := F) status []
  rwa [List.append_nil] at h

lemma decodeStepWire_stepWire (step : StepTime F) : decodeStepWire (stepWire step) =
    if 2 ^ 32 ≤ step.attempt || 2 ^ 8 ≤ step.bdf.order then none else some step := by
  unfold decodeStepWire stepWire
  dsimp only
  rw [StepOrigin.ofWire_toWire]

lemma decodeStepWire_some {step candidate : StepTime F} (h : decodeStepWire (stepWire step) = some candidate) :
    candidate = step := by
  rw [decodeStepWire_stepWire] at h
  split at h
  · exact nomatch h
  · exact (Option.some.inj h).symm

lemma stepWire_injective {a b : StepTime F} (h : stepWire a = stepWire b) : a = b := by
  have horigin : ∀ x y : StepOrigin, x.toWire = y.toWire → x = y := by
    intro x y hxy
    have := StepOrigin.ofWire_toWire x
    rwa [hxy, StepOrigin.ofWire_toWire, Option.some.injEq, eq_comm] at this
  rcases a with ⟨ta, da, sa, aa, oa, ⟨a0, a1, a2, ao⟩, ga⟩
  rcases b with ⟨tb, db, sb, ab, ob, ⟨b0, b1, b2, bo⟩, gb⟩
  simp only [stepWire, List.cons.injEq, TimeWord.real.injEq, TimeWord.int.injEq, and_true] at h
  obtain ⟨rfl, rfl, rfl, rfl, ho, rfl, rfl, rfl, rfl, rfl⟩ := h
  rw [horigin _ _ ho]

variable {n : ℕ} (hn : 0 < n) (hsize : n < 2 ^ 31)

lemma statusOfRank_run [LinearOrder F] (k : Fin n) (brought : Fin n → Status) :
    (mpiJob (W := TimeWord F) (D := F) hn).Run (fun i => statusOfRank (jobComm hsize i) k (brought i))
      [.bcast k 2] (fun _ => some (brought k)) := by
  have hwire := job_bcast (W := TimeWord F) (D := F) hn k
    (fun i => if (i : ℕ) = k then statusWire (brought i) else [.int 0, .int 0]) 2
    (fun i => by split <;> rfl)
  refine Network.Run.bind (u := []) hwire ?_
  simp only [if_true, decodeStatus_statusWire, Option.map_some]
  exact .done _

lemma collectiveStatus_run [LinearOrder F] (brought : Fin n → Status) : ∃ trace,
    (mpiJob (W := TimeWord F) (D := F) hn).Run (fun i => collectiveStatus (jobComm hsize i) (brought i))
      trace (fun _ => agreed brought) := by
  have hmax : n ≤ maxU64 := by
    unfold maxU64
    omega
  have hsel := rankMin_firstFailing hn brought hmax
  have hreduce := job_allreduce_min (W := TimeWord F) (D := F) hn
    (fun i => if (brought i).isOk then maxU64 else (i : ℕ))
  unfold agreed
  cases h : firstFailing brought with
  | none =>
    rw [h] at hsel
    refine ⟨_, Network.Run.bind (u := []) hreduce ?_⟩
    simp only [hsel, if_true]
    exact .done _
  | some k =>
    rw [h] at hsel
    have hk : (k : ℕ) ≠ maxU64 := by
      have := k.isLt
      unfold maxU64
      omega
    refine ⟨_, Network.Run.bind (u := [.bcast k 2] ++ []) hreduce ?_⟩
    simp only [hsel, hk, if_false]
    have hguard : ∀ i, ¬ (jobComm hsize i).size ≤ (k : ℕ) := fun i => by simp [jobComm]
    simp only [hguard, if_false]
    exact Network.Run.bind (statusOfRank_run hn hsize k brought) (.done _)

/-- The outcome every rank gets of a decision: success when all ranks succeeded, else the
status of a failed rank that no failed rank precedes in priority. -/
inductive Decided (brought : Fin n → Status × ℕ) : FinishDecision → Prop where
  | success (h : ∀ i, (brought i).1.code = .ok) : Decided brought { status := {} }
  | failure (k : Fin n) (hk : (brought k).1.code ≠ .ok)
      (hfirst : ∀ i, (brought i).1.code ≠ .ok → (brought k).2 ≤ (brought i).2) :
      Decided brought ⟨(brought k).1, k, (brought k).2⟩

def NamesLowest (brought : Fin n → Status × ℕ) (d : FinishDecision) : Prop :=
  ∀ i : Fin n, (brought i).1.code ≠ .ok → (brought i).2 = d.selectedPriority → d.lowest ≤ i

lemma key_split (priority : ℕ) {rank : ℕ} (hr : rank < 2 ^ 32) :
    (priority <<< 32 ||| rank) >>> 32 = priority ∧ (priority <<< 32 ||| rank) % 2 ^ 32 = rank := by
  have hor : priority <<< 32 ||| rank = priority * 2 ^ 32 + rank := by
    rw [Nat.shiftLeft_eq, Nat.mul_comm]
    exact (Nat.two_pow_add_eq_or_of_lt hr priority).symm
  rw [hor]
  constructor
  · rw [Nat.shiftRight_eq_div_pow]
    omega
  · omega

lemma shiftRight_mono {a b : ℕ} (h : a ≤ b) : a >>> 32 ≤ b >>> 32 := by
  rw [Nat.shiftRight_eq_div_pow, Nat.shiftRight_eq_div_pow]
  exact Nat.div_le_div_right h

lemma collectiveFinishDecision_run [LinearOrder F] (brought : Fin n → Status × ℕ) (hp : ∀ i, (brought i).2 ≤ 2) : ∃ trace d,
    (mpiJob (W := TimeWord F) (D := F) hn).Run
      (fun i => collectiveFinishDecision (jobComm hsize i) (brought i).1 (brought i).2)
      trace (fun _ => d) ∧ Decided brought d ∧ NamesLowest brought d := by
  let key : Fin n → ℕ := fun i =>
    if (brought i).1.code = .ok then maxU64 else ((brought i).2 <<< 32) ||| (i : ℕ)
  have hsmall : ∀ i, (brought i).1.code ≠ .ok →
      key i >>> 32 = (brought i).2 ∧ key i % 2 ^ 32 = i ∧ key i ≠ maxU64 := by
    intro i hi
    have hi32 : (i : ℕ) < 2 ^ 32 := by
      have := i.isLt
      omega
    have hkey : key i = ((brought i).2 <<< 32) ||| (i : ℕ) := if_neg hi
    obtain ⟨hpriority, hrank⟩ := key_split (brought i).2 hi32
    refine ⟨hkey ▸ hpriority, hkey ▸ hrank, fun hmax => ?_⟩
    rw [hkey] at hmax
    rw [hmax] at hpriority
    have := hp i
    have hshift : maxU64 >>> 32 = 2 ^ 32 - 1 := by decide
    omega
  have hreduce := job_allreduce_min (W := TimeWord F) (D := F) hn key
  obtain ⟨k, hk⟩ := exists_rankMin hn key
  by_cases hok : (brought k).1.code = .ok
  · have hall : ∀ i, (brought i).1.code = .ok := by
      intro i
      by_contra hi
      have hle := rankMin_le hn key i
      have hkey : key k = maxU64 := if_pos hok
      rw [hk, hkey] at hle
      obtain ⟨hshift, -, -⟩ := hsmall i hi
      have := shiftRight_mono hle
      have hmax : maxU64 >>> 32 = 2 ^ 32 - 1 := by decide
      have := hp i
      omega
    refine ⟨_, _, Network.Run.bind (u := []) hreduce ?_, .success hall, fun i hi => absurd (hall i) hi⟩
    have hkey : rankMin hn key = maxU64 := hk.trans (if_pos hok)
    simp only [hkey, if_true]
    exact .done _
  · obtain ⟨hpriority, hrank, hne⟩ := hsmall k hok
    refine ⟨_, _, Network.Run.bind (u := [.bcast k 2] ++ []) hreduce ?_, .failure k hok ?_, ?_⟩
    · have hguard : ∀ i, (decide (2 < (brought k).2) || decide ((jobComm hsize i).size ≤ (k : ℕ))) = false := by
        intro i
        have := hp k
        rw [Bool.or_eq_false_iff, decide_eq_false_iff_not, decide_eq_false_iff_not]
        exact ⟨by omega, not_le.mpr k.isLt⟩
      simp only [hk, hne, if_false, hpriority, hrank, hguard]
      exact Network.Run.bind (statusOfRank_run hn hsize k fun i => (brought i).1) (.done _)
    · intro i hi
      have hle := rankMin_le hn key i
      rw [hk] at hle
      have := shiftRight_mono hle
      rwa [hpriority, (hsmall i hi).1] at this
    · intro i hi hsame
      have hle := rankMin_le hn key i
      have hsame' : (brought i).2 = (brought k).2 := hsame
      have hkeys : ∀ j, (brought j).1.code ≠ .ok → key j = (brought j).2 <<< 32 ||| (j : ℕ) := fun j hj => if_neg hj
      have hor : ∀ j : Fin n, (brought j).2 <<< 32 ||| (j : ℕ) = (brought j).2 * 2 ^ 32 + (j : ℕ) := by
        intro j
        have hj : (j : ℕ) < 2 ^ 32 := by
          have := j.isLt
          omega
        rw [Nat.shiftLeft_eq, Nat.mul_comm]
        exact (Nat.two_pow_add_eq_or_of_lt hj _).symm
      rw [hk, hkeys k hok, hkeys i hi, hor, hor, hsame'] at hle
      exact Int.ofNat_le.mpr (by omega)

end Consensus

open Lib TimeController

variable {F : Type} [Field F] [LinearOrder F] [TimeReal F]

variable {n : ℕ} (hn : 0 < n) (hsize : n < 2 ^ 31) (c : Fin n → TimeController F)

def rankZero : Fin n := ⟨0, hn⟩

section Propose

variable (limits : Fin n → LocalTimeLimits F)

/-- What rank `i` computes from its own limits. -/
def candidates (i : Fin n) : Except Status (F × TimeLimit) :=
  (c i).localProposal (c (rankZero hn)).identity (limits i)

def globalDt : F := rankMinDouble hn fun i => localDt (candidates hn c limits i)

def publishedProposal : Status × StepTime F := (c (rankZero hn)).propose0 (globalDt hn c limits)

/-- What rank `i` makes of the publication. -/
def checkedProposal (i : Fin n) : StepTime F × Status :=
  (c i).checkProposal ((c i).ownProposal i (globalDt hn c limits)).2
    (proposalWire 0 (publishedProposal hn c limits))

/-- The first consensus of `propose`. -/
def proposalConsensus : Status × ℤ := agreed fun i => localStatus (candidates hn c limits i)

/-- The second consensus of `propose`. -/
def publicationConsensus : Status × ℤ := agreed fun i => (checkedProposal hn c limits i).2

/-- What `propose` does on rank `i`. -/
def proposed (i : Fin n) : ProposeResult F :=
  if !(proposalConsensus hn c limits).1.isOk then
    (c i).proposeFailed (proposalConsensus hn c limits).1 (proposalConsensus hn c limits).2
  else
    (c i).proposeResult (checkedProposal hn c limits i).1 (publicationConsensus hn c limits).1
      (publicationConsensus hn c limits).2

lemma propose_run : ∃ trace,
    (mpiJob hn).Run (fun i => (c i).propose (.valid (jobComm hsize i)) (limits i)) trace
      (proposed hn c limits) := by
  have hidentity := job_bcast (D := F) hn (rankZero hn) (fun i => (c i).identity) 19 (fun i => rfl)
  obtain ⟨t₁, hfirst⟩ := collectiveStatus_run (F := F) hn hsize
    fun i => localStatus (candidates hn c limits i)
  have hagreed : agreed (fun i => localStatus (candidates hn c limits i)) =
      proposalConsensus hn c limits := rfl
  rw [hagreed] at hfirst
  by_cases hok : (proposalConsensus hn c limits).1.isOk = true
  · have hreduce := job_allreduceMinDouble (W := TimeWord F) hn
      fun i => localDt (candidates hn c limits i)
    have hpublish := job_bcast (D := F) hn (rankZero hn)
      (fun i => proposalWire i ((c i).ownProposal i (globalDt hn c limits))) 12
      (fun i => by
        unfold proposalWire
        split <;> rfl)
    obtain ⟨t₂, hsecond⟩ := collectiveStatus_run (F := F) hn hsize
      fun i => (checkedProposal hn c limits i).2
    refine ⟨_, Network.Run.bind hidentity (Network.Run.bind
      (u := [.allreduceMinDouble] ++ ([.bcast (rankZero hn) 12] ++ (t₂ ++ []))) hfirst ?_)⟩
    have hresult : proposed hn c limits = fun i =>
        (c i).proposeResult (checkedProposal hn c limits i).1 (publicationConsensus hn c limits).1
          (publicationConsensus hn c limits).2 := by
      funext i
      simp only [proposed, hok, Bool.not_true, Bool.false_eq_true, if_false]
    rw [hresult]
    simp only [hok, Bool.not_true, Bool.false_eq_true, if_false]
    exact Network.Run.bind hreduce (Network.Run.bind hpublish (Network.Run.bind hsecond (.done _)))
  · have hfailed : (proposalConsensus hn c limits).1.isOk = false := Bool.eq_false_of_not_eq_true hok
    refine ⟨_, Network.Run.bind hidentity (Network.Run.bind (u := []) hfirst ?_)⟩
    have hresult : proposed hn c limits = fun i =>
        (c i).proposeFailed (proposalConsensus hn c limits).1 (proposalConsensus hn c limits).2 := by
      funext i
      simp only [proposed, hfailed, Bool.not_false, if_true]
    rw [hresult]
    simp only [hfailed, Bool.not_false, if_true]
    exact .done _

end Propose

section Finish

variable (step : Fin n → StepTime F) (localOutcome : Fin n → RawStatus)

/-- What rank `i` brings to the decision. -/
def outcomes (i : Fin n) : Status × ℕ :=
  (c i).finishOutcome ((c (rankZero hn)).finishIdentity (step (rankZero hn))) (step i) (localOutcome i)

def publishedFinish (decision : FinishDecision) : Status × StepTime F :=
  (c (rankZero hn)).ownFinish 0 (step (rankZero hn)) decision

/-- What rank `i` makes of the publication. -/
def checkedFinish (decision : FinishDecision) (i : Fin n) : CheckedFinish F :=
  (c i).checkFinish (step i) ((c i).ownFinish i (step i) decision)
    (finishWire 0 decision (publishedFinish hn c step decision))

def finishConsensus (decision : FinishDecision) : Status × ℤ :=
  agreed fun i => (checkedFinish hn c step decision i).brought

/-- What `prepare_finish` does on rank `i` after `decision`. -/
def preparedFinish (decision : FinishDecision) (i : Fin n) : PrepareTimeResult F :=
  if decision.status.code = .mpiFailure then ⟨decision.status, none⟩
  else
    (c i).finishResult (step i) decision (checkedFinish hn c step decision i)
      (finishConsensus hn c step decision).1 (finishConsensus hn c step decision).2

omit [Field F] [TimeReal F] in
lemma finishOutcome_priority (d : TimeController F) (authority : List (TimeWord F)) (s : StepTime F)
    (localOutcome : RawStatus) : (d.finishOutcome authority s localOutcome).2 ≤ 2 := by
  unfold finishOutcome
  split_ifs
  · exact Nat.zero_le _
  · exact Nat.zero_le _
  · split
    · exact Nat.zero_le _
    · dsimp only
      split_ifs <;> omega

lemma prepareFinish_run : ∃ trace decision, Decided (outcomes hn c step localOutcome) decision ∧
    NamesLowest (outcomes hn c step localOutcome) decision ∧
    (mpiJob hn).Run
      (fun i => (c i).prepareFinish (.valid (jobComm hsize i)) (step i) (localOutcome i)
        unpreparedFinish) trace (preparedFinish hn c step decision) := by
  have hidentity := job_bcast (D := F) hn (rankZero hn) (fun i => (c i).finishIdentity (step i)) 29
    (fun i => rfl)
  obtain ⟨t₁, decision, hdecide, hdecided, hnames⟩ := collectiveFinishDecision_run (F := F) hn hsize
    (outcomes hn c step localOutcome) (fun i => finishOutcome_priority _ _ _ _)
  by_cases hmpi : decision.status.code = .mpiFailure
  · refine ⟨_, decision, hdecided, hnames, Network.Run.bind hidentity (Network.Run.bind (u := []) hdecide ?_)⟩
    have hresult : preparedFinish hn c step decision = fun _ => ⟨decision.status, none⟩ := by
      funext i
      simp only [preparedFinish, hmpi, if_true]
    rw [hresult]
    simp only [hmpi, if_true]
    exact .done _
  · have hpublish := job_bcast (D := F) hn (rankZero hn)
      (fun i => finishWire i decision ((c i).ownFinish i (step i) decision)) 13
      (fun i => by
        unfold finishWire
        split <;> rfl)
    obtain ⟨t₂, hsecond⟩ := collectiveStatus_run (F := F) hn hsize
      fun i => (checkedFinish hn c step decision i).brought
    refine ⟨_, decision, hdecided, hnames, Network.Run.bind hidentity (Network.Run.bind
      (u := [.bcast (rankZero hn) 13] ++ (t₂ ++ [])) hdecide ?_)⟩
    have hresult : preparedFinish hn c step decision = fun i =>
        (c i).finishResult (step i) decision (checkedFinish hn c step decision i)
          (finishConsensus hn c step decision).1 (finishConsensus hn c step decision).2 := by
      funext i
      simp only [preparedFinish, hmpi, if_false]
    rw [hresult]
    simp only [hmpi, if_false]
    exact Network.Run.bind hpublish (Network.Run.bind hsecond (.done _))

end Finish

end HundunFlow.Proofs
