import HundunFlow.Proofs.WindowClock
import Mathlib.Algebra.BigOperators.Ring.Finset
import Mathlib.Data.Rat.Encodable
import Mathlib.Tactic.IntervalCases
import Mathlib.Tactic.Ring

/-!
# Runs of the window history

Beside the store runs a ledger: the committed calls, newest first, what has been staged since the
last `begin`, and the calls behind a sealed candidate.
-/

namespace HundunFlow.Proofs

open Lib Dyn711 Dyn711.History List Function Option Finset

inductive RateEntry (F : Type) where
  | active (input : RateInput F)
  | inactive

/-- What a call has staged. A coefficient is `some none` when its cell is inactive. -/
structure StagedCall (F : Type) where
  rates : ℕ → Option (RateEntry F)
  cphi : ℕ → Option (Option F)

structure WindowLedger (F : Type) where
  log : List (StagedCall F)
  call : StagedCall F
  candidate : List (StagedCall F)

def emptyCall {F : Type} : StagedCall F := ⟨fun _ => none, fun _ => none⟩

namespace WindowLedger

variable {F : Type}

def begin (l : WindowLedger F) : WindowLedger F := { l with call := emptyCall }

def rate (l : WindowLedger F) (i : ℕ) (x : RateInput F) : WindowLedger F :=
  { l with call := { l.call with rates := Function.update l.call.rates i (some (.active x)) } }

def coefficient (l : WindowLedger F) (cell : ℕ) (value : F) : WindowLedger F :=
  { l with call := { l.call with cphi := Function.update l.call.cphi cell (some (some value)) } }

def inactive (l : WindowLedger F) (ns cell : ℕ) : WindowLedger F :=
  { l with call :=
    { rates := fun i => if i / ns = cell then some .inactive else l.call.rates i
      cphi := Function.update l.call.cphi cell (some none) } }

def sealCall (l : WindowLedger F) : WindowLedger F := { l with candidate := l.call :: l.log }

def commit (l : WindowLedger F) : WindowLedger F := { l with log := l.candidate }

def restore (l : WindowLedger F) (log : List (StagedCall F)) : WindowLedger F := { l with candidate := log }

end WindowLedger

section Runs

variable {F : Type} [Zero F] [One F] [Add F] [Sub F] [Mul F] [Div F] [NatCast F]

def replayRate (m : Numbers F) (i : ℕ) : List (StagedCall F) → RateState F
  | [] => initialRate m
  | call :: log =>
    match call.rates i with
    | some (.active x) => (advanceRate m (replayRate m i log) (clockAt log.length) x).getD (replayRate m i log)
    | _ => replayRate m i log

def replayCphi (initialCphi : F) (cell : ℕ) : List (StagedCall F) → F
  | [] => initialCphi
  | call :: log =>
    match call.cphi cell with
    | some (some value) => value
    | _ => replayCphi initialCphi cell log

def FullyStaged (m : Numbers F) (cells ns : ℕ) : List (StagedCall F) → Prop
  | [] => True
  | call :: log =>
    (∀ i < cells * ns, call.rates i ≠ none) ∧
      (cphiCall (log.length + 1) → ∀ cell < cells, call.cphi cell ≠ none) ∧
      (∀ i < cells * ns, ∀ x, call.rates i = some (.active x) →
        (advanceRate m (replayRate m i log) (clockAt log.length) x).isSome = true) ∧
      FullyStaged m cells ns log

/-- Rate `i` took part in every call, in call `k` with the input `x k`. -/
def ActiveThroughout (i : ℕ) (x : ℕ → RateInput F) : List (StagedCall F) → Prop
  | [] => True
  | call :: log => call.rates i = some (.active (x log.length)) ∧ ActiveThroughout i x log

/-- The runs of identically configured stores. A restore may take the snapshot of any of them. -/
inductive WindowRun (m : Numbers F) (model cells ns : ℕ) (initialCphi : F) (initialStep : ℕ) :
    History F → WindowLedger F → Prop
  | configured : WindowRun m model cells ns initialCphi initialStep
      (configure m model cells ns initialCphi initialStep) ⟨[], emptyCall, []⟩
  | begin {h l} (step : ℕ) : WindowRun m model cells ns initialCphi initialStep h l →
      WindowRun m model cells ns initialCphi initialStep (h.begin step).2 l.begin
  | stageRate {h l} (cell species : ℕ) (x : RateInput F) : WindowRun m model cells ns initialCphi initialStep h l →
      WindowRun m model cells ns initialCphi initialStep (h.stageRate m cell species x).2
        (if (h.stageRate m cell species x).1.isOk then l.rate (cell * ns + species) x else l)
  | stageCphi {h l} (cell : ℕ) (value : F) : WindowRun m model cells ns initialCphi initialStep h l →
      WindowRun m model cells ns initialCphi initialStep (h.stageCphi m cell value).2
        (if (h.stageCphi m cell value).1.isOk then l.coefficient cell value else l)
  | stageInactive {h l} (cell : ℕ) : WindowRun m model cells ns initialCphi initialStep h l →
      WindowRun m model cells ns initialCphi initialStep (h.stageInactive cell).2
        (if (h.stageInactive cell).1.isOk then l.inactive ns cell else l)
  | sealTrial {h l} : WindowRun m model cells ns initialCphi initialStep h l →
      WindowRun m model cells ns initialCphi initialStep (h.sealTrial m).2 (if (h.sealTrial m).1.isOk then l.sealCall else l)
  | discard {h l} : WindowRun m model cells ns initialCphi initialStep h l →
      WindowRun m model cells ns initialCphi initialStep h.discard l
  | commit {h l} : WindowRun m model cells ns initialCphi initialStep h l →
      WindowRun m model cells ns initialCphi initialStep h.commit (if h.pending then l.commit else l)
  | restore {h l h' l'} (step : ℕ) : WindowRun m model cells ns initialCphi initialStep h l →
      WindowRun m model cells ns initialCphi initialStep h' l' →
      WindowRun m model cells ns initialCphi initialStep (h.restore m h'.words h'.size step).2
        (if (h.restore m h'.words h'.size step).1.isOk then l.restore l'.log else l)

variable {m : Numbers F} {model cells ns : ℕ} {initialCphi : F} {initialStep : ℕ}

/-- Values, counters and words are those of the committed calls `log`. -/
structure HoldsCalls (m : Numbers F) (cells ns : ℕ) (initialCphi : F) (initialStep : ℕ) (values : ℕ → RateState F)
    (cphi : ℕ → F) (step calls : ℕ) (words : ℕ → ℕ) (log : List (StagedCall F)) : Prop where
  rates : ∀ i < cells * ns, values i = replayRate m i log
  coefficients : ∀ cell < cells, cphi cell = replayCphi initialCphi cell log
  atStep : step = initialStep + log.length
  atCalls : calls = log.length
  encoded : ∀ k < cells * width ns, words k = encode m ns values cphi step calls k
  complete : FullyStaged m cells ns log
  admitted : log ≠ [] → valid m cells ns values cphi = true

structure HoldsTrial (m : Numbers F) (cells ns : ℕ) (initialCphi : F) (initialStep : ℕ) (h : History F)
    (l : WindowLedger F) : Prop where
  rates : ∀ i < cells * ns, h.trial i = replayRate m i (l.call :: l.log)
  coefficients : ∀ cell < cells, h.trialCphi cell = replayCphi initialCphi cell (l.call :: l.log)
  staged : ∀ i < cells * ns, h.staged i = true → l.call.rates i ≠ none
  cphiStaged : cphiCall (l.log.length + 1) → ∀ cell < cells, h.cphiStaged cell = true → l.call.cphi cell ≠ none
  advanced : ∀ i < cells * ns, ∀ x, l.call.rates i = some (.active x) →
    (advanceRate m (replayRate m i l.log) (clockAt l.log.length) x).isSome = true
  candidateStep : h.candidateStep = initialStep + l.log.length + 1
  candidateCalls : h.candidateCalls = l.log.length + 1

structure WindowInvariant (m : Numbers F) (cells ns : ℕ) (initialCphi : F) (initialStep : ℕ) (h : History F)
    (l : WindowLedger F) : Prop where
  species : h.ns = ns
  cellCount : h.cells = cells
  accepted : HoldsCalls m cells ns initialCphi initialStep h.accepted h.cphi h.step h.calls h.words l.log
  preparing : h.preparing = true → HoldsTrial m cells ns initialCphi initialStep h l
  pending : h.pending = true →
    HoldsCalls m cells ns initialCphi initialStep h.trial h.trialCphi h.candidateStep h.candidateCalls h.trialWords
      l.candidate
  exclusive : h.preparing = true → h.pending = false

variable {log : List (StagedCall F)} {i calls step : ℕ} {values : ℕ → RateState F} {cphi : ℕ → F}
  {words : ℕ → ℕ}

variable {values' : ℕ → RateState F} {cphi' : ℕ → F}

lemma replayRate_of_eq {call call' : StagedCall F} (h : call.rates i = call'.rates i) :
    replayRate m i (call :: log) = replayRate m i (call' :: log) := by
  simp only [replayRate, h]

omit [Zero F] [One F] [Add F] [Sub F] [Mul F] [Div F] [NatCast F] in
lemma replayCphi_of_eq {call call' : StagedCall F} {cell : ℕ} (h : call.cphi cell = call'.cphi cell) :
    replayCphi initialCphi cell (call :: log) = replayCphi initialCphi cell (call' :: log) := by
  simp only [replayCphi, h]

lemma invariant_configured : WindowInvariant m cells ns initialCphi initialStep
    (configure m model cells ns initialCphi initialStep) ⟨[], emptyCall, []⟩ where
  species := rfl
  cellCount := rfl
  accepted := ⟨fun _ _ => rfl, fun _ _ => rfl, rfl, rfl, fun _ _ => rfl, trivial, fun h => absurd rfl h⟩
  preparing := fun h => Bool.noConfusion h
  pending := fun h => Bool.noConfusion h
  exclusive := fun _ => rfl

variable {h : History F} {l : WindowLedger F}

lemma invariant_discard (hinv : WindowInvariant m cells ns initialCphi initialStep h l) :
    WindowInvariant m cells ns initialCphi initialStep h.discard l :=
  ⟨hinv.species, hinv.cellCount, hinv.accepted, fun hp => Bool.noConfusion hp, fun hp => Bool.noConfusion hp,
    fun hp => Bool.noConfusion hp⟩

lemma invariant_begin (step : ℕ) (hinv : WindowInvariant m cells ns initialCphi initialStep h l) :
    WindowInvariant m cells ns initialCphi initialStep (h.begin step).2 l.begin := by
  rw [History.begin]
  split
  · exact ⟨hinv.species, hinv.cellCount, hinv.accepted, fun hp => Bool.noConfusion hp, fun hp => Bool.noConfusion hp,
    fun hp => Bool.noConfusion hp⟩
  · rename_i hguard
    push Not at hguard
    refine ⟨hinv.species, hinv.cellCount, hinv.accepted, fun _ => ?_, fun hp => Bool.noConfusion hp, fun _ => rfl⟩
    refine ⟨hinv.accepted.rates, hinv.accepted.coefficients, fun i _ hs => Bool.noConfusion hs, ?_, ?_, ?_, ?_⟩
    · intro hcall cell _ hs
      have hdue : (tick h.clock).updateCphi = true := by
        rw [History.clock, hinv.accepted.atCalls]
        exact (updateCphi_iff _).mpr hcall
      change (!(tick h.clock).updateCphi) = true at hs
      rw [hdue] at hs
      exact Bool.noConfusion hs
    · intro i _ x hx
      cases hx
    · change step + 1 = _
      rw [hguard.1, hinv.accepted.atStep]
      rfl
    · change h.calls + 1 = _
      rw [hinv.accepted.atCalls]
      rfl

lemma stageRate_cases (cell species : ℕ) (x : RateInput F) :
    ((h.stageRate m cell species x).1.isOk = false ∧ (h.stageRate m cell species x).2 = h) ∨
      ((h.stageRate m cell species x).1.isOk = true ∧ h.preparing = true ∧ cell < h.cells ∧ species < h.ns ∧
        ∃ next, advanceRate m (h.accepted (cell * h.ns + species)) h.clock x = some next ∧
          (h.stageRate m cell species x).2 =
            { h with
              trial := Function.update h.trial (cell * h.ns + species) next
              staged := Function.update h.staged (cell * h.ns + species) true }) := by
  rw [History.stageRate]
  split
  · exact .inl ⟨rfl, rfl⟩
  · rename_i hguard
    simp only [Bool.or_eq_true, Bool.not_eq_true', decide_eq_true_iff, not_or, Bool.not_eq_false, not_le] at hguard
    dsimp only
    split
    · exact .inl ⟨rfl, rfl⟩
    · rename_i next hnext
      exact .inr ⟨rfl, hguard.1.1.1, hguard.1.1.2, hguard.1.2, next, hnext, rfl⟩

lemma invariant_stageRate (cell species : ℕ) (x : RateInput F)
    (hinv : WindowInvariant m cells ns initialCphi initialStep h l) :
    WindowInvariant m cells ns initialCphi initialStep (h.stageRate m cell species x).2
      (if (h.stageRate m cell species x).1.isOk then l.rate (cell * ns + species) x else l) := by
  rcases stageRate_cases (m := m) (h := h) cell species x with
    ⟨hstatus, hsame⟩ | ⟨hstatus, hprep, hcell, hspecies, next, hnext, hresult⟩
  · rw [hstatus, hsame]
    exact hinv
  · rw [hstatus, hresult, if_pos rfl]
    rw [hinv.cellCount] at hcell
    rw [hinv.species] at hspecies hnext ⊢
    have hslot : cell * ns + species < cells * ns := by
      calc cell * ns + species < cell * ns + ns := Nat.add_lt_add_left hspecies _
        _ = (cell + 1) * ns := (Nat.succ_mul _ _).symm
        _ ≤ cells * ns := Nat.mul_le_mul_right _ hcell
    have htrial := hinv.preparing hprep
    have hreplay : advanceRate m (replayRate m (cell * ns + species) l.log) (clockAt l.log.length) x = some next := by
      rw [← hinv.accepted.rates _ hslot, ← hinv.accepted.atCalls]
      exact hnext
    refine ⟨rfl, hinv.cellCount, hinv.accepted, fun _ => ?_,
      fun hp => absurd ((hinv.exclusive hprep).symm.trans hp) Bool.false_ne_true, fun _ => hinv.exclusive hprep⟩
    refine ⟨?_, htrial.coefficients, ?_, htrial.cphiStaged, ?_, htrial.candidateStep, htrial.candidateCalls⟩
    · intro i hi
      change Function.update h.trial _ next i = _
      by_cases heq : i = cell * ns + species
      · subst heq
        rw [update_self]
        have hentry : (l.rate (cell * ns + species) x).call.rates (cell * ns + species) = some (.active x) :=
          update_self ..
        change next = replayRate m _ ((l.rate (cell * ns + species) x).call :: l.log)
        simp only [replayRate, hentry]
        rw [hreplay]
        rfl
      · rw [update_of_ne heq, htrial.rates i hi]
        exact replayRate_of_eq (update_of_ne heq _ _).symm
    · intro i hi hs
      by_cases heq : i = cell * ns + species
      · subst heq
        change Function.update l.call.rates _ _ _ ≠ none
        rw [update_self]
        exact some_ne_none _
      · change Function.update l.call.rates _ _ _ ≠ none
        rw [update_of_ne heq]
        refine htrial.staged i hi ?_
        change Function.update h.staged _ true i = true at hs
        rwa [update_of_ne heq] at hs
    · intro i hi y hy
      change Function.update l.call.rates _ _ _ = _ at hy
      by_cases heq : i = cell * ns + species
      · subst heq
        rw [update_self] at hy
        cases hy
        exact isSome_iff_exists.mpr ⟨next, hreplay⟩
      · rw [update_of_ne heq] at hy
        exact htrial.advanced i hi y hy

lemma invariant_stageCphi (cell : ℕ) (value : F) (hinv : WindowInvariant m cells ns initialCphi initialStep h l) :
    WindowInvariant m cells ns initialCphi initialStep (h.stageCphi m cell value).2
      (if (h.stageCphi m cell value).1.isOk then l.coefficient cell value else l) := by
  rw [History.stageCphi]
  split
  · exact hinv
  · rename_i hguard
    simp only [Bool.or_eq_true, Bool.not_eq_true', not_or, Bool.not_eq_false] at hguard
    have hprep := hguard.1.1.1.1
    have htrial := hinv.preparing hprep
    refine ⟨hinv.species, hinv.cellCount, hinv.accepted, fun _ => ?_,
      fun hp => absurd ((hinv.exclusive hprep).symm.trans hp) Bool.false_ne_true, fun _ => hinv.exclusive hprep⟩
    refine ⟨htrial.rates, ?_, htrial.staged, ?_, htrial.advanced, htrial.candidateStep, htrial.candidateCalls⟩
    · intro c hc
      change Function.update h.trialCphi cell value c = replayCphi initialCphi c ((l.coefficient cell value).call :: l.log)
      by_cases heq : c = cell
      · subst heq
        have hentry : (l.coefficient c value).call.cphi c = some (some value) := update_self ..
        rw [update_self]
        simp only [replayCphi, hentry]
      · rw [update_of_ne heq, htrial.coefficients c hc]
        exact replayCphi_of_eq (update_of_ne heq _ _).symm
    · intro hcall c hc hs
      change Function.update l.call.cphi cell _ c ≠ none
      by_cases heq : c = cell
      · rw [heq, update_self]
        exact some_ne_none _
      · rw [update_of_ne heq]
        refine htrial.cphiStaged hcall c hc ?_
        change Function.update h.cphiStaged cell true c = true at hs
        rwa [update_of_ne heq] at hs

lemma invariant_stageInactive (cell : ℕ) (hinv : WindowInvariant m cells ns initialCphi initialStep h l) :
    WindowInvariant m cells ns initialCphi initialStep (h.stageInactive cell).2
      (if (h.stageInactive cell).1.isOk then l.inactive ns cell else l) := by
  rw [History.stageInactive]
  split
  · exact hinv
  · rename_i hguard
    simp only [Bool.or_eq_true, Bool.not_eq_true', not_or, Bool.not_eq_false] at hguard
    have hprep := hguard.1
    have htrial := hinv.preparing hprep
    refine ⟨hinv.species, hinv.cellCount, hinv.accepted, fun _ => ?_,
      fun hp => absurd ((hinv.exclusive hprep).symm.trans hp) Bool.false_ne_true, fun _ => hinv.exclusive hprep⟩
    refine ⟨?_, ?_, ?_, ?_, ?_, htrial.candidateStep, htrial.candidateCalls⟩
    · intro i hi
      change (if i / h.ns = cell then h.accepted i else h.trial i) =
        replayRate m i ((l.inactive ns cell).call :: l.log)
      rw [hinv.species]
      by_cases heq : i / ns = cell
      · have hentry : (l.inactive ns cell).call.rates i = some .inactive := if_pos heq
        rw [if_pos heq, hinv.accepted.rates i hi]
        simp only [replayRate, hentry]
      · rw [if_neg heq, htrial.rates i hi]
        exact replayRate_of_eq (if_neg heq).symm
    · intro c hc
      change Function.update h.trialCphi cell (h.cphi cell) c = replayCphi initialCphi c ((l.inactive ns cell).call :: l.log)
      by_cases heq : c = cell
      · subst heq
        have hentry : (l.inactive ns c).call.cphi c = some none := update_self ..
        rw [update_self, hinv.accepted.coefficients c hc]
        simp only [replayCphi, hentry]
      · rw [update_of_ne heq, htrial.coefficients c hc]
        exact replayCphi_of_eq (update_of_ne heq _ _).symm
    · intro i hi hs
      change (if i / ns = cell then some RateEntry.inactive else l.call.rates i) ≠ none
      change (if i / h.ns = cell then true else h.staged i) = true at hs
      rw [hinv.species] at hs
      by_cases heq : i / ns = cell
      · rw [if_pos heq]
        exact some_ne_none _
      · rw [if_neg heq] at hs ⊢
        exact htrial.staged i hi hs
    · intro hcall c hc hs
      change Function.update l.call.cphi cell _ c ≠ none
      by_cases heq : c = cell
      · rw [heq, update_self]
        exact some_ne_none _
      · rw [update_of_ne heq]
        refine htrial.cphiStaged hcall c hc ?_
        change Function.update h.cphiStaged cell true c = true at hs
        rwa [update_of_ne heq] at hs
    · intro i hi x hx
      change (if i / ns = cell then some RateEntry.inactive else l.call.rates i) = _ at hx
      by_cases heq : i / ns = cell
      · rw [if_pos heq] at hx
        cases hx
      · rw [if_neg heq] at hx
        exact htrial.advanced i hi x hx

lemma invariant_seal (hinv : WindowInvariant m cells ns initialCphi initialStep h l) :
    WindowInvariant m cells ns initialCphi initialStep (h.sealTrial m).2 (if (h.sealTrial m).1.isOk then l.sealCall else l) := by
  rw [History.sealTrial]
  split
  · exact hinv
  · rename_i hguard
    simp only [Bool.or_eq_true, Bool.not_eq_true', not_or, Bool.not_eq_false, Bool.not_eq_true,
      List.any_eq_false, List.mem_range] at hguard
    obtain ⟨⟨⟨hprep, hstaged⟩, hcphi⟩, hvalid⟩ := hguard
    have htrial := hinv.preparing hprep
    rw [hinv.cellCount, hinv.species] at hstaged hvalid
    rw [hinv.cellCount] at hcphi
    refine ⟨hinv.species, hinv.cellCount, hinv.accepted, fun hp => Bool.noConfusion hp, fun _ => ?_, fun hp => Bool.noConfusion hp⟩
    refine ⟨htrial.rates, htrial.coefficients, ?_, htrial.candidateCalls, ?_, ?_, fun _ => hvalid⟩
    · exact htrial.candidateStep
    · intro k _
      exact congrArg (fun s => encode m s h.trial h.trialCphi h.candidateStep h.candidateCalls k) hinv.species
    · exact ⟨fun i hi => htrial.staged i hi (hstaged i hi),
        fun hcall cell hcell => htrial.cphiStaged hcall cell hcell (hcphi cell hcell), htrial.advanced,
        hinv.accepted.complete⟩

lemma invariant_commit (hinv : WindowInvariant m cells ns initialCphi initialStep h l) :
    WindowInvariant m cells ns initialCphi initialStep h.commit (if h.pending then l.commit else l) := by
  rw [History.commit]
  by_cases hpending : h.pending = true
  · rw [if_pos hpending, if_neg (by rw [hpending]; decide)]
    exact ⟨hinv.species, hinv.cellCount, hinv.pending hpending, fun hp => Bool.noConfusion hp, fun hp => Bool.noConfusion hp,
    fun hp => Bool.noConfusion hp⟩
  · rw [if_neg hpending, if_pos (by rw [Bool.not_eq_true] at hpending; rw [hpending]; rfl)]
    exact hinv

lemma word_index {w cell k : ℕ} (hk : k < w) : (cell * w + k) / w = cell ∧ (cell * w + k) % w = k := by
  rw [Nat.add_comm, Nat.add_mul_div_right _ _ (Nat.zero_lt_of_lt hk), Nat.add_mul_mod_self_right,
    Nat.div_eq_of_lt hk, Nat.mod_eq_of_lt hk, Nat.zero_add]
  exact ⟨rfl, rfl⟩

omit [Zero F] [One F] [Add F] [Sub F] [Mul F] [Div F] [NatCast F] in
lemma encode_word {cell k : ℕ} (hk : k < width ns) : encode m ns values cphi step calls (cell * width ns + k) =
      cellWord m ns (fun q => values (cell * ns + q)) (cphi cell) step calls k := by
  rw [encode, (word_index hk).1, (word_index hk).2]

omit [Zero F] [One F] [Add F] [Sub F] [Mul F] [Div F] [NatCast F] in
lemma cellWord_rate {rates : ℕ → RateState F} {cphi : F} {q k : ℕ} (hk : k < 5) :
    cellWord m ns rates cphi step calls (5 + 5 * q + k) = rateWord m (rates q) k := by
  have hq : (5 + 5 * q + k - 5) / 5 = q := by omega
  have hr : (5 + 5 * q + k - 5) % 5 = k := by omega
  rw [cellWord, if_neg (by omega), if_neg (by omega), if_neg (by omega), if_neg (by omega), if_neg (by omega), hq, hr]

omit [Zero F] [One F] [Add F] [Sub F] [Mul F] [Div F] [NatCast F] in
lemma readRate_stored (hcodec : ∀ x, m.ofBits (m.toBits x) = x) {r : RateState F} {data : ℕ → ℕ} {at_ : ℕ}
    (hdata : ∀ k < 5, data (at_ + k) = rateWord m r k) (hflags : (r.upperBranch && r.linearEndpoint) = false) :
    readRate m data at_ = r := by
  have h0 := hdata 0 (by decide)
  have h1 := hdata 1 (by decide)
  have h2 := hdata 2 (by decide)
  have h3 := hdata 3 (by decide)
  have h4 := hdata 4 (by decide)
  rw [Nat.add_zero] at h0
  rw [readRate, h0, h1, h2, h3, h4]
  obtain ⟨pdf, psr, selected, effective, upper, linear⟩ := r
  change RateState.mk (m.ofBits (m.toBits _)) (m.ofBits (m.toBits _)) (m.ofBits (m.toBits _)) (m.ofBits (m.toBits _)) _ _ = _
  rw [hcodec, hcodec, hcodec, hcodec]
  cases upper <;> cases linear <;> first | rfl | exact Bool.noConfusion hflags

omit [Add F] [Sub F] [Mul F] [Div F] in
lemma flags_of_valid (hvalid : valid m cells ns values cphi = true)
    (hi : i < cells * ns) : ((values i).upperBranch && (values i).linearEndpoint) = false := by
  simp only [History.valid, Bool.and_eq_true, List.all_eq_true, List.mem_range, validRate, Bool.not_eq_true'] at hvalid
  exact (hvalid.1 i hi).2

lemma HoldsCalls.flags (hholds : HoldsCalls m cells ns initialCphi initialStep values cphi step calls words log)
    (hi : i < cells * ns) : ((values i).upperBranch && (values i).linearEndpoint) = false := by
  cases log with
  | nil =>
    rw [hholds.rates i hi]
    rfl
  | cons call log => exact flags_of_valid (hholds.admitted (cons_ne_nil _ _)) hi

structure ReadBack (m : Numbers F) (cells ns : ℕ) (values : ℕ → RateState F) (cphi : ℕ → F) (words : ℕ → ℕ) : Prop where
  rates : ∀ i < cells * ns, readRate m words (i / ns * width ns + 5 + 5 * (i % ns)) = values i
  cphi : ∀ cell < cells, m.ofBits (words (cell * width ns + 4)) = cphi cell

lemma HoldsCalls.readBack (hcodec : ∀ x, m.ofBits (m.toBits x) = x)
    (hholds : HoldsCalls m cells ns initialCphi initialStep values cphi step calls words log) :
    ReadBack m cells ns values cphi words := by
  have hword : ∀ cell < cells, ∀ k < width ns, words (cell * width ns + k) =
      cellWord m ns (fun q => values (cell * ns + q)) (cphi cell) step calls k := by
    intro cell hcell k hk
    have hin : cell * width ns + k < cells * width ns := by
      calc cell * width ns + k < cell * width ns + width ns := Nat.add_lt_add_left hk _
        _ = (cell + 1) * width ns := (Nat.succ_mul _ _).symm
        _ ≤ cells * width ns := Nat.mul_le_mul_right _ hcell
    rw [hholds.encoded _ hin, encode_word hk]
  constructor
  · intro i hi
    have hpos : 0 < ns := Nat.pos_of_ne_zero fun hzero => absurd hi (by rw [hzero, Nat.mul_zero]; exact Nat.not_lt_zero i)
    have hcell : i / ns < cells := (Nat.div_lt_iff_lt_mul hpos).mpr hi
    have hspecies : i % ns < ns := Nat.mod_lt _ hpos
    refine readRate_stored hcodec (fun k hk => ?_) (hholds.flags hi)
    have hk' : 5 + 5 * (i % ns) + k < width ns := by
      rw [width]
      omega
    have hindex : i / ns * width ns + 5 + 5 * (i % ns) + k = i / ns * width ns + (5 + 5 * (i % ns) + k) := by omega
    rw [hindex, hword _ hcell _ hk', cellWord_rate hk, Nat.div_add_mod']
  · intro cell hcell
    rw [hword cell hcell 4 (by rw [width]; omega)]
    exact hcodec _

omit [Add F] [Sub F] [Mul F] [Div F] in
lemma valid_congr (hrates : ∀ i < cells * ns, values i = values' i) (hcphi : ∀ cell < cells, cphi cell = cphi' cell) :
    valid m cells ns values cphi = valid m cells ns values' cphi' := by
  rw [Bool.eq_iff_iff]
  simp only [History.valid, Bool.and_eq_true, List.all_eq_true, List.mem_range]
  refine and_congr (forall₂_congr fun i hi => ?_) (forall₂_congr fun cell hcell => ?_)
  · rw [hrates i hi]
  · rw [hcphi cell hcell]

omit [Zero F] [One F] [Add F] [Sub F] [Mul F] [Div F] [NatCast F] in
lemma encode_congr {k : ℕ}
    (hrates : ∀ i < cells * ns, values i = values' i) (hcphi : ∀ cell < cells, cphi cell = cphi' cell)
    (hk : k < cells * width ns) : encode m ns values cphi step calls k = encode m ns values' cphi' step calls k := by
  have hwidth : 0 < width ns := by
    rw [width]
    omega
  have hcell : k / width ns < cells := (Nat.div_lt_iff_lt_mul hwidth).mpr hk
  have hmod : k % width ns < width ns := Nat.mod_lt _ hwidth
  rw [encode, encode, hcphi _ hcell]
  generalize k % width ns = o at hmod
  by_cases ho : o < 5
  · interval_cases o <;> rfl
  · have hq : (o - 5) / 5 < ns := by
      rw [width] at hmod
      omega
    have hslot : k / width ns * ns + (o - 5) / 5 < cells * ns := by
      calc k / width ns * ns + (o - 5) / 5 < k / width ns * ns + ns := Nat.add_lt_add_left hq _
        _ = (k / width ns + 1) * ns := (Nat.succ_mul _ _).symm
        _ ≤ cells * ns := Nat.mul_le_mul_right _ hcell
    simp only [cellWord, hrates _ hslot]

lemma HoldsCalls.copy (hholds : HoldsCalls m cells ns initialCphi initialStep values cphi step calls words log)
    (hrates : ∀ i < cells * ns, values' i = values i) (hcphi : ∀ cell < cells, cphi' cell = cphi cell) :
    HoldsCalls m cells ns initialCphi initialStep values' cphi' step calls words log where
  rates := fun i hi => (hrates i hi).trans (hholds.rates i hi)
  coefficients := fun cell hc => (hcphi cell hc).trans (hholds.coefficients cell hc)
  atStep := hholds.atStep
  atCalls := hholds.atCalls
  encoded := fun k hk => (hholds.encoded k hk).trans (encode_congr hrates hcphi hk).symm
  complete := hholds.complete
  admitted := fun hlog => (valid_congr hrates hcphi).trans (hholds.admitted hlog)

lemma HoldsCalls.word (hholds : HoldsCalls m cells ns initialCphi initialStep values cphi step calls words log)
    (cell k : ℕ) (hcell : cell < cells) (hk : k < width ns) : words (cell * width ns + k) =
      cellWord m ns (fun q => values (cell * ns + q)) (cphi cell) step calls k := by
  have hin : cell * width ns + k < cells * width ns := by
    calc cell * width ns + k < cell * width ns + width ns := Nat.add_lt_add_left hk _
      _ = (cell + 1) * width ns := (Nat.succ_mul _ _).symm
      _ ≤ cells * width ns := Nat.mul_le_mul_right _ hcell
  rw [hholds.encoded _ hin, encode_word hk]

lemma HoldsCalls.counters (hholds : HoldsCalls m cells ns initialCphi initialStep values cphi step calls words log)
    (hcells : cells ≠ 0) : words 0 = step ∧ words 1 = calls := by
  have hzero := hholds.word 0 0 (Nat.pos_of_ne_zero hcells) (by rw [width]; omega)
  have hone := hholds.word 0 1 (Nat.pos_of_ne_zero hcells) (by rw [width]; omega)
  rw [Nat.zero_mul, Nat.zero_add] at hzero hone
  exact ⟨hzero, hone⟩

lemma invariant_restore (hcodec : ∀ x, m.ofBits (m.toBits x) = x) {h' : History F} {l' : WindowLedger F} (step : ℕ)
    (hinv : WindowInvariant m cells ns initialCphi initialStep h l)
    (hinv' : WindowInvariant m cells ns initialCphi initialStep h' l') :
    WindowInvariant m cells ns initialCphi initialStep (h.restore m h'.words h'.size step).2
      (if (h.restore m h'.words h'.size step).1.isOk then l.restore l'.log else l) := by
  rw [History.restore]
  split
  · exact invariant_discard hinv
  · rename_i hsize
    push Not at hsize
    dsimp only
    split
    · exact invariant_discard hinv
    · split
      · exact ⟨hinv.species, hinv.cellCount, hinv.accepted, fun hp => Bool.noConfusion hp, fun hp => Bool.noConfusion hp,
    fun hp => Bool.noConfusion hp⟩
      · rename_i hfits
        simp only [Bool.or_eq_true, Bool.not_eq_true', not_or, Bool.not_eq_false, List.all_eq_true, List.mem_range,
          Bool.and_eq_true, beq_iff_eq] at hfits
        refine ⟨hinv.species, hinv.cellCount, hinv.accepted, fun hp => Bool.noConfusion hp, fun _ => ?_, fun hp => Bool.noConfusion hp⟩
        have hcells : cells ≠ 0 := by
          rw [← hinv.cellCount]
          exact hsize.2
        have hcnt := hinv'.accepted.counters hcells
        have hstep : h'.step = step := by
          have hfirst := (hfits.1 0 (Nat.pos_of_ne_zero hsize.2)).1.1.1.1
          rw [Nat.zero_mul, hcnt.1] at hfirst
          exact hfirst
        have hback := hinv'.accepted.readBack hcodec
        rw [← hstep, hcnt.2]
        refine hinv'.accepted.copy (fun i hi => ?_) fun cell hcell => ?_
        · rw [hinv.species]
          exact hback.rates i hi
        · rw [hinv.species]
          exact hback.cphi cell hcell

lemma run_invariant (hcodec : ∀ x, m.ofBits (m.toBits x) = x)
    (hrun : WindowRun m model cells ns initialCphi initialStep h l) :
    WindowInvariant m cells ns initialCphi initialStep h l := by
  induction hrun with
  | configured => exact invariant_configured
  | begin step _ ih => exact invariant_begin step ih
  | stageRate cell species x _ ih => exact invariant_stageRate cell species x ih
  | stageCphi cell value _ ih => exact invariant_stageCphi cell value ih
  | stageInactive cell _ ih => exact invariant_stageInactive cell ih
  | sealTrial _ ih => exact invariant_seal ih
  | discard _ ih => exact invariant_discard ih
  | commit _ ih => exact invariant_commit ih
  | restore step _ _ ih ih' => exact invariant_restore hcodec step ih ih'

lemma replay_inWindow {x : ℕ → RateInput F} (hi : i < cells * ns) (hcompl : FullyStaged m cells ns log)
    (hactive : ActiveThroughout i x log) : InWindow m x log.length (replayRate m i log) := by
  induction log with
  | nil => exact inWindow_zero x
  | cons call log ih =>
    obtain ⟨-, -, hadvanced, hrest⟩ := hcompl
    obtain ⟨hentry, hactive⟩ := hactive
    obtain ⟨next, hnext⟩ := isSome_iff_exists.mp (hadvanced i hi _ hentry)
    have hreplay : replayRate m i (call :: log) = next := by
      simp only [replayRate, hentry]
      rw [hnext]
      rfl
    rw [hreplay]
    exact inWindow_succ (ih hrest hactive) hnext

def acceptedWindow (h : History F) : (ℕ → RateState F) × (ℕ → F) × (ℕ → ℕ) × ℕ × ℕ :=
  (h.accepted, h.cphi, h.words, h.step, h.calls)

/-- Operations other than `commit` leave the accepted state alone, and a failed staging leaves everything alone. -/
structure LeavesAccepted (m : Numbers F) (h : History F) : Prop where
  begin : ∀ step, acceptedWindow (h.begin step).2 = acceptedWindow h
  stageRate : ∀ cell species x, acceptedWindow (h.stageRate m cell species x).2 = acceptedWindow h ∧
    ((h.stageRate m cell species x).1.isOk = false → (h.stageRate m cell species x).2 = h)
  stageCphi : ∀ cell value, acceptedWindow (h.stageCphi m cell value).2 = acceptedWindow h ∧
    ((h.stageCphi m cell value).1.isOk = false → (h.stageCphi m cell value).2 = h)
  stageInactive : ∀ cell, acceptedWindow (h.stageInactive cell).2 = acceptedWindow h ∧
    ((h.stageInactive cell).1.isOk = false → (h.stageInactive cell).2 = h)
  sealTrial : acceptedWindow (h.sealTrial m).2 = acceptedWindow h ∧ ((h.sealTrial m).1.isOk = false → (h.sealTrial m).2 = h)
  discard : acceptedWindow h.discard = acceptedWindow h
  restore : ∀ data size step, acceptedWindow (h.restore m data size step).2 = acceptedWindow h

lemma leavesAccepted (m : Numbers F) (h : History F) : LeavesAccepted m h where
  begin := fun step => by
    rw [History.begin]
    split <;> rfl
  stageRate := fun cell species x => by
    rw [History.stageRate]
    split
    · exact ⟨rfl, fun _ => rfl⟩
    · dsimp only
      split
      · exact ⟨rfl, fun _ => rfl⟩
      · exact ⟨rfl, fun hf => Bool.noConfusion hf⟩
  stageCphi := fun cell value => by
    rw [History.stageCphi]
    split
    · exact ⟨rfl, fun _ => rfl⟩
    · exact ⟨rfl, fun hf => Bool.noConfusion hf⟩
  stageInactive := fun cell => by
    rw [History.stageInactive]
    split
    · exact ⟨rfl, fun _ => rfl⟩
    · exact ⟨rfl, fun hf => Bool.noConfusion hf⟩
  sealTrial := by
    rw [History.sealTrial]
    split
    · exact ⟨rfl, fun _ => rfl⟩
    · exact ⟨rfl, fun hf => Bool.noConfusion hf⟩
  discard := rfl
  restore := fun data size step => by
    rw [History.restore]
    split
    · rfl
    · dsimp only
      split
      · rfl
      · split <;> rfl

/-- `g` takes up the snapshot of `h`. -/
structure TakesUp (m : Numbers F) (cells ns : ℕ) (g h : History F) : Prop where
  restored : (g.restore m h.words h.size h.step).1.isOk = true
  rates : ∀ i < cells * ns, (g.restore m h.words h.size h.step).2.commit.accepted i = h.accepted i
  cphi : ∀ cell < cells, (g.restore m h.words h.size h.step).2.commit.cphi cell = h.cphi cell
  step : (g.restore m h.words h.size h.step).2.commit.step = h.step
  calls : (g.restore m h.words h.size h.step).2.commit.calls = h.calls
  clock : (g.restore m h.words h.size h.step).2.commit.clock = h.clock
  words : (g.restore m h.words h.size h.step).2.commit.words = h.words

lemma takesUp (hcodec : ∀ x, m.ofBits (m.toBits x) = x) {g : History F} {lg : WindowLedger F}
    (hinv : WindowInvariant m cells ns initialCphi initialStep h l)
    (hg : WindowInvariant m cells ns initialCphi initialStep g lg) (hcells : cells ≠ 0)
    (hvalid : valid m cells ns h.accepted h.cphi = true) : TakesUp m cells ns g h := by
  have hback := hinv.accepted.readBack hcodec
  have hcnt := hinv.accepted.counters hcells
  let trial : ℕ → RateState F := fun i => readRate m h.words (i / g.ns * width g.ns + 5 + 5 * (i % g.ns))
  let trialCphi : ℕ → F := fun cell => m.ofBits (h.words (cell * width g.ns + 4))
  have htrial : ∀ i < cells * ns, trial i = h.accepted i := by
    intro i hi
    dsimp only [trial]
    rw [hg.species]
    exact hback.rates i hi
  have htrialCphi : ∀ cell < cells, trialCphi cell = h.cphi cell := by
    intro cell hcell
    dsimp only [trialCphi]
    rw [hg.species]
    exact hback.cphi cell hcell
  have hrestore : g.restore m h.words h.size h.step =
      ({}, { g.discard with
        trial := trial, trialCphi := trialCphi, trialWords := h.words, candidateStep := h.step
        candidateCalls := h.calls, pending := true }) := by
    rw [History.restore, if_neg, hcnt.2, if_neg, if_neg]
    · simp only [Bool.or_eq_true, Bool.not_eq_true', not_or, Bool.not_eq_false, List.all_eq_true, List.mem_range,
        Bool.and_eq_true, beq_iff_eq, decide_eq_true_iff]
      constructor
      · intro cell hcell
        change cell < g.cells at hcell
        rw [hg.cellCount] at hcell
        rw [hg.species]
        have hword := fun k (hk : k < width ns) => hinv.accepted.word cell k hcell hk
        refine ⟨⟨⟨⟨?_, ?_⟩, ?_⟩, ?_⟩, ?_⟩
        · exact hword 0 (by rw [width]; omega)
        · exact hword 1 (by rw [width]; omega)
        · exact hword 2 (by rw [width]; omega)
        · exact hword 3 (by rw [width]; omega)
        · intro q hq
          have hindex : cell * width ns + 5 + 5 * q + 4 = cell * width ns + (5 + 5 * q + 4) := by omega
          rw [hindex, hword _ (by rw [width]; omega), cellWord_rate (by decide)]
          change flags _ ≤ 2
          rw [flags]
          split
          · decide
          · split <;> decide
      · change valid m g.cells g.ns trial trialCphi = true
        rw [hg.cellCount, hg.species, valid_congr htrial htrialCphi]
        exact hvalid
    · rw [hinv.accepted.atCalls, hinv.accepted.atStep]
      omega
    · rw [History.size, History.size, hinv.cellCount, hinv.species, hg.cellCount, hg.species]
      exact fun hor => hor.elim (fun hne => hne rfl) hcells
  constructor <;> rw [hrestore]
  · rfl
  · exact htrial
  · exact htrialCphi
  · rfl
  · rfl
  · rfl
  · rfl

/-- What holds of every state that a run reaches. -/
structure CommittedWindows (m : Numbers F) (model cells ns : ℕ) (initialCphi : F) (initialStep : ℕ) (h : History F)
    (l : WindowLedger F) : Prop where
  calls : h.calls = l.log.length ∧ h.clock = (fun c => (tick c).next)^[l.log.length] zeroClock
  coefficient : ∀ cell value, h.preparing = true → cell < cells → h.inactive cell = false → validCphi m value = true →
    ((h.stageCphi m cell value).1.isOk = true ↔ cphiCall (h.calls + 1))
  complete : FullyStaged m cells ns l.log
  windows : ∀ i < cells * ns, ∀ x, ActiveThroughout i x l.log → InWindow m x l.log.length (h.accepted i)
  valid : l.log ≠ [] → valid m cells ns h.accepted h.cphi = true
  unchanged : LeavesAccepted m h
  roundTrip : ∀ g lg, WindowRun m model cells ns initialCphi initialStep g lg → cells ≠ 0 →
    History.valid m cells ns h.accepted h.cphi = true → TakesUp m cells ns g h

lemma run_windows (hcodec : ∀ x, m.ofBits (m.toBits x) = x)
    (hrun : WindowRun m model cells ns initialCphi initialStep h l) :
    CommittedWindows m model cells ns initialCphi initialStep h l := by
  have hinv := run_invariant hcodec hrun
  refine ⟨⟨hinv.accepted.atCalls, ?_⟩, ?_, hinv.accepted.complete, ?_, hinv.accepted.admitted, leavesAccepted m h, ?_⟩
  · rw [History.clock, hinv.accepted.atCalls, clockAt_iterate]
  · intro cell value hprep hcell hactive hvalid
    rw [← updateCphi_iff, History.stageCphi, hprep, hactive, hvalid, hinv.cellCount,
      decide_eq_false (Nat.not_le.mpr hcell)]
    change _ ↔ (tick h.clock).updateCphi = true
    cases (tick h.clock).updateCphi with
    | false => exact iff_of_false (fun hok => Bool.noConfusion hok) Bool.false_ne_true
    | true => exact iff_of_true rfl rfl
  · intro i hi x hactive
    rw [hinv.accepted.rates i hi]
    exact replay_inWindow hi hinv.accepted.complete hactive
  · intro g lg hg hcells hvalid
    exact takesUp hcodec hinv (run_invariant hcodec hg) hcells hvalid

end Runs

/-- Exact numbers, stored by an enumeration of the rationals. -/
def rationalNumbers : Numbers ℚ where
  isFinite := fun _ => true
  isNaN := fun _ => false
  isNegative := fun x => decide (x < 0)
  less := fun x y => decide (x < y)
  equal := fun x y => decide (x = y)
  sqrt := fun x => x
  initialControl := 1 / 5
  toBits := Encodable.encode
  ofBits := fun word => (Encodable.decode word).getD 0

lemma rationalNumbers_codec (x : ℚ) : rationalNumbers.ofBits (rationalNumbers.toBits x) = x := by
  change (Encodable.decode (Encodable.encode x)).getD 0 = x
  rw [Encodable.encodek]
  rfl

end HundunFlow.Proofs
