import HundunFlow.TcrRecord
import Mathlib.Tactic.IntervalCases

/-!
# Records of histories

A store that stages every cell in every step takes up its own snapshot, and a record is accepted
only as the encoding of the history that is read from it.
-/

namespace HundunFlow.Proofs

open Lib TcrStore List Option
open Tcr (AlgebraInput AlgebraReport History Trial TrialRequest validSign initialRevision)

/-- What the proofs use of the numbers of the code: zero equals itself, a finite number is close to
itself, roots are finite, and a number survives the copy into bits and back. -/
structure StoredLaws {V : Type} (m : StoredNumbers V) : Prop where
  zeroEqual : m.equal m.zero m.zero = true
  closeSelf : ∀ x, m.isFinite x = true → close m x x = true
  rootFinite : ∀ d sign, m.isFinite d = true → m.lessEq d m.tolerance = false → validSign sign = true →
    m.isFinite (m.mul (m.ofInt sign) (m.sqrt d)) = true
  bitsFit : ∀ x, m.toBits x < 256 ^ 8
  ofBits : ∀ x, m.ofBits (m.toBits x) = x
  toBits : ∀ w < 256 ^ 8, m.toBits (m.ofBits w) = w

variable {V : Type} {m : StoredNumbers V}

structure SelectedAgain (m : StoredNumbers V) (a : AlgebraInput V) (r : AlgebraReport V) : Prop where
  valid : validSign r.selectedSign = true
  again : algebra m a r.selectedSign = r
  root : m.isFinite r.signedRoot = true
  control : m.isFinite r.control = true

variable {a : AlgebraInput V} {sign : ℤ} {h : History V} {q : TrialRequest V} {next : Revision}
  {other : Store V} {record : List UInt8}

variable {c : History V}

lemma selectRoot_reselects (hsign : sign = 0 ∨ validSign sign = true) (h : (selectRoot m a sign).status = .success) :
    validSign (selectRoot m a sign).selectedSign = true ∧
      selectRoot m a (selectRoot m a sign).selectedSign = selectRoot m a sign ∧
      (selectRoot m a sign).signedRoot =
        m.mul (m.ofInt (selectRoot m a sign).selectedSign) (m.sqrt (discriminant m a)) ∧
      m.isFinite (selectRoot m a sign).control = true := by
  have hcases : sign = 0 ∨ sign = -1 ∨ sign = 1 := by
    rcases hsign with hzero | hvalid
    · exact .inl hzero
    · exact .inr (by simpa only [validSign, Bool.or_eq_true, decide_eq_true_eq] using hvalid)
  have hfinite : ∀ x, admissibleRoot m x = true → m.isFinite x = true := by
    intro x hx
    simp only [admissibleRoot, Bool.and_eq_true] at hx
    exact hx.1.1
  cases hlow : admissibleRoot m (roots m a).1 <;> cases hhigh : admissibleRoot m (roots m a).2 <;>
    rcases hcases with rfl | rfl | rfl <;>
    simp [selectRoot, hlow, hhigh, validSign] at h ⊢ <;>
    first | exact hfinite _ hlow | exact hfinite _ hhigh

lemma earlyReport_cases (m : StoredNumbers V) (a : AlgebraInput V) :
    (∃ r, earlyReport m a = some r ∧ r.status ≠ .success) ∨
      (earlyReport m a = none ∧ m.isFinite (discriminant m a) = true ∧
        m.lessEq (discriminant m a) m.tolerance = false) := by
  dsimp only [earlyReport]
  split
  · exact .inl ⟨_, rfl, Tcr.Status.noConfusion⟩
  · split
    · exact .inl ⟨_, rfl, Tcr.Status.noConfusion⟩
    · rename_i hfinite
      split
      · exact .inl ⟨_, rfl, Tcr.Status.noConfusion⟩
      · split
        · exact .inl ⟨_, rfl, Tcr.Status.noConfusion⟩
        · split
          · exact .inl ⟨_, rfl, Tcr.Status.noConfusion⟩
          · rename_i hfold
            exact .inr ⟨rfl, by simpa using hfinite, by simpa using hfold⟩

lemma algebra_reselects (hlaws : StoredLaws m) (h : (algebra m a sign).status = .success) :
    (sign = 0 ∨ validSign sign = true) ∧ SelectedAgain m a (algebra m a sign) := by
  have hsign : sign = 0 ∨ validSign sign = true := by
    by_contra hne
    push Not at hne
    have hbad : (sign ≠ 0 && !validSign sign) = true := by simp [hne.1, hne.2]
    rw [algebra, if_pos hbad] at h
    exact Tcr.Status.noConfusion h
  have hpass : ∀ other : ℤ, (other = 0 ∨ validSign other = true) →
      algebra m a other = (earlyReport m a).getD (selectRoot m a other) := by
    intro other hother
    refine if_neg ?_
    rcases hother with rfl | hvalid
    · decide
    · rw [hvalid, Bool.not_true, Bool.and_false]
      exact Bool.false_ne_true
  refine ⟨hsign, ?_⟩
  rw [hpass sign hsign] at h ⊢
  rcases earlyReport_cases m a with ⟨r, hr, hstatus⟩ | ⟨hnone, hfinite, hfold⟩
  · rw [hr] at h
    exact absurd h hstatus
  · rw [hnone] at h ⊢
    obtain ⟨hvalid, hagain, hroot, hcontrol⟩ := selectRoot_reselects hsign h
    refine ⟨hvalid, ?_, ?_, hcontrol⟩
    · change algebra m a (selectRoot m a sign).selectedSign = selectRoot m a sign
      rw [hpass _ (.inr hvalid), hnone]
      exact hagain
    · change m.isFinite (selectRoot m a sign).signedRoot = true
      rw [hroot]
      exact hlaws.rootFinite _ _ hfinite hfold hvalid

/-- What a store keeps of a cell after `n` steps. -/
structure KeptHistory (m : StoredNumbers V) (initializationSign : ℤ) (n : ℕ) (h : History V) : Prop where
  valid : validHistory m h = true
  revision : h.revision = ⟨n, n + 1, 1⟩
  room : n + 1 ≤ maxU64
  noFold : h.foldCount = 0 → h.lastFold = ⟨m.zero, m.zero⟩ ∧ h.lastFoldBaseRevision = initialRevision
  folds : h.foldCount ≤ maxU64
  mapping : h.initialized = true → h.mappingIdentity = reactantMapping ∧
    (initializationSign ≠ 0 → h.initializationSign = initializationSign)

/-- A trial of the mapping that the store knows, which opens a branch with the configured sign. -/
def TrialFits (initializationSign : ℤ) (h : History V) (t : Trial V) : Prop :=
  t.request.mode ≠ .off →
    (t.request.mapping.mappingIdentity ≠ 0 → t.request.mapping.mappingIdentity = reactantMapping) ∧
      (initializationSign ≠ 0 → h.initialized = false → t.request.initializationSign = initializationSign)

structure RequestSelected (m : StoredNumbers V) (h : History V) (q : TrialRequest V) : Prop where
  mode : q.mode ≠ .off
  identity : q.mapping.mappingIdentity ≠ 0
  success : (algebra m q.mapping.input (signOfTrial h q)).status = .success
  fold : q.fold.supplied = true → foldAccepted m h q = true ∧ h.foldCount ≠ maxU64

lemma prepareCandidate_some (hc : prepareCandidate m h q = some c) :
    c = h ∨ (RequestSelected m h q ∧ c = candidateOf h q (algebra m q.mapping.input (signOfTrial h q))) := by
  dsimp only [prepareCandidate] at hc
  split at hc
  · cases hc
  · split at hc
    · exact .inl (some.inj hc).symm
    · rename_i hmode
      split at hc
      · split at hc
        · exact .inl (some.inj hc).symm
        · cases hc
      · rename_i hmapping
        split at hc
        · cases hc
        · split at hc
          · cases hc
          · split at hc
            · cases hc
            · rename_i hfold
              split at hc
              · split at hc
                · exact .inl (some.inj hc).symm
                · cases hc
              · rename_i hstatus
                split at hc
                · cases hc
                · rename_i hcount
                  refine .inr ⟨⟨hmode, ?_, not_not.mp hstatus, ?_⟩, (some.inj hc).symm⟩
                  · intro hzero
                    exact hmapping (by simp [hzero])
                  · intro hsupp
                    rw [hsupp] at hfold hcount
                    exact ⟨by simpa using hfold, by simpa using hcount⟩

lemma acceptCandidate_some {t : Trial V} (hc : acceptCandidate m h t next = some c) :
    validHistory m h = true ∧ ∃ checked, prepareCandidate m h t.request = some checked ∧
      c = { checked with revision := next } ∧ h.revision.acceptedStep ≠ maxU64 := by
  dsimp only [acceptCandidate] at hc
  split at hc
  · cases hc
  · rename_i hguard
    simp only [Bool.or_eq_true, Bool.not_eq_true', decide_eq_true_eq, not_or, Bool.not_eq_false] at hguard
    split at hc
    · cases hc
    · rename_i checked hchecked
      split at hc
      · exact ⟨hguard.1.1.1.1.1.1.1.2, checked, hchecked, (some.inj hc).symm, hguard.1.1.2⟩
      · cases hc

lemma validStored_initialized (hinit : h.initialized = true) :
    validHistory m h = true ↔ h.revision.algorithmVersion = 1 ∧ validInitialized m h = true := by
  rw [validHistory, hinit, Bool.and_eq_true, decide_eq_true_eq]
  rfl

lemma validStored_later (hvalid : validHistory m h = true)
    (hversion : next.algorithmVersion = 1) (hstep : h.revision.acceptedStep ≤ next.acceptedStep)
    (hinput : h.revision.inputRevision ≤ next.inputRevision) : validHistory m { h with revision := next } = true := by
  by_cases hinit : h.initialized = true
  · obtain ⟨-, hinner⟩ := (validStored_initialized hinit).mp hvalid
    refine (validStored_initialized (h := { h with revision := next }) hinit).mpr ⟨hversion, ?_⟩
    simp only [validInitialized, validFold, Bool.and_eq_true, Bool.or_eq_true, decide_eq_true_eq] at hinner ⊢
    obtain ⟨⟨⟨⟨⟨hsign, hfold⟩, hmapping⟩, hstatus⟩, hroot⟩, hcontrol⟩ := hinner
    refine ⟨⟨⟨⟨⟨hsign, hfold.imp_right ?_⟩, hmapping⟩, hstatus⟩, hroot⟩, hcontrol⟩
    rintro ⟨⟨⟨hopen, hbase⟩, hle⟩, hle'⟩
    exact ⟨⟨⟨hopen, hbase⟩, hle.trans hstep⟩, hle'.trans hinput⟩
  · rw [Bool.not_eq_true] at hinit
    simp only [validHistory, hinit, Bool.false_eq_true, if_false, Bool.and_eq_true, decide_eq_true_eq] at hvalid ⊢
    exact ⟨hversion, hvalid.2⟩

lemma candidateOf_valid (hlaws : StoredLaws m) (hvalid : validHistory m h = true)
    (hsel : RequestSelected m h q) (hversion : next.algorithmVersion = 1)
    (hstep : h.revision.acceptedStep ≤ next.acceptedStep) (hinput : h.revision.inputRevision ≤ next.inputRevision) :
    validHistory m { candidateOf h q (algebra m q.mapping.input (signOfTrial h q)) with revision := next } = true := by
  obtain ⟨-, hagain⟩ := algebra_reselects hlaws hsel.success
  have hrevision : h.revision.algorithmVersion = 1 := by
    rw [validHistory, Bool.and_eq_true, decide_eq_true_eq] at hvalid
    exact hvalid.1
  refine (validStored_initialized rfl).mpr ⟨hversion, ?_⟩
  simp only [validInitialized, Bool.and_eq_true, Bool.or_eq_true, decide_eq_true_eq]
  refine ⟨⟨⟨⟨⟨?_, ?_⟩, hsel.identity⟩, ?_⟩, ?_⟩, ?_⟩
  · by_cases hinit : h.initialized = true
    · have hinner := ((validStored_initialized hinit).mp hvalid).2
      simp only [validInitialized, Bool.and_eq_true] at hinner
      change validSign (if h.initialized then _ else _) = true
      rw [hinit]
      exact hinner.1.1.1.1.1
    · rw [Bool.not_eq_true] at hinit
      change validSign (if h.initialized then _ else _) = true
      rw [hinit]
      exact hagain.valid
  · by_cases hsupp : q.fold.supplied = true
    · have hfold := (hsel.fold hsupp).1
      simp only [foldAccepted, Bool.and_eq_true, decide_eq_true_eq] at hfold
      refine .inr ?_
      simp only [validFold, candidateOf, hsupp, if_true, Bool.and_eq_true, decide_eq_true_eq]
      exact ⟨⟨⟨hfold.1.1.2, hrevision⟩, hstep⟩, hinput⟩
    · rw [Bool.not_eq_true] at hsupp
      simp only [validFold, candidateOf, hsupp, Bool.false_eq_true, if_false, Bool.and_eq_true, decide_eq_true_eq]
      by_cases hinit : h.initialized = true
      · have hinner := ((validStored_initialized hinit).mp hvalid).2
        simp only [validInitialized, validFold, Bool.and_eq_true, Bool.or_eq_true, decide_eq_true_eq] at hinner
        refine hinner.1.1.1.1.2.imp_right ?_
        rintro ⟨⟨⟨hopen, hbase⟩, hle⟩, hle'⟩
        exact ⟨⟨⟨hopen, hbase⟩, hle.trans hstep⟩, hle'.trans hinput⟩
      · rw [Bool.not_eq_true] at hinit
        simp only [validHistory, hinit, Bool.false_eq_true, if_false, Bool.and_eq_true, decide_eq_true_eq] at hvalid
        exact .inl hvalid.2.2
  · change (algebra m q.mapping.input (algebra m q.mapping.input (signOfTrial h q)).selectedSign).status = _
    rw [hagain.again]
    exact hsel.success
  · change close m (algebra m q.mapping.input (signOfTrial h q)).signedRoot
      (algebra m q.mapping.input (algebra m q.mapping.input (signOfTrial h q)).selectedSign).signedRoot = true
    rw [hagain.again]
    exact hlaws.closeSelf _ hagain.root
  · change close m (algebra m q.mapping.input (signOfTrial h q)).control
      (algebra m q.mapping.input (algebra m q.mapping.input (signOfTrial h q)).selectedSign).control = true
    rw [hagain.again]
    exact hlaws.closeSelf _ hagain.control

lemma selectedSign_eq (hsign : sign ≠ 0) (h : (algebra m a sign).status = .success) :
    (algebra m a sign).selectedSign = sign := by
  have hvalid : sign = -1 ∨ sign = 1 := by
    by_contra hne
    have hbad : (sign ≠ 0 && !validSign sign) = true := by simp [hsign, validSign, not_or.mp hne]
    rw [algebra, if_pos hbad] at h
    exact Tcr.Status.noConfusion h
  have hpass : ¬ (sign ≠ 0 && !validSign sign) = true := by
    rcases hvalid with rfl | rfl <;> decide
  rw [algebra, if_neg hpass] at h ⊢
  rcases earlyReport_cases m a with ⟨r, hr, hstatus⟩ | ⟨hnone, -, -⟩
  · rw [hr] at h
    exact absurd h hstatus
  · rw [hnone] at h ⊢
    change (selectRoot m a sign).status = .success at h
    change (selectRoot m a sign).selectedSign = sign
    cases hlow : admissibleRoot m (roots m a).1 <;> cases hhigh : admissibleRoot m (roots m a).2 <;>
      rcases hvalid with rfl | rfl <;> simp [selectRoot, hlow, hhigh] at h ⊢

lemma KeptHistory.stage (hlaws : StoredLaws m) {initializationSign : ℤ} {n : ℕ} {t : Trial V}
    (hkept : KeptHistory m initializationSign n h) (hfits : TrialFits initializationSign h t)
    (hroom : h.revision.inputRevision ≠ maxU64)
    (hc : acceptCandidate m h t ⟨n + 1, h.revision.inputRevision + 1, 1⟩ = some c) :
    KeptHistory m initializationSign (n + 1) c := by
  obtain ⟨hvalid, checked, hchecked, rfl, -⟩ := acceptCandidate_some hc
  have hinput : h.revision.inputRevision = n + 1 := by rw [hkept.revision]
  have hstep : h.revision.acceptedStep = n := by rw [hkept.revision]
  have hnext : n + 1 + 1 ≤ maxU64 := by
    have hle := hkept.room
    rw [hinput] at hroom
    omega
  rcases prepareCandidate_some hchecked with rfl | ⟨hsel, rfl⟩
  · refine ⟨validStored_later hvalid rfl (by rw [hstep]; exact Nat.le_succ n) (by rw [hinput]; exact Nat.le_succ _), ?_,
      hnext, hkept.noFold, hkept.folds, hkept.mapping⟩
    rw [hinput]
  · refine ⟨candidateOf_valid hlaws hvalid hsel rfl (by rw [hstep]; exact Nat.le_succ n)
      (by rw [hinput]; exact Nat.le_succ _), ?_, hnext, ?_, ?_, ?_⟩
    · rw [hinput]
    · intro hzero
      change (if t.request.fold.supplied then h.foldCount + 1 else h.foldCount) = 0 at hzero
      by_cases hsupp : t.request.fold.supplied = true
      · rw [if_pos hsupp] at hzero
        exact absurd hzero (Nat.succ_ne_zero _)
      · rw [if_neg hsupp] at hzero
        obtain ⟨hlast, hbase⟩ := hkept.noFold hzero
        constructor
        · exact (if_neg hsupp).trans hlast
        · exact (if_neg hsupp).trans hbase
    · change (if t.request.fold.supplied then h.foldCount + 1 else h.foldCount) ≤ maxU64
      have hfolds := hkept.folds
      by_cases hsupp : t.request.fold.supplied = true
      · have hne := (hsel.fold hsupp).2
        rw [if_pos hsupp]
        omega
      · rw [if_neg hsupp]
        exact hfolds
    · intro _
      refine ⟨(hfits hsel.mode).1 hsel.identity, fun hconf => ?_⟩
      change (if h.initialized then h.initializationSign else
        (algebra m t.request.mapping.input (signOfTrial h t.request)).selectedSign) = initializationSign
      by_cases hinit : h.initialized = true
      · rw [if_pos hinit]
        exact (hkept.mapping hinit).2 hconf
      · rw [if_neg hinit]
        rw [Bool.not_eq_true] at hinit
        have hunsupplied : t.request.fold.supplied = false := by
          cases hsupp : t.request.fold.supplied with
          | false => rfl
          | true =>
            have hfold := (hsel.fold hsupp).1
            rw [foldAccepted, hinit] at hfold
            simp only [Bool.false_and, Bool.false_eq_true] at hfold
        have hsign : signOfTrial h t.request = initializationSign := by
          rw [signOfTrial, hunsupplied, hinit]
          exact (hfits hsel.mode).2 hconf hinit
        rw [selectedSign_eq (by rw [hsign]; exact hconf) hsel.success, hsign]

lemma length_record (h : History V) : (encode m h).length = recordBytes := length_writeWords rfl

lemma KeptHistory.signs (hlaws : StoredLaws m) {initializationSign : ℤ} {n : ℕ}
    (hkept : KeptHistory m initializationSign n h) : (h.branchSign = -1 ∨ h.branchSign = 0 ∨ h.branchSign = 1) ∧
      (h.initializationSign = -1 ∨ h.initializationSign = 0 ∨ h.initializationSign = 1) ∧ h.mappingIdentity < 256 ^ 8 := by
  have hvalid := hkept.valid
  have hsign : ∀ sign, validSign sign = true → sign = -1 ∨ sign = 0 ∨ sign = 1 := by
    intro sign hv
    simp only [validSign, Bool.or_eq_true, decide_eq_true_eq] at hv
    exact hv.imp_right .inr
  by_cases hinit : h.initialized = true
  · have hinner := ((validStored_initialized hinit).mp hvalid).2
    simp only [validInitialized, Bool.and_eq_true, decide_eq_true_eq] at hinner
    refine ⟨?_, hsign _ hinner.1.1.1.1.1, ?_⟩
    · rcases (algebra_reselects hlaws hinner.1.1.2).1 with hzero | hv
      · exact .inr (.inl hzero)
      · exact hsign _ hv
    · rw [(hkept.mapping hinit).1]
      decide
  · rw [Bool.not_eq_true] at hinit
    simp only [validHistory, hinit, Bool.false_eq_true, if_false, Bool.and_eq_true, decide_eq_true_eq] at hvalid
    obtain ⟨-, ⟨⟨⟨⟨⟨⟨⟨hbranch, -⟩, -⟩, hmapping⟩, -⟩, -⟩, hinitial⟩, -⟩⟩ := hvalid
    refine ⟨.inr (.inl hbranch), .inr (.inl hinitial), ?_⟩
    rw [hmapping]
    decide

lemma KeptHistory.base {initializationSign : ℤ} {n : ℕ} (hkept : KeptHistory m initializationSign n h) :
    h.lastFoldBaseRevision.acceptedStep ≤ maxU64 ∧ h.lastFoldBaseRevision.inputRevision ≤ maxU64 ∧
      h.lastFoldBaseRevision.algorithmVersion = 1 := by
  by_cases hzero : h.foldCount = 0
  · rw [(hkept.noFold hzero).2]
    decide
  · have hvalid := hkept.valid
    have hroom := hkept.room
    by_cases hinit : h.initialized = true
    · have hinner := ((validStored_initialized hinit).mp hvalid).2
      simp only [validInitialized, validFold, Bool.and_eq_true, Bool.or_eq_true, decide_eq_true_eq] at hinner
      obtain ⟨⟨⟨-, hversion⟩, hstep⟩, hinput⟩ := hinner.1.1.1.1.2.resolve_left hzero
      rw [hkept.revision] at hstep hinput
      dsimp only at hstep hinput
      exact ⟨by omega, by omega, hversion⟩
    · rw [Bool.not_eq_true] at hinit
      simp only [validHistory, hinit, Bool.false_eq_true, if_false, Bool.and_eq_true, decide_eq_true_eq] at hvalid
      exact absurd hvalid.2.2 hzero

lemma historyWords_fit (hlaws : StoredLaws m) {initializationSign : ℤ} {n : ℕ}
    (hkept : KeptHistory m initializationSign n h) : WordsFit layout (historyWords m h) := by
  obtain ⟨hbranch, hinitial, hmapping⟩ := hkept.signs hlaws
  obtain ⟨hbaseStep, hbaseInput, hbaseVersion⟩ := hkept.base
  have hroom := hkept.room
  have hfolds := hkept.folds
  have hmax : maxU64 < 256 ^ 8 := by decide
  have hrevision := hkept.revision
  simp only [WordsFit, layout, historyWords, forall₂_cons, forall₂_nil_left_iff, hrevision, hbaseVersion, and_true]
  refine ⟨by omega, by omega, by decide, ?_, hlaws.bitsFit _, hlaws.bitsFit _, hlaws.bitsFit _, hlaws.bitsFit _, ?_, ?_,
    hmapping, by omega, hlaws.bitsFit _, hlaws.bitsFit _, by omega, by omega, by decide, by decide⟩
  · split <;> decide
  · rcases hbranch with hs | hs | hs <;> rw [hs] <;> decide
  · rcases hinitial with hs | hs | hs <;> rw [hs] <;> decide

lemma KeptHistory.decode (hlaws : StoredLaws m) {initializationSign : ℤ} {n : ℕ}
    (hkept : KeptHistory m initializationSign n h) : decode m (encode m h) = some h := by
  obtain ⟨hbranch, hinitial, -⟩ := hkept.signs hlaws
  have hwords : readWords layout (encode m h) = historyWords m h := readWords_writeWords (historyWords_fit hlaws hkept)
  have hword : recordWord (encode m h) = fun i => (historyWords m h).getD i 0 := by
    funext i
    rw [recordWord, hwords]
  have hsame : wordsHistory m (recordWord (encode m h)) = h := by
    rw [hword]
    obtain ⟨revision, initialized, input, root, control, branch, mapping, initial, folds, lastFold, base⟩ := h
    simp only [wordsHistory, historyWords, getD_cons_zero, getD_cons_succ, hlaws.ofBits]
    have hb : (((branch + 1).toNat : ℕ) : ℤ) - 1 = branch := by
      dsimp only at hbranch
      omega
    have hi : (((initial + 1).toNat : ℕ) : ℤ) - 1 = initial := by
      dsimp only at hinitial
      omega
    rw [hb, hi]
    cases initialized <;> rfl
  have hflags : flagsInRange (recordWord (encode m h)) = true := by
    rw [hword]
    simp only [flagsInRange, historyWords, getD_cons_zero, getD_cons_succ, Bool.and_eq_true, decide_eq_true_eq]
    refine ⟨⟨⟨?_, ?_⟩, ?_⟩, trivial⟩
    · split <;> decide
    · omega
    · omega
  have hfold : (recordWord (encode m h) 11 ≠ 0 || absentFold m (wordsHistory m (recordWord (encode m h)))) = true := by
    rw [hsame, hword]
    change (h.foldCount ≠ 0 || absentFold m h) = true
    by_cases hzero : h.foldCount = 0
    · obtain ⟨hlast, hbase⟩ := hkept.noFold hzero
      rw [Bool.or_eq_true]
      refine .inr ?_
      rw [absentFold, hlast, hbase, hlaws.zeroEqual]
      rfl
    · rw [decide_eq_true hzero, Bool.true_or]
  dsimp only [TcrStore.decode]
  rw [hflags, hfold, hsame]
  rfl

/-- The trial of `stage_inactive`. -/
def inactiveTrial (m : StoredNumbers V) (h : History V) : Trial V where
  status := .success
  observed := emptyReport m
  candidate := h
  baseRevision := h.revision
  mode := .off
  available := validHistory m h
  feedback := false
  mixerControl := m.one
  request := ⟨h.revision, ⟨.mappingUnavailable, ⟨m.zero, m.zero⟩, 0⟩, .off, 0, ⟨false, initialRevision, ⟨m.zero, m.zero⟩, 0⟩⟩

/-- The runs of a store at the step of its accepted histories. A cell that is staged counts as
staged until the next commit, and sealing follows when all cells are staged. -/
inductive StoreRun (m : StoredNumbers V) (model cells : ℕ) (initializationSign : ℤ) : ℕ → Store V → (ℕ → Bool) → Prop
  | configured : StoreRun m model cells initializationSign 0 (Store.configure m model cells initializationSign) fun _ => false
  | stage {n s staged} (cell : ℕ) (t : Trial V) (step : ℕ) : StoreRun m model cells initializationSign n s staged →
      TrialFits initializationSign (s.accepted cell) t → cell < cells →
      StoreRun m model cells initializationSign n (s.stage m cell t step).2
        (if (s.stage m cell t step).1 then Function.update staged cell true else staged)
  | stageInactive {n s staged} (cell step : ℕ) : StoreRun m model cells initializationSign n s staged → cell < cells →
      StoreRun m model cells initializationSign n (s.stage m cell (inactiveTrial m (s.accepted cell)) step).2
        (if (s.stage m cell (inactiveTrial m (s.accepted cell)) step).1 then Function.update staged cell true else staged)
  | sealTrial {n s staged} : StoreRun m model cells initializationSign n s staged → (∀ i < cells, staged i = true) →
      StoreRun m model cells initializationSign n s.sealTrial staged
  | discard {n s staged} : StoreRun m model cells initializationSign n s staged →
      StoreRun m model cells initializationSign n s.discard staged
  | commit {n s staged} : StoreRun m model cells initializationSign n s staged → s.pending = true →
      StoreRun m model cells initializationSign (n + 1) s.commit fun _ => false

structure StoreInvariant (m : StoredNumbers V) (cells : ℕ) (initializationSign : ℤ) (n : ℕ) (s : Store V)
    (staged : ℕ → Bool) : Prop where
  count : s.cells = cells
  sign : s.initializationSign = initializationSign
  accepted : ∀ i < cells, KeptHistory m initializationSign n (s.accepted i) ∧ s.acceptedBytes i = encode m (s.accepted i)
  trial : ∀ i < cells, staged i = true →
    KeptHistory m initializationSign (n + 1) (s.trial i) ∧ s.trialBytes i = encode m (s.trial i)
  pending : s.pending = true → ∀ i < cells, staged i = true

lemma emptyHistory_kept (hlaws : StoredLaws m) (initializationSign : ℤ) :
    KeptHistory m initializationSign 0 (emptyHistory m ⟨0, 1, 1⟩) := by
  refine ⟨?_, rfl, by decide, fun _ => ⟨rfl, rfl⟩, Nat.zero_le _, fun hinit => Bool.noConfusion hinit⟩
  simp only [validHistory, emptyHistory, hlaws.zeroEqual, Bool.false_eq_true, if_false, decide_true, Bool.and_self]

variable {model cells : ℕ} {initializationSign : ℤ} {n : ℕ} {s : Store V} {staged : ℕ → Bool}

lemma invariant_stage (hlaws : StoredLaws m) (cell : ℕ) (t : Trial V) (step : ℕ)
    (hinv : StoreInvariant m cells initializationSign n s staged)
    (hfits : TrialFits initializationSign (s.accepted cell) t) (hcell : cell < cells) :
    StoreInvariant m cells initializationSign n (s.stage m cell t step).2
      (if (s.stage m cell t step).1 then Function.update staged cell true else staged) := by
  dsimp only [Store.stage]
  split
  · exact hinv
  · rename_i hguard
    simp only [Bool.or_eq_true, decide_eq_true_eq, not_or, not_not] at hguard
    obtain ⟨hstep, hroom⟩ := hguard
    split
    · exact hinv
    · rename_i h hh
      obtain ⟨hkept, -⟩ := hinv.accepted cell hcell
      have hrevision : step = n := by rw [← hstep, hkept.revision]
      rw [hrevision] at hh
      have hstaged := hkept.stage hlaws hfits hroom hh
      refine ⟨hinv.count, hinv.sign, hinv.accepted, ?_, ?_⟩
      · intro i hi hs
        change KeptHistory m initializationSign (n + 1) (Function.update s.trial cell h i) ∧
          Function.update s.trialBytes cell (encode m h) i = encode m (Function.update s.trial cell h i)
        by_cases heq : i = cell
        · rw [heq, Function.update_self, Function.update_self]
          exact ⟨hstaged, rfl⟩
        · rw [Function.update_of_ne heq, Function.update_of_ne heq]
          refine hinv.trial i hi ?_
          change Function.update staged cell true i = true at hs
          rwa [Function.update_of_ne heq] at hs
      · intro hp i hi
        change Function.update staged cell true i = true
        by_cases heq : i = cell
        · rw [heq, Function.update_self]
        · rw [Function.update_of_ne heq]
          exact hinv.pending hp i hi

lemma storeRun_invariant (hlaws : StoredLaws m) (hrun : StoreRun m model cells initializationSign n s staged) :
    StoreInvariant m cells initializationSign n s staged := by
  induction hrun with
  | configured =>
    exact ⟨rfl, rfl, fun _ _ => ⟨emptyHistory_kept hlaws _, rfl⟩, fun _ _ hs => Bool.noConfusion hs,
      fun hp => Bool.noConfusion hp⟩
  | stage cell t step _ hfits hcell ih => exact invariant_stage hlaws cell t step ih hfits hcell
  | stageInactive cell step _ hcell ih =>
    exact invariant_stage hlaws cell _ step ih (fun hmode => absurd rfl hmode) hcell
  | sealTrial _ hall ih => exact ⟨ih.count, ih.sign, ih.accepted, ih.trial, fun _ => hall⟩
  | discard _ ih => exact ⟨ih.count, ih.sign, ih.accepted, ih.trial, fun hp => Bool.noConfusion hp⟩
  | commit _ hp ih =>
    rw [Store.commit, if_neg (by rw [hp]; decide)]
    exact ⟨ih.count, ih.sign, fun i hi => ih.trial i hi (ih.pending hp i hi), fun _ _ hs => Bool.noConfusion hs,
      fun hp => Bool.noConfusion hp⟩

/-- `other` takes the snapshot of `s` back and publishes it. -/
structure TakesBack (m : StoredNumbers V) (cells n : ℕ) (other s : Store V) : Prop where
  restored : (other.stageRestoreRecords m s.snapshot n).1.isOk = true
  histories : ∀ i < cells, (other.stageRestoreRecords m s.snapshot n).2.commit.accepted i = s.accepted i
  records : ∀ i < cells, (other.stageRestoreRecords m s.snapshot n).2.commit.acceptedBytes i = s.acceptedBytes i

lemma KeptHistory.recordAccepted (hlaws : StoredLaws m) (hkept : KeptHistory m initializationSign n h)
    (hsign : other.initializationSign = initializationSign) : other.recordAccepted m (encode m h) n = true := by
  rw [Store.recordAccepted, hkept.decode hlaws]
  simp only [hkept.revision, hkept.valid, hsign, ne_eq, Nat.succ_ne_zero, not_false_eq_true, decide_true, Bool.and_true,
    Bool.true_and, Bool.or_eq_true, Bool.not_eq_true', Bool.and_eq_true, decide_eq_true_eq]
  by_cases hinit : h.initialized = true
  · refine .inr ⟨(hkept.mapping hinit).1, ?_⟩
    by_cases hzero : initializationSign = 0
    · exact .inl hzero
    · exact .inr ((hkept.mapping hinit).2 hzero)
  · exact .inl (by rwa [Bool.not_eq_true] at hinit)

lemma takesBack (hlaws : StoredLaws m) (hinv : StoreInvariant m cells initializationSign n s staged)
    (hcells : other.cells = cells) (hsign : other.initializationSign = initializationSign) :
    TakesBack m cells n other s := by
  have hlength : ∀ i ∈ range s.cells, (s.acceptedBytes i).length = recordBytes := by
    intro i hi
    have hlt : i < cells := by
      rw [← hinv.count]
      exact mem_range.mp hi
    rw [(hinv.accepted i hlt).2]
    exact length_record _
  have hrecord : ∀ i < cells, recordAt recordBytes s.snapshot i = encode m (s.accepted i) := by
    intro i hi
    rw [← (hinv.accepted i hi).2]
    refine recordAt_flatMap hlength ?_
    rw [List.getElem?_range (by rw [hinv.count]; exact hi)]
  have hsize : s.snapshot.length = other.cells * recordBytes := by
    rw [Store.snapshot, length_flatMap, map_congr_left hlength, map_const', sum_replicate,
      length_range, hinv.count, hcells, smul_eq_mul]
  let trial := fun i => (decode m (recordAt recordBytes s.snapshot i)).getD (other.trial i)
  have hall : (range other.cells).all (fun i =>
      Store.recordAccepted m { other.discard with trial := trial } (recordAt recordBytes s.snapshot i) n) = true := by
    rw [List.all_eq_true]
    intro i hi
    have hlt : i < cells := by
      rw [← hcells]
      exact mem_range.mp hi
    rw [hrecord i hlt]
    exact (hinv.accepted i hlt).1.recordAccepted hlaws hsign
  have hrestore : other.stageRestoreRecords m s.snapshot n =
      ({}, { other.discard with
        trial := trial, trialBytes := fun i => recordAt recordBytes s.snapshot i, pending := true }) := by
    rw [Store.stageRestoreRecords, if_neg (not_not.mpr hsize)]
    exact if_pos hall
  constructor
  · rw [hrestore]
    rfl
  · intro i hi
    rw [hrestore]
    change trial i = s.accepted i
    dsimp only [trial]
    rw [hrecord i hi, (hinv.accepted i hi).1.decode hlaws]
    rfl
  · intro i hi
    rw [hrestore]
    change recordAt recordBytes s.snapshot i = s.acceptedBytes i
    rw [hrecord i hi, (hinv.accepted i hi).2]

def canonicalFold (m : StoredNumbers V) (w : ℕ → ℕ) : Prop :=
  w 12 = m.toBits m.zero ∧ w 13 = m.toBits m.zero ∧ w 14 = 0 ∧ w 15 = 0 ∧ w 16 = 1

/-- The record is in order but for a fold that is absent and has a number that is zero without being
the zero that `encode` stores. -/
def otherZeroFold (m : StoredNumbers V) (w : ℕ → ℕ) : Prop :=
  flagsInRange w = true ∧ w 11 = 0 ∧ m.equal (m.ofBits (w 12)) m.zero = true ∧ m.equal (m.ofBits (w 13)) m.zero = true ∧
    w 14 = 0 ∧ w 15 = 0 ∧ w 16 = 1 ∧ ¬ (w 12 = m.toBits m.zero ∧ w 13 = m.toBits m.zero)

/-- `decode` accepts a record only as the encoding of the history that it returns, and no fold that
is absent without being canonical. -/
structure RecordSound (m : StoredNumbers V) (record : List UInt8) : Prop where
  encoding : ∀ h, decode m record = some h → encode m h = record
  absent : recordWord record 11 = 0 → ¬ canonicalFold m (recordWord record) → decode m record = none

lemma decode_some (hd : decode m record = some h) :
    h = wordsHistory m (recordWord record) ∧ flagsInRange (recordWord record) = true ∧
      (recordWord record 11 = 0 → absentFold m (wordsHistory m (recordWord record)) = true) := by
  dsimp only [TcrStore.decode] at hd
  split at hd
  · rename_i hguard
    simp only [Bool.and_eq_true, Bool.or_eq_true, decide_eq_true_eq] at hguard
    exact ⟨(some.inj hd).symm, hguard.1, fun hzero => hguard.2.resolve_left (not_not.mpr hzero)⟩
  · cases hd

lemma readWords_eq (record : List UInt8) : readWords layout record = (range 18).map (recordWord record) := by
  have hwords := map_getD_range (readWords layout record)
  rw [length_readWords] at hwords
  exact hwords.symm

lemma recordWord_lt (hlength : record.length = recordBytes) :
    WordsFit layout ((range 18).map (recordWord record)) := by
  rw [← readWords_eq]
  exact readWords_fit hlength

lemma decode_encoding (hlaws : StoredLaws m) (hlength : record.length = recordBytes)
    (hd : decode m record = some h) : encode m h = record := by
  obtain ⟨rfl, hflags, -⟩ := decode_some hd
  have hfit := recordWord_lt hlength
  have hrange : (range 18).map (recordWord record) =
      [recordWord record 0, recordWord record 1, recordWord record 2, recordWord record 3, recordWord record 4,
        recordWord record 5, recordWord record 6, recordWord record 7, recordWord record 8, recordWord record 9,
        recordWord record 10, recordWord record 11, recordWord record 12, recordWord record 13, recordWord record 14,
        recordWord record 15, recordWord record 16, recordWord record 17] := rfl
  rw [hrange] at hfit
  simp only [WordsFit, layout, forall₂_cons, forall₂_nil_left_iff, and_true] at hfit
  simp only [flagsInRange, Bool.and_eq_true, decide_eq_true_eq] at hflags
  have hwords : historyWords m (wordsHistory m (recordWord record)) = readWords layout record := by
    rw [readWords_eq, hrange]
    generalize recordWord record = w at hfit hflags
    obtain ⟨h0, h1, h2, h3, h4, h5, h6, h7, h8, h9, h10, h11, h12, h13, h14, h15, h16, h17⟩ := hfit
    have hinit : (if (wordsHistory m w).initialized = true then 1 else 0) = w 3 := by
      have hle := hflags.1.1.1
      change (if (w 3 != 0) = true then 1 else 0) = w 3
      generalize w 3 = k at hle
      interval_cases k <;> rfl
    have hbranch : ((wordsHistory m w).branchSign + 1).toNat = w 8 := by
      change ((w 8 : ℤ) - 1 + 1).toNat = w 8
      omega
    have hinitial : ((wordsHistory m w).initializationSign + 1).toNat = w 9 := by
      change ((w 9 : ℤ) - 1 + 1).toNat = w 9
      omega
    rw [historyWords, hinit, hbranch, hinitial, hflags.2]
    simp only [wordsHistory, hlaws.toBits _ h4, hlaws.toBits _ h5, hlaws.toBits _ h6, hlaws.toBits _ h7,
      hlaws.toBits _ h12, hlaws.toBits _ h13]
  rw [encode, hwords]
  exact writeWords_readWords hlength

lemma recordSound_iff (hlaws : StoredLaws m) (hlength : record.length = recordBytes) :
    RecordSound m record ↔ ¬ otherZeroFold m (recordWord record) := by
  have habsent : ∀ w : ℕ → ℕ, absentFold m (wordsHistory m w) = true ↔
      m.equal (m.ofBits (w 12)) m.zero = true ∧ m.equal (m.ofBits (w 13)) m.zero = true ∧ w 14 = 0 ∧ w 15 = 0 ∧ w 16 = 1 := by
    intro w
    simp only [absentFold, wordsHistory, initialRevision, Bool.and_eq_true, decide_eq_true_eq, Revision.mk.injEq, and_assoc]
  constructor
  · rintro hsound ⟨hflags, hcount, heta, hratio, hstep, hinput, hversion, hzeros⟩
    have hnone := hsound.absent hcount fun hcanon => hzeros ⟨hcanon.1, hcanon.2.1⟩
    have hfold := (habsent (recordWord record)).mpr ⟨heta, hratio, hstep, hinput, hversion⟩
    dsimp only [TcrStore.decode] at hnone
    rw [hflags, hfold, Bool.or_true] at hnone
    cases hnone
  · intro hcond
    refine ⟨fun h => decode_encoding hlaws hlength, fun hcount hcanon => ?_⟩
    cases hd : decode m record with
    | none => rfl
    | some h =>
      obtain ⟨-, hflags, hfold⟩ := decode_some hd
      obtain ⟨heta, hratio, hstep, hinput, hversion⟩ := (habsent _).mp (hfold hcount)
      refine absurd ⟨hflags, hcount, heta, hratio, hstep, hinput, hversion, fun hzeros => ?_⟩ hcond
      exact hcanon ⟨hzeros.1, hzeros.2, hstep, hinput, hversion⟩

/-- What a restart checks of the record of a cell. -/
structure RecordChecked (m : StoredNumbers V) (initializationSign : ℤ) (step : ℕ) (record : List UInt8) : Prop where
  decoded : decode m record = some (wordsHistory m (recordWord record))
  step : recordWord record 0 = step
  valid : validHistory m (wordsHistory m (recordWord record)) = true
  mapping : (wordsHistory m (recordWord record)).initialized = true → recordWord record 10 = reactantMapping
  sign : (wordsHistory m (recordWord record)).initialized = true → initializationSign ≠ 0 →
    (wordsHistory m (recordWord record)).initializationSign = initializationSign

lemma restore_checked {records : List UInt8} {step : ℕ} (h : (s.stageRestoreRecords m records step).1.isOk = true) :
    records.length = s.cells * recordBytes ∧
      ∀ i < s.cells, RecordChecked m s.initializationSign step (recordAt recordBytes records i) := by
  dsimp only [Store.stageRestoreRecords] at h
  split at h
  · exact Bool.noConfusion h
  · rename_i hsize
    split at h
    · rename_i hall
      refine ⟨not_not.mp hsize, fun i hi => ?_⟩
      have hrecord := all_eq_true.mp hall i (mem_range.mpr hi)
      dsimp only [Store.recordAccepted] at hrecord
      split at hrecord
      · exact Bool.noConfusion hrecord
      · rename_i c hc
        obtain ⟨rfl, -, -⟩ := decode_some hc
        simp only [Bool.and_eq_true, Bool.or_eq_true, decide_eq_true_eq, Bool.not_eq_true'] at hrecord
        obtain ⟨⟨⟨hstep, -⟩, hvalid⟩, hmapping⟩ := hrecord
        refine ⟨hc, hstep, hvalid, fun hinit => ?_, fun hinit hsign => ?_⟩
        · exact (hmapping.resolve_left (by rw [hinit]; decide)).1
        · exact ((hmapping.resolve_left (by rw [hinit]; decide)).2).resolve_left hsign
    · exact Bool.noConfusion h

lemma restore_accepted (s : Store V) (records : List UInt8) (step : ℕ) :
    (s.stageRestoreRecords m records step).2.accepted = s.accepted ∧
      (s.stageRestoreRecords m records step).2.acceptedBytes = s.acceptedBytes := by
  dsimp only [Store.stageRestoreRecords]
  split
  · exact ⟨rfl, rfl⟩
  · split <;> exact ⟨rfl, rfl⟩

/-- Every store takes back the snapshot of a run, a restart accepts only records that are in order, and a
record is taken soundly unless it stores an absent fold with another zero. -/
theorem history_records {V : Type} (m : StoredNumbers V) (hlaws : StoredLaws m) :
    (∀ model cells initializationSign n s staged, StoreRun m model cells initializationSign n s staged →
        ∀ other : Store V, other.cells = cells → other.initializationSign = initializationSign →
          TakesBack m cells n other s) ∧
      (∀ (s : Store V) records step,
        ((s.stageRestoreRecords m records step).1.isOk = true → records.length = s.cells * recordBytes ∧
          ∀ i < s.cells, RecordChecked m s.initializationSign step (recordAt recordBytes records i)) ∧
        (s.stageRestoreRecords m records step).2.accepted = s.accepted ∧
        (s.stageRestoreRecords m records step).2.acceptedBytes = s.acceptedBytes) ∧
      ∀ record : List UInt8, record.length = recordBytes →
        (RecordSound m record ↔ ¬ otherZeroFold m (recordWord record)) :=
  ⟨fun _ _ _ _ _ _ hrun _ hcells hsign => takesBack hlaws (storeRun_invariant hlaws hrun) hcells hsign,
    fun s records step => ⟨restore_checked, restore_accepted s records step⟩,
    fun _ hlength => recordSound_iff hlaws hlength⟩

/-- Numbers of 64 bits with two zeros. No arithmetic is evaluated on histories without a branch. -/
def bitNumbers : StoredNumbers (Fin (2 ^ 64)) where
  ofInt := fun _ => 0
  tolerance := 0
  add := fun _ _ => 0
  sub := fun _ _ => 0
  mul := fun _ _ => 0
  div := fun _ _ => 0
  sqrt := fun x => x
  abs := fun _ => 0
  isFinite := fun x => x.val % 2 ^ 63 < 0x7ff0000000000000
  less := fun _ _ => false
  lessEq := fun x y => x.val ≤ y.val
  equal := fun x y => x.val % 2 ^ 63 ≤ 0x7ff0000000000000 && (x = y || (x.val % 2 ^ 63 = 0 && y.val % 2 ^ 63 = 0))
  toBits := fun x => x.val
  ofBits := fun w => Fin.ofNat (2 ^ 64) w

lemma bitNumbers_laws : StoredLaws bitNumbers where
  zeroEqual := by decide +kernel
  closeSelf := fun x hx => by
    have hle : bitNumbers.lessEq 0 0 = true := by decide +kernel
    change (bitNumbers.isFinite x && bitNumbers.isFinite x && bitNumbers.lessEq 0 0) = true
    rw [hx, hle]
    rfl
  rootFinite := fun _ _ _ _ _ => by
    change bitNumbers.isFinite 0 = true
    decide +kernel
  bitsFit := fun x => x.isLt
  ofBits := fun x => by
    apply Fin.ext
    exact Nat.mod_eq_of_lt x.isLt
  toBits := fun w hw => Nat.mod_eq_of_lt hw

def negativeZeroRecord : List UInt8 := writeWords layout [0, 1, 1, 0, 0, 0, 0, 0, 1, 1, 0, 0, 2 ^ 63, 0, 0, 0, 1, 0]

theorem history_records_sample :
    TakesBack bitNumbers 1 0 (Store.configure bitNumbers 7 1 1) (Store.configure bitNumbers 7 1 1) ∧
      (RecordSound bitNumbers negativeZeroRecord ↔ ¬ otherZeroFold bitNumbers (recordWord negativeZeroRecord)) :=
  ⟨(history_records bitNumbers bitNumbers_laws).1 7 1 1 0 _ _ .configured _ rfl rfl,
    (history_records bitNumbers bitNumbers_laws).2.2 negativeZeroRecord (by decide +kernel)⟩

/-- A restart takes an absent fold that is not canonical. -/
theorem absent_fold_with_negative_zero :
    ((Store.configure bitNumbers 7 1 1).stageRestoreRecords bitNumbers negativeZeroRecord 0).1.isOk = true ∧
      recordWord negativeZeroRecord 11 = 0 ∧ recordWord negativeZeroRecord 12 ≠ bitNumbers.toBits bitNumbers.zero ∧
      ¬ RecordSound bitNumbers negativeZeroRecord := by
  have hword : recordWord negativeZeroRecord 12 ≠ bitNumbers.toBits bitNumbers.zero := by decide +kernel
  refine ⟨by decide +kernel, by decide +kernel, hword, fun hsound => ?_⟩
  have hnone := hsound.absent (by decide +kernel) fun hcanonical => hword hcanonical.1
  have hsome : (decode bitNumbers negativeZeroRecord).isSome = true := by decide +kernel
  rw [hnone] at hsome
  cases hsome

end HundunFlow.Proofs
