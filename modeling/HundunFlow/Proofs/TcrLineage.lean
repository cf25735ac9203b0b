import HundunFlow.TcrBranch
import Mathlib.Analysis.Real.Sqrt

/-!
# What an accepted history says

A history is followed only by what `prepare` makes of it: an unchanged history at the next revision, or
an evaluated one on the branch the algebra has selected.
-/

namespace HundunFlow.Proofs

open Tcr

variable {F : Type} [Field F] [LinearOrder F] [IsStrictOrderedRing F] {sqrt : F → F}

def ExactRoot (sqrt : F → F) : Prop := ∀ x, 0 ≤ x → 0 ≤ sqrt x ∧ sqrt x * sqrt x = x

variable {a : AlgebraInput F} {sign : ℤ} {h : History F} {next : Revision} {q : TrialRequest F} {t : Trial F}

lemma tolerance_nonneg : (0 : F) ≤ tolerance := by
  unfold tolerance
  positivity

lemma close_self (a : F) : close a a = true := by
  have h := abs_nonneg a
  have ht : (0 : F) ≤ tolerance := tolerance_nonneg
  simp only [close, sub_self, abs_zero, decide_eq_true_eq]
  positivity

structure RootSelected (sqrt : F → F) (a : AlgebraInput F) (sign : ℤ) (r : AlgebraReport F) : Prop where
  valid : r.selectedSign = -1 ∨ r.selectedSign = 1
  given : sign ≠ 0 → r.selectedSign = sign
  signedRoot : r.signedRoot = r.selectedSign * sqrt (discriminant a)
  control : r.control = if r.selectedSign < 0 then (roots sqrt a).1 else (roots sqrt a).2
  nonneg : 0 ≤ r.control
  le_one : r.control ≤ 1

omit [IsStrictOrderedRing F] in
lemma selectRoot_success (hsign : sign = 0 ∨ validSign sign = true)
    (h : (selectRoot sqrt a sign).status = .success) : RootSelected sqrt a sign (selectRoot sqrt a sign) := by
  have hvalid : sign = 0 ∨ sign = -1 ∨ sign = 1 := by
    rcases hsign with h | h
    · exact Or.inl h
    · exact Or.inr (by simpa [validSign] using h)
  unfold selectRoot at h ⊢
  simp only at h ⊢
  split at h
  · exact nomatch h
  · rename_i hcount
    rw [if_neg hcount]
    split at h
    · exact nomatch h
    · rename_i hopen
      rw [if_neg hopen]
      generalize hchosen : (if sign = 0 then (if (admissible sqrt a).1 = true then (-1 : ℤ) else 1) else sign) = chosen at h ⊢
      have hchosenValid : chosen = -1 ∨ chosen = 1 := by
        rw [← hchosen]
        split
        · split
          · exact Or.inl rfl
          · exact Or.inr rfl
        · exact hvalid.resolve_left ‹_›
      have hgiven : sign ≠ 0 → chosen = sign := fun hne => by rw [← hchosen, if_neg hne]
      split at h
      · rename_i hneg
        rw [if_pos hneg]
        split at h
        · rename_i hadmissible
          rw [if_pos hadmissible]
          simp only [admissible, Bool.and_eq_true, decide_eq_true_eq] at hadmissible
          exact ⟨hchosenValid, hgiven, rfl, by rw [if_pos hneg], hadmissible.1, hadmissible.2⟩
        · exact nomatch h
      · rename_i hneg
        rw [if_neg hneg]
        split at h
        · rename_i hadmissible
          rw [if_pos hadmissible]
          simp only [admissible, Bool.and_eq_true, decide_eq_true_eq] at hadmissible
          exact ⟨hchosenValid, hgiven, rfl, by rw [if_neg hneg], hadmissible.1, hadmissible.2⟩
        · exact nomatch h

structure Evaluable (a : AlgebraInput F) : Prop where
  eta : 0 ≤ a.eta ∧ a.eta ≤ 1
  rate : 0 ≤ a.rateRatio
  denominator : tolerance < |denominator a|
  discriminant : tolerance < discriminant a

lemma algebra_of_evaluable (h : Evaluable a) (hsign : sign = 0 ∨ validSign sign = true) :
    algebra sqrt a sign = selectRoot sqrt a sign := by
  have hsign' : (sign ≠ 0 && !validSign sign) = false := by
    rcases hsign with rfl | h
    · simp
    · simp [h]
  have ht : (0 : F) ≤ tolerance := tolerance_nonneg
  unfold algebra
  rw [if_neg, if_neg (not_lt.mpr (ht.trans h.discriminant.le)), if_neg (not_le.mpr h.denominator),
    if_neg (not_le.mpr h.discriminant)]
  simp only [hsign', Bool.or_false, Bool.or_eq_true, decide_eq_true_eq, not_or, not_lt]
  exact ⟨⟨h.eta.1, h.eta.2⟩, h.rate⟩

lemma algebra_success (h : (algebra sqrt a sign).status = .success) :
    Evaluable a ∧ (sign = 0 ∨ validSign sign = true) ∧ RootSelected sqrt a sign (algebra sqrt a sign) := by
  have hin : Evaluable a ∧ (sign = 0 ∨ validSign sign = true) := by
    unfold algebra at h
    split at h
    · exact absurd h (by simp [AlgebraReport.initial])
    · rename_i hrange
      simp only [Bool.or_eq_true, Bool.and_eq_true, decide_eq_true_eq, not_or, not_lt, Bool.not_eq_true', not_and,
        Bool.not_eq_false] at hrange
      obtain ⟨⟨⟨heta, heta'⟩, hrate⟩, hsign⟩ := hrange
      simp only at h
      split at h
      · exact nomatch h
      · split at h
        · exact nomatch h
        · rename_i hdenominator
          split at h
          · exact nomatch h
          · rename_i hdisc
            refine ⟨⟨⟨heta, heta'⟩, hrate, not_le.mp hdenominator, not_le.mp hdisc⟩, ?_⟩
            by_cases hzero : sign = 0
            · exact Or.inl hzero
            · exact Or.inr (hsign hzero)
  refine ⟨hin.1, hin.2, ?_⟩
  rw [algebra_of_evaluable hin.1 hin.2] at h ⊢
  exact selectRoot_success hin.2 h

lemma algebra_again (h : (algebra sqrt a sign).status = .success) :
    (algebra sqrt a (algebra sqrt a sign).selectedSign).status = .success ∧
      (algebra sqrt a (algebra sqrt a sign).selectedSign).signedRoot = (algebra sqrt a sign).signedRoot ∧
      (algebra sqrt a (algebra sqrt a sign).selectedSign).control = (algebra sqrt a sign).control := by
  obtain ⟨hevaluable, hsign, hsel⟩ := algebra_success h
  have hvalid : validSign (algebra sqrt a sign).selectedSign = true := by
    rcases hsel.valid with hv | hv <;> rw [hv] <;> rfl
  have hstatus : (algebra sqrt a (algebra sqrt a sign).selectedSign).status = .success := by
    by_cases hzero : sign = 0
    · have hcontrol := hsel.control
      have hbounds := And.intro hsel.nonneg hsel.le_one
      rw [hcontrol] at hbounds
      rw [algebra_of_evaluable hevaluable (Or.inr hvalid), selectRoot]
      rcases hsel.valid with hv | hv
      · rw [hv] at hbounds ⊢
        have hadmissible : (admissible sqrt a).1 = true := by simpa [admissible] using hbounds
        simp [hadmissible]
      · rw [hv] at hbounds ⊢
        have hadmissible : (admissible sqrt a).2 = true := by simpa [admissible] using hbounds
        simp [hadmissible]
    · rw [hsel.given hzero]
      exact h
  obtain ⟨-, -, hagain⟩ := algebra_success hstatus
  have hsame := hagain.given (by rcases hsel.valid with hv | hv <;> rw [hv] <;> decide)
  exact ⟨hstatus, by rw [hagain.signedRoot, hsame, hsel.signedRoot], by rw [hagain.control, hsame, hsel.control]⟩

structure OnBranch (sqrt : F → F) (a : AlgebraInput F) (sign : ℤ) (control : F) : Prop where
  root : (1 - a.eta) * control ^ 2 - control + a.eta * a.rateRatio = 0
  branch : 2 * (1 - a.eta) * control = 1 + sign * sqrt (discriminant a)

lemma RootSelected.onBranch (hsqrt : ExactRoot sqrt) (ha : Evaluable a) {r : AlgebraReport F}
    (h : RootSelected sqrt a sign r) : OnBranch sqrt a r.selectedSign r.control := by
  have ht : (0 : F) ≤ tolerance := tolerance_nonneg
  obtain ⟨hs, hsq⟩ := hsqrt _ (ht.trans ha.discriminant.le)
  have hden : denominator a ≠ 0 := abs_pos.mp (ht.trans_lt ha.denominator)
  have heta : 1 - a.eta ≠ 0 := fun h0 => hden (by rw [denominator, h0, mul_zero])
  have hone : 1 + sqrt (discriminant a) ≠ 0 := by positivity
  have hsq' : sqrt (discriminant a) * sqrt (discriminant a) = 1 - 4 * a.eta * (1 - a.eta) * a.rateRatio := hsq
  generalize hd : sqrt (discriminant a) = s at hs hone hsq'
  have hbranch : 2 * (1 - a.eta) * r.control = 1 + r.selectedSign * s := by
    rcases h.valid with hv | hv
    · rw [h.control, hv, if_pos (by decide), roots, hd]
      push_cast
      field_simp
      linear_combination hsq'
    · rw [h.control, hv, if_neg (by decide), roots, hd, denominator]
      push_cast
      field_simp
  refine ⟨?_, by rw [hd]; exact hbranch⟩
  have hsign : (r.selectedSign : F) * r.selectedSign = 1 := by
    rcases h.valid with hv | hv <;> rw [hv] <;> norm_num
  -- completing the square
  have hsquare : (2 * (1 - a.eta) * r.control - 1) * (2 * (1 - a.eta) * r.control - 1) =
      1 - 4 * a.eta * (1 - a.eta) * a.rateRatio := by
    rw [hbranch]
    linear_combination (s * s) * hsign + hsq'
  have hfour : 4 * (1 - a.eta) * ((1 - a.eta) * r.control ^ 2 - r.control + a.eta * a.rateRatio) = 0 := by
    linear_combination hsquare
  exact (mul_eq_zero.mp hfour).resolve_left (mul_ne_zero (by norm_num) heta)

structure Evaluated (sqrt : F → F) (h : History F) (q : TrialRequest F) : Prop where
  mode : q.mode = .shadow ∨ q.mode = .experimental
  mapped : q.mapping.status = .success
  identity : q.mapping.mappingIdentity ≠ 0
  mapping : h.initialized = true → h.mappingIdentity = q.mapping.mappingIdentity
  fold : q.fold.supplied = true → foldAccepted sqrt h q = true ∧ h.foldCount ≠ maxU64
  success : (algebra sqrt q.mapping.input (trialSign h q)).status = .success

def Passive (sqrt : F → F) (h : History F) (q : TrialRequest F) : Prop :=
  q.mode = .off ∨ q.mode = .shadow ∧ (prepare sqrt h q).status ≠ .success

inductive Assessed (sqrt : F → F) (h : History F) (q : TrialRequest F) : Assessment F → Prop where
  | refused (status : Tcr.Status) : Assessed sqrt h q (.refused status)
  | exhausted (observed : AlgebraReport F) : Assessed sqrt h q (.exhausted observed)
  | unchanged (valid : validHistory sqrt h = true) (mode : q.mode = .off) : Assessed sqrt h q .unchanged
  | unmapped {status : Tcr.Status} (valid : validHistory sqrt h = true) (hstatus : status ≠ .success)
      (hmapping : q.mapping.status ≠ .success ∨ q.mapping.mappingIdentity = 0) : Assessed sqrt h q (.unmapped status)
  | unselected (valid : validHistory sqrt h = true)
      (hstatus : (algebra sqrt q.mapping.input (trialSign h q)).status ≠ .success) :
      Assessed sqrt h q (.unselected (algebra sqrt q.mapping.input (trialSign h q)))
  | selected (valid : validHistory sqrt h = true) (evaluated : Evaluated sqrt h q) :
      Assessed sqrt h q (.selected (algebra sqrt q.mapping.input (trialSign h q)))

section

omit [IsStrictOrderedRing F]

lemma assess_assessed (h : History F) (q : TrialRequest F) : Assessed sqrt h q (assess sqrt h q) := by
  unfold assess
  by_cases hrevision : h.revision ≠ q.expectedRevision
  · rw [if_pos hrevision]
    exact .refused _
  rw [if_neg hrevision]
  by_cases hvalid : validHistory sqrt h = true
  swap
  · rw [if_pos (by simpa using hvalid)]
    exact .refused _
  rw [if_neg (by simpa using hvalid)]
  by_cases hrange : q.mode = .outOfRange
  · rw [if_pos hrange]
    exact .refused _
  rw [if_neg hrange]
  by_cases hvalidated : q.mode = .validated
  · rw [if_pos hvalidated]
    exact .refused _
  rw [if_neg hvalidated]
  by_cases hoff : q.mode = .off
  · rw [if_pos hoff]
    exact .unchanged hvalid hoff
  rw [if_neg hoff]
  have hmode : q.mode = .shadow ∨ q.mode = .experimental := by
    cases hm : q.mode <;> simp_all
  by_cases hstatus : q.mapping.status ≠ .success
  · rw [if_pos hstatus]
    exact .unmapped hvalid hstatus (Or.inl hstatus)
  rw [if_neg hstatus]
  by_cases hidentity : q.mapping.mappingIdentity = 0
  · rw [if_pos hidentity]
    exact .unmapped hvalid (by decide) (Or.inr hidentity)
  rw [if_neg hidentity]
  split
  · exact .refused _
  rename_i hmapping
  split
  · exact .refused _
  split
  · exact .refused _
  rename_i hfold
  dsimp only
  split
  · rename_i hroot
    exact .unselected hvalid hroot
  rename_i hroot
  split
  · exact .exhausted _
  rename_i hexhausted
  refine .selected hvalid ⟨hmode, not_not.mp hstatus, hidentity, fun hinit => ?_, fun hsupp => ⟨?_, ?_⟩, not_not.mp hroot⟩
  · simpa [hinit] using hmapping
  · simpa [hsupp] using hfold
  · simpa [hsupp] using hexhausted

lemma prepare_available {h : History F} {q : TrialRequest F} (havail : (prepare sqrt h q).available = true) :
    validHistory sqrt h = true ∧
      (Passive sqrt h q ∧ ¬Evaluated sqrt h q ∧ (prepare sqrt h q).candidate = h ∧
          (prepare sqrt h q).observed.status ≠ .success ∨
        Evaluated sqrt h q ∧ ¬Passive sqrt h q ∧
          (prepare sqrt h q).candidate = evaluatedCandidate h q (algebra sqrt q.mapping.input (trialSign h q)) ∧
          (prepare sqrt h q).observed.status = .success) := by
  have hassessed := @assess_assessed F _ _ sqrt h q
  unfold Passive
  unfold prepare at havail ⊢
  generalize assess sqrt h q = assessment at hassessed havail ⊢
  cases hassessed with
  | refused status => exact absurd havail (by simp [Trial.initial])
  | exhausted observed => exact absurd havail (by simp [Trial.initial])
  | unchanged hvalid hmode =>
    refine ⟨hvalid, Or.inl ⟨Or.inl hmode, fun heval => ?_, rfl, by simp [Trial.initial, AlgebraReport.initial]⟩⟩
    rcases heval.mode with h' | h' <;> rw [hmode] at h' <;> cases h'
  | @unmapped status hvalid hstatus hmapping =>
    by_cases hshadow : q.mode = .shadow
    · simp only [shadowed, hshadow, if_true] at havail ⊢
      refine ⟨hvalid, Or.inl ⟨Or.inr ⟨trivial, hstatus⟩, fun heval => ?_, trivial, by
        simp [Trial.initial, AlgebraReport.initial]⟩⟩
      exact hmapping.elim (fun hne => hne heval.mapped) heval.identity
    · simp [shadowed, hshadow, Trial.initial] at havail
  | unselected hvalid hstatus =>
    by_cases hshadow : q.mode = .shadow
    · simp only [shadowed, hshadow, if_true] at havail ⊢
      exact ⟨hvalid, Or.inl ⟨Or.inr ⟨trivial, hstatus⟩, fun heval => hstatus heval.success, trivial,
        hstatus⟩⟩
    · simp [shadowed, hshadow, Trial.initial] at havail
  | selected hvalid heval =>
    refine ⟨hvalid, Or.inr ⟨heval, ?_, rfl, heval.success⟩⟩
    rintro (hoff | ⟨-, hstatus⟩)
    · rcases heval.mode with h' | h' <;> rw [hoff] at h' <;> cases h'
    · exact hstatus rfl

end

structure InitializedValid (sqrt : F → F) (h : History F) : Prop where
  sign : validSign h.initializationSign = true
  fold : h.foldCount ≠ 0 → (algebra sqrt h.lastFold 0).status = .foldUnresolved ∧
    h.lastFoldBaseRevision.algorithmVersion = 1 ∧
    h.lastFoldBaseRevision.acceptedStep ≤ h.revision.acceptedStep ∧
    h.lastFoldBaseRevision.inputRevision ≤ h.revision.inputRevision
  identity : h.mappingIdentity ≠ 0
  success : (algebra sqrt h.input h.branchSign).status = .success
  signedRoot : close h.signedRoot (algebra sqrt h.input h.branchSign).signedRoot = true
  control : close h.control (algebra sqrt h.input h.branchSign).control = true

section

omit [IsStrictOrderedRing F]

variable {h : History F}

lemma validInitialized_iff : validInitialized sqrt h = true ↔ InitializedValid sqrt h := by
  constructor
  · intro hv
    simp only [validInitialized, Bool.and_eq_true, decide_eq_true_eq, Bool.not_eq_true', Bool.and_eq_false_iff,
      Bool.or_eq_false_iff, decide_eq_false_iff_not, not_not, not_lt] at hv
    obtain ⟨⟨⟨⟨⟨hsign, hfold⟩, hidentity⟩, hsuccess⟩, hroot⟩, hcontrol⟩ := hv
    refine ⟨hsign, fun hne => ?_, hidentity, hsuccess, hroot, hcontrol⟩
    obtain ⟨⟨⟨hstatus, hversion⟩, hstep⟩, hinput⟩ := hfold.resolve_left hne
    exact ⟨hstatus, hversion, hstep, hinput⟩
  · rintro ⟨hsign, hfold, hidentity, hsuccess, hroot, hcontrol⟩
    simp only [validInitialized, Bool.and_eq_true, decide_eq_true_eq, Bool.not_eq_true', Bool.and_eq_false_iff,
      Bool.or_eq_false_iff, decide_eq_false_iff_not, not_not, not_lt]
    refine ⟨⟨⟨⟨⟨hsign, ?_⟩, hidentity⟩, hsuccess⟩, hroot⟩, hcontrol⟩
    by_cases hne : h.foldCount = 0
    · exact Or.inl hne
    · obtain ⟨hstatus, hversion, hstep, hinput⟩ := hfold hne
      exact Or.inr ⟨⟨⟨hstatus, hversion⟩, hstep⟩, hinput⟩

lemma validHistory_initialized (hinit : h.initialized = true) :
    validHistory sqrt h = true ↔ h.revision.algorithmVersion = 1 ∧ InitializedValid sqrt h := by
  rw [validHistory, hinit, if_pos rfl, Bool.and_eq_true, decide_eq_true_eq, validInitialized_iff]

lemma validHistory_uninitialized (hinit : h.initialized = false) (hvalid : validHistory sqrt h = true) :
    h.control = 0 ∧ h.foldCount = 0 ∧ h.branchSign = 0 := by
  simp only [validHistory, hinit, Bool.false_eq_true, if_false, Bool.and_eq_true, decide_eq_true_eq] at hvalid
  obtain ⟨-, ⟨⟨⟨⟨⟨⟨hbranch, -⟩, hcontrol⟩, -⟩, -⟩, -⟩, -⟩, hfold⟩ := hvalid
  exact ⟨hcontrol, hfold, hbranch⟩

lemma validHistory_later (hvalid : validHistory sqrt h = true) {next : Revision}
    (hversion : next.algorithmVersion = 1) (hstep : h.revision.acceptedStep ≤ next.acceptedStep)
    (hinput : h.revision.inputRevision ≤ next.inputRevision) : validHistory sqrt { h with revision := next } = true := by
  by_cases hinit : h.initialized = true
  · obtain ⟨-, hsign, hfold, hidentity, hsuccess, hroot, hcontrol⟩ := (validHistory_initialized hinit).mp hvalid
    refine (validHistory_initialized (h := { h with revision := next }) hinit).mpr ⟨hversion, hsign, fun hne => ?_, hidentity, hsuccess, hroot, hcontrol⟩
    obtain ⟨hstatus, hfoldVersion, hfoldStep, hfoldInput⟩ := hfold hne
    exact ⟨hstatus, hfoldVersion, hfoldStep.trans hstep, hfoldInput.trans hinput⟩
  · rw [Bool.not_eq_true] at hinit
    simp only [validHistory, hinit, Bool.false_eq_true, if_false, Bool.and_eq_true, decide_eq_true_eq] at hvalid ⊢
    exact ⟨hversion, hvalid.2⟩

end

lemma evaluatedCandidate_valid (hvalid : validHistory sqrt h = true) (heval : Evaluated sqrt h q)
    (hversion : next.algorithmVersion = 1) (hstep : h.revision.acceptedStep ≤ next.acceptedStep)
    (hinput : h.revision.inputRevision ≤ next.inputRevision) :
    validHistory sqrt { evaluatedCandidate h q (algebra sqrt q.mapping.input (trialSign h q)) with revision := next } =
      true := by
  obtain ⟨-, -, hsel⟩ := algebra_success heval.success
  obtain ⟨hagain, hroot, hcontrol⟩ := algebra_again heval.success
  have hrevision : h.revision.algorithmVersion = 1 := by
    rw [validHistory, Bool.and_eq_true, decide_eq_true_eq] at hvalid
    exact hvalid.1
  refine (validHistory_initialized rfl).mpr ⟨hversion, ?_, ?_, heval.identity, hagain, ?_, ?_⟩
  · by_cases hinit : h.initialized = true
    · simp only [evaluatedCandidate, hinit, if_true]
      exact ((validHistory_initialized hinit).mp hvalid).2.sign
    · simp only [evaluatedCandidate, hinit, Bool.false_eq_true, if_false]
      rcases hsel.valid with hv | hv <;> rw [hv] <;> rfl
  · intro hne
    by_cases hsupp : q.fold.supplied = true
    · have hfold := (heval.fold hsupp).1
      simp only [foldAccepted, Bool.and_eq_true, decide_eq_true_eq] at hfold
      simp only [evaluatedCandidate, hsupp, if_true]
      exact ⟨hfold.1.1.2, hrevision, hstep, hinput⟩
    · simp only [evaluatedCandidate, hsupp, Bool.false_eq_true, if_false] at hne ⊢
      by_cases hinit : h.initialized = true
      · obtain ⟨hstatus, hfoldVersion, hfoldStep, hfoldInput⟩ := ((validHistory_initialized hinit).mp hvalid).2.fold hne
        exact ⟨hstatus, hfoldVersion, hfoldStep.trans hstep, hfoldInput.trans hinput⟩
      · rw [Bool.not_eq_true] at hinit
        exact absurd (validHistory_uninitialized hinit hvalid).2.1 hne
  · change close (algebra sqrt q.mapping.input (trialSign h q)).signedRoot _ = true
    rw [← hroot]
    exact close_self _
  · change close (algebra sqrt q.mapping.input (trialSign h q)).control _ = true
    rw [← hcontrol]
    exact close_self _

/-- Evidence that the branch could be left: of the history before, at a fold, with the ratio of the
reactants held. -/
structure FoldEvidence (sqrt : F → F) (h : History F) (q : TrialRequest F) : Prop where
  supplied : q.fold.supplied = true
  base : q.fold.baseRevision = h.revision
  atFold : (algebra sqrt q.fold.atFold 0).status = .foldUnresolved
  before : close q.fold.atFold.eta h.input.eta = true
  after : close q.mapping.input.eta h.input.eta = true

structure AcceptedStep (sqrt : F → F) (h : History F) (q : TrialRequest F) (next : Revision) (h' : History F) : Prop where
  valid : validHistory sqrt h' = true
  revision : h'.revision = next
  step : next.acceptedStep = h.revision.acceptedStep + 1
  input : h.revision.inputRevision < next.inputRevision
  kept : h.initialized = true → h'.initialized = true ∧ h'.mappingIdentity = h.mappingIdentity ∧
    h'.initializationSign = h.initializationSign
  branch : h.branchSign ≠ 0 → h'.branchSign ≠ h.branchSign → FoldEvidence sqrt h q ∧ h'.input = q.mapping.input
  either : Passive sqrt h q ∨ Evaluated sqrt h q
  passive : Passive sqrt h q → h' = { h with revision := next }
  folds : h'.foldCount = h.foldCount + 1 ∧ Evaluated sqrt h q ∧ q.fold.supplied = true ∨
    h'.foldCount = h.foldCount ∧ ¬(Evaluated sqrt h q ∧ q.fold.supplied = true)
  evaluated : Evaluated sqrt h q → h'.initialized = true ∧ h'.input = q.mapping.input ∧
    RootSelected sqrt h'.input (trialSign h q) (algebra sqrt h'.input (trialSign h q)) ∧ Evaluable h'.input ∧
    h'.branchSign = (algebra sqrt h'.input (trialSign h q)).selectedSign ∧
    h'.control = (algebra sqrt h'.input (trialSign h q)).control

omit [IsStrictOrderedRing F] in
lemma accept_available (havail : (accept sqrt h t next).available = true) :
    next.algorithmVersion = 1 ∧ next.acceptedStep = h.revision.acceptedStep + 1 ∧
      h.revision.inputRevision < next.inputRevision ∧ (prepare sqrt h t.request).available = true ∧
      (accept sqrt h t next).candidate = { (prepare sqrt h t.request).candidate with revision := next } := by
  unfold accept at havail ⊢
  split at havail
  · exact absurd havail (by simp [Trial.initial])
  · rename_i hcurrent
    rw [if_neg hcurrent]
    simp only [Bool.or_eq_true, decide_eq_true_eq, not_or, not_not, not_le, ne_eq] at hcurrent
    dsimp only at havail ⊢
    split at havail
    · exact absurd havail (by simp [Trial.initial])
    · rename_i hsame
      rw [if_neg hsame]
      exact ⟨hcurrent.1.1.1.2, hcurrent.1.2, hcurrent.2, havail, rfl⟩

lemma accept_step (havail : (accept sqrt h t next).available = true) :
    AcceptedStep sqrt h t.request next (accept sqrt h t next).candidate := by
  obtain ⟨hversion, hstep, hinput, hprepared, hcand⟩ := accept_available havail
  obtain ⟨hvalid, hkind⟩ := prepare_available hprepared
  rw [hcand]
  rcases hkind with ⟨hpassive, hnot, hsame, -⟩ | ⟨heval, hnot, hsame, -⟩
  · rw [hsame]
    exact ⟨validHistory_later hvalid hversion (by omega) hinput.le, rfl, hstep, hinput, fun hinit => ⟨hinit, rfl, rfl⟩,
      fun _ hne => absurd rfl hne, Or.inl hpassive, fun _ => rfl, Or.inr ⟨rfl, fun hcounts => hnot hcounts.1⟩,
      fun heval => absurd heval hnot⟩
  · rw [hsame]
    obtain ⟨hevaluable, -, hsel⟩ := algebra_success heval.success
    refine ⟨evaluatedCandidate_valid hvalid heval hversion (by omega) hinput.le, rfl, hstep, hinput, fun hinit => ?_,
      fun hnonzero hne => ⟨?_, rfl⟩, Or.inr heval, fun hpassive => absurd hpassive hnot, ?_,
      fun _ => ⟨rfl, rfl, hsel, hevaluable, rfl, rfl⟩⟩
    · refine ⟨rfl, (heval.mapping hinit).symm, ?_⟩
      simp only [evaluatedCandidate, hinit, if_true]
    · -- without evidence the sign given to the algebra is that of the history
      have hsupp : t.request.fold.supplied = true := by
        by_contra hno
        have hinit : h.initialized = true := by
          by_contra hinit
          exact hnonzero (validHistory_uninitialized (Bool.not_eq_true _ ▸ hinit) hvalid).2.2
        have hsign : trialSign h t.request = h.branchSign := by simp [trialSign, hno, hinit]
        refine hne ?_
        rw [← hsign]
        exact hsel.given (hsign ▸ hnonzero)
      have hfold := (heval.fold hsupp).1
      simp only [foldAccepted, Bool.and_eq_true, decide_eq_true_eq] at hfold
      exact ⟨hsupp, hfold.1.1.1.1.2, hfold.1.1.2, hfold.1.2, hfold.2⟩
    · by_cases hsupp : t.request.fold.supplied = true
      · exact Or.inl ⟨by simp only [evaluatedCandidate, hsupp, if_true], heval, hsupp⟩
      · refine Or.inr ⟨?_, fun hcounts => hsupp hcounts.2⟩
        simp only [evaluatedCandidate, hsupp, Bool.false_eq_true, if_false]

def carriesFold (sqrt : F → F) (h : History F) (t : Trial F) : ℕ :=
  if t.request.fold.supplied && (prepare sqrt h t.request).observed.status = .success then 1 else 0

/-- The histories that follow the empty one, with the numbers of accepted trials and of accepted trials
with fold evidence. A trial may be anything, a rejected one leaves the history as it is, and a stored
history of a run may be restored. -/
inductive TcrRun (sqrt : F → F) : History F → ℕ → ℕ → Prop where
  | empty (inputRevision : ℕ) : TcrRun sqrt (.empty ⟨0, inputRevision, 1⟩) 0 0
  | accepted {h : History F} {accepts folds : ℕ} (run : TcrRun sqrt h accepts folds) (t : Trial F) (next : Revision)
      (available : (accept sqrt h t next).available = true) :
      TcrRun sqrt (accept sqrt h t next).candidate (accepts + 1) (folds + carriesFold sqrt h t)
  | rejected {h : History F} {accepts folds : ℕ} (run : TcrRun sqrt h accepts folds) (t : Trial F) (next : Revision)
      (unavailable : (accept sqrt h t next).available = false) : TcrRun sqrt h accepts folds
  | restored {snapshot : History F} {accepts folds : ℕ} (run : TcrRun sqrt snapshot accepts folds) (expected : Revision)
      (available : (restore sqrt snapshot expected).available = true) :
      TcrRun sqrt (restore sqrt snapshot expected).candidate accepts folds

lemma foldCount_step (havail : (accept sqrt h t next).available = true) :
    (accept sqrt h t next).candidate.foldCount = h.foldCount + carriesFold sqrt h t := by
  have hstep := accept_step havail
  obtain ⟨-, -, -, hprepared, -⟩ := accept_available havail
  unfold carriesFold
  rcases (prepare_available hprepared).2 with ⟨-, hnot, -, hobs⟩ | ⟨heval, -, -, hobs⟩
  · rcases hstep.folds with ⟨-, heval, -⟩ | ⟨hsame, -⟩
    · exact absurd heval hnot
    · rw [hsame, if_neg (by simp [hobs]), Nat.add_zero]
  · rcases hstep.folds with ⟨hsucc, -, hsupp⟩ | ⟨hsame, hno⟩
    · rw [hsucc, if_pos (by simp [hsupp, hobs])]
    · have hsupp : t.request.fold.supplied ≠ true := fun hs => hno ⟨heval, hs⟩
      rw [hsame, if_neg (by simp [hsupp]), Nat.add_zero]

/-- What holds of every history of a run. -/
structure OnLineage (sqrt : F → F) (h : History F) (accepts folds : ℕ) : Prop where
  valid : validHistory sqrt h = true
  step : h.revision.acceptedStep = accepts
  folds : h.foldCount = folds
  control : 0 ≤ h.control ∧ h.control ≤ 1
  root : h.initialized = true → (h.branchSign = -1 ∨ h.branchSign = 1) ∧
    OnBranch sqrt h.input h.branchSign h.control

omit [IsStrictOrderedRing F] in
lemma emptyHistory_valid (inputRevision : ℕ) : validHistory sqrt (.empty ⟨0, inputRevision, 1⟩ : History F) = true := by
  simp [validHistory, History.empty, AlgebraInput.zero]

lemma TcrRun.onLineage (hsqrt : ExactRoot sqrt) {accepts folds : ℕ} (run : TcrRun sqrt h accepts folds) :
    OnLineage sqrt h accepts folds := by
  induction run with
  | empty inputRevision =>
    exact ⟨emptyHistory_valid inputRevision, rfl, rfl, ⟨le_rfl, zero_le_one⟩, fun hinit => absurd hinit (by simp [History.empty])⟩
  | @accepted h accepts folds run t next havail ih =>
    have hstep := accept_step havail
    refine ⟨hstep.valid, ?_, ?_, ?_, ?_⟩
    · rw [hstep.revision, hstep.step, ih.step]
    · rw [foldCount_step havail, ih.folds]
    · rcases hstep.either with hpassive | heval
      · rw [hstep.passive hpassive]
        exact ih.control
      · obtain ⟨-, -, hsel, -, -, hcontrol⟩ := hstep.evaluated heval
        rw [hcontrol]
        exact ⟨hsel.nonneg, hsel.le_one⟩
    · intro hinit
      rcases hstep.either with hpassive | heval
      · rw [hstep.passive hpassive] at hinit ⊢
        exact ih.root hinit
      · obtain ⟨-, -, hsel, hevaluable, hsign, hcontrol⟩ := hstep.evaluated heval
        rw [hsign, hcontrol]
        exact ⟨hsel.valid, hsel.onBranch hsqrt hevaluable⟩
  | rejected run t next hunavailable ih => exact ih
  | @restored snapshot accepts folds run expected havail ih =>
    have hsame : (restore sqrt snapshot expected).candidate = snapshot := by
      unfold restore at havail ⊢
      split at havail
      · exact absurd havail (by simp [Trial.initial])
      · split at havail
        · exact absurd havail (by simp [Trial.initial])
        · simp_all
    rw [hsame]
    exact ih

/-- Every history that follows the empty one is valid, its control is the root of its branch, and it
counts its accepted trials and those with fold evidence. A trial that is accepted changes the history in
one of two ways, whatever the history is and whoever made the trial. -/
theorem tcr_branch_history (hsqrt : ExactRoot sqrt) :
    (∀ h accepts folds, TcrRun sqrt h accepts folds → OnLineage sqrt h accepts folds) ∧
    ∀ h t next, (accept sqrt h t next).available = true →
      AcceptedStep sqrt h t.request next (accept sqrt h t next).candidate :=
  ⟨fun _ _ _ run => run.onLineage hsqrt, fun _ _ _ havailable => accept_step havailable⟩

omit [IsStrictOrderedRing F] in
lemma prepare_fields (h : History F) (q : TrialRequest F) :
    (prepare sqrt h q).request = q ∧ (prepare sqrt h q).baseRevision = h.revision := by
  unfold prepare shadowed
  cases assess sqrt h q with
  | refused status => exact ⟨rfl, rfl⟩
  | unchanged => exact ⟨rfl, rfl⟩
  | unmapped status => dsimp only; split <;> exact ⟨rfl, rfl⟩
  | unselected observed => dsimp only; split <;> exact ⟨rfl, rfl⟩
  | exhausted observed => exact ⟨rfl, rfl⟩
  | selected observed => exact ⟨rfl, rfl⟩

omit [Field F] [IsStrictOrderedRing F] in
lemma sameCandidate_self (h : History F) : sameCandidate h h = true := by
  simp [sameCandidate]

lemma accept_prepared (havail : (prepare sqrt h q).available = true) (hversion : next.algorithmVersion = 1)
    (hlast : h.revision.acceptedStep ≠ maxU64) (hstep : next.acceptedStep = h.revision.acceptedStep + 1)
    (hinput : h.revision.inputRevision < next.inputRevision) :
    (accept sqrt h (prepare sqrt h q) next).available = true := by
  obtain ⟨hvalid, hkind⟩ := prepare_available havail
  obtain ⟨hrequest, hbase⟩ := @prepare_fields F _ _ sqrt h q
  have hrevision : h.revision.algorithmVersion = 1 := by
    rw [validHistory, Bool.and_eq_true, decide_eq_true_eq] at hvalid
    exact hvalid.1
  have hcand : validHistory sqrt (prepare sqrt h q).candidate = true ∧
      (prepare sqrt h q).candidate.revision = h.revision := by
    rcases hkind with ⟨-, -, hsame, -⟩ | ⟨heval, -, hsame, -⟩
    · rw [hsame]
      exact ⟨hvalid, rfl⟩
    · rw [hsame]
      exact ⟨evaluatedCandidate_valid hvalid heval hrevision le_rfl le_rfl, rfl⟩
  unfold accept
  rw [if_neg]
  · dsimp only
    rw [hrequest, if_neg (by simp [havail, sameCandidate_self])]
    exact havail
  · simp [havail, hvalid, hcand.1, hcand.2, hbase, hversion, hlast, hstep, hinput]

section

omit [IsStrictOrderedRing F]

variable {q : TrialRequest F} {h : History F}

lemma assess_off (hvalid : validHistory sqrt h = true) (hrevision : h.revision = q.expectedRevision)
    (hmode : q.mode = .off) : assess sqrt h q = .unchanged := by
  rw [assess, if_neg (not_not.mpr hrevision), if_neg (by simp [hvalid]), if_neg (by simp [hmode]),
    if_neg (by simp [hmode]), if_pos hmode]

lemma assess_first (hvalid : validHistory sqrt h = true) (hrevision : h.revision = q.expectedRevision)
    (hinit : h.initialized = false) (hmode : q.mode = .shadow ∨ q.mode = .experimental)
    (hmapped : q.mapping.status = .success) (hidentity : q.mapping.mappingIdentity ≠ 0)
    (hfold : q.fold.supplied = false)
    (hsuccess : (algebra sqrt q.mapping.input q.initializationSign).status = .success) :
    assess sqrt h q = .selected (algebra sqrt q.mapping.input q.initializationSign) := by
  have hsign : trialSign h q = q.initializationSign := by simp [trialSign, hfold, hinit]
  rcases hmode with hmode | hmode
  · simp [assess, hrevision, hvalid, hinit, hmode, hmapped, hidentity, hfold, hsign, hsuccess]
  · simp [assess, hrevision, hvalid, hinit, hmode, hmapped, hidentity, hfold, hsign, hsuccess]

end

lemma exactRoot_real : ExactRoot Real.sqrt := fun x hx => ⟨Real.sqrt_nonneg x, Real.mul_self_sqrt hx⟩

lemma tolerance_lt_one : (tolerance : ℝ) < 1 := by
  unfold tolerance
  norm_num

lemma sample_evaluable : Evaluable (⟨0, 0⟩ : AlgebraInput ℝ) := by
  have ht := tolerance_lt_one
  refine ⟨⟨le_rfl, zero_le_one⟩, le_rfl, ?_, ?_⟩
  · simp only [denominator, sub_zero, mul_one, Nat.abs_ofNat]
    linarith
  · simp only [discriminant, mul_zero, sub_zero]
    exact ht

lemma sample_roots : roots Real.sqrt (⟨0, 0⟩ : AlgebraInput ℝ) = (0, 1) := by
  simp only [roots, discriminant, denominator, mul_zero, sub_zero, Real.sqrt_one, zero_div, mul_one]
  norm_num

lemma sample_algebra {sign : ℤ} (hsign : sign = -1 ∨ sign = 1) :
    (algebra Real.sqrt (⟨0, 0⟩ : AlgebraInput ℝ) sign).status = .success ∧
      (algebra Real.sqrt (⟨0, 0⟩ : AlgebraInput ℝ) sign).selectedSign = sign ∧
      (algebra Real.sqrt (⟨0, 0⟩ : AlgebraInput ℝ) sign).signedRoot = sign ∧
      (algebra Real.sqrt (⟨0, 0⟩ : AlgebraInput ℝ) sign).control = if sign < 0 then 0 else 1 := by
  have hvalid : sign = 0 ∨ validSign sign = true := by
    rcases hsign with rfl | rfl
    · exact Or.inr rfl
    · exact Or.inr rfl
  have hdisc : Real.sqrt (discriminant (⟨0, 0⟩ : AlgebraInput ℝ)) = 1 := by
    simp [discriminant]
  rw [algebra_of_evaluable sample_evaluable hvalid]
  rcases hsign with rfl | rfl
  · simp [selectRoot, admissible, sample_roots, hdisc]
  · simp [selectRoot, admissible, sample_roots, hdisc]

/-- A request that changes nothing, with fold evidence all the same. -/
noncomputable def passiveRequest : TrialRequest ℝ where
  expectedRevision := ⟨0, 1, 1⟩
  mapping := ⟨.mappingUnavailable, .zero, 0⟩
  mode := .off
  initializationSign := 0
  fold := ⟨true, ⟨0, 1, 1⟩, .zero, 1⟩

noncomputable def firstRequest : TrialRequest ℝ where
  expectedRevision := ⟨1, 2, 1⟩
  mapping := ⟨.success, ⟨0, 0⟩, 7⟩
  mode := .experimental
  initializationSign := -1
  fold := .none

lemma first_accept : (prepare Real.sqrt (History.empty ⟨0, 1, 1⟩) passiveRequest).available = true ∧
    (prepare Real.sqrt (History.empty ⟨0, 1, 1⟩) passiveRequest).candidate = History.empty ⟨0, 1, 1⟩ := by
  rw [prepare, assess_off (emptyHistory_valid 1) rfl rfl]
  exact ⟨rfl, rfl⟩

lemma second_accept : (prepare Real.sqrt (History.empty ⟨1, 2, 1⟩) firstRequest).available = true ∧
    (prepare Real.sqrt (History.empty ⟨1, 2, 1⟩) firstRequest).candidate.branchSign = -1 := by
  obtain ⟨hstatus, hsign, -, -⟩ := sample_algebra (Or.inl rfl)
  have hvalid : validHistory Real.sqrt (History.empty ⟨1, 2, 1⟩) = true :=
    validHistory_later (emptyHistory_valid 1) rfl (Nat.zero_le 1) (by decide)
  rw [prepare, assess_first hvalid rfl rfl (Or.inr rfl) rfl (by decide) rfl hstatus]
  exact ⟨rfl, hsign⟩

/-- A stored history whose control is a little off its root, within the tolerance. -/
noncomputable def foreignSnapshot : History ℝ where
  revision := ⟨0, 1, 1⟩
  initialized := true
  input := ⟨0, 0⟩
  signedRoot := 1
  control := 1 + tolerance
  branchSign := 1
  mappingIdentity := 7
  initializationSign := 1
  foldCount := 0
  lastFold := .zero
  lastFoldBaseRevision := initialRevision

lemma foreignSnapshot_valid : validHistory Real.sqrt foreignSnapshot = true := by
  obtain ⟨hstatus, -, hroot, hcontrol⟩ := sample_algebra (Or.inr rfl)
  have ht : (0 : ℝ) ≤ tolerance := tolerance_nonneg
  refine (validHistory_initialized rfl).mpr ⟨rfl, rfl, fun hne => absurd rfl hne, by decide, hstatus, ?_, ?_⟩
  · change close 1 (algebra Real.sqrt (⟨0, 0⟩ : AlgebraInput ℝ) 1).signedRoot = true
    rw [hroot]
    norm_num [close_self]
  · change close (1 + tolerance) (algebra Real.sqrt (⟨0, 0⟩ : AlgebraInput ℝ) 1).control = true
    rw [hcontrol, if_neg (by decide)]
    simp only [close, add_sub_cancel_left, abs_of_nonneg ht, abs_one, mul_one, decide_eq_true_eq]
    linarith

/-- A first accepted history may have no branch, and the next one has one without fold evidence; fold
evidence of a trial that changes nothing is not counted; and a foreign snapshot is restored with a control
above one. -/
theorem tcr_branch_sign_set_without_fold :
    ∃ first second : Trial ℝ, first.request.fold.supplied = true ∧ second.request.fold.supplied = false ∧
      (accept Real.sqrt (History.empty ⟨0, 1, 1⟩) first ⟨1, 2, 1⟩).available = true ∧
      (accept Real.sqrt (History.empty ⟨0, 1, 1⟩) first ⟨1, 2, 1⟩).candidate.foldCount = 0 ∧
      (accept Real.sqrt (accept Real.sqrt (History.empty ⟨0, 1, 1⟩) first ⟨1, 2, 1⟩).candidate second ⟨2, 3, 1⟩).available =
        true ∧
      (accept Real.sqrt (accept Real.sqrt (History.empty ⟨0, 1, 1⟩) first ⟨1, 2, 1⟩).candidate second
          ⟨2, 3, 1⟩).candidate.branchSign ≠
        (accept Real.sqrt (History.empty ⟨0, 1, 1⟩) first ⟨1, 2, 1⟩).candidate.branchSign ∧
      ∃ snapshot : History ℝ, (restore Real.sqrt snapshot ⟨0, 1, 1⟩).available = true ∧
        1 < (restore Real.sqrt snapshot ⟨0, 1, 1⟩).candidate.control := by
  obtain ⟨hfirst, hsame⟩ := first_accept
  obtain ⟨hsecond, hsign⟩ := second_accept
  have haccepted : (accept Real.sqrt (History.empty ⟨0, 1, 1⟩)
      (prepare Real.sqrt (History.empty ⟨0, 1, 1⟩) passiveRequest) ⟨1, 2, 1⟩).available = true :=
    accept_prepared hfirst rfl (by decide) rfl (by decide)
  have hnext : (accept Real.sqrt (History.empty ⟨0, 1, 1⟩) (prepare Real.sqrt (History.empty ⟨0, 1, 1⟩) passiveRequest)
      ⟨1, 2, 1⟩).candidate = History.empty ⟨1, 2, 1⟩ := by
    rw [(accept_available haccepted).2.2.2.2, (prepare_fields _ _).1, hsame]
    rfl
  have haccepted' : (accept Real.sqrt (History.empty ⟨1, 2, 1⟩)
      (prepare Real.sqrt (History.empty ⟨1, 2, 1⟩) firstRequest) ⟨2, 3, 1⟩).available = true :=
    accept_prepared hsecond rfl (by decide) rfl (by decide)
  have hrequest := (@prepare_fields ℝ _ _ Real.sqrt (History.empty ⟨0, 1, 1⟩) passiveRequest).1
  have hrequest' := (@prepare_fields ℝ _ _ Real.sqrt (History.empty ⟨1, 2, 1⟩) firstRequest).1
  refine ⟨_, _, by rw [hrequest]; rfl, by rw [hrequest']; rfl, haccepted, ?_, ?_, ?_, foreignSnapshot, ?_⟩
  · rw [hnext]
    rfl
  · rw [hnext]
    exact haccepted'
  · rw [hnext, (accept_available haccepted').2.2.2.2, (prepare_fields _ _).1]
    simp only [hsign]
    decide
  · have ht : (0 : ℝ) < tolerance := by
      unfold tolerance
      norm_num
    have hrestored : restore Real.sqrt foreignSnapshot ⟨0, 1, 1⟩ =
        { Trial.initial with
          status := .success, available := true, baseRevision := ⟨0, 1, 1⟩, candidate := foreignSnapshot } := by
      rw [restore, if_neg (by simp [foreignSnapshot]), if_neg (by simp [foreignSnapshot_valid])]
    rw [hrestored]
    exact ⟨rfl, by change 1 < 1 + tolerance; linarith⟩

/-- The history behind one trial that changes nothing. -/
theorem tcr_branch_history_sample : OnLineage Real.sqrt (accept Real.sqrt (History.empty ⟨0, 1, 1⟩)
      (prepare Real.sqrt (History.empty ⟨0, 1, 1⟩) passiveRequest) ⟨1, 2, 1⟩).candidate 1 0 := by
  have haccepted : (accept Real.sqrt (History.empty ⟨0, 1, 1⟩)
      (prepare Real.sqrt (History.empty ⟨0, 1, 1⟩) passiveRequest) ⟨1, 2, 1⟩).available = true :=
    accept_prepared first_accept.1 rfl (by decide) rfl (by decide)
  have hrun := TcrRun.accepted (.empty 1) _ ⟨1, 2, 1⟩ haccepted
  have hcount : carriesFold Real.sqrt (History.empty ⟨0, 1, 1⟩)
      (prepare Real.sqrt (History.empty ⟨0, 1, 1⟩) passiveRequest) = 0 := by
    rw [carriesFold, (prepare_fields _ _).1, prepare, assess_off (emptyHistory_valid 1) rfl rfl]
    simp [Trial.initial, AlgebraReport.initial]
  rw [hcount] at hrun
  exact (tcr_branch_history exactRoot_real).1 _ _ _ hrun

end HundunFlow.Proofs
