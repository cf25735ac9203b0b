import HundunFlow.LinearLifecycle
import Mathlib.Data.List.Induction

/-!
# A hierarchy is valid for what it was made for

Each object changes only together with its generation, which never comes back.
-/

namespace HundunFlow.Proofs

open List Function

variable (policy : HierarchyPolicyIdentity) (counters : ℕ → LinearLifecycleCounters) (o : LinearObjects)
  {start : ℕ → LinearLifecycleCounters} {call : LinearCall} {symbolic : SymbolicPlan} {numeric : NumericState}
  {revisions : CoefficientRevisions} {content : UInt64}

variable (decision : HierarchyUpdate) (calls : List LinearCall)

lemma nextGeneration_ne_zero {generation : UInt64} (h : nextGeneration generation ≠ 0) :
    (nextGeneration generation).toNat = generation.toNat + 1 := by
  unfold nextGeneration at h ⊢
  split_ifs at h ⊢ with hzero
  · rw [hzero]
    rfl
  · have hlt := generation.toNat_lt
    have hne : generation.toNat + 1 ≠ 2 ^ 64 := by
      intro hmax
      apply h
      apply UInt64.toNat_inj.mp
      rw [UInt64.toNat_add]
      simp [hmax]
    rw [UInt64.toNat_add, UInt64.toNat_one, Nat.mod_eq_of_lt (by omega)]

lemma checkedCounterIncrement_eq {current next : UInt64} (h : checkedCounterIncrement current = some next) :
    next.toNat = current.toNat + 1 := by
  unfold checkedCounterIncrement at h
  split_ifs at h with hmax
  have hlt := current.toNat_lt
  rw [maxU64] at hmax
  rw [← Option.some.inj h, UInt64.toNat_add, UInt64.toNat_one, Nat.mod_eq_of_lt (by omega)]

/-- A call either leaves everything as it is, or makes a new object of the next generation and counts it. -/
inductive Committed {α : Type} (old : α) (generation : UInt64) (make : UInt64 → α) (field : CounterField)
    (counters : Option LinearLifecycleCounters) : α × Option LinearLifecycleCounters × Status → Prop where
  | kept (status : Status) : Committed old generation make field counters (old, counters, status)
  | made (next : UInt64) (counted : Option LinearLifecycleCounters) (hne : next ≠ 0)
      (hnext : next.toNat = generation.toNat + 1)
      (hcounted : counters = none ∧ counted = none ∨ ∃ before counter, counters = some before ∧
        counted = some (field.set before counter) ∧ counter.toNat = (field.get before).toNat + 1) :
      Committed old generation make field counters (make next, counted, {})

lemma commitChange_committed {α : Type} (old : α) (generation : UInt64) (make : UInt64 → α) (field : CounterField)
    (counters : Option LinearLifecycleCounters) :
    Committed old generation make field counters (commitChange old generation make field counters) := by
  unfold commitChange
  cases counters with
  | none =>
    dsimp only
    split_ifs with hzero
    · exact .kept _
    · exact .made _ _ hzero (nextGeneration_ne_zero hzero) (.inl ⟨rfl, rfl⟩)
  | some before =>
    dsimp only
    cases hcounter : checkedCounterIncrement (field.get before) with
    | none => exact .kept _
    | some counter =>
      dsimp only
      split_ifs with hzero
      · exact .kept _
      · exact .made _ _ hzero (nextGeneration_ne_zero hzero) (.inr ⟨before, counter, rfl, rfl, checkedCounterIncrement_eq hcounter⟩)

lemma linearHash_ne_zero (values : List UInt64) : linearHash values ≠ 0 := by
  unfold linearHash finishLinearHash
  split_ifs with hzero
  · decide
  · exact hzero

inductive LinearEffect where
  | build | refill | refresh | rebuild
  deriving DecidableEq

def LinearEffect.field : LinearEffect → CounterField
  | build => .symbolicBuilds
  | refill => .numericRefills
  | refresh => .hierarchyRefreshes
  | rebuild => .hierarchyRebuilds

def effectOf : LinearAction → LinearEffect
  | .compile _ => .build
  | .refill _ _ => .refill
  | .update _ .rebuild _ => .rebuild
  | .update _ _ _ => .refresh

lemma effectOf_update (content : UInt64) :
    effectOf (.update policy decision content) = .refresh ∨ effectOf (.update policy decision content) = .rebuild := by
  cases decision with
  | rebuild => exact .inr rfl
  | retain => exact .inl rfl
  | refreshNumeric => exact .inl rfl
  | other raw => exact .inl rfl

lemma effectOf_update_field (content : UInt64) : (effectOf (.update policy decision content)).field =
      if decision = .rebuild then .hierarchyRebuilds else .hierarchyRefreshes := by
  cases decision with
  | rebuild => rfl
  | retain => rfl
  | refreshNumeric => rfl
  | other raw => rfl

def Counted (effect : LinearEffect) (ref : Option ℕ) (before after : ℕ → LinearLifecycleCounters) : Prop :=
  match ref with
  | none => after = before
  | some ref => ∃ counter, counter.toNat = (effect.field.get (before ref)).toNat + 1 ∧
      after = Function.update before ref (effect.field.set (before ref) counter)

inductive LinearCallEffect (o : LinearObjects) (call : LinearCall) : LinearObjects × Status → Prop where
  | kept (status : Status) : LinearCallEffect o call (o, status)
  | compiled (symbolic : SymbolicPlan) (counters : ℕ → LinearLifecycleCounters) (hfingerprint : symbolic.fingerprint ≠ 0)
      (hnext : symbolic.generation.toNat = o.symbolic.generation.toNat + 1) (heffect : effectOf call.action = .build)
      (hcounted : Counted .build call.counters o.counters counters) :
      LinearCallEffect o call ({ o with symbolic := symbolic, counters := counters }, {})
  | refilled (numeric : NumericState) (counters : ℕ → LinearLifecycleCounters) (hsymbolic : o.symbolic.fingerprint ≠ 0)
      (hfor : numeric.symbolicFingerprint = o.symbolic.fingerprint ∧ numeric.symbolicGeneration = o.symbolic.generation)
      (hfingerprint : numeric.fingerprint ≠ 0) (hnext : numeric.generation.toNat = o.numeric.generation.toNat + 1)
      (heffect : effectOf call.action = .refill) (hcounted : Counted .refill call.counters o.counters counters) :
      LinearCallEffect o call ({ o with numeric := numeric, counters := counters }, {})
  | updated (hierarchy : HierarchyState) (counters : ℕ → LinearLifecycleCounters)
      (hnumeric : o.numeric.validFor o.symbolic = true)
      (hfor : hierarchy.symbolicFingerprint = o.symbolic.fingerprint ∧
        hierarchy.symbolicGeneration = o.symbolic.generation ∧ hierarchy.numericFingerprint = o.numeric.fingerprint ∧
        hierarchy.numericGeneration = o.numeric.generation)
      (hfingerprint : hierarchy.fingerprint ≠ 0)
      (hnext : hierarchy.generation.toNat = o.hierarchy.generation.toNat + 1)
      (heffect : effectOf call.action = .refresh ∨ effectOf call.action = .rebuild)
      (hcounted : Counted (effectOf call.action) call.counters o.counters counters) :
      LinearCallEffect o call ({ o with hierarchy := hierarchy, counters := counters }, {})

lemma storeCounters_kept (ref : Option ℕ) : storeCounters counters ref (ref.map counters) = counters := by
  cases ref with
  | none => rfl
  | some ref => exact update_eq_self ref counters

lemma storeCounters_counted {effect : LinearEffect} {ref : Option ℕ} {counters : ℕ → LinearLifecycleCounters}
    {counted : Option LinearLifecycleCounters}
    (h : ref.map counters = none ∧ counted = none ∨ ∃ before counter, ref.map counters = some before ∧
      counted = some (effect.field.set before counter) ∧ counter.toNat = (effect.field.get before).toNat + 1) :
    Counted effect ref counters (storeCounters counters ref counted) := by
  cases ref with
  | none =>
    cases counted <;> rfl
  | some ref =>
    rcases h with ⟨habsurd, -⟩ | ⟨before, counter, hbefore, rfl, hcounter⟩
    · simp at habsurd
    · obtain rfl := Option.some.inj hbefore
      exact ⟨counter, hcounter, rfl⟩

lemma linearCall_effect (call : LinearCall) : LinearCallEffect o call (o.call call) := by
  have hkept : ∀ status, LinearCallEffect o call
      ({ o with counters := storeCounters o.counters call.counters (call.counters.map o.counters) }, status) := by
    intro status
    rw [storeCounters_kept]
    exact .kept status
  unfold LinearObjects.call
  cases haction : call.action with
  | compile spec =>
    unfold SymbolicPlan.compile
    dsimp only
    split_ifs
    · exact hkept _
    · exact hkept _
    · generalize hresult : commitChange _ _ _ _ _ = result
      have hcommitted := commitChange_committed o.symbolic o.symbolic.generation
        (fun generation => ⟨spec, HundunFlow.symbolicFingerprint spec, generation⟩) .symbolicBuilds (call.counters.map o.counters)
      rw [hresult] at hcommitted
      cases hcommitted with
      | kept status => exact hkept status
      | made next counted hne hnext hcounted =>
        exact .compiled _ _ (linearHash_ne_zero _) hnext (by rw [haction]; rfl) (@storeCounters_counted .build _ _ _ hcounted)
  | refill revisions content =>
    unfold NumericState.refill
    dsimp only
    split_ifs with hbad
    · exact hkept _
    · exact hkept _
    · exact hkept _
    · have hsymbolic : o.symbolic.fingerprint ≠ 0 := by
        simp only [SymbolicPlan.valid, Bool.or_eq_true, not_or] at hbad
        simpa using hbad.1.1
      generalize hresult : commitChange _ _ _ _ _ = result
      have hcommitted := commitChange_committed o.numeric o.numeric.generation
        (fun generation => {
          revisions := revisions
          symbolicFingerprint := o.symbolic.fingerprint
          symbolicGeneration := o.symbolic.generation
          contentFingerprint := content
          fingerprint := HundunFlow.numericFingerprint o.symbolic.fingerprint revisions content
          generation := generation }) .numericRefills (call.counters.map o.counters)
      rw [hresult] at hcommitted
      cases hcommitted with
      | kept status => exact hkept status
      | made next counted hne hnext hcounted =>
        exact .refilled _ _ hsymbolic ⟨rfl, rfl⟩ (linearHash_ne_zero _) hnext (by rw [haction]; rfl)
          (storeCounters_counted hcounted)
  | update policy decision content =>
    unfold HierarchyState.update
    dsimp only
    rw [← effectOf_update_field policy decision content]
    split_ifs with hbad
    · exact hkept _
    · have hnumeric : o.numeric.validFor o.symbolic = true := by
        simp only [Bool.or_eq_true, not_or] at hbad
        simpa using hbad.1.1
      cases o.hierarchy.verdict o.symbolic o.numeric policy decision content with
      | keep => exact hkept _
      | refuse => exact hkept _
      | change =>
        dsimp only
        generalize hresult : commitChange _ _ _ _ _ = result
        have hcommitted := commitChange_committed o.hierarchy o.hierarchy.generation
          (fun generation => {
            policy := policy
            symbolicFingerprint := o.symbolic.fingerprint
            symbolicGeneration := o.symbolic.generation
            numericFingerprint := o.numeric.fingerprint
            numericGeneration := o.numeric.generation
            contentFingerprint := content
            fingerprint := hierarchyFingerprint o.symbolic.fingerprint o.numeric.fingerprint policy content
            generation := generation }) (effectOf (.update policy decision content)).field
          (call.counters.map o.counters)
        rw [hresult] at hcommitted
        cases hcommitted with
        | kept status => exact hkept status
        | made next counted hne hnext hcounted =>
          refine .updated _ _ hnumeric ⟨rfl, rfl, rfl, rfl⟩ (linearHash_ne_zero _) hnext ?_ ?_
          · rw [haction]
            exact effectOf_update policy decision content
          · rw [haction]
            exact storeCounters_counted hcounted

/-- What the later statements remember of a run: the generations that the hierarchy was last made for, and
what was counted in which counters. -/
structure LinearHistory where
  objects : LinearObjects
  used : Option (UInt64 × UInt64)
  effects : List (LinearEffect × Option ℕ)

/-- One more call: a hierarchy that it changes is made for the present generations. -/
def LinearHistory.step (h : LinearHistory) (call : LinearCall) : LinearHistory :=
  let after := (h.objects.call call).1
  { objects := after
    used := if after.hierarchy = h.objects.hierarchy then h.used
      else some (h.objects.symbolic.generation, h.objects.numeric.generation)
    effects := if after.symbolic = h.objects.symbolic ∧ after.numeric = h.objects.numeric ∧
        after.hierarchy = h.objects.hierarchy then h.effects
      else h.effects ++ [(effectOf call.action, call.counters)] }

def linearHistory (counters : ℕ → LinearLifecycleCounters) (calls : List LinearCall) : LinearHistory :=
  calls.foldl LinearHistory.step ⟨{ counters := counters }, none, []⟩

/-- The objects of a run as they were last used, with what was counted since `start`. -/
structure GenerationsKept (start : ℕ → LinearLifecycleCounters) (h : LinearHistory) : Prop where
  unused : h.used = none → h.objects.hierarchy.fingerprint = 0
  made : ∀ a b, h.used = some (a, b) → h.objects.hierarchy.fingerprint ≠ 0 ∧
    h.objects.hierarchy.symbolicGeneration = a ∧ h.objects.hierarchy.numericGeneration = b
  symbolic_le : ∀ a b, h.used = some (a, b) → a.toNat ≤ h.objects.symbolic.generation.toNat
  numeric_le : ∀ a b, h.used = some (a, b) → b.toNat ≤ h.objects.numeric.generation.toNat
  symbolic_same : ∀ a b, h.used = some (a, b) → a = h.objects.symbolic.generation →
    h.objects.hierarchy.symbolicFingerprint = h.objects.symbolic.fingerprint
  numeric_same : ∀ a b, h.used = some (a, b) → b = h.objects.numeric.generation →
    h.objects.hierarchy.numericFingerprint = h.objects.numeric.fingerprint
  both : h.used = some (h.objects.symbolic.generation, h.objects.numeric.generation) →
    h.objects.numeric.validFor h.objects.symbolic = true
  counted : ∀ effect ref, (effect.field.get (h.objects.counters ref)).toNat =
    (effect.field.get (start ref)).toNat + h.effects.count (effect, some ref)

variable {h : LinearHistory}

lemma field_get_set (effect other : LinearEffect) (counters : LinearLifecycleCounters) (value : UInt64) :
    other.field.get (effect.field.set counters value) = if other = effect then value else other.field.get counters := by
  cases effect <;> cases other <;> rfl

lemma Counted.append {before after : ℕ → LinearLifecycleCounters} {effects : List (LinearEffect × Option ℕ)}
    {done : LinearEffect} {passed : Option ℕ} (hcounted : Counted done passed before after)
    (h : ∀ effect ref, (effect.field.get (before ref)).toNat =
      (effect.field.get (start ref)).toNat + effects.count (effect, some ref))
    (effect : LinearEffect) (ref : ℕ) :
    (effect.field.get (after ref)).toNat =
      (effect.field.get (start ref)).toNat + (effects ++ [(done, passed)]).count (effect, some ref) := by
  rw [count_append, ← Nat.add_assoc, ← h, count_singleton]
  cases passed with
  | none =>
    rw [show after = before from hcounted]
    simp
  | some passed =>
    obtain ⟨counter, hcounter, rfl⟩ := hcounted
    by_cases href : ref = passed
    · subst href
      rw [update_self, field_get_set]
      by_cases heffect : effect = done
      · subst heffect
        simp [hcounter]
      · simp [heffect, Ne.symm heffect]
    · rw [update_of_ne href]
      simp [Ne.symm href]

lemma LinearHistory.step_of_call {after : LinearObjects} {status : Status}
    (hcall : h.objects.call call = (after, status))
    (hchanged : ¬(after.symbolic = h.objects.symbolic ∧ after.numeric = h.objects.numeric ∧
      after.hierarchy = h.objects.hierarchy)) :
    h.step call = ⟨after, if after.hierarchy = h.objects.hierarchy then h.used
      else some (h.objects.symbolic.generation, h.objects.numeric.generation),
      h.effects ++ [(effectOf call.action, call.counters)]⟩ := by
  simp only [LinearHistory.step, hcall]
  rw [if_neg hchanged]

lemma GenerationsKept.step (hkept : GenerationsKept start h) (call : LinearCall) : GenerationsKept start (h.step call) := by
  have heffect := linearCall_effect h.objects call
  generalize hresult : h.objects.call call = result at heffect
  cases heffect with
  | kept status =>
    have hstep : h.step call = h := by
      simp [LinearHistory.step, hresult]
    rw [hstep]
    exact hkept
  | compiled symbolic counters hfingerprint hnext haction hcounted =>
    have hne : symbolic.generation ≠ h.objects.symbolic.generation := by
      intro heq
      rw [heq] at hnext
      omega
    rw [LinearHistory.step_of_call hresult (by
      rintro ⟨heq, -⟩
      exact hne (congrArg SymbolicPlan.generation heq))]
    rw [if_pos rfl, haction]
    constructor
    · exact hkept.unused
    · exact hkept.made
    · intro a b hused
      have hle := hkept.symbolic_le a b hused
      simp only
      omega
    · exact hkept.numeric_le
    · intro a b hused ha
      have hle := hkept.symbolic_le a b hused
      rw [ha] at hle
      simp only at hle
      omega
    · exact hkept.numeric_same
    · intro hused
      have hle := hkept.symbolic_le _ _ hused
      simp only at hle
      omega
    · exact hcounted.append hkept.counted
  | refilled numeric counters hsymbolic hfor hfingerprint hnext haction hcounted =>
    have hne : numeric.generation ≠ h.objects.numeric.generation := by
      intro heq
      rw [heq] at hnext
      omega
    rw [LinearHistory.step_of_call hresult (by
      rintro ⟨-, heq, -⟩
      exact hne (congrArg NumericState.generation heq))]
    rw [if_pos rfl, haction]
    constructor
    · exact hkept.unused
    · exact hkept.made
    · exact hkept.symbolic_le
    · intro a b hused
      have hle := hkept.numeric_le a b hused
      simp only
      omega
    · exact hkept.symbolic_same
    · intro a b hused hb
      have hle := hkept.numeric_le a b hused
      rw [hb] at hle
      simp only at hle
      omega
    · intro hused
      have hle := hkept.numeric_le _ _ hused
      simp only at hle
      omega
    · exact hcounted.append hkept.counted
  | updated hierarchy counters hnumeric hfor hfingerprint hnext haction hcounted =>
    obtain ⟨hsymbolic, hsymbolicGeneration, hnumericFingerprint, hnumericGeneration⟩ := hfor
    have hne : hierarchy ≠ h.objects.hierarchy := by
      intro heq
      rw [heq] at hnext
      omega
    rw [LinearHistory.step_of_call hresult (by
      rintro ⟨-, -, heq⟩
      exact hne heq)]
    rw [if_neg hne]
    constructor
    · intro hused
      cases hused
    · intro a b hused
      cases hused
      exact ⟨hfingerprint, hsymbolicGeneration, hnumericGeneration⟩
    · intro a b hused
      cases hused
      exact le_rfl
    · intro a b hused
      cases hused
      exact le_rfl
    · intro a b hused ha
      exact hsymbolic
    · intro a b hused hb
      exact hnumericFingerprint
    · intro hused
      exact hnumeric
    · exact hcounted.append hkept.counted

lemma linearHistory_kept : GenerationsKept counters (linearHistory counters calls) := by
  induction calls using reverseRecOn with
  | nil =>
    constructor
    · intro hused
      rfl
    all_goals simp [linearHistory]
  | append_singleton calls call ih =>
    rw [linearHistory, foldl_append]
    exact ih.step call

lemma linearHistory_objects :
    (linearHistory counters calls).objects = ({ counters := counters } : LinearObjects).calls calls := by
  induction calls using reverseRecOn with
  | nil => rfl
  | append_singleton calls call ih =>
    rw [linearHistory, foldl_append, LinearObjects.calls, foldl_append]
    simp only [foldl_cons, foldl_nil]
    rw [← LinearObjects.calls, ← ih]
    rfl

lemma GenerationsKept.valid_iff (hkept : GenerationsKept start h) :
    h.objects.hierarchy.validFor h.objects.symbolic h.objects.numeric = true ↔
      h.used = some (h.objects.symbolic.generation, h.objects.numeric.generation) := by
  constructor
  · intro hvalid
    simp only [HierarchyState.validFor, Bool.and_eq_true, decide_eq_true_eq] at hvalid
    obtain ⟨⟨⟨⟨⟨hfingerprint, -⟩, -⟩, hsymbolic⟩, -⟩, hnumeric⟩ := hvalid
    cases hused : h.used with
    | none => exact absurd (hkept.unused hused) hfingerprint
    | some pair =>
      obtain ⟨-, ha, hb⟩ := hkept.made pair.1 pair.2 hused
      rw [← hsymbolic, ← hnumeric, ha, hb]
  · intro hused
    obtain ⟨hfingerprint, ha, hb⟩ := hkept.made _ _ hused
    simp only [HierarchyState.validFor, Bool.and_eq_true, decide_eq_true_eq]
    exact ⟨⟨⟨⟨⟨hfingerprint, hkept.both hused⟩, hkept.symbolic_same _ _ hused rfl⟩, ha⟩,
      hkept.numeric_same _ _ hused rfl⟩, hb⟩

lemma linearCall_generations (call : LinearCall) : (o.call call).1.symbolic.generation.toNat =
      o.symbolic.generation.toNat + (if (o.call call).1.symbolic = o.symbolic then 0 else 1) ∧
    (o.call call).1.numeric.generation.toNat =
      o.numeric.generation.toNat + (if (o.call call).1.numeric = o.numeric then 0 else 1) ∧
    (o.call call).1.hierarchy.generation.toNat =
      o.hierarchy.generation.toNat + (if (o.call call).1.hierarchy = o.hierarchy then 0 else 1) := by
  have heffect := linearCall_effect o call
  generalize o.call call = result at heffect
  cases heffect with
  | kept status => simp
  | compiled symbolic counters hfingerprint hnext haction hcounted =>
    have hne : symbolic ≠ o.symbolic := by
      intro heq
      rw [heq] at hnext
      omega
    simp [hne, hnext]
  | refilled numeric counters hsymbolic hfor hfingerprint hnext haction hcounted =>
    have hne : numeric ≠ o.numeric := by
      intro heq
      rw [heq] at hnext
      omega
    simp [hne, hnext]
  | updated hierarchy counters hnumeric hfor hfingerprint hnext haction hcounted =>
    have hne : hierarchy ≠ o.hierarchy := by
      intro heq
      rw [heq] at hnext
      omega
    simp [hne, hnext]

lemma linearCalls_generations : o.symbolic.generation.toNat ≤ (o.calls calls).symbolic.generation.toNat ∧
    o.numeric.generation.toNat ≤ (o.calls calls).numeric.generation.toNat := by
  induction calls generalizing o with
  | nil => exact ⟨le_rfl, le_rfl⟩
  | cons call calls ih =>
    obtain ⟨hsymbolic, hnumeric, -⟩ := linearCall_generations o call
    obtain ⟨hsymbolics, hnumerics⟩ := ih (o.call call).1
    rw [LinearObjects.calls, foldl_cons, ← LinearObjects.calls]
    constructor <;> omega

lemma linearCall_failed {o : LinearObjects} (h : (o.call call).2 ≠ {}) : (o.call call).1 = o := by
  have heffect := linearCall_effect o call
  generalize o.call call = result at heffect h
  cases heffect with
  | kept status => rfl
  | compiled symbolic counters hfingerprint hnext haction hcounted => exact absurd rfl h
  | refilled numeric counters hsymbolic hfor hfingerprint hnext haction hcounted => exact absurd rfl h
  | updated hierarchy counters hnumeric hfor hfingerprint hnext haction hcounted => exact absurd rfl h

lemma GenerationsKept.stale (hkept : GenerationsKept start h)
    (call : LinearCall) (more : List LinearCall)
    (hchanged : (h.objects.call call).1.symbolic ≠ h.objects.symbolic ∨
      (h.objects.call call).1.numeric ≠ h.objects.numeric)
    (hsame : ((h.objects.call call).1.calls more).hierarchy = h.objects.hierarchy) :
    ((h.objects.call call).1.calls more).hierarchy.validFor ((h.objects.call call).1.calls more).symbolic
      ((h.objects.call call).1.calls more).numeric = false := by
  obtain ⟨hsymbolic, hnumeric, -⟩ := linearCall_generations h.objects call
  obtain ⟨hsymbolics, hnumerics⟩ := linearCalls_generations (h.objects.call call).1 more
  rw [Bool.eq_false_iff]
  intro hvalid
  rw [hsame] at hvalid
  simp only [HierarchyState.validFor, Bool.and_eq_true, decide_eq_true_eq] at hvalid
  obtain ⟨⟨⟨⟨⟨hfingerprint, -⟩, -⟩, hfirst⟩, -⟩, hsecond⟩ := hvalid
  cases hused : h.used with
  | none => exact hfingerprint (hkept.unused hused)
  | some pair =>
    obtain ⟨-, ha, hb⟩ := hkept.made pair.1 pair.2 hused
    have hle := hkept.symbolic_le pair.1 pair.2 hused
    have hle' := hkept.numeric_le pair.1 pair.2 hused
    rw [← ha, hfirst] at hle
    rw [← hb, hsecond] at hle'
    rcases hchanged with hne | hne
    · rw [if_neg hne] at hsymbolic
      omega
    · rw [if_neg hne] at hnumeric
      omega

lemma composeLinearIdentity_stale {hierarchy : HierarchyState} (h : hierarchy.validFor symbolic numeric = false)
    (workspace : UInt64) : composeLinearIdentity symbolic numeric hierarchy workspace = {} := by
  simp [composeLinearIdentity, h]

lemma refill_ok {counters : Option LinearLifecycleCounters}
    (h : (numeric.refill symbolic revisions content counters).2.2 = {}) :
    (numeric.refill symbolic revisions content counters).1.fingerprint ≠ 0 ∧
    (numeric.refill symbolic revisions content counters).1.symbolicFingerprint = symbolic.fingerprint ∧
    (numeric.refill symbolic revisions content counters).1.symbolicGeneration = symbolic.generation ∧
    (numeric.refill symbolic revisions content counters).1.revisions = revisions ∧
    (numeric.refill symbolic revisions content counters).1.contentFingerprint = content := by
  unfold NumericState.refill at h ⊢
  dsimp only at h ⊢
  split_ifs at h ⊢ with hbad hsame hcontent
  · simp at h
  · simp only [Bool.and_eq_true, decide_eq_true_eq] at hsame
    exact ⟨hsame.1.1, hsame.1.2.1, hsame.1.2.2, hsame.2, hcontent⟩
  · simp at h
  · generalize hresult : commitChange _ _ _ _ _ = result at h
    unfold commitChange at hresult
    cases counters with
    | none =>
      dsimp only at hresult
      split_ifs at hresult with hzero
      · subst hresult
        simp at h
      · subst hresult
        exact ⟨linearHash_ne_zero _, rfl, rfl, rfl, rfl⟩
    | some before =>
      dsimp only at hresult
      cases hcounter : checkedCounterIncrement (CounterField.numericRefills.get before) with
      | none =>
        rw [hcounter] at hresult
        subst hresult
        simp at h
      | some counter =>
        rw [hcounter] at hresult
        dsimp only at hresult
        split_ifs at hresult with hzero
        · subst hresult
          simp at h
        · subst hresult
          exact ⟨linearHash_ne_zero _, rfl, rfl, rfl, rfl⟩

lemma refill_other_content (hfingerprint : numeric.fingerprint ≠ 0)
    (hsymbolic : numeric.symbolicFingerprint = symbolic.fingerprint)
    (hgeneration : numeric.symbolicGeneration = symbolic.generation) (hrevisions : numeric.revisions = revisions)
    (hcontent : numeric.contentFingerprint ≠ content) (counters : Option LinearLifecycleCounters) :
    numeric.refill symbolic revisions content counters = (numeric, counters, ⟨.invalidPlan, kLinearNumeric⟩) := by
  unfold NumericState.refill
  dsimp only
  split_ifs with hbad hsame
  · rfl
  · rfl
  · simp [hfingerprint, hsymbolic, hgeneration, hrevisions] at hsame

/-- The objects over any run: the hierarchy is valid exactly for the generations that it was last made for, and
not after a later change of either object. -/
theorem linear_lifecycle (counters : ℕ → LinearLifecycleCounters) (calls : List LinearCall) :
    let o := ({ counters := counters } : LinearObjects).calls calls
    let history := linearHistory counters calls
    history.objects = o ∧
    (o.hierarchy.validFor o.symbolic o.numeric = true ↔
      history.used = some (o.symbolic.generation, o.numeric.generation)) ∧
    (∀ call more, ((o.call call).1.symbolic ≠ o.symbolic ∨ (o.call call).1.numeric ≠ o.numeric) →
      ∀ later, later = (o.call call).1.calls more → later.hierarchy = o.hierarchy →
      later.hierarchy.validFor later.symbolic later.numeric = false ∧
      ∀ workspace, composeLinearIdentity later.symbolic later.numeric later.hierarchy workspace = {}) ∧
    (∀ revisions content ref more, (o.call ⟨.refill revisions content, ref⟩).2 = {} →
      ∀ filled later, filled = (o.call ⟨.refill revisions content, ref⟩).1 → later = filled.calls more →
      later.symbolic = filled.symbolic → later.numeric = filled.numeric → ∀ other again, other ≠ content →
      later.call ⟨.refill revisions other, again⟩ = (later, ⟨.invalidPlan, kLinearNumeric⟩)) ∧
    (∀ call, (o.call call).1.symbolic.generation.toNat =
        o.symbolic.generation.toNat + (if (o.call call).1.symbolic = o.symbolic then 0 else 1) ∧
      (o.call call).1.numeric.generation.toNat =
        o.numeric.generation.toNat + (if (o.call call).1.numeric = o.numeric then 0 else 1) ∧
      (o.call call).1.hierarchy.generation.toNat =
        o.hierarchy.generation.toNat + (if (o.call call).1.hierarchy = o.hierarchy then 0 else 1)) ∧
    (∀ effect ref, (effect.field.get (o.counters ref)).toNat =
      (effect.field.get (counters ref)).toNat + history.effects.count (effect, some ref)) ∧
    (∀ call, (o.call call).2 ≠ {} → (o.call call).1 = o) := by
  intro o history
  have hkept : GenerationsKept counters history := linearHistory_kept counters calls
  have hobjects : history.objects = o := linearHistory_objects counters calls
  rw [← hobjects]
  refine ⟨rfl, hkept.valid_iff, ?_, ?_, linearCall_generations _, hkept.counted, fun call => linearCall_failed⟩
  · rintro call more hchanged later rfl hsame
    have hstale := hkept.stale call more hchanged hsame
    exact ⟨hstale, composeLinearIdentity_stale hstale⟩
  · rintro revisions content ref more hok filled later rfl hlater hsymbolic hnumeric other again hother
    obtain ⟨hfingerprint, hfor, hgeneration, hrevisions, hcontent⟩ := refill_ok hok
    have hfilled : later.numeric = (history.objects.numeric.refill history.objects.symbolic revisions content
        (ref.map history.objects.counters)).1 := hnumeric
    have hpresent : later.symbolic = history.objects.symbolic := hsymbolic
    rw [← hfilled] at hfingerprint hfor hgeneration hrevisions hcontent
    rw [← hpresent] at hfor hgeneration
    have hrefused := refill_other_content hfingerprint hfor hgeneration hrevisions
      (by rw [hcontent]; exact hother.symm) (again.map later.counters)
    simp only [LinearObjects.call]
    rw [hrefused]
    simp only
    rw [storeCounters_kept]

def lifecycleSpec (operatorKind : UInt32) : SymbolicSpec :=
  { operatorKind := operatorKind, topology := 1, boundaryLayout := 1, partition := 1, ebInterface := 1, stencil := 1 }

def lifecycleRun : List LinearCall :=
  [⟨.compile (lifecycleSpec 1), none⟩, ⟨.refill ⟨1, 1, 1, 1, 1, 1⟩ 1, some 0⟩,
    ⟨.update ⟨1, 1, 1, .nativeCartesian⟩ .rebuild 1, some 0⟩]

/-- A refill leaves the hierarchy of the run behind. -/
theorem linear_lifecycle_refilled :
    let o := LinearObjects.calls {} lifecycleRun
    o.hierarchy.validFor o.symbolic o.numeric = true ∧
    let later := (o.call ⟨.refill ⟨2, 1, 1, 1, 1, 1⟩ 2, some 0⟩).1
    later.hierarchy.validFor later.symbolic later.numeric = false :=
  ⟨by decide +kernel, ((linear_lifecycle (fun _ => {}) lifecycleRun).2.2.1 ⟨.refill ⟨2, 1, 1, 1, 1, 1⟩ 2, some 0⟩ []
    (by decide +kernel) _ rfl (by decide +kernel)).1⟩

/-- Under another plan, other content for the same revisions is taken. -/
theorem refill_after_recompile :
    ¬∀ (calls : List LinearCall) (revisions : CoefficientRevisions) (content : UInt64) (ref : Option ℕ),
      let o := ({} : LinearObjects).calls calls
      o.numeric.fingerprint ≠ 0 → o.numeric.revisions = revisions → o.numeric.contentFingerprint ≠ content →
      (o.call ⟨.refill revisions content, ref⟩).2 ≠ {} := by
  intro h
  exact h [⟨.compile (lifecycleSpec 1), none⟩, ⟨.refill ⟨1, 1, 1, 1, 1, 1⟩ 1, none⟩, ⟨.compile (lifecycleSpec 2), none⟩]
    ⟨1, 1, 1, 1, 1, 1⟩ 2 none (by decide +kernel) (by decide +kernel) (by decide +kernel) (by decide +kernel)

end HundunFlow.Proofs
