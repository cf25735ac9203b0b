import HundunFlow.EsfMixing
import HundunFlow.Proofs.EnsembleMeans

/-!
# Mixing and recentring on the simplex

Both operations draw the fields towards their mean.
-/

namespace HundunFlow.Proofs

open Lib Esf List Function

section Factor

variable {F : Type} [Field F] [LinearOrder F] [IsStrictOrderedRing F]

def admissibleFactors (n ns : ℕ) (target : ℕ → F) (deviation : ℕ → ℕ → F) : Set F :=
  {t | 0 ≤ t ∧ t ≤ 1 ∧ ∀ f < n, ∀ c < ns, 0 ≤ target c + t * deviation f c ∧ target c + t * deviation f c ≤ 1}

variable {target : ℕ → F} {deviation : ℕ → ℕ → F}

lemma le_limitFactor {t y factor d : F} (ht : 0 ≤ t) (ht₁ : t ≤ 1) (hy : 0 ≤ y) (hy₁ : y ≤ 1) :
    t ≤ limitFactor y factor d ↔ t ≤ factor ∧ 0 ≤ y + t * d ∧ y + t * d ≤ 1 := by
  dsimp only [limitFactor]
  split
  · rename_i hlow
    have hneg : 0 < -d := neg_pos.mpr hlow.1
    have hupper : y + t * d ≤ 1 := by nlinarith [mul_nonneg ht hneg.le]
    rw [le_min_iff, le_div_iff₀ hneg]
    constructor
    · rintro ⟨hf, hle⟩
      exact ⟨hf, by linarith, hupper⟩
    · rintro ⟨hf, hle, -⟩
      exact ⟨hf, by linarith⟩
  · rename_i hlow
    split
    · rename_i hhigh
      have hlower : 0 ≤ y + t * d := by nlinarith [mul_nonneg ht hhigh.1.le]
      rw [le_min_iff, le_div_iff₀ hhigh.1]
      constructor
      · rintro ⟨hf, hle⟩
        exact ⟨hf, hlower, by linarith⟩
      · rintro ⟨hf, -, hle⟩
        exact ⟨hf, by linarith⟩
    · rename_i hhigh
      refine ⟨fun hf => ⟨hf, ?_⟩, fun h => h.1⟩
      rcases lt_trichotomy d 0 with hd | hd | hd
      · have hsum : 0 ≤ y + d := not_lt.mp fun hlt => hlow ⟨hd, hlt⟩
        constructor <;> nlinarith
      · rw [hd, mul_zero, add_zero]
        exact ⟨hy, hy₁⟩
      · have hsum : y + d ≤ 1 := not_lt.mp fun hlt => hhigh ⟨hd, hlt⟩
        constructor <;> nlinarith

lemma le_limitFactors {t : F} {ns : ℕ} {deviation : ℕ → F} (ht : 0 ≤ t) (ht₁ : t ≤ 1)
    (htarget : ∀ c < ns, 0 ≤ target c ∧ target c ≤ 1) (factor : F) :
    t ≤ (range ns).foldl (fun factor c => limitFactor (target c) factor (deviation c)) factor ↔
      t ≤ factor ∧ ∀ c < ns, 0 ≤ target c + t * deviation c ∧ target c + t * deviation c ≤ 1 := by
  refine range_foldl_rule (I := fun i value => t ≤ value ↔
    t ≤ factor ∧ ∀ c < i, 0 ≤ target c + t * deviation c ∧ target c + t * deviation c ≤ 1) ?_ ?_
  · simp only [Nat.not_lt_zero, false_implies, implies_true, and_true]
  · intro i value hi hvalue
    rw [le_limitFactor ht ht₁ (htarget i hi).1 (htarget i hi).2, hvalue, and_assoc]
    refine and_congr_right fun _ => ⟨fun h c hc => ?_, fun h => ⟨fun c hc => h c (Nat.lt_succ_of_lt hc), h i (Nat.lt_succ_self i)⟩⟩
    rcases Nat.lt_succ_iff_lt_or_eq.mp hc with hlt | rfl
    · exact h.1 c hlt
    · exact h.2

lemma le_commonFactor {t : F} {n ns : ℕ} (ht : 0 ≤ t) (ht₁ : t ≤ 1)
    (htarget : ∀ c < ns, 0 ≤ target c ∧ target c ≤ 1) :
    t ≤ commonFactor n ns target deviation ↔ t ∈ admissibleFactors n ns target deviation := by
  have hloop : t ≤ commonFactor n ns target deviation ↔
      t ≤ 1 ∧ ∀ f < n, ∀ c < ns, 0 ≤ target c + t * deviation f c ∧ target c + t * deviation f c ≤ 1 := by
    refine range_foldl_rule (I := fun i value => t ≤ value ↔
      t ≤ 1 ∧ ∀ f < i, ∀ c < ns, 0 ≤ target c + t * deviation f c ∧ target c + t * deviation f c ≤ 1) ?_ ?_
    · simp only [Nat.not_lt_zero, false_implies, implies_true, and_true]
    · intro i value _ hvalue
      rw [le_limitFactors ht ht₁ htarget, hvalue, and_assoc]
      refine and_congr_right fun _ => ⟨fun h f hf => ?_, fun h => ⟨fun f hf => h f (Nat.lt_succ_of_lt hf), h i (Nat.lt_succ_self i)⟩⟩
      rcases Nat.lt_succ_iff_lt_or_eq.mp hf with hlt | rfl
      · exact h.1 f hlt
      · exact h.2
  rw [hloop]
  exact ⟨fun h => ⟨ht, h⟩, fun h => h.2⟩

section

omit [IsStrictOrderedRing F]

lemma limitFactor_le (y factor d : F) : limitFactor y factor d ≤ factor := by
  dsimp only [limitFactor]
  split
  · exact min_le_left _ _
  · split
    · exact min_le_left _ _
    · exact le_rfl

lemma commonFactor_le_one (n ns : ℕ) (target : ℕ → F) (deviation : ℕ → ℕ → F) :
    commonFactor n ns target deviation ≤ 1 := by
  refine range_foldl_rule (I := fun _ value => value ≤ (1 : F)) le_rfl fun f value _ hvalue => ?_
  exact range_foldl_rule (I := fun _ value => value ≤ (1 : F)) hvalue fun c value _ hvalue =>
    (limitFactor_le _ _ _).trans hvalue

end

lemma commonFactor_isGreatest {n ns : ℕ} (htarget : ∀ c < ns, 0 ≤ target c ∧ target c ≤ 1) :
    IsGreatest (admissibleFactors n ns target deviation) (commonFactor n ns target deviation) := by
  have hzero : (0 : F) ≤ commonFactor n ns target deviation := by
    refine (le_commonFactor le_rfl zero_le_one htarget).mpr ⟨le_rfl, zero_le_one, fun f _ c hc => ?_⟩
    rw [zero_mul, add_zero]
    exact htarget c hc
  refine ⟨(le_commonFactor hzero (commonFactor_le_one ..) htarget).mp le_rfl, ?_⟩
  intro t ht
  exact (le_commonFactor ht.1 ht.2.1 htarget).mpr ht

end Factor

section Recentring

variable {F : Type} [Field F] [LinearOrder F]

def viewTuple (w : Workspace F) (v : View F) : ℕ → ℕ → F := row (w.load v.values) (v.species + 1)

def meanDeviation (w : Workspace F) (v : View F) (f c : ℕ) : F :=
  viewTuple w v f c - fieldMean v.fields fun g => viewTuple w v g c

def recentredSum (w : Workspace F) (v : View F) (target : Target F) (factor : F) (f : ℕ) : F :=
  ∑ c ∈ Finset.range v.species, (factor * meanDeviation w v f c + w.loadTarget target c)

/-- What `recenter` makes of an admitted input. -/
structure RecentredEnsemble (w : Workspace F) (v : View F) (target : Target F) (r : Mixing F) : Prop where
  factor : IsGreatest (admissibleFactors v.fields v.species (w.loadTarget target) (meanDeviation w v))
    r.report.relaxationFactor
  candidate : ∀ f < v.fields, ∀ c ≤ v.species, row r.workspace.candidate (v.species + 1) f c =
    r.report.relaxationFactor * meanDeviation w v f c + w.loadTarget target c
  bounds : ∀ f < v.fields, ∀ c < v.species, 0 ≤ row r.workspace.candidate (v.species + 1) f c ∧
    row r.workspace.candidate (v.species + 1) f c ≤ 1
  mean : ∀ c ≤ v.species, (fieldMean v.fields fun f => row r.workspace.candidate (v.species + 1) f c) =
    w.loadTarget target c
  success : r.report.status = .success ↔
    ∀ f < v.fields, |recentredSum w v target r.report.relaxationFactor f - 1| ≤ 2 / 10 ^ 12
  exact : ∑ c ∈ Finset.range v.species, w.loadTarget target c = 1 →
    (∀ f < v.fields, ∑ c ∈ Finset.range v.species, viewTuple w v f c = 1) →
      r.report.status = .success ∧
        ∀ f < v.fields, ∑ c ∈ Finset.range v.species, row r.workspace.candidate (v.species + 1) f c = 1
  published : r.report.status = .success →
    (∀ f < v.fields, fractionTuple (row r.workspace.candidate (v.species + 1) f) v.species = true) ∧
      (∀ c ≤ v.species, r.workspace.means c = w.loadTarget target c) ∧ r.report.published = true ∧
      r.report.candidate = some { v with values := .candidate, owner := .this, generation := r.workspace.generation }

/-- The first `c` components are moved to `y`, the others hold the input `x` still. -/
structure ComponentsRecentred (input : Values F) (stride n : ℕ) (x : ℕ → ℕ → F) (y : ℕ → F) (factor : F) (c : ℕ)
    (r : Mixing F) : Prop where
  status : r.report.status = .invalidInput
  relaxation : r.report.relaxationFactor = factor
  waiting : ∀ f < n, ∀ i, c ≤ i → i < stride → row (r.workspace.load input) stride f i = x f i
  oldMeans : ∀ i, c ≤ i → i < stride → r.workspace.means i = fieldMean n fun f => x f i
  candidate : ∀ f < n, ∀ i < c, i < stride →
    row r.workspace.candidate stride f i = factor * (x f i - fieldMean n fun g => x g i) + y i
  means : ∀ i < c, r.workspace.means i = y i

variable {m : RealFunctions F} {target : Target F} {w : Workspace F}

lemma fractionTuple_iff {y : ℕ → F} {n : ℕ} : fractionTuple y n = true ↔
    (∀ c < n, 0 ≤ y c ∧ y c ≤ 1) ∧ |(∑ c ∈ Finset.range n, y c) - 1| ≤ 2 / 10 ^ 12 := by
  rw [fractionTuple, Bool.and_eq_true, all_eq_true, decide_eq_true_iff, runningSum_eq]
  simp only [mem_range, Bool.and_eq_true, decide_eq_true_iff]

variable [IsStrictOrderedRing F]

lemma recenterComponent_recentred {input : Values F} {stride n c : ℕ} {x : ℕ → ℕ → F} {y target : ℕ → F} {factor : F}
    {r : Mixing F} (hn : n ≠ 0) (hc : c < stride) (htarget : target c = y c)
    (hr : ComponentsRecentred input stride n x y factor c r) :
    ∃ r', recenterComponent input stride n target r c = .ok r' ∧
      ComponentsRecentred input stride n x y factor (c + 1) r' := by
  let value := fun f => r.report.relaxationFactor * (r.workspace.load input (f * stride + c) - r.workspace.means c) + target c
  have hvalue : ∀ f < n, value f = factor * (x f c - fieldMean n fun g => x g c) + y c := by
    intro f hf
    rw [← hr.relaxation, ← hr.waiting f hf c le_rfl hc, ← hr.oldMeans c le_rfl hc, ← htarget]
    rfl
  have hmean : ensembleMean n value = y c := by
    rw [ensembleMean_eq, fieldMean_congr hvalue, fieldMean_contracted hn factor (y c) fun f => x f c]
  have hwithin : |ensembleMean n value - target c| ≤ 2 / 10 ^ 12 * max 1 |target c| := by
    rw [hmean, htarget, sub_self, abs_zero]
    exact mul_nonneg (by norm_num) (zero_le_one.trans (le_max_left _ _))
  refine ⟨_, if_pos hwithin, hr.status, hr.relaxation, ?_, ?_, ?_, ?_⟩
  · intro f hf i hi histride
    have hne : i ≠ c := by omega
    cases input with
    | null => exact hr.waiting f hf i (by omega) histride
    | outside values => exact hr.waiting f hf i (by omega) histride
    | candidate =>
      change row (setColumn r.workspace.candidate stride n c value) stride f i = _
      rw [row_setColumn histride hf, if_neg hne]
      exact hr.waiting f hf i (by omega) histride
  · intro i hi histride
    exact (update_of_ne (by omega) _ _).trans (hr.oldMeans i (by omega) histride)
  · intro f hf i hi histride
    change row (setColumn r.workspace.candidate stride n c value) stride f i = _
    rw [row_setColumn histride hf]
    rcases Nat.lt_succ_iff_lt_or_eq.mp hi with hlt | rfl
    · rw [if_neg (Nat.ne_of_lt hlt)]
      exact hr.candidate f hf i hlt histride
    · rw [if_pos rfl, hvalue f hf]
  · intro i hi
    rcases Nat.lt_succ_iff_lt_or_eq.mp hi with hlt | rfl
    · exact (update_of_ne (Nat.ne_of_lt hlt) _ _).trans (hr.means i hlt)
    · exact (update_self ..).trans hmean

section

omit [IsStrictOrderedRing F]

variable {w : Workspace F}

lemma recenter_admitted {m : RealFunctions F} {v : View F} {target : Target F}
    (h : recenterAdmits w v target = true) : recenterInput w v target = true ∧
      recenter m w v target =
        match recenterFields m v (w.loadTarget target) ⟨Report.initial 0x4553465245430001, w.nextGeneration⟩ with
        | .ok r => r
        | .error r => r := by
  simp only [recenterAdmits, Bool.and_eq_true, decide_eq_true_iff, beq_iff_eq] at h
  obtain ⟨⟨⟨⟨hborrow, hversion⟩, hspecies⟩, hfields⟩, hinput⟩ := h
  have hfresh : ¬ (!w.validBorrow v || v.revision.algorithmVersion != 1) = true := by
    simp only [hborrow, hversion, bne_self_eq_false, Bool.not_true, Bool.or_self, Bool.false_eq_true, not_false_eq_true]
  have hroom : ¬ (decide (w.capacity < v.species) || decide (w.fieldCapacity < v.fields)) = true := by
    simp only [Bool.or_eq_true, decide_eq_true_iff, not_or, not_lt]
    exact ⟨hspecies, hfields⟩
  have hchecked : ¬ (!recenterInput w v target) = true := by
    rw [hinput]
    decide
  exact ⟨hinput, (if_neg hfresh).trans ((if_neg hroom).trans (if_neg hchecked))⟩

omit [Field F] [LinearOrder F] in
lemma validPopulation_ne_zero {n : ℕ} (h : w.validPopulation n = true) : n ≠ 0 := by
  rintro rfl
  unfold Workspace.validPopulation at h
  split at h <;> exact nomatch h

lemma admissibleFactors_congr {n ns : ℕ} {y y' : ℕ → F} {d d' : ℕ → ℕ → F} (hy : ∀ c < ns, y c = y' c)
    (hd : ∀ f < n, ∀ c < ns, d f c = d' f c) : admissibleFactors n ns y d = admissibleFactors n ns y' d' := by
  refine Set.ext fun t => and_congr_right fun _ => and_congr_right fun _ => ?_
  refine forall₂_congr fun f hf => forall₂_congr fun c hc => ?_
  rw [hy c hc, hd f hf c hc]

end

lemma recenterFields_recentred (hnext : ∀ x, m.nextBelow x = x) {v : View F} (h : recenterInput w v target = true) :
    ∃ factor r, IsGreatest (admissibleFactors v.fields v.species (w.loadTarget target) (meanDeviation w v)) factor ∧
      ComponentsRecentred v.values (v.species + 1) v.fields (viewTuple w v) (w.loadTarget target) factor
        (v.species + 1) r ∧
      recenterFields m v (w.loadTarget target) ⟨Report.initial 0x4553465245430001, w.nextGeneration⟩ =
        if (range v.fields).all fun f => fractionTuple (row r.workspace.candidate (v.species + 1) f) v.species then
          .ok (r.publish v)
        else .error (r.fail .conservationFailure) := by
  simp only [recenterInput, Bool.and_eq_true] at h
  obtain ⟨⟨⟨⟨⟨-, hpopulation⟩, -⟩, -⟩, htuple⟩, -⟩ := h
  have hn := validPopulation_ne_zero hpopulation
  let y := w.loadTarget target
  let values := w.nextGeneration.load v.values
  let nextY := fun c => if c < v.species then y c else w.nextGeneration.nextY c
  let targetValue := fun c => if c = v.species then y v.species else nextY c
  let means := fun c =>
    if c < v.species + 1 then ensembleMean v.fields fun f => values (f * (v.species + 1) + c)
    else w.nextGeneration.means c
  let factor := commonFactor v.fields v.species targetValue fun f c => values (f * (v.species + 1) + c) - means c
  let start : Mixing F :=
    { report :=
        { (Report.initial 0x4553465245430001 : Report F) with
          relaxationFactor := if 0 < factor ∧ factor < 1 then m.nextBelow factor else factor }
      workspace := { w.nextGeneration with nextY := nextY, means := means } }
  have hload : values = w.load v.values := by cases hvalues : v.values <;> simp only [values, hvalues] <;> rfl
  have htarget : ∀ c < v.species + 1, targetValue c = y c := by
    intro c hc
    dsimp only [targetValue, nextY]
    split
    · rename_i heq
      rw [heq]
    · exact if_pos (by omega)
  have hmeans : ∀ c < v.species + 1, means c = fieldMean v.fields fun f => viewTuple w v f c := by
    intro c hc
    refine (if_pos hc).trans ?_
    rw [ensembleMean_eq, hload]
    rfl
  have hmax : IsGreatest (admissibleFactors v.fields v.species y (meanDeviation w v)) factor := by
    have hset : admissibleFactors v.fields v.species y (meanDeviation w v) =
        admissibleFactors v.fields v.species targetValue
          fun f c => values (f * (v.species + 1) + c) - means c := by
      refine admissibleFactors_congr (fun c hc => (htarget c (Nat.lt_succ_of_lt hc)).symm) fun f _ c hc => ?_
      rw [hmeans c (Nat.lt_succ_of_lt hc), hload]
      rfl
    rw [hset]
    refine commonFactor_isGreatest fun c hc => ?_
    rw [htarget c (Nat.lt_succ_of_lt hc)]
    exact (fractionTuple_iff.mp htuple).1 c hc
  have hstart : ComponentsRecentred v.values (v.species + 1) v.fields (viewTuple w v) y factor 0 start := by
    refine ⟨rfl, ?_, ?_, fun c _ hc => hmeans c hc, fun f _ i hi => absurd hi (Nat.not_lt_zero i),
      fun i hi => absurd hi (Nat.not_lt_zero i)⟩
    · change (if 0 < factor ∧ factor < 1 then m.nextBelow factor else factor) = factor
      rw [hnext, ite_self]
    · intro f _ i _ _
      have hvalues : start.workspace.load v.values = w.load v.values := by
        cases hv : v.values <;> rfl
      exact congrArg (fun buffer => row buffer (v.species + 1) f i) hvalues
  obtain ⟨r, hfold, hr⟩ := range_foldlM_total
    (I := ComponentsRecentred v.values (v.species + 1) v.fields (viewTuple w v) y factor) hstart
    fun c r hc hr => recenterComponent_recentred hn hc (htarget c hc) hr
  refine ⟨factor, r, hmax, hr, ?_⟩
  change (range (v.species + 1)).foldlM (recenterComponent v.values (v.species + 1) v.fields targetValue) start >>=
    _ = _
  rw [hfold]
  rfl

lemma recenter_recentred (hnext : ∀ x, m.nextBelow x = x) {v : View F} (h : recenterAdmits w v target = true) :
    RecentredEnsemble w v target (recenter m w v target) := by
  obtain ⟨hinput, heq⟩ := recenter_admitted (m := m) h
  obtain ⟨factor, r, hmax, hr, hfields⟩ := recenterFields_recentred hnext hinput
  have hn : v.fields ≠ 0 := by
    simp only [recenterInput, Bool.and_eq_true] at hinput
    exact validPopulation_ne_zero hinput.1.1.1.1.2
  let all := (range v.fields).all fun f =>
    fractionTuple (row r.workspace.candidate (v.species + 1) f) v.species
  have hout : recenter m w v target = if all then r.publish v else r.fail .conservationFailure := by
    rw [heq, hfields]
    by_cases hall : all = true
    · rw [if_pos hall, if_pos hall]
    · rw [if_neg hall, if_neg hall]
  have hcand : ∀ f < v.fields, ∀ c ≤ v.species, row r.workspace.candidate (v.species + 1) f c =
      factor * meanDeviation w v f c + w.loadTarget target c :=
    fun f hf c hc => hr.candidate f hf c (Nat.lt_succ_of_le hc) (Nat.lt_succ_of_le hc)
  have hsum : ∀ f < v.fields, ∑ c ∈ Finset.range v.species, row r.workspace.candidate (v.species + 1) f c =
      recentredSum w v target factor f :=
    fun f hf => Finset.sum_congr rfl fun c hc => hcand f hf c (Finset.mem_range.mp hc).le
  have hbounds : ∀ f < v.fields, ∀ c < v.species, 0 ≤ row r.workspace.candidate (v.species + 1) f c ∧
      row r.workspace.candidate (v.species + 1) f c ≤ 1 := by
    intro f hf c hc
    rw [hcand f hf c hc.le, add_comm]
    exact hmax.1.2.2 f hf c hc
  have hmean : ∀ c ≤ v.species, (fieldMean v.fields fun f => row r.workspace.candidate (v.species + 1) f c) =
      w.loadTarget target c := by
    intro c hc
    rw [fieldMean_congr fun f hf => hcand f hf c hc]
    exact fieldMean_contracted hn factor _ fun f => viewTuple w v f c
  have hall : all = true ↔ ∀ f < v.fields, |recentredSum w v target factor f - 1| ≤ 2 / 10 ^ 12 := by
    rw [all_eq_true]
    simp only [mem_range, fractionTuple_iff]
    refine forall₂_congr fun f hf => ?_
    rw [hsum f hf]
    exact ⟨fun h => h.2, fun h => ⟨hbounds f hf, h⟩⟩
  have hworks : (recenter m w v target).workspace = r.workspace := by
    rw [hout]
    split <;> rfl
  have hfactor : (recenter m w v target).report.relaxationFactor = factor := by
    rw [hout]
    split <;> exact hr.relaxation
  have hsuccess : (recenter m w v target).report.status = .success ↔ all = true := by
    rw [hout]
    split
    · rename_i hall
      exact ⟨fun _ => hall, fun _ => rfl⟩
    · rename_i hall
      exact ⟨fun h => PortableStatus.noConfusion h, fun h => absurd h hall⟩
  refine ⟨?_, ?_, ?_, ?_, ?_, ?_, ?_⟩
  · rw [hfactor]
    exact hmax
  · rw [hworks, hfactor]
    exact hcand
  · rw [hworks]
    exact hbounds
  · rw [hworks]
    exact hmean
  · rw [hfactor, hsuccess, hall]
  · intro htarget hinputs
    have hone : ∀ f < v.fields, recentredSum w v target factor f = 1 := by
      intro f hf
      have hdeviation : ∑ c ∈ Finset.range v.species, meanDeviation w v f c = 0 := by
        have hmeans : ∑ c ∈ Finset.range v.species, (fieldMean v.fields fun g => viewTuple w v g c) = 1 :=
          sum_fieldMean hn hinputs
        simp only [meanDeviation]
        rw [Finset.sum_sub_distrib, hinputs f hf, hmeans, sub_self]
      rw [recentredSum, Finset.sum_add_distrib, ← Finset.mul_sum, hdeviation, mul_zero, zero_add, htarget]
    refine ⟨hsuccess.mpr (hall.mpr fun f hf => ?_), fun f hf => ?_⟩
    · rw [hone f hf, sub_self, abs_zero]
      norm_num
    · rw [hworks, hsum f hf, hone f hf]
  · intro hs
    have htrue := hsuccess.mp hs
    rw [hout, if_pos htrue]
    refine ⟨?_, fun c hc => hr.means c (Nat.lt_succ_of_le hc), rfl, rfl⟩
    exact fun f hf => all_eq_true.mp htrue f (mem_range.mpr hf)

end Recentring

section Mixing

variable {F : Type} [Field F] [LinearOrder F] {m : RealFunctions F} {q : Request F} {id : ChemistryIdentity F}

/-- What a successful `advance` has done. -/
structure MixedEnsemble (m : RealFunctions F) (w : Workspace F) (q : Request F) (id : ChemistryIdentity F)
    (r : Mixing F) : Prop where
  relaxation : iemFactor m q.dt q.mixingTime q.tcrControl = some r.report.relaxationFactor
  increments : balancedWiener m q.accepted.fields q.dt q.random w.wiener w.fieldCapacity = (.success, r.workspace.wiener)
  transported : ∀ f < q.accepted.fields, ∀ j ≤ q.accepted.species,
    row r.workspace.transported (q.accepted.species + 1) f j =
      transportedValue m q r.workspace.wiener (w.load q.accepted.values) f (f * (q.accepted.species + 1) + j)
  simplex : ∀ f < q.accepted.fields,
    fractionTuple (row r.workspace.candidate (q.accepted.species + 1) f) q.accepted.species = true
  mean : ∀ j ≤ q.accepted.species,
    (fieldMean q.accepted.fields fun f => row r.workspace.candidate (q.accepted.species + 1) f j) =
        (fieldMean q.accepted.fields fun f => row r.workspace.transported (q.accepted.species + 1) f j) ∧
      r.workspace.means j = fieldMean q.accepted.fields fun f => row r.workspace.candidate (q.accepted.species + 1) f j
  variance : ∀ j ≤ q.accepted.species,
    (r.workspace.variances j = fieldMean q.accepted.fields fun f =>
        (row r.workspace.candidate (q.accepted.species + 1) f j - r.workspace.means j) ^ 2) ∧
      r.workspace.variances j = r.report.relaxationFactor ^ 2 * fieldMean q.accepted.fields fun f =>
        (row r.workspace.transported (q.accepted.species + 1) f j - r.workspace.means j) ^ 2
  elements : ∀ e, elementTotal id q.accepted.species q.accepted.fields r.workspace.candidate e =
    elementTotal id q.accepted.species q.accepted.fields r.workspace.transported e
  exact : (∀ f < q.accepted.fields,
      ∑ c ∈ Finset.range q.accepted.species, row r.workspace.transported (q.accepted.species + 1) f c = 1) →
    ∀ f < q.accepted.fields,
      ∑ c ∈ Finset.range q.accepted.species, row r.workspace.candidate (q.accepted.species + 1) f c = 1
  published : r.report.published = true ∧ r.report.candidate =
    some { q.accepted with values := .candidate, owner := .this, generation := r.workspace.generation }

def Unmixed : Except (Mixing F) (Mixing F) → Prop :=
  Outcome (fun r => r.report.status = .invalidInput) fun r => r.report.status ≠ .success

variable {w : Workspace F}

lemma transportField_unmixed (f : ℕ) (r : Mixing F) (h : r.report.status = .invalidInput) :
    Unmixed (transportField m q r f) := by
  dsimp only [transportField]
  split
  · exact fun hs => nomatch h.symm.trans hs
  · split
    · exact h
    · exact PortableStatus.noConfusion

lemma mixComponent_unmixed {stride n : ℕ} (j : ℕ) (r : Mixing F) (h : r.report.status = .invalidInput) :
    Unmixed (mixComponent stride n r j) :=
  Outcome.ite h PortableStatus.noConfusion

lemma checkElement_unmixed {ns n : ℕ} (e : ℕ) (r : Mixing F) (h : r.report.status = .invalidInput) :
    Unmixed (checkElement id ns n r e) :=
  Outcome.ite h PortableStatus.noConfusion

lemma advanceFields_outcome {r : Mixing F} (h : r.report.status = .invalidInput) :
    Outcome (fun _ => True) (fun r => r.report.status ≠ .success) (advanceFields m q id r) := by
  have htrans : Unmixed ((range q.accepted.fields).foldlM (transportField m q) r) :=
    range_foldlM_outcome h fun f r hr => transportField_unmixed f r hr
  refine htrans.bind fun r₁ hr₁ => ?_
  have hmix : Unmixed ((range (q.accepted.species + 1)).foldlM
      (mixComponent (q.accepted.species + 1) q.accepted.fields) r₁) :=
    range_foldlM_outcome hr₁ fun j r hr => mixComponent_unmixed j r hr
  refine hmix.bind fun r₂ hr₂ => ?_
  split
  · have hcheck : Unmixed ((range id.elementCount).foldlM
        (checkElement id q.accepted.species q.accepted.fields) r₂) :=
      range_foldlM_outcome hr₂ fun e r hr => checkElement_unmixed e r hr
    exact hcheck.bind fun _ _ => trivial
  · exact PortableStatus.noConfusion

/-- The first `f` fields are transported, and the input is where it was. -/
structure FieldsTransported (m : RealFunctions F) (q : Request F) (base : Mixing F) (f : ℕ) (r : Mixing F) : Prop where
  relaxation : r.report.relaxationFactor = base.report.relaxationFactor
  candidate : r.workspace.candidate = base.workspace.candidate
  wiener : r.workspace.wiener = base.workspace.wiener
  transported : ∀ g < f, ∀ j < q.accepted.species + 1, row r.workspace.transported (q.accepted.species + 1) g j =
    transportedValue m q base.workspace.wiener (base.workspace.load q.accepted.values) g (g * (q.accepted.species + 1) + j)

lemma transportField_transported {base r r' : Mixing F} {f : ℕ} (hr : FieldsTransported m q base f r)
    (h : transportField m q r f = .ok r') : FieldsTransported m q base (f + 1) r' := by
  have hload : r.workspace.load q.accepted.values = base.workspace.load q.accepted.values := by
    cases q.accepted.values with
    | null => rfl
    | outside values => rfl
    | candidate => exact hr.candidate
  dsimp only [transportField] at h
  split at h
  · cases h
  · split at h
    · cases h
      refine ⟨hr.relaxation, hr.candidate, hr.wiener, ?_⟩
      intro g hg j hj
      dsimp only
      rcases Nat.lt_succ_iff_lt_or_eq.mp hg with hlt | rfl
      · rw [row_setRow_of_ne hj (Nat.ne_of_lt hlt), hr.transported g hlt j hj]
      · rw [row_setRow_self hj, if_pos hj, hr.wiener, hload]
    · cases h

/-- The first `j` components of all fields are drawn towards their mean. -/
structure ComponentsMixed (stride n : ℕ) (base : Mixing F) (j : ℕ) (r : Mixing F) : Prop where
  relaxation : r.report.relaxationFactor = base.report.relaxationFactor
  transported : r.workspace.transported = base.workspace.transported
  wiener : r.workspace.wiener = base.workspace.wiener
  candidate : ∀ f < n, ∀ i < j, i < stride → row r.workspace.candidate stride f i =
    base.report.relaxationFactor * (row base.workspace.transported stride f i -
        fieldMean n fun g => row base.workspace.transported stride g i) +
      fieldMean n fun g => row base.workspace.transported stride g i
  means : ∀ i < j, r.workspace.means i = fieldMean n fun f => row base.workspace.transported stride f i
  variances : ∀ i < j, i < stride → r.workspace.variances i = fieldMean n fun f =>
    (base.report.relaxationFactor * (row base.workspace.transported stride f i -
        fieldMean n fun g => row base.workspace.transported stride g i) +
      (fieldMean n fun g => row base.workspace.transported stride g i) - r.workspace.means i) ^ 2

/-- The value that mixing gives to component `j` of a field. -/
def mixedValue (stride n : ℕ) (r : Mixing F) (j f : ℕ) : F :=
  let old := fun f => r.workspace.transported (f * stride + j)
  if r.report.relaxationFactor = 1 then old f
  else r.report.relaxationFactor * (old f - ensembleMean n old) + ensembleMean n old

lemma mixComponent_ok {stride n j : ℕ} {r r' : Mixing F} (h : mixComponent stride n r j = .ok r') :
    r'.report.relaxationFactor = r.report.relaxationFactor ∧ r'.workspace.transported = r.workspace.transported ∧
      r'.workspace.wiener = r.workspace.wiener ∧
      r'.workspace.candidate = setColumn r.workspace.candidate stride n j (mixedValue stride n r j) ∧
      r'.workspace.means = Function.update r.workspace.means j
        (ensembleMean n fun f => r.workspace.transported (f * stride + j)) ∧
      r'.workspace.variances = Function.update r.workspace.variances j
        (ensembleVariance n (ensembleMean n fun f => r.workspace.transported (f * stride + j)) (mixedValue stride n r j)) := by
  obtain ⟨-, rfl⟩ := ite_ok h
  exact ⟨rfl, rfl, rfl, rfl, rfl, rfl⟩

lemma mixComponent_mixed {stride n j : ℕ} {base r r' : Mixing F} (hr : ComponentsMixed stride n base j r)
    (h : mixComponent stride n r j = .ok r') : ComponentsMixed stride n base (j + 1) r' := by
  obtain ⟨hrelax, hmoved, hwiener, hcand, hmeans, hvariances⟩ := mixComponent_ok h
  let old := fun f => row base.workspace.transported stride f j
  have hold : (fun f => r.workspace.transported (f * stride + j)) = old := by
    rw [hr.transported]
    rfl
  have hmean : (ensembleMean n fun f => r.workspace.transported (f * stride + j)) = fieldMean n old := by
    rw [ensembleMean_eq, hold]
  have hvalue : mixedValue stride n r j =
      fun f => base.report.relaxationFactor * (old f - fieldMean n old) + fieldMean n old := by
    funext f
    dsimp only [mixedValue]
    rw [hmean, congrFun hold f, hr.relaxation]
    split
    · rename_i hone
      rw [hone, one_mul, sub_add_cancel]
    · rfl
  rw [hvalue] at hcand
  rw [hmean] at hmeans
  rw [hmean, ensembleVariance_eq, hvalue] at hvariances
  refine ⟨hrelax.trans hr.relaxation, hmoved.trans hr.transported, hwiener.trans hr.wiener, ?_, ?_, ?_⟩
  · intro f hf i hi histride
    rw [hcand, row_setColumn histride hf]
    rcases Nat.lt_succ_iff_lt_or_eq.mp hi with hlt | rfl
    · rw [if_neg (Nat.ne_of_lt hlt)]
      exact hr.candidate f hf i hlt histride
    · exact if_pos rfl
  · intro i hi
    rw [hmeans]
    rcases Nat.lt_succ_iff_lt_or_eq.mp hi with hlt | rfl
    · rw [update_of_ne (Nat.ne_of_lt hlt)]
      exact hr.means i hlt
    · exact update_self ..
  · intro i hi histride
    rw [hvariances, hmeans]
    rcases Nat.lt_succ_iff_lt_or_eq.mp hi with hlt | rfl
    · rw [update_of_ne (Nat.ne_of_lt hlt), update_of_ne (Nat.ne_of_lt hlt)]
      exact hr.variances i hlt histride
    · rw [update_self, update_self]

lemma checkElement_workspace {ns n e : ℕ} {r r' : Mixing F} (h : checkElement id ns n r e = .ok r') :
    r'.workspace = r.workspace ∧ r'.report.relaxationFactor = r.report.relaxationFactor := by
  dsimp only [checkElement] at h
  split at h
  · cases h
    exact ⟨rfl, rfl⟩
  · cases h

lemma advanceFields_ok {base r : Mixing F} (h : advanceFields m q id base = .ok r) :
    ∃ r₁ r₂ r₃ : Mixing F, FieldsTransported m q base q.accepted.fields r₁ ∧
      ComponentsMixed (q.accepted.species + 1) q.accepted.fields r₁ (q.accepted.species + 1) r₂ ∧
      (∀ f < q.accepted.fields,
        fractionTuple (row r₂.workspace.candidate (q.accepted.species + 1) f) q.accepted.species = true) ∧
      r₃.workspace = r₂.workspace ∧ r₃.report.relaxationFactor = r₂.report.relaxationFactor ∧
      r = r₃.publish q.accepted := by
  obtain ⟨r₁, htrans, h⟩ := bind_ok h
  obtain ⟨r₂, hmix, h⟩ := bind_ok h
  split at h
  · rename_i htuples
    obtain ⟨r₃, hcheck, h⟩ := bind_ok h
    cases h
    refine ⟨r₁, r₂, r₃, ?_, ?_, fun f hf => all_eq_true.mp htuples f (mem_range.mpr hf), ?_⟩
    · refine range_foldlM_rule (I := FieldsTransported m q base) ?_ (fun f r r' _ => transportField_transported)
        htrans
      exact ⟨rfl, rfl, rfl, fun g hg => absurd hg (Nat.not_lt_zero g)⟩
    · refine range_foldlM_rule (I := ComponentsMixed (q.accepted.species + 1) q.accepted.fields r₁) ?_
        (fun j r r' _ => mixComponent_mixed) hmix
      exact ⟨rfl, rfl, rfl, fun f _ i hi => absurd hi (Nat.not_lt_zero i), fun i hi => absurd hi (Nat.not_lt_zero i),
        fun i hi => absurd hi (Nat.not_lt_zero i)⟩
    · have hkept := range_foldlM_rule (I := fun _ r => r.workspace = r₂.workspace ∧
          r.report.relaxationFactor = r₂.report.relaxationFactor) ⟨rfl, rfl⟩ (fun e r r' _ hr hstep => by
        obtain ⟨hworks, hfactor⟩ := checkElement_workspace hstep
        exact ⟨hworks.trans hr.1, hfactor.trans hr.2⟩) hcheck
      exact ⟨hkept.1, hkept.2, rfl⟩
  · cases h

/-- The state in which the loops of `advance` begin. -/
def advanceStart (w : Workspace F) (wiener : ℕ → ℕ → F) (factor : F) : Mixing F where
  report := { (Report.initial 0x4553465048490001 : Report F) with relaxationFactor := factor }
  workspace := { w.nextGeneration with wiener := wiener }

lemma advance_success (h : (advance m w q).report.status = .success) :
    ∃ id factor wiener, q.identity = some id ∧ iemFactor m q.dt q.mixingTime q.tcrControl = some factor ∧
      validFieldCount q.accepted.fields = true ∧
      balancedWiener m q.accepted.fields q.dt q.random w.wiener w.fieldCapacity = (.success, wiener) ∧
      advanceFields m q id (advanceStart w wiener factor) = .ok (advance m w q) := by
  have hstart : ∀ r : Mixing F, r.report.status = .invalidInput → r.report.status ≠ .success := by
    intro r hr hs
    exact nomatch hr.symm.trans hs
  generalize hr : advance m w q = r at h ⊢
  dsimp only [advance] at hr
  split at hr
  · subst hr
    exact PortableStatus.noConfusion h
  · split at hr
    · subst hr
      exact PortableStatus.noConfusion h
    · split at hr
      · subst hr
        exact PortableStatus.noConfusion h
      · split at hr
        · subst hr
          exact PortableStatus.noConfusion h
        · rename_i id hid
          split at hr
          · subst hr
            exact PortableStatus.noConfusion h
          · rename_i hshape
            simp only [Bool.or_eq_true, decide_eq_true_iff, not_or, Bool.not_eq_true', Bool.not_eq_false] at hshape
            split at hr
            · subst hr
              exact PortableStatus.noConfusion h
            · rename_i factor hfactor
              split at hr
              · subst hr
                exact PortableStatus.noConfusion h
              · split at hr
                · rename_i wiener hwiener
                  have houtcome : Outcome (fun _ => True) (fun r => r.report.status ≠ .success)
                      (advanceFields m q id (advanceStart w wiener factor)) := advanceFields_outcome rfl
                  refine ⟨id, factor, wiener, hid, hfactor, ?_, hwiener, ?_⟩
                  · exact hshape.1.1.1.1.2
                  · split at hr
                    · rename_i r' hfields
                      exact hr ▸ hfields
                    · rename_i r' hfields
                      change advanceFields m q id (advanceStart w wiener factor) = _ at hfields
                      rw [hfields] at houtcome
                      exact absurd (hr ▸ h) houtcome
                · subst hr
                  exact PortableStatus.noConfusion h

omit [LinearOrder F] in
lemma elementTotal_congr [CharZero F] {ns n : ℕ} (hn : n ≠ 0) {a b : ℕ → F}
    (h : ∀ s < ns, (fieldMean n fun f => row a (ns + 1) f s) = fieldMean n fun f => row b (ns + 1) f s) (e : ℕ) :
    elementTotal id ns n a e = elementTotal id ns n b e := by
  simp only [elementTotal, runningSum_eq]
  rw [Finset.sum_comm, Finset.sum_comm (s := Finset.range n)]
  refine Finset.sum_congr rfl fun s hs => ?_
  cases id.species[s]? with
  | none => rfl
  | some species =>
    simp only
    rw [← Finset.sum_mul, ← Finset.sum_mul]
    exact congrArg (· * _) (sum_of_fieldMean_eq hn (h s (Finset.mem_range.mp hs)))

lemma advance_mixed [IsStrictOrderedRing F] (h : (advance m w q).report.status = .success) :
    ∃ id, q.identity = some id ∧ MixedEnsemble m w q id (advance m w q) := by
  obtain ⟨id, factor, wiener, hid, hfactor, hcount, hwiener, hfields⟩ := advance_success h
  obtain ⟨r₁, r₂, r₃, hmoved, hmixed, htuples, hworks, hrelax, heq⟩ := advanceFields_ok hfields
  refine ⟨id, hid, ?_⟩
  rw [heq]
  have hn : q.accepted.fields ≠ 0 := by
    intro hzero
    rw [hzero] at hcount
    exact nomatch hcount
  have hsame : (r₃.publish q.accepted).workspace = r₂.workspace := hworks
  have hkept : r₂.workspace.transported = r₁.workspace.transported := hmixed.transported
  have hphi : r₁.report.relaxationFactor = factor := hmoved.relaxation
  have hpubl : (r₃.publish q.accepted).report.relaxationFactor = factor :=
    hrelax.trans (hmixed.relaxation.trans hphi)
  have hcand : ∀ f < q.accepted.fields, ∀ i ≤ q.accepted.species,
      row r₂.workspace.candidate (q.accepted.species + 1) f i =
        factor * (row r₂.workspace.transported (q.accepted.species + 1) f i -
            fieldMean q.accepted.fields fun g => row r₂.workspace.transported (q.accepted.species + 1) g i) +
          fieldMean q.accepted.fields fun g => row r₂.workspace.transported (q.accepted.species + 1) g i := by
    intro f hf i hi
    rw [hkept, ← hphi]
    exact hmixed.candidate f hf i (Nat.lt_succ_of_le hi) (Nat.lt_succ_of_le hi)
  have hmean : ∀ i ≤ q.accepted.species,
      (fieldMean q.accepted.fields fun f => row r₂.workspace.candidate (q.accepted.species + 1) f i) =
        fieldMean q.accepted.fields fun f => row r₂.workspace.transported (q.accepted.species + 1) f i := by
    intro i hi
    rw [fieldMean_congr fun f hf => hcand f hf i hi]
    exact fieldMean_contracted hn factor _ _
  have hmeans : ∀ i ≤ q.accepted.species, r₂.workspace.means i =
      fieldMean q.accepted.fields fun f => row r₂.workspace.transported (q.accepted.species + 1) f i := by
    intro i hi
    rw [hkept]
    exact hmixed.means i (Nat.lt_succ_of_le hi)
  have hvariance : ∀ i ≤ q.accepted.species, r₂.workspace.variances i = fieldMean q.accepted.fields fun f =>
      (row r₂.workspace.candidate (q.accepted.species + 1) f i - r₂.workspace.means i) ^ 2 := by
    intro i hi
    rw [hmixed.variances i (Nat.lt_succ_of_le hi) (Nat.lt_succ_of_le hi)]
    refine fieldMean_congr fun f hf => ?_
    rw [hcand f hf i hi, hkept, hphi]
  refine ⟨?_, ?_, ?_, ?_, ?_, ?_, ?_, ?_, rfl, rfl⟩
  · rw [hpubl]
    exact hfactor
  · rw [hsame, hmixed.wiener, hmoved.wiener]
    exact hwiener
  · intro f hf j hj
    have hload : (advanceStart w wiener factor).workspace.load q.accepted.values = w.load q.accepted.values := by
      cases q.accepted.values <;> rfl
    rw [hsame, hkept, hmixed.wiener, hmoved.wiener, hmoved.transported f hf j (Nat.lt_succ_of_le hj), hload]
  · rw [hsame]
    exact htuples
  · intro j hj
    rw [hsame]
    exact ⟨hmean j hj, (hmeans j hj).trans (hmean j hj).symm⟩
  · intro j hj
    rw [hsame, hpubl]
    refine ⟨hvariance j hj, ?_⟩
    rw [hvariance j hj, ← fieldMean_mul]
    refine fieldMean_congr fun f hf => ?_
    rw [hcand f hf j hj, hmeans j hj, add_sub_cancel_right, mul_pow]
  · intro e
    rw [hsame]
    exact elementTotal_congr hn (fun s hs => hmean s hs.le) e
  · intro hexact f hf
    rw [hsame] at hexact ⊢
    have hmeans : ∑ c ∈ Finset.range q.accepted.species,
        (fieldMean q.accepted.fields fun g => row r₂.workspace.transported (q.accepted.species + 1) g c) = 1 :=
      sum_fieldMean hn hexact
    rw [Finset.sum_congr rfl fun c hc => hcand f hf c (Finset.mem_range.mp hc).le, Finset.sum_add_distrib,
      ← Finset.mul_sum, Finset.sum_sub_distrib, hexact f hf, hmeans, sub_self, mul_zero, zero_add]

end Mixing

/-- Mixing keeps the means, and an admitted recentring moves them to the target, whatever the views alias. -/
theorem mixing_and_recentring {F : Type} [Field F] [LinearOrder F] [IsStrictOrderedRing F] (m : RealFunctions F)
    (hnext : ∀ x, m.nextBelow x = x) (w : Workspace F) :
    (∀ q : Request F, (advance m w q).report.status = .success →
        ∃ id, q.identity = some id ∧ MixedEnsemble m w q id (advance m w q)) ∧
      ∀ (v : View F) (target : Target F), recenterAdmits w v target = true →
        RecentredEnsemble w v target (recenter m w v target) :=
  ⟨fun _ h => advance_mixed h, fun _ _ h => recenter_recentred hnext h⟩

def rationalFunctions : RealFunctions ℚ := ⟨fun x => x, fun x => x, fun _ => 1 / 2, fun x => x⟩

def fieldPairWorkspace : Workspace ℚ :=
  ⟨false, 0, 2, 2, fun _ _ => 0, fun _ => 0, fun _ => 0, fun _ => 0, fun _ => 0, fun _ => 0, fun _ => 0, fun _ => 0,
    fun _ => 0, fun _ => 0⟩

def fieldPairView : View ℚ := ⟨{}, 1, 2, 2, .outside fun k => if k = 0 ∨ k = 4 then 1 else 0, .none, 0⟩

def fieldPairRequest : Request ℚ where
  accepted := fieldPairView
  expectedRevision := {}
  identity := some ⟨1, [⟨1, [1], 0⟩, ⟨1, [1], 0⟩], 1⟩
  dt := 1
  mixingTime := 1
  tcrControl := 1
  turbulentDiffusivity := 0
  deterministicRates := none
  gradients := none
  random := ⟨0, 0, 0, 0, 0, 1⟩

def quarterTarget : Target ℚ := .outside fun c => if c = 0 then 1 / 4 else if c = 1 then 3 / 4 else 0

theorem mixing_and_recentring_sample : (∃ id, fieldPairRequest.identity = some id ∧
        MixedEnsemble rationalFunctions fieldPairWorkspace fieldPairRequest id (advance rationalFunctions fieldPairWorkspace fieldPairRequest)) ∧
      RecentredEnsemble fieldPairWorkspace fieldPairView quarterTarget
        (recenter rationalFunctions fieldPairWorkspace fieldPairView quarterTarget) :=
  ⟨(mixing_and_recentring rationalFunctions (fun _ => rfl) fieldPairWorkspace).1 fieldPairRequest (by decide +kernel),
    (mixing_and_recentring rationalFunctions (fun _ => rfl) fieldPairWorkspace).2 fieldPairView quarterTarget (by decide +kernel)⟩

def looseView : View ℚ := ⟨{}, 1, 2, 1, .outside fun k => if k = 0 then 1 else if k = 2 then 1 - 2 / 10 ^ 12 else 0, .none, 0⟩

def looseTarget : Target ℚ := .outside fun c => if c = 0 then 1 - 2 / 10 ^ 12 else 0

/-- An input within the tolerance can be recentred out of it. -/
theorem recenter_leaves_tolerance : recenterAdmits fieldPairWorkspace looseView looseTarget = true ∧
    (recenter rationalFunctions fieldPairWorkspace looseView looseTarget).report.status = .conservationFailure := by
  constructor <;> decide +kernel

end HundunFlow.Proofs
