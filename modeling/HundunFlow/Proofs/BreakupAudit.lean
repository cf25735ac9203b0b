import HundunFlow.SprayBreakup

/-!
# The audit of a split

What the loop over the children returns, and that the audit passes when the children carry the
parent's mass at its velocity and temperature.
-/

namespace HundunFlow.Proofs

open List

variable {F : Type} [Field F] [LinearOrder F] [SprayMath F]

structure FreshIds (parent : ParcelId) (id : ℕ → ParcelId) (count : ℕ) : Prop where
  identified : ∀ i < count, validId (id i) = true
  differ : ∀ i < count, id i ≠ parent
  distinct : ∀ i < count, ∀ j < count, id i = id j → i = j

variable {count : ℕ} {parent : ParcelId} {id : ℕ → ParcelId}

omit [Field F] [LinearOrder F] [SprayMath F] in
lemma FreshIds.nodup {parent : SprayParcelState F} {make : ℕ → SprayParcelState F}
    (h : FreshIds parent.id (fun i => (make i).id) count) : ((((range count).map make).map (·.id))).Nodup := by
  rw [map_map]
  refine Nodup.map_on (fun i hi j hj heq => ?_) nodup_range
  exact h.distinct i (mem_range.mp hi) j (mem_range.mp hj) heq

lemma FreshIds.mono {count' : ℕ} (h : FreshIds parent id count) (hle : count' ≤ count) : FreshIds parent id count' :=
  ⟨fun i hi => h.identified i (hi.trans_le hle), fun i hi => h.differ i (hi.trans_le hle),
    fun i hi j hj => h.distinct i (hi.trans_le hle) j (hj.trans_le hle)⟩

lemma freshIds_zero (parent : ParcelId) (id : ℕ → ParcelId) : FreshIds parent id 0 :=
  ⟨fun i hi => absurd hi (Nat.not_lt_zero i), fun i hi => absurd hi (Nat.not_lt_zero i),
    fun i hi => absurd hi (Nat.not_lt_zero i)⟩

lemma freshIds_succ_iff (h : FreshIds parent id count) : FreshIds parent id (count + 1) ↔
      validId (id count) = true ∧ id count ≠ parent ∧ ∀ i < count, id count ≠ id i := by
  constructor
  · intro h'
    refine ⟨h'.identified count (Nat.lt_succ_self _), h'.differ count (Nat.lt_succ_self _), fun i hi heq => ?_⟩
    exact hi.ne' (h'.distinct count (Nat.lt_succ_self _) i (Nat.lt_succ_of_lt hi) heq)
  · rintro ⟨hvalid, hparent, hothers⟩
    refine ⟨fun i hi => ?_, fun i hi => ?_, fun i hi j hj heq => ?_⟩
    · obtain hlt | rfl := Nat.lt_succ_iff_lt_or_eq.mp hi
      · exact h.identified i hlt
      · exact hvalid
    · obtain hlt | rfl := Nat.lt_succ_iff_lt_or_eq.mp hi
      · exact h.differ i hlt
      · exact hparent
    · obtain hi | rfl := Nat.lt_succ_iff_lt_or_eq.mp hi
      · obtain hj | rfl := Nat.lt_succ_iff_lt_or_eq.mp hj
        · exact h.distinct i hi j hj heq
        · exact absurd heq.symm (hothers i hi)
      · obtain hj | rfl := Nat.lt_succ_iff_lt_or_eq.mp hj
        · exact absurd heq (hothers j hj)
        · rfl

lemma childLoop_spec {parent : SprayParcelState F} {make : ℕ → SprayParcelState F} {remaining start : ℕ}
    (hvalid : ∀ i, validId (make i).id = true → validateParcelState (make i) = true)
    (hstart : FreshIds parent.id (fun i => (make i).id) start) :
    (FreshIds parent.id (fun i => (make i).id) (start + remaining) ∧
        childLoop parent make remaining ((range start).map make) =
          .ok ((range (start + remaining)).map make)) ∨
      (¬ FreshIds parent.id (fun i => (make i).id) (start + remaining) ∧
        childLoop parent make remaining ((range start).map make) = .error .childIdCollision) := by
  induction remaining generalizing start with
  | zero => exact .inl ⟨hstart, rfl⟩
  | succ remaining ih =>
    unfold childLoop
    simp only [length_map, length_range]
    by_cases hnext : FreshIds parent.id (fun i => (make i).id) (start + 1)
    · obtain ⟨hid, hparent, hothers⟩ := (freshIds_succ_iff hstart).mp hnext
      have hzero : ¬ ((make start).id.high = 0 ∧ (make start).id.low = 0) := by
        intro h
        simp [validId, h.1, h.2] at hid
      have hany : (((range start).map make).any fun previous => (make start).id = previous.id) = false := by
        simpa using hothers
      have hrange : (range start).map make ++ [make start] = (range (start + 1)).map make := by
        simp [range_succ]
      simp only [hzero, hparent, hany, hvalid start hid, hrange, decide_false, Bool.and_eq_true,
        decide_eq_true_eq, Bool.or_eq_true, or_self, Bool.not_true, Bool.false_eq_true, if_false]
      rw [Nat.add_comm remaining 1, ← Nat.add_assoc]
      exact ih hnext
    · refine .inr ⟨fun h => hnext (h.mono (by omega)), ?_⟩
      rw [freshIds_succ_iff hstart] at hnext
      by_cases hid : ((make start).id.high = 0 ∧ (make start).id.low = 0) ∨ (make start).id = parent.id
      · rw [if_pos (by simpa using hid)]
      · rw [if_neg (by simpa using hid), if_pos]
        have hvalidId : validId (make start).id = true := by
          simpa [validId, ← not_and_or] using fun h => hid (.inl h)
        have hseen : ∃ i < start, (make start).id = (make i).id := by
          by_contra hnone
          exact hnext ⟨hvalidId, fun h => hid (.inr h), fun i hi heq => hnone ⟨i, hi, heq⟩⟩
        simpa using hseen

section

omit [LinearOrder F] [SprayMath F]

variable (children : List (SprayParcelState F))

variable (term : SprayParcelState F → F)

lemma childrenTotal_eq_sum : childrenTotal children term = (children.map term).sum := by
  rw [childrenTotal, sum_eq_foldl, foldl_map]

lemma childrenTotal_mul (factor : F) :
    childrenTotal children (fun child => term child * factor) = childrenTotal children term * factor := by
  rw [childrenTotal_eq_sum, childrenTotal_eq_sum, sum_map_mul_right]

lemma childrenTotal_congr {children : List (SprayParcelState F)} {term term' : SprayParcelState F → F}
    (h : ∀ child ∈ children, term child = term' child) :
    childrenTotal children term = childrenTotal children term' := by
  rw [childrenTotal_eq_sum, childrenTotal_eq_sum, map_congr_left h]

lemma childrenTotal_range (make : ℕ → SprayParcelState F) (count : ℕ) (term : SprayParcelState F → F) :
    childrenTotal ((range count).map make) term = ∑ i ∈ Finset.range count, term (make i) := by
  rw [childrenTotal_eq_sum, map_map]
  rfl

end

section Temperatures

variable {T : F} {children : List (SprayParcelState F)} (hT : ∀ child ∈ children, child.temperature = T)

include hT

omit [SprayMath F]

omit [Field F] in
lemma foldl_min_temperature (hne : children ≠ []) :
    children.foldl (fun least child => min least (child.temperature : WithTop F)) ⊤ = T := by
  have hrest : ∀ rest : List (SprayParcelState F), (∀ child ∈ rest, child.temperature = T) →
      rest.foldl (fun least child => min least (child.temperature : WithTop F)) (T : WithTop F) = T := by
    intro rest hrest
    induction rest with
    | nil => rfl
    | cons child rest ih =>
      rw [forall_mem_cons] at hrest
      rw [foldl_cons, hrest.1, min_self]
      exact ih hrest.2
  cases children with
  | nil => exact absurd rfl hne
  | cons child rest =>
    rw [forall_mem_cons] at hT
    rw [foldl_cons, hT.1, min_eq_right le_top]
    exact hrest rest hT.2

lemma foldl_max_temperature (hne : children ≠ []) (hpos : 0 ≤ T) :
    children.foldl (fun greatest child => max greatest child.temperature) 0 = T := by
  have hrest : ∀ rest : List (SprayParcelState F), (∀ child ∈ rest, child.temperature = T) →
      rest.foldl (fun greatest child => max greatest child.temperature) T = T := by
    intro rest hrest
    induction rest with
    | nil => rfl
    | cons child rest ih =>
      rw [forall_mem_cons] at hrest
      rw [foldl_cons, hrest.1, max_self]
      exact ih hrest.2
  cases children with
  | nil => exact absurd rfl hne
  | cons child rest =>
    rw [forall_mem_cons] at hT
    rw [foldl_cons, hT.1, max_eq_right hpos]
    exact hrest rest hT.2

end Temperatures

variable [IsStrictOrderedRing F]

omit [SprayMath F] in
lemma withinTolerance_of_eq_zero {residual left right tolerance : F} (h : residual = 0) (htolerance : 0 ≤ tolerance) :
    withinTolerance residual left right tolerance = true := by
  have hrelative : (0 : F) ≤ kRelativeTolerance := by
    unfold kRelativeTolerance
    positivity
  rw [withinTolerance, decide_eq_true_eq, h, abs_zero]
  positivity

omit [SprayMath F] in
lemma tolerances_nonneg : (0 : F) ≤ kAbsoluteMassTolerance ∧ (0 : F) ≤ kAbsoluteMomentumTolerance ∧
    (0 : F) ≤ kAbsoluteEnergyTolerance ∧ (0 : F) ≤ doubleEpsilon := by
  unfold kAbsoluteMassTolerance kAbsoluteMomentumTolerance kAbsoluteEnergyTolerance doubleEpsilon
  refine ⟨?_, ?_, ?_, ?_⟩ <;> positivity

def parentMomentum (parent : SprayParcelState F) : Vector3 F :=
  ⟨representedMass parent * parent.velocity.x, representedMass parent * parent.velocity.y,
    representedMass parent * parent.velocity.z⟩

omit [SprayMath F] in
lemma momentumWithinTolerance_of_eq {budget : BreakupConservationReport F}
    (h : budget.momentumResidual = ⟨0, 0, 0⟩) : momentumWithinTolerance budget = true := by
  have htolerance := (tolerances_nonneg (F := F)).2.1
  simp only [momentumWithinTolerance, h, withinTolerance_of_eq_zero rfl htolerance, Bool.and_self]

structure SharesState (parent : SprayParcelState F) (children : List (SprayParcelState F)) : Prop where
  nonempty : children ≠ []
  velocity : ∀ child ∈ children, child.velocity = parent.velocity
  temperature : ∀ child ∈ children, child.temperature = parent.temperature
  mass : childrenTotal children representedMass = representedMass parent

section Shares

variable {parent : SprayParcelState F} {children : List (SprayParcelState F)} (h : SharesState parent children)

include h

omit [IsStrictOrderedRing F] [LinearOrder F] [SprayMath F] in
lemma SharesState.momentum : childrenMomentum children = parentMomentum parent := by
  have hcomp : ∀ component : Vector3 F → F,
      childrenTotal children (fun child => representedMass child * component child.velocity) =
        representedMass parent * component parent.velocity := by
    intro component
    rw [← h.mass, ← childrenTotal_mul]
    exact childrenTotal_congr fun child hchild => by rw [h.velocity child hchild]
  exact congr (congrArg₂ Vector3.mk (hcomp fun v => v.x) (hcomp fun v => v.y)) (hcomp fun v => v.z)

omit [IsStrictOrderedRing F] [LinearOrder F] [SprayMath F] in
lemma SharesState.kinetic :
    childrenKinetic children = 1 / 2 * representedMass parent * dot parent.velocity parent.velocity := by
  have hsplit : childrenKinetic children =
      childrenTotal children fun child => representedMass child * (1 / 2 * dot parent.velocity parent.velocity) := by
    refine childrenTotal_congr fun child hchild => ?_
    rw [h.velocity child hchild]
    ring
  rw [hsplit, childrenTotal_mul, h.mass]
  ring

lemma auditChildren_passes (hfinite : ∀ x : F, SprayMath.isFinite x = true) (hT : 0 ≤ parent.temperature)
    (surfaceTension liquidEnthalpy deformationEnergy : F) {multiplicity : F} {report : BreakupChildReport F}
    (hchildren : report.candidate.children = children)
    (hmult : childrenTotal children (fun child => child.multiplicity) = multiplicity) :
    auditChildren parent surfaceTension liquidEnthalpy deformationEnergy multiplicity report =
      { report with
        conservation := childrenBudget parent surfaceTension liquidEnthalpy deformationEnergy multiplicity children
        candidate := ⟨true, children⟩, status := .success } := by
  obtain ⟨hmass, -, henergy, hepsilon⟩ := tolerances_nonneg (F := F)
  have hleast := foldl_min_temperature h.temperature h.nonempty
  have hmax := foldl_max_temperature h.temperature h.nonempty hT
  set budget := childrenBudget parent surfaceTension liquidEnthalpy deformationEnergy multiplicity children
    with hbudget
  have hfiniteBudget : finiteConservation budget = true := by
    simp only [finiteConservation, hbudget, childrenBudget, hleast, finiteVector, SprayReal.isFinite, all_cons,
      all_nil, hfinite, Bool.and_self]
  have hconservative : conservative parent budget = true := by
    have hmomentum : budget.momentumResidual = ⟨0, 0, 0⟩ := by
      have hres : budget.momentumResidual =
          (childrenMomentum children).combine (· - ·) (parentMomentum parent) := rfl
      rw [hres, h.momentum]
      simp [Vector3.combine]
    simp only [conservative, momentumWithinTolerance_of_eq hmomentum, Bool.and_true, Bool.and_eq_true, decide_eq_true_eq]
    refine ⟨⟨⟨⟨⟨withinTolerance_of_eq_zero ?_ hmass, withinTolerance_of_eq_zero ?_ henergy⟩,
      withinTolerance_of_eq_zero ?_ henergy⟩, withinTolerance_of_eq_zero ?_ hepsilon⟩, hleast⟩, hmax⟩
    · exact sub_eq_zero.mpr h.mass
    · exact sub_eq_zero.mpr h.kinetic
    · refine sub_eq_zero.mpr ?_
      rw [childrenTotal_mul, h.mass]
      rfl
    · exact sub_eq_zero.mpr hmult
  subst hchildren
  simp only [auditChildren, ← hbudget, hfiniteBudget, hconservative, Bool.not_true, Bool.false_eq_true, if_false]

end Shares

end HundunFlow.Proofs
