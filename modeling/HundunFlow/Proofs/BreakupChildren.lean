import HundunFlow.Proofs.BreakupAudit

/-!
# Breakup conserves

A parcel whose mass is that of its sphere breaks up into children that carry its mass, its momentum and
its enthalpy.
-/

namespace HundunFlow.Proofs

open List

variable {F : Type} [Field F] [LinearOrder F] [IsStrictOrderedRing F] [SprayMath F]

omit [SprayMath F] in
lemma kPi_pos : (0 : F) < kPi := by
  unfold kPi
  positivity

section Guards

variable (hfinite : ∀ x : F, SprayMath.isFinite x = true)

include hfinite

section

omit [IsStrictOrderedRing F]

lemma finitePositive_iff (x : F) : finitePositive x = true ↔ 0 < x := by
  simp [finitePositive, SprayReal.isFinite, SprayReal.lt, SprayReal.zero, hfinite]

lemma finiteNonNegative_iff (x : F) : finiteNonNegative x = true ↔ 0 ≤ x := by
  simp [finiteNonNegative, hfinite]

lemma finiteVector_eq_true (v : Vector3 F) : finiteVector v = true := by
  simp [finiteVector, SprayReal.isFinite, hfinite]

lemma validateParcelState_iff (parcel : SprayParcelState F) :
    validateParcelState parcel = true ↔ validId parcel.id = true ∧ 0 < parcel.dropletMass ∧
      0 < parcel.dropletDiameter ∧ 0 < parcel.multiplicity ∧ 0 < parcel.temperature ∧
      parcel.liquidMaterialFingerprint ≠ 0 ∧ 0 ≤ parcel.age := by
  have hid : validId parcel.id = true ↔ ¬ (parcel.id.high = 0 ∧ parcel.id.low = 0) := by
    simp only [validId, ne_eq, Bool.or_eq_true, decide_eq_true_eq, not_and_or]
  have hpos : ∀ x : F, finitePositive x = decide (0 < x) :=
    fun x => Bool.eq_iff_iff.mpr (by rw [finitePositive_iff hfinite, decide_eq_true_eq])
  rw [hid]
  simp only [validateParcelState, finiteVector_eq_true hfinite, hpos, SprayReal.isFinite, SprayReal.lt,
    SprayReal.zero, hfinite]
  simp only [Bool.not_true, Bool.or_false, Bool.not_eq_true', Bool.or_eq_false_iff, Bool.not_eq_false',
    decide_eq_false_iff_not, decide_eq_true_eq, Bool.and_eq_false_iff, not_lt, not_and_or, and_assoc, ne_eq]

lemma validateParcelState_child {parent child : SprayParcelState F} (hparent : validateParcelState parent = true)
    (htemp : child.temperature = parent.temperature)
    (hfingerprint : child.liquidMaterialFingerprint = parent.liquidMaterialFingerprint)
    (hage : child.age = parent.age) (hid : validId child.id = true) (hmass : 0 < child.dropletMass)
    (hdiam : 0 < child.dropletDiameter) (hmult : 0 < child.multiplicity) : validateParcelState child = true := by
  obtain ⟨-, -, -, -, hT, hmat, hold⟩ := (validateParcelState_iff hfinite parent).mp hparent
  refine (validateParcelState_iff hfinite child).mpr ⟨hid, hmass, hdiam, hmult, ?_, ?_, ?_⟩
  · rwa [htemp]
  · rwa [hfingerprint]
  · rwa [hage]

omit [SprayMath F] hfinite in
lemma sphereMass_pos [IsStrictOrderedRing F] {density diameter : F} (hdensity : 0 < density)
    (hdiam : 0 < diameter) : 0 < sphereMass density diameter := by
  have hpi := kPi_pos (F := F)
  unfold sphereMass
  positivity

end

lemma parentGeometryConsistent_of_eq {parent : SprayParcelState F} {density : F} (hdensity : 0 < density)
    (hdiam : 0 < parent.dropletDiameter) (h : parent.dropletMass = sphereMass density parent.dropletDiameter) :
    parentGeometryConsistent parent density = true := by
  have hzero : sphereMass density parent.dropletDiameter - parent.dropletMass = 0 := sub_eq_zero.mpr h.symm
  simp only [parentGeometryConsistent, (finitePositive_iff hfinite _).mpr (sphereMass_pos hdensity hdiam),
    withinTolerance_of_eq_zero hzero (tolerances_nonneg (F := F)).1, Bool.and_self]

end Guards

/-- The children carry what the parent carried, under identities of their own. -/
structure ChildrenConserve (parent : SprayParcelState F) (density enthalpy : F) (count : ℕ)
    (children : List (SprayParcelState F)) : Prop where
  count : children.length = count
  mass : childrenTotal children representedMass = representedMass parent
  momentum : childrenMomentum children = parentMomentum parent
  enthalpy : childrenTotal children (fun child => representedMass child * enthalpy) = representedMass parent * enthalpy
  sphere : ∀ child ∈ children, child.dropletMass = sphereMass density child.dropletDiameter
  valid : ∀ child ∈ children, validateParcelState child = true
  differ : ∀ child ∈ children, child.id ≠ parent.id
  distinct : (children.map (·.id)).Nodup

/-- The identities of the children of a split are fresh. -/
abbrev FreshChildren (parent : SprayParcelState F) (acceptedStep breakupOrdinal : UInt64) (count : ℕ) : Prop :=
  FreshIds parent.id (childId parent acceptedStep breakupOrdinal) count

section Supplied

variable (hfinite : ∀ x : F, SprayMath.isFinite x = true) {input : BreakupChildInput F}

omit [IsStrictOrderedRing F] in
include hfinite in
lemma BreakupChildInput.admitted (h : input.refused = false) :
    validateParcelState input.parent = true ∧ 2 ≤ input.parameters.childParcelCount ∧
      0 < input.parameters.suppliedUniformChildDiameter ∧ 0 < input.parameters.liquidDensity := by
  simp only [BreakupChildInput.refused, Bool.or_eq_false_iff, Bool.not_eq_false', decide_eq_false_iff_not, not_lt,
    decide_eq_true_eq, finitePositive_iff hfinite] at h
  exact ⟨h.1.1.1.1.1.1.1.1.1.1.1, h.1.1.1.1.1.1.1.1.1.2, h.1.1.1.1.1.2, h.1.1.1.2⟩

/-- What a supplied split starts from once its guards have passed. -/
structure SuppliedSplit (input : BreakupChildInput F) : Prop where
  refused : input.refused = false
  requested : input.tabTrigger.breakupRequested = true
  sphere : input.parent.dropletMass = sphereMass input.parameters.liquidDensity input.parent.dropletDiameter

omit [IsStrictOrderedRing F] [LinearOrder F] [SprayMath F] in
lemma child_fields (input : BreakupChildInput F) (i : ℕ) :
    (input.child i).id = childId input.parent input.acceptedStep input.breakupOrdinal i ∧
      (input.child i).dropletMass = input.childMass ∧
      (input.child i).dropletDiameter = input.parameters.suppliedUniformChildDiameter ∧
      (input.child i).multiplicity = input.childMultiplicity := by
  rw [BreakupChildInput.child]
  exact ⟨rfl, rfl, rfl, rfl⟩

omit [IsStrictOrderedRing F] [LinearOrder F] [SprayMath F] in
lemma child_parent (input : BreakupChildInput F) (i : ℕ) :
    (input.child i).velocity = input.parent.velocity ∧ (input.child i).temperature = input.parent.temperature ∧
      (input.child i).liquidMaterialFingerprint = input.parent.liquidMaterialFingerprint ∧
      (input.child i).age = input.parent.age := by
  rw [BreakupChildInput.child]
  exact ⟨rfl, rfl, rfl, rfl⟩

def suppliedChildren (input : BreakupChildInput F) : List (SprayParcelState F) :=
  (range input.parameters.childParcelCount).map input.child

def suppliedReport (input : BreakupChildInput F) : BreakupChildReport F :=
  { startedReport "conservative_supplied_uniform_diameter_split_v1" input.tabTrigger.modelId input.parent
      input.acceptedStep input.breakupOrdinal with
    conservation := childrenBudget input.parent input.parameters.surfaceTension
      input.parameters.liquidAbsoluteThermochemicalEnthalpy
      input.parameters.suppliedDeformationEnergyPerParentDroplet input.expectedChildrenMultiplicity
      (suppliedChildren input)
    candidate := ⟨true, suppliedChildren input⟩
    status := .success }

include hfinite

lemma SuppliedSplit.positive (h : SuppliedSplit input) : 0 < input.childMass ∧ 0 < representedMass input.parent ∧
    0 < input.expectedChildrenMultiplicity ∧ 0 < input.childMultiplicity ∧
      (0 : F) < input.parameters.childParcelCount := by
  obtain ⟨hparent, hcount, hchild, hdensity⟩ := BreakupChildInput.admitted hfinite h.refused
  obtain ⟨-, hmass, -, hmult, -⟩ := (validateParcelState_iff hfinite _).mp hparent
  have hchildMass : 0 < input.childMass := sphereMass_pos hdensity hchild
  have htotal : 0 < representedMass input.parent := mul_pos hmass hmult
  have hexp : 0 < input.expectedChildrenMultiplicity := div_pos htotal hchildMass
  have hcast : (0 : F) < input.parameters.childParcelCount := by
    rw [Nat.cast_pos]
    omega
  exact ⟨hchildMass, htotal, hexp, div_pos hexp hcast, hcast⟩

lemma SuppliedSplit.child_valid (h : SuppliedSplit input) (i : ℕ) (hid : validId (input.child i).id = true) :
    validateParcelState (input.child i) = true := by
  obtain ⟨hparent, -, hchild, -⟩ := BreakupChildInput.admitted hfinite h.refused
  obtain ⟨hmass, -, -, hmult, -⟩ := h.positive hfinite
  obtain ⟨-, hchildMass, hchildDiameter, hchildMultiplicity⟩ := child_fields input i
  obtain ⟨-, htemp, hmat, hage⟩ := child_parent input i
  refine validateParcelState_child hfinite hparent htemp hmat hage hid ?_ ?_ ?_
  · rwa [hchildMass]
  · rwa [hchildDiameter]
  · rwa [hchildMultiplicity]

lemma SuppliedSplit.multiplicity (h : SuppliedSplit input) :
    childrenTotal (suppliedChildren input) (fun child => child.multiplicity) = input.expectedChildrenMultiplicity := by
  obtain ⟨-, -, -, -, hcount⟩ := h.positive hfinite
  have hterm : ∀ i, (input.child i).multiplicity = input.childMultiplicity := fun i => (child_fields input i).2.2.2
  rw [suppliedChildren, childrenTotal_range]
  simp only [hterm]
  rw [Finset.sum_const, Finset.card_range, nsmul_eq_mul, BreakupChildInput.childMultiplicity,
    mul_div_cancel₀ _ hcount.ne']

lemma SuppliedSplit.shares (h : SuppliedSplit input) : SharesState input.parent (suppliedChildren input) := by
  obtain ⟨-, hcount, -, -⟩ := BreakupChildInput.admitted hfinite h.refused
  obtain ⟨hchildMass, -, -, -, -⟩ := h.positive hfinite
  refine ⟨?_, ?_, ?_, ?_⟩
  · intro hnil
    have hlength := congrArg length hnil
    simp only [suppliedChildren, length_map, length_range, length_nil] at hlength
    omega
  · intro child hchild
    obtain ⟨i, -, rfl⟩ := mem_map.mp hchild
    exact (child_parent input i).1
  · intro child hchild
    obtain ⟨i, -, rfl⟩ := mem_map.mp hchild
    exact (child_parent input i).2.1
  · have hterm : ∀ child ∈ suppliedChildren input, representedMass child = child.multiplicity * input.childMass := by
      intro child hchild
      obtain ⟨i, -, rfl⟩ := mem_map.mp hchild
      rw [representedMass, (child_fields input i).2.1, mul_comm]
    rw [childrenTotal_congr hterm, childrenTotal_mul, h.multiplicity hfinite,
      BreakupChildInput.expectedChildrenMultiplicity, div_mul_cancel₀ _ hchildMass.ne', representedMass]

lemma SuppliedSplit.run (h : SuppliedSplit input) :
    (FreshChildren input.parent input.acceptedStep input.breakupOrdinal input.parameters.childParcelCount ∧
        generateSuppliedDiameterChildren input = suppliedReport input) ∨
      (¬ FreshChildren input.parent input.acceptedStep input.breakupOrdinal input.parameters.childParcelCount ∧
        generateSuppliedDiameterChildren input = breakupFailure .childIdCollision) := by
  obtain ⟨hparent, hcount, hchild, hdensity⟩ := BreakupChildInput.admitted hfinite h.refused
  obtain ⟨-, -, hdiam, -, hT, -⟩ := (validateParcelState_iff hfinite _).mp hparent
  obtain ⟨hchildMass, htotal, hexp, hmult, -⟩ := h.positive hfinite
  have hgeom := parentGeometryConsistent_of_eq hfinite hdensity hdiam h.sphere
  have hpos : (!finitePositive input.childMass ||
      !finitePositive (input.parent.dropletMass * input.parent.multiplicity) ||
      !finitePositive input.expectedChildrenMultiplicity || !finitePositive input.childMultiplicity) = false := by
    simp only [(finitePositive_iff hfinite _).mpr hchildMass, (finitePositive_iff hfinite _).mpr hexp,
      (finitePositive_iff hfinite _).mpr hmult,
      (finitePositive_iff hfinite (input.parent.dropletMass * input.parent.multiplicity)).mpr htotal,
      Bool.not_true, Bool.or_self]
  have hloop := @childLoop_spec F _ _ _ _ _ input.parameters.childParcelCount _ (h.child_valid hfinite)
    (freshIds_zero input.parent.id _)
  rw [Nat.zero_add] at hloop
  simp only [generateSuppliedDiameterChildren, h.refused, h.requested, hgeom, hpos, Bool.false_eq_true,
    Bool.not_true, if_false]
  obtain ⟨hfresh, hchildren⟩ | ⟨hcoll, hchildren⟩ := hloop
  · refine .inl ⟨hfresh, ?_⟩
    rw [range_zero, map_nil] at hchildren
    rw [hchildren]
    exact auditChildren_passes (h.shares hfinite) hfinite hT.le _ _ _ rfl (h.multiplicity hfinite)
  · refine .inr ⟨hcoll, ?_⟩
    rw [range_zero, map_nil] at hchildren
    rw [hchildren]

lemma SuppliedSplit.conserve (h : SuppliedSplit input)
    (hfresh : FreshChildren input.parent input.acceptedStep input.breakupOrdinal input.parameters.childParcelCount) :
    ChildrenConserve input.parent input.parameters.liquidDensity
      input.parameters.liquidAbsoluteThermochemicalEnthalpy input.parameters.childParcelCount
      (suppliedChildren input) := by
  have hshares := h.shares hfinite
  refine ⟨by simp [suppliedChildren], hshares.mass, hshares.momentum, ?_, ?_, ?_, ?_, FreshIds.nodup hfresh⟩
  · rw [childrenTotal_mul, hshares.mass]
  all_goals
    intro child hchild
    obtain ⟨i, hi, rfl⟩ := mem_map.mp hchild
    rw [mem_range] at hi
  · rw [(child_fields input i).2.1, (child_fields input i).2.2.1, BreakupChildInput.childMass]
  · exact h.child_valid hfinite i (hfresh.identified i hi)
  · exact hfresh.differ i hi

end Supplied

variable (hfinite : ∀ x : F, SprayMath.isFinite x = true) {input : SgsChildInput F}

/-- What a binary split starts from once its guards have passed, with daughters that fill the parent. -/
structure SgsSplit (input : SgsChildInput F) : Prop where
  refused : input.refused = false
  requested : input.trigger.breakupRequested = true
  eventRefused : input.eventRefused = false
  sphere : input.parent.dropletMass = sphereMass input.liquidDensity input.parent.dropletDiameter
  cubes : input.trigger.daughterDiameterRatios.1 ^ 3 + input.trigger.daughterDiameterRatios.2 ^ 3 = 1

def daughterRatio (input : SgsChildInput F) (index : ℕ) : F :=
  if index = 0 then input.trigger.daughterDiameterRatios.1 else input.trigger.daughterDiameterRatios.2

def sgsChildren (input : SgsChildInput F) : List (SprayParcelState F) := (range 2).map input.child

def sgsReport (input : SgsChildInput F) : BreakupChildReport F :=
  { startedReport SgsChildInput.modelId input.trigger.modelId input.parent input.acceptedStep
      input.breakupOrdinal with
    conservation := childrenBudget input.parent input.surfaceTension input.liquidAbsoluteThermochemicalEnthalpy 0
      (2 * input.parent.multiplicity) (sgsChildren input)
    candidate := ⟨true, sgsChildren input⟩
    status := .success }

omit [SprayMath F] [IsStrictOrderedRing F] in
lemma sgsChild_parent (input : SgsChildInput F) (i : ℕ) :
    (input.child i).velocity = input.parent.velocity ∧ (input.child i).temperature = input.parent.temperature ∧
      (input.child i).liquidMaterialFingerprint = input.parent.liquidMaterialFingerprint ∧
      (input.child i).age = input.parent.age ∧ (input.child i).multiplicity = input.parent.multiplicity := by
  rw [SgsChildInput.child]
  exact ⟨rfl, rfl, rfl, rfl, rfl⟩

omit [SprayMath F] [IsStrictOrderedRing F] in
lemma sgsChild_fields (hcubes : input.trigger.daughterDiameterRatios.1 ^ 3 +
      input.trigger.daughterDiameterRatios.2 ^ 3 = 1) (i : ℕ) :
    (input.child i).id = childId input.parent input.acceptedStep input.breakupOrdinal i ∧
      (input.child i).dropletDiameter = input.parent.dropletDiameter * daughterRatio input i ∧
      (input.child i).dropletMass = input.parent.dropletMass * daughterRatio input i ^ 3 := by
  have hmasses : input.masses =
      (input.parent.dropletMass * input.trigger.daughterDiameterRatios.1 ^ 3,
        input.parent.dropletMass * input.trigger.daughterDiameterRatios.2 ^ 3) := by
    simp only [SgsChildInput.masses]
    split_ifs
    · rw [← eq_sub_iff_add_eq'] at hcubes
      rw [hcubes, Prod.mk.injEq]
      constructor <;> ring
    · rw [← eq_sub_iff_add_eq] at hcubes
      rw [hcubes, Prod.mk.injEq]
      constructor <;> ring
  rw [SgsChildInput.child, hmasses, daughterRatio]
  refine ⟨rfl, rfl, ?_⟩
  dsimp only
  split_ifs <;> rfl

include hfinite

omit [IsStrictOrderedRing F] in
lemma SgsSplit.admitted (h : SgsSplit input) : validateParcelState input.parent = true ∧ 0 < input.liquidDensity ∧
    ∀ i, 0 < daughterRatio input i := by
  have hrefused := h.refused
  have hevent := h.eventRefused
  simp only [SgsChildInput.refused, Bool.or_eq_false_iff, Bool.not_eq_false', finitePositive_iff hfinite] at hrefused
  simp only [SgsChildInput.eventRefused, SgsChildInput.validRatio, Bool.or_eq_false_iff, Bool.not_eq_false',
    Bool.and_eq_true, finitePositive_iff hfinite] at hevent
  refine ⟨hrefused.1.1.1.1.2, hrefused.1.1.1.1.1.1.1, fun i => ?_⟩
  unfold daughterRatio
  split_ifs
  · exact hevent.1.1.2.1
  · exact hevent.1.2.1

lemma SgsSplit.child_valid (h : SgsSplit input) (i : ℕ) (hid : validId (input.child i).id = true) :
    validateParcelState (input.child i) = true := by
  obtain ⟨hparent, -, hratio⟩ := h.admitted hfinite
  obtain ⟨-, hmass, hdiam, hmult, -⟩ := (validateParcelState_iff hfinite _).mp hparent
  obtain ⟨-, hchildDiameter, hchildMass⟩ := sgsChild_fields h.cubes i
  obtain ⟨-, htemp, hmat, hage, hsame⟩ := sgsChild_parent input i
  refine validateParcelState_child hfinite hparent htemp hmat hage hid ?_ ?_ ?_
  · rw [hchildMass]
    exact mul_pos hmass (pow_pos (hratio i) 3)
  · rw [hchildDiameter]
    exact mul_pos hdiam (hratio i)
  · rwa [hsame]

omit [IsStrictOrderedRing F] hfinite in
lemma SgsSplit.shares (h : SgsSplit input) : SharesState input.parent (sgsChildren input) := by
  refine ⟨by simp [sgsChildren], ?_, ?_, ?_⟩
  · intro child hchild
    obtain ⟨i, -, rfl⟩ := mem_map.mp hchild
    exact (sgsChild_parent input i).1
  · intro child hchild
    obtain ⟨i, -, rfl⟩ := mem_map.mp hchild
    exact (sgsChild_parent input i).2.1
  · rw [sgsChildren, childrenTotal_range, Finset.sum_range_succ, Finset.sum_range_one, representedMass,
      representedMass, representedMass, (sgsChild_fields h.cubes 0).2.2, (sgsChild_fields h.cubes 1).2.2,
      (sgsChild_parent input 0).2.2.2.2, (sgsChild_parent input 1).2.2.2.2]
    calc
      _ = input.parent.dropletMass * input.parent.multiplicity *
          (daughterRatio input 0 ^ 3 + daughterRatio input 1 ^ 3) := by ring
      _ = _ := by rw [show daughterRatio input 0 ^ 3 + daughterRatio input 1 ^ 3 = 1 from h.cubes, mul_one]

lemma SgsSplit.run (h : SgsSplit input) : (FreshChildren input.parent input.acceptedStep input.breakupOrdinal 2 ∧
        generateSgsChildren input = sgsReport input) ∨
      (¬ FreshChildren input.parent input.acceptedStep input.breakupOrdinal 2 ∧
        generateSgsChildren input = SgsChildInput.fail .childIdCollision) := by
  obtain ⟨hparent, hdensity, -⟩ := h.admitted hfinite
  obtain ⟨-, -, hdiam, -, hT, -⟩ := (validateParcelState_iff hfinite _).mp hparent
  have hgeom := parentGeometryConsistent_of_eq hfinite hdensity hdiam h.sphere
  have hmult : childrenTotal (sgsChildren input) (fun child => child.multiplicity) =
      2 * input.parent.multiplicity := by
    rw [sgsChildren, childrenTotal_range, Finset.sum_range_succ, Finset.sum_range_one,
      (sgsChild_parent input 0).2.2.2.2, (sgsChild_parent input 1).2.2.2.2, two_mul]
  have hloop := @childLoop_spec F _ _ _ _ _ 2 _ (h.child_valid hfinite) (freshIds_zero input.parent.id _)
  rw [Nat.zero_add, range_zero, map_nil] at hloop
  simp only [generateSgsChildren, h.refused, h.requested, h.eventRefused, hgeom, Bool.false_eq_true,
    Bool.not_true, if_false]
  obtain ⟨hfresh, hchildren⟩ | ⟨hcoll, hchildren⟩ := hloop
  · set started : BreakupChildReport F :=
      { startedReport SgsChildInput.modelId input.trigger.modelId input.parent input.acceptedStep
          input.breakupOrdinal with candidate := ⟨false, sgsChildren input⟩ } with hstarted
    have haudit : auditChildren input.parent input.surfaceTension input.liquidAbsoluteThermochemicalEnthalpy 0
        (2 * input.parent.multiplicity) started = sgsReport input :=
      auditChildren_passes h.shares hfinite hT.le _ _ _ rfl hmult
    have hsucceeded : (auditChildren input.parent input.surfaceTension
        input.liquidAbsoluteThermochemicalEnthalpy 0 (2 * input.parent.multiplicity) started).succeeded = true := by
      rw [haudit]
      rfl
    refine .inl ⟨hfresh, ?_⟩
    rw [hchildren]
    exact (if_neg (fun hfail => absurd (hsucceeded.symm.trans (Bool.not_eq_true' _ ▸ hfail)) (by decide))).trans
      haudit
  · refine .inr ⟨hcoll, ?_⟩
    rw [hchildren]

lemma SgsSplit.conserve (h : SgsSplit input)
    (hfresh : FreshChildren input.parent input.acceptedStep input.breakupOrdinal 2) :
    ChildrenConserve input.parent input.liquidDensity input.liquidAbsoluteThermochemicalEnthalpy 2
      (sgsChildren input) := by
  have hids : ∀ i, (input.child i).id = childId input.parent input.acceptedStep input.breakupOrdinal i :=
    fun i => (sgsChild_fields h.cubes i).1
  refine ⟨by simp [sgsChildren], h.shares.mass, h.shares.momentum, ?_, ?_, ?_, ?_, ?_⟩
  · rw [childrenTotal_mul, h.shares.mass]
  · intro child hchild
    obtain ⟨i, -, rfl⟩ := mem_map.mp hchild
    rw [(sgsChild_fields h.cubes i).2.1, (sgsChild_fields h.cubes i).2.2, h.sphere, sphereMass, sphereMass]
    ring
  · intro child hchild
    obtain ⟨i, hi, rfl⟩ := mem_map.mp hchild
    refine h.child_valid hfinite i ?_
    rw [hids]
    exact hfresh.identified i (mem_range.mp hi)
  · intro child hchild
    obtain ⟨i, hi, rfl⟩ := mem_map.mp hchild
    rw [hids]
    exact hfresh.differ i (mem_range.mp hi)
  · have hmade : FreshIds input.parent.id (fun i => (input.child i).id) 2 := by
      simpa only [hids] using hfresh
    exact hmade.nodup

end HundunFlow.Proofs
