import HundunFlow.Proofs.BreakupChildren
import Mathlib.Analysis.SpecialFunctions.Pow.Real

/-!
# The oscillator's energy

The pairs of an oscillator split fly apart across the axis.
-/

namespace HundunFlow.Proofs

open List

variable {F : Type} [Field F]

def side (index : ℕ) : F := if index % 2 = 1 then -1 else 1

lemma side_mul_self (index : ℕ) : side index * side index = (1 : F) := by
  unfold side
  split_ifs <;> ring

lemma sum_side (pairs : ℕ) : ∑ i ∈ Finset.range (2 * pairs), side i = (0 : F) := by
  induction pairs with
  | zero => rfl
  | succ pairs ih =>
    have heven : side (2 * pairs) = (1 : F) := if_neg (by omega)
    have hodd : side (2 * pairs + 1) = (-1 : F) := if_pos (by omega)
    rw [Nat.mul_succ, Finset.sum_range_succ, Finset.sum_range_succ, ih, heven, hodd]
    ring

lemma sum_alternating {count : ℕ} (hcount : count % 2 = 0) (weight common part : F) :
    ∑ i ∈ Finset.range count, weight * (common + side i * part) = count * weight * common := by
  obtain ⟨pairs, rfl⟩ : ∃ pairs, count = 2 * pairs := ⟨count / 2, by omega⟩
  have hsplit : ∀ i, weight * (common + side i * part) = weight * common + side i * (weight * part) :=
    fun i => by ring
  simp only [hsplit]
  rw [Finset.sum_add_distrib, Finset.sum_const, Finset.card_range, ← Finset.sum_mul, sum_side, zero_mul, add_zero,
    nsmul_eq_mul, mul_assoc]

variable [LinearOrder F] [IsStrictOrderedRing F] [SprayMath F]

section Direction

variable (hsqrt : ∀ x : F, 0 ≤ x → SprayMath.sqrt x * SprayMath.sqrt x = x)

include hsqrt

omit [IsStrictOrderedRing F] in
lemma dot_normalized {v : Vector3 F} (h : 0 < dot v v) : dot (normalized v) (normalized v) = 1 := by
  have hlength : SprayMath.sqrt (dot v v) * SprayMath.sqrt (dot v v) = dot v v := hsqrt _ h.le
  have hnonzero : SprayMath.sqrt (dot v v) ≠ 0 := by
    intro hzero
    rw [hzero, mul_zero] at hlength
    exact h.ne hlength
  calc dot (normalized v) (normalized v)
      = dot v v / (SprayMath.sqrt (dot v v) * SprayMath.sqrt (dot v v)) := by
        change v.x / SprayMath.sqrt (dot v v) * (v.x / SprayMath.sqrt (dot v v)) +
          v.y / SprayMath.sqrt (dot v v) * (v.y / SprayMath.sqrt (dot v v)) +
          v.z / SprayMath.sqrt (dot v v) * (v.z / SprayMath.sqrt (dot v v)) = _
        rw [dot]
        field_simp
    _ = 1 := by rw [hlength, div_self h.ne']

lemma dot_normal {input : TabRepresentativeSplitInput F} (h : 0 < dot input.breakupAxis input.breakupAxis) :
    dot input.normal input.normal = 1 := by
  have haxis := dot_normalized hsqrt h
  unfold TabRepresentativeSplitInput.normal
  refine dot_normalized hsqrt ?_
  set axis := normalized input.breakupAxis
  rw [dot] at haxis
  split_ifs with hx
  · have hbound : axis.x * axis.x < 1 := by
      have := abs_lt.mp hx
      nlinarith
    simp only [dot, cross]
    nlinarith
  · have hbound : 16 / 25 ≤ axis.x * axis.x := by
      rw [← abs_mul_abs_self]
      have := not_lt.mp hx
      nlinarith [abs_nonneg axis.x]
    simp only [dot, cross]
    nlinarith [mul_self_nonneg axis.z]

end Direction

/-- What an oscillator split starts from once its guards have passed. -/
structure TabSplit (input : TabRepresentativeSplitInput F) : Prop where
  refused : input.refused = false
  parent : validateParcelState input.parent = true
  sphere : input.parent.dropletMass = sphereMass input.liquidDensity input.parent.dropletDiameter

section Split

variable (hfinite : ∀ x : F, SprayMath.isFinite x = true) {input : TabRepresentativeSplitInput F}

def dispersedChild (input : TabRepresentativeSplitInput F) (index : ℕ) : SprayParcelState F :=
  input.disperse index (input.supplied.child index)

def dispersedChildren (input : TabRepresentativeSplitInput F) : List (SprayParcelState F) :=
  (range input.childParcelCount).map (dispersedChild input)

omit [IsStrictOrderedRing F] in
lemma mapIdx_suppliedChildren (input : TabRepresentativeSplitInput F) :
    (suppliedChildren input.supplied).mapIdx input.disperse = dispersedChildren input := by
  refine ext_getElem (by simp [suppliedChildren, dispersedChildren, TabRepresentativeSplitInput.supplied])
    fun i hi hi' => ?_
  simp [suppliedChildren, dispersedChildren, dispersedChild]

omit [IsStrictOrderedRing F] in
include hfinite in
lemma TabSplit.admitted (h : TabSplit input) : validTabTrigger input.tabTrigger = true ∧
    input.tabTrigger.breakupRequested = true ∧ 2 ≤ input.childParcelCount ∧ input.childParcelCount % 2 = 0 ∧
      input.childParcelCount ≤ kMaximumBreakupChildParcels ∧ 0 < input.liquidDensity ∧ 0 < input.surfaceTension ∧
      0 < input.radius ∧ 0 < input.axisLength := by
  have hrefused := h.refused
  simp only [TabRepresentativeSplitInput.refused, Bool.or_eq_false_iff, Bool.not_eq_false', decide_eq_false_iff_not,
    not_lt, ne_eq, not_not, finitePositive_iff hfinite] at hrefused
  obtain ⟨⟨⟨⟨⟨⟨⟨⟨⟨⟨⟨htrigger, hreq⟩, hcount⟩, heven⟩, hmaximum⟩, hdensity⟩, htension⟩, -⟩, hradius⟩, -⟩, -⟩,
    haxis⟩ := hrefused
  exact ⟨htrigger, hreq, hcount, heven, hmaximum, hdensity, htension, hradius, haxis⟩

include hfinite

lemma TabSplit.inverseSizeRatio_gt_one (h : TabSplit input) : 1 < input.inverseSizeRatio := by
  obtain ⟨-, -, -, -, -, hdensity, htension, hradius, -⟩ := h.admitted hfinite
  have hgrowth : 0 ≤ input.liquidDensity * input.radius * input.radius * input.radius * input.rate * input.rate /
      (8 * input.surfaceTension) := by
    rw [mul_assoc _ input.rate]
    have := mul_self_nonneg input.rate
    positivity
  unfold TabRepresentativeSplitInput.inverseSizeRatio
  linarith

lemma TabSplit.energyPerDrop_nonneg (h : TabSplit input) : 0 ≤ input.energyPerDrop := by
  obtain ⟨-, -, -, -, -, hdensity, htension, hradius, -⟩ := h.admitted hfinite
  have hpi := kPi_pos (F := F)
  have hrate := mul_self_nonneg input.rate
  unfold TabRepresentativeSplitInput.energyPerDrop TabRepresentativeSplitInput.stiffness
  positivity

lemma TabSplit.supplied (h : TabSplit input) : SuppliedSplit input.supplied := by
  obtain ⟨htrigger, hreq, hcount, -, hmaximum, hdensity, htension, hradius, -⟩ := h.admitted hfinite
  have hratio := h.inverseSizeRatio_gt_one hfinite
  refine ⟨?_, hreq, h.sphere⟩
  have hdiam : 0 < 2 * input.radius / input.inverseSizeRatio := by
    have := zero_lt_one.trans hratio
    positivity
  have hsmaller : 2 * input.radius / input.inverseSizeRatio < input.parent.dropletDiameter := by
    rw [div_lt_iff₀ (zero_lt_one.trans hratio)]
    have hradiusEq : 2 * input.radius = input.parent.dropletDiameter := by
      rw [TabRepresentativeSplitInput.radius]
      ring
    rw [hradiusEq]
    exact lt_mul_of_one_lt_right (by linarith) hratio
  simp only [BreakupChildInput.refused, TabRepresentativeSplitInput.supplied, h.parent, htrigger,
    (finitePositive_iff hfinite _).mpr hdiam, (finitePositive_iff hfinite _).mpr hdensity, hsmaller,
    (finiteNonNegative_iff hfinite _).mpr htension.le,
    (finiteNonNegative_iff hfinite _).mpr (h.energyPerDrop_nonneg hfinite), hfinite, decide_true, Bool.not_true,
    Bool.false_or, Bool.or_false, Bool.or_eq_false_iff]
  exact ⟨⟨⟨decide_eq_false (not_lt.mpr hcount), rfl⟩, rfl⟩, decide_eq_false (not_lt.mpr hmaximum)⟩

omit [IsStrictOrderedRing F] hfinite in
lemma dispersedChild_fields (input : TabRepresentativeSplitInput F) (i : ℕ) :
    (dispersedChild input i).id = childId input.parent input.acceptedStep input.breakupOrdinal i ∧
      (dispersedChild input i).dropletMass = input.supplied.childMass ∧
      (dispersedChild input i).dropletDiameter = 2 * input.radius / input.inverseSizeRatio ∧
      (dispersedChild input i).multiplicity = input.supplied.childMultiplicity ∧
      (dispersedChild input i).temperature = input.parent.temperature ∧
      (dispersedChild input i).liquidMaterialFingerprint = input.parent.liquidMaterialFingerprint ∧
      (dispersedChild input i).age = input.parent.age := by
  obtain ⟨hid, hmass, hdiam, hmult⟩ := child_fields input.supplied i
  obtain ⟨-, htemp, hmat, hage⟩ := child_parent input.supplied i
  rw [dispersedChild, TabRepresentativeSplitInput.disperse]
  exact ⟨hid, hmass, hdiam, hmult, htemp, hmat, hage⟩

omit [IsStrictOrderedRing F] hfinite in
lemma dispersedChild_velocity (input : TabRepresentativeSplitInput F) (i : ℕ) : (dispersedChild input i).velocity =
      ⟨input.parent.velocity.x + side i * (input.transverseSpeed * input.normal.x),
        input.parent.velocity.y + side i * (input.transverseSpeed * input.normal.y),
        input.parent.velocity.z + side i * (input.transverseSpeed * input.normal.z)⟩ := by
  obtain ⟨hvelocity, -⟩ := child_parent input.supplied i
  rw [dispersedChild, TabRepresentativeSplitInput.disperse, Vector3.combine, hvelocity]
  simp only [← mul_assoc]
  rfl

lemma TabSplit.child_valid (h : TabSplit input) (i : ℕ) (hid : validId (dispersedChild input i).id = true) :
    validateParcelState (dispersedChild input i) = true := by
  obtain ⟨-, -, hchild, -⟩ := BreakupChildInput.admitted hfinite (h.supplied hfinite).refused
  obtain ⟨hmass, -, -, hmult, -⟩ := (h.supplied hfinite).positive hfinite
  obtain ⟨-, hchildMass, hchildDiameter, hchildMultiplicity, htemp, hmat, hage⟩ :=
    dispersedChild_fields input i
  refine validateParcelState_child hfinite h.parent htemp hmat hage hid ?_ ?_ ?_
  · rwa [hchildMass]
  · rw [hchildDiameter]
    exact hchild
  · rwa [hchildMultiplicity]

lemma TabSplit.share (h : TabSplit input) :
    input.childParcelCount * (input.supplied.childMass * input.supplied.childMultiplicity) =
      representedMass input.parent := by
  obtain ⟨hmass, -, -, -, hcount⟩ := (h.supplied hfinite).positive hfinite
  have hcast : (input.childParcelCount : F) ≠ 0 := hcount.ne'
  have hmult : input.supplied.childMultiplicity =
      representedMass input.parent / input.supplied.childMass / input.childParcelCount := by
    rw [BreakupChildInput.childMultiplicity, BreakupChildInput.expectedChildrenMultiplicity, representedMass]
    rfl
  rw [hmult]
  field_simp [hmass.ne']

omit [IsStrictOrderedRing F] hfinite in
lemma representedMass_dispersedChild (i : ℕ) :
    representedMass (dispersedChild input i) = input.supplied.childMass * input.supplied.childMultiplicity := by
  rw [representedMass, (dispersedChild_fields input i).2.1, (dispersedChild_fields input i).2.2.2.1]

lemma TabSplit.momentum (h : TabSplit input) : childrenMomentum (dispersedChildren input) = parentMomentum input.parent := by
  obtain ⟨-, -, -, heven, -⟩ := h.admitted hfinite
  have hshare := h.share hfinite
  simp only [childrenMomentum, parentMomentum, dispersedChildren, childrenTotal_range, representedMass_dispersedChild,
    dispersedChild_velocity, sum_alternating heven, hshare]

lemma TabSplit.mass (h : TabSplit input) :
    childrenTotal (dispersedChildren input) representedMass = representedMass input.parent := by
  rw [dispersedChildren, childrenTotal_range]
  simp only [representedMass_dispersedChild]
  rw [Finset.sum_const, Finset.card_range, nsmul_eq_mul, h.share hfinite]

lemma TabSplit.kinetic (h : TabSplit input) (hnormal : dot input.normal input.normal = 1) :
    childrenKinetic (dispersedChildren input) =
      1 / 2 * representedMass input.parent * dot input.parent.velocity input.parent.velocity +
        1 / 2 * representedMass input.parent * input.transverseSpeed * input.transverseSpeed := by
  obtain ⟨-, -, -, heven, -⟩ := h.admitted hfinite
  have hterm : ∀ i, 1 / 2 * representedMass (dispersedChild input i) *
      dot (dispersedChild input i).velocity (dispersedChild input i).velocity =
      1 / 2 * (input.supplied.childMass * input.supplied.childMultiplicity) *
        (dot input.parent.velocity input.parent.velocity + input.transverseSpeed * input.transverseSpeed +
          side i * (2 * input.transverseSpeed * dot input.parent.velocity input.normal)) := by
    intro i
    have hspeed : input.transverseSpeed * input.transverseSpeed =
        side i * side i * (input.transverseSpeed * input.transverseSpeed) * dot input.normal input.normal := by
      rw [side_mul_self, hnormal]
      ring
    rw [representedMass_dispersedChild, dispersedChild_velocity, hspeed]
    simp only [dot]
    ring
  rw [childrenKinetic, dispersedChildren, childrenTotal_range]
  simp only [hterm, sum_alternating heven]
  rw [← h.share hfinite]
  ring

lemma TabSplit.surface (h : TabSplit input) : childrenSurface input.surfaceTension (dispersedChildren input) =
      input.parent.multiplicity * input.surfaceTension * kPi * (4 * input.radius ^ 2 * input.inverseSizeRatio) := by
  obtain ⟨-, -, -, -, -, hdensity, -, hradius, -⟩ := h.admitted hfinite
  have hratio := zero_lt_one.trans (h.inverseSizeRatio_gt_one hfinite)
  obtain ⟨hmass, -, -, -, hcount⟩ := (h.supplied hfinite).positive hfinite
  have hcast : (input.childParcelCount : F) ≠ 0 := hcount.ne'
  have hpi := kPi_pos (F := F)
  have hchildMass : input.supplied.childMass =
      sphereMass input.liquidDensity (2 * input.radius / input.inverseSizeRatio) := by
    rw [BreakupChildInput.childMass]
    rfl
  have hdiam : input.parent.dropletDiameter = 2 * input.radius := by
    rw [TabRepresentativeSplitInput.radius]
    ring
  have hdroplets : input.childParcelCount * input.supplied.childMultiplicity =
      input.parent.multiplicity * input.inverseSizeRatio ^ 3 := by
    have hshare := h.share hfinite
    rw [representedMass, h.sphere, hdiam, hchildMass, sphereMass, sphereMass] at hshare
    field_simp at hshare
    linear_combination hshare
  have hterm : ∀ i, (dispersedChild input i).multiplicity * input.surfaceTension * kPi *
      (dispersedChild input i).dropletDiameter * (dispersedChild input i).dropletDiameter =
      input.supplied.childMultiplicity * (input.surfaceTension * kPi *
        (2 * input.radius / input.inverseSizeRatio) * (2 * input.radius / input.inverseSizeRatio)) := by
    intro i
    rw [(dispersedChild_fields input i).2.2.1, (dispersedChild_fields input i).2.2.2.1]
    ring
  rw [childrenSurface, dispersedChildren, childrenTotal_range]
  simp only [hterm]
  rw [Finset.sum_const, Finset.card_range, nsmul_eq_mul, ← mul_assoc, hdroplets]
  field_simp
  ring

def surfaceEnergy (surfaceTension : F) (parcel : SprayParcelState F) : F :=
  parcel.multiplicity * surfaceTension * kPi * parcel.dropletDiameter * parcel.dropletDiameter

lemma TabSplit.energy (h : TabSplit input) :
    childrenSurface input.surfaceTension (dispersedChildren input) - surfaceEnergy input.surfaceTension input.parent +
        1 / 2 * representedMass input.parent * input.transverseSpeed * input.transverseSpeed =
      input.energyPerDrop * input.parent.multiplicity := by
  obtain ⟨-, -, -, -, -, hdensity, htension, hradius, -⟩ := h.admitted hfinite
  have hdiam : input.parent.dropletDiameter = 2 * input.radius := by
    rw [TabRepresentativeSplitInput.radius]
    ring
  rw [h.surface hfinite, surfaceEnergy, representedMass, h.sphere, hdiam, sphereMass,
    TabRepresentativeSplitInput.inverseSizeRatio, TabRepresentativeSplitInput.transverseSpeed,
    TabRepresentativeSplitInput.energyPerDrop, TabRepresentativeSplitInput.stiffness]
  field_simp
  ring

omit [IsStrictOrderedRing F] hfinite in
lemma childrenSurface_supplied (input : TabRepresentativeSplitInput F) :
    childrenSurface input.surfaceTension (suppliedChildren input.supplied) =
      childrenSurface input.surfaceTension (dispersedChildren input) := by
  rw [childrenSurface, childrenSurface, suppliedChildren, dispersedChildren, childrenTotal_range, childrenTotal_range]
  refine Finset.sum_congr rfl fun i _ => ?_
  rw [(child_fields input.supplied i).2.2.1, (child_fields input.supplied i).2.2.2,
    (dispersedChild_fields input i).2.2.1, (dispersedChild_fields input i).2.2.2.1]
  rfl

/-- Surface and transverse motion use up the deformation energy exactly. -/
structure TabBalanced (input : TabRepresentativeSplitInput F) (report : TabRepresentativeSplitReport F) : Prop where
  closed : report.split.conservation.surfaceEnergyIncrease + report.transverseKineticEnergy = report.deformationEnergy
  residual : report.totalEnergyResidual = 0
  surface : report.split.conservation.surfaceEnergyIncrease =
    childrenSurface input.surfaceTension report.split.candidate.children -
      surfaceEnergy input.surfaceTension input.parent
  transverse : report.transverseKineticEnergy = childrenKinetic report.split.candidate.children -
    1 / 2 * representedMass input.parent * dot input.parent.velocity input.parent.velocity
  deformation : report.deformationEnergy = input.energyPerDrop * input.parent.multiplicity

lemma TabSplit.conserve (h : TabSplit input)
    (hfresh : FreshChildren input.parent input.acceptedStep input.breakupOrdinal input.childParcelCount) :
    ChildrenConserve input.parent input.liquidDensity input.liquidAbsoluteThermochemicalEnthalpy
      input.childParcelCount (dispersedChildren input) := by
  have hids : ∀ i, (dispersedChild input i).id = childId input.parent input.acceptedStep input.breakupOrdinal i :=
    fun i => (dispersedChild_fields input i).1
  refine ⟨by simp [dispersedChildren], h.mass hfinite, h.momentum hfinite, ?_, ?_, ?_, ?_, ?_⟩
  · rw [childrenTotal_mul, h.mass hfinite]
  · intro child hchild
    obtain ⟨i, -, rfl⟩ := mem_map.mp hchild
    rw [(dispersedChild_fields input i).2.1, (dispersedChild_fields input i).2.2.1, BreakupChildInput.childMass]
    rfl
  · intro child hchild
    obtain ⟨i, hi, rfl⟩ := mem_map.mp hchild
    refine h.child_valid hfinite i ?_
    rw [hids]
    exact hfresh.identified i (mem_range.mp hi)
  · intro child hchild
    obtain ⟨i, hi, rfl⟩ := mem_map.mp hchild
    rw [hids]
    exact hfresh.differ i (mem_range.mp hi)
  · have hmade : FreshIds input.parent.id (fun i => (dispersedChild input i).id) input.childParcelCount := by
      simpa only [hids] using hfresh
    exact hmade.nodup

def tabBudget (input : TabRepresentativeSplitInput F) : BreakupConservationReport F :=
  dispersedBudget (suppliedReport input.supplied).conservation (dispersedChildren input)

lemma TabSplit.budget_momentum (h : TabSplit input) : momentumWithinTolerance (tabBudget input) = true := by
  refine momentumWithinTolerance_of_eq ?_
  have hres : (tabBudget input).momentumResidual =
      (childrenMomentum (dispersedChildren input)).combine (· - ·) (parentMomentum input.parent) := rfl
  rw [hres, h.momentum hfinite]
  simp [Vector3.combine]

lemma TabSplit.budget_energy (h : TabSplit input) : (tabBudget input).surfaceEnergyIncrease +
    1 / 2 * (tabBudget input).parentTotalMass * input.transverseSpeed * input.transverseSpeed -
      (tabBudget input).suppliedDeformationEnergy = 0 := by
  have hincr : (tabBudget input).surfaceEnergyIncrease =
      childrenSurface input.surfaceTension (suppliedChildren input.supplied) -
        surfaceEnergy input.surfaceTension input.parent := rfl
  have hsupp : (tabBudget input).suppliedDeformationEnergy = input.energyPerDrop * input.parent.multiplicity := rfl
  have hmass : (tabBudget input).parentTotalMass = representedMass input.parent := rfl
  rw [hincr, hsupp, hmass, childrenSurface_supplied, h.energy hfinite, sub_self]

lemma TabSplit.budget_kinetic (h : TabSplit input) (hnormal : dot input.normal input.normal = 1) :
    (tabBudget input).bulkKineticEnergyResidual -
      1 / 2 * (tabBudget input).parentTotalMass * input.transverseSpeed * input.transverseSpeed = 0 := by
  have hres : (tabBudget input).bulkKineticEnergyResidual = childrenKinetic (dispersedChildren input) -
      1 / 2 * representedMass input.parent * dot input.parent.velocity input.parent.velocity := rfl
  have hmass : (tabBudget input).parentTotalMass = representedMass input.parent := rfl
  rw [hres, hmass, h.kinetic hfinite hnormal]
  ring

def tabReport (input : TabRepresentativeSplitInput F) : TabRepresentativeSplitReport F :=
  let dispersion := 1 / 2 * (tabBudget input).parentTotalMass * input.transverseSpeed * input.transverseSpeed
  let residual := (tabBudget input).surfaceEnergyIncrease + dispersion - (tabBudget input).suppliedDeformationEnergy
  { (default : TabRepresentativeSplitReport F) with
    status := .success
    representativeDiameter := input.supplied.parameters.suppliedUniformChildDiameter
    transverseSpeed := |input.transverseSpeed|
    deformationEnergy := (tabBudget input).suppliedDeformationEnergy
    transverseKineticEnergy := dispersion
    totalEnergyResidual := residual
    split :=
      { suppliedReport input.supplied with
        modelId := (default : TabRepresentativeSplitReport F).modelId
        candidate := ⟨true, dispersedChildren input⟩
        conservation :=
          { tabBudget input with unassignedDeformationEnergy := -residual, energyDisposition := .balanced } } }

lemma TabSplit.axis_pos (h : TabSplit input) (hsqrt : ∀ x : F, 0 ≤ x → SprayMath.sqrt x * SprayMath.sqrt x = x) :
    0 < dot input.breakupAxis input.breakupAxis := by
  obtain ⟨-, -, -, -, -, -, -, -, haxis⟩ := h.admitted hfinite
  have hnonneg : 0 ≤ dot input.breakupAxis input.breakupAxis := by
    have hx := mul_self_nonneg input.breakupAxis.x
    have hy := mul_self_nonneg input.breakupAxis.y
    have hz := mul_self_nonneg input.breakupAxis.z
    simp only [dot]
    linarith
  have hsquare : input.axisLength * input.axisLength = dot input.breakupAxis input.breakupAxis := hsqrt _ hnonneg
  rw [← hsquare]
  exact mul_pos haxis haxis

lemma TabSplit.run (h : TabSplit input) (hsqrt : ∀ x : F, 0 ≤ x → SprayMath.sqrt x * SprayMath.sqrt x = x) :
    (FreshChildren input.parent input.acceptedStep input.breakupOrdinal input.childParcelCount ∧
        generateTabRepresentativeChildren input = tabReport input) ∨
      (¬ FreshChildren input.parent input.acceptedStep input.breakupOrdinal input.childParcelCount ∧
        (generateTabRepresentativeChildren input).status = .childIdCollision) := by
  have hnormal := dot_normal hsqrt (h.axis_pos hfinite hsqrt)
  obtain ⟨-, -, henergy, -⟩ := tolerances_nonneg (F := F)
  obtain ⟨hfresh, hsupp⟩ | ⟨hcoll, hsupp⟩ := (h.supplied hfinite).run hfinite
  · refine .inl ⟨hfresh, ?_⟩
    have hall : (dispersedChildren input).all validateParcelState = true :=
      all_eq_true.mpr (h.conserve hfinite hfresh).valid
    have hmapped : (suppliedReport input.supplied).candidate.children.mapIdx input.disperse = dispersedChildren input :=
      mapIdx_suppliedChildren input
    have hsucceeded : (suppliedReport input.supplied).succeeded = true := rfl
    have hbudget : dispersedBudget (suppliedReport input.supplied).conservation (dispersedChildren input) =
        tabBudget input := rfl
    simp only [generateTabRepresentativeChildren, h.refused, hsupp, hsucceeded, hmapped, hall, hbudget,
      h.budget_momentum hfinite, hfinite, withinTolerance_of_eq_zero (h.budget_energy hfinite) henergy,
      withinTolerance_of_eq_zero (h.budget_kinetic hfinite hnormal) henergy, Bool.false_eq_true, Bool.not_true,
      Bool.or_self, if_false]
    rfl
  · refine .inr ⟨hcoll, ?_⟩
    simp only [generateTabRepresentativeChildren, h.refused, hsupp, Bool.false_eq_true, if_false]
    rfl

lemma TabSplit.balanced (h : TabSplit input) (hsqrt : ∀ x : F, 0 ≤ x → SprayMath.sqrt x * SprayMath.sqrt x = x) :
    TabBalanced input (tabReport input) where
  closed := sub_eq_zero.mp (h.budget_energy hfinite)
  residual := h.budget_energy hfinite
  surface := by
    have hincr : (tabReport input).split.conservation.surfaceEnergyIncrease =
        childrenSurface input.surfaceTension (suppliedChildren input.supplied) -
          surfaceEnergy input.surfaceTension input.parent := rfl
    rw [hincr, childrenSurface_supplied]
    rfl
  transverse := by
    have hkinetic := h.budget_kinetic hfinite (dot_normal hsqrt (h.axis_pos hfinite hsqrt))
    exact (sub_eq_zero.mp hkinetic).symm
  deformation := rfl

end Split

noncomputable instance exactReals : SprayMath ℝ := ⟨fun _ => true, Real.sqrt, Real.cos, Real.sin⟩

/-- In exact real arithmetic a parent whose mass is that of its sphere, with anything the guards admit,
either has colliding identities or is split: the audit passes, the children carry its mass, momentum and
enthalpy, and an oscillator split uses up the deformation energy. -/
theorem breakup_conserves : (∀ input : BreakupChildInput ℝ, SuppliedSplit input →
      let report := generateSuppliedDiameterChildren input
      let count := input.parameters.childParcelCount
      (FreshChildren input.parent input.acceptedStep input.breakupOrdinal count ∧ report.succeeded = true ∧
          ChildrenConserve input.parent input.parameters.liquidDensity
            input.parameters.liquidAbsoluteThermochemicalEnthalpy count report.candidate.children) ∨
        (¬ FreshChildren input.parent input.acceptedStep input.breakupOrdinal count ∧
          report.status = .childIdCollision)) ∧
    (∀ input : SgsChildInput ℝ, SgsSplit input →
      let report := generateSgsChildren input
      (FreshChildren input.parent input.acceptedStep input.breakupOrdinal 2 ∧ report.succeeded = true ∧
          ChildrenConserve input.parent input.liquidDensity input.liquidAbsoluteThermochemicalEnthalpy 2
            report.candidate.children) ∨
        (¬ FreshChildren input.parent input.acceptedStep input.breakupOrdinal 2 ∧
          report.status = .childIdCollision)) ∧
    ∀ input : TabRepresentativeSplitInput ℝ, TabSplit input →
      let report := generateTabRepresentativeChildren input
      (FreshChildren input.parent input.acceptedStep input.breakupOrdinal input.childParcelCount ∧
          report.succeeded = true ∧
          ChildrenConserve input.parent input.liquidDensity input.liquidAbsoluteThermochemicalEnthalpy
            input.childParcelCount report.split.candidate.children ∧
          TabBalanced input report) ∨
        (¬ FreshChildren input.parent input.acceptedStep input.breakupOrdinal input.childParcelCount ∧
          report.status = .childIdCollision) := by
  have hfinite : ∀ x : ℝ, SprayMath.isFinite x = true := fun _ => rfl
  have hsqrt : ∀ x : ℝ, 0 ≤ x → SprayMath.sqrt x * SprayMath.sqrt x = x := fun _ hx => Real.mul_self_sqrt hx
  refine ⟨fun input h => ?_, fun input h => ?_, fun input h => ?_⟩
  · obtain ⟨hfresh, hreport⟩ | ⟨hcollision, hreport⟩ := h.run hfinite
    · refine .inl ⟨hfresh, ?_⟩
      rw [hreport]
      exact ⟨rfl, h.conserve hfinite hfresh⟩
    · refine .inr ⟨hcollision, ?_⟩
      rw [hreport]
      rfl
  · obtain ⟨hfresh, hreport⟩ | ⟨hcollision, hreport⟩ := h.run hfinite
    · refine .inl ⟨hfresh, ?_⟩
      rw [hreport]
      exact ⟨rfl, h.conserve hfinite hfresh⟩
    · refine .inr ⟨hcollision, ?_⟩
      rw [hreport]
      rfl
  · obtain ⟨hfresh, hreport⟩ | hcollision := h.run hfinite hsqrt
    · refine .inl ⟨hfresh, ?_⟩
      rw [hreport]
      exact ⟨rfl, h.conserve hfinite hfresh, h.balanced hfinite hsqrt⟩
    · exact .inr hcollision

noncomputable def sampleParent : SprayParcelState ℝ :=
  ⟨⟨1, 2⟩, ⟨0, 0, 0⟩, ⟨3, 0, 0⟩, kPi, 1, 1, 300, 1, 0, 0⟩

noncomputable def sampleTrigger : TabBreakupReport ℝ :=
  ⟨.success, "tab_linear_oscillator_v1", 0, 0, 32 / 3, true, 0, 0, ⟨true, 1, 1⟩⟩

noncomputable def sampleSupplied : BreakupChildInput ℝ :=
  ⟨sampleParent, sampleTrigger, 7, 0, ⟨2, 4, 1 / 2, 6, 1, 0, 0⟩⟩

/-- Two daughters of half the volume. -/
noncomputable def sampleSgs : SgsChildInput ℝ where
  parent := sampleParent
  trigger :=
    { succeeded := true, modelId := "deterministic_sgs_martinez_bazan_20_v1"
      candidate := ⟨0, 0, 1, 1, 1⟩
      rateActive := true, breakupRequested := true, weberNumber := 0, criticalDiameter := 0, kolmogorovLength := 0
      deterministicRate := 0, stochasticRate := 0, minimumDiameterRatio := 0, maximumDiameterRatio := 0
      distributionLambda := 0
      daughterDiameterRatios := ((1 / 2) ^ ((3 : ℕ)⁻¹ : ℝ), (1 / 2) ^ ((3 : ℕ)⁻¹ : ℝ)) }
  acceptedStep := 7
  breakupOrdinal := 0
  liquidDensity := 6
  surfaceTension := 1
  liquidAbsoluteThermochemicalEnthalpy := 0

noncomputable def sampleTab : TabRepresentativeSplitInput ℝ :=
  ⟨sampleParent, sampleTrigger, 7, 0, 2, 6, 1, 0, ⟨1, 0, 0⟩⟩

lemma sampleParent_valid : validateParcelState sampleParent = true := by
  refine (validateParcelState_iff (fun _ => rfl) _).mpr ⟨by decide, kPi_pos, ?_, ?_, ?_, by decide, le_rfl⟩
  all_goals
    simp only [sampleParent]
    norm_num

lemma sampleParent_sphere : sampleParent.dropletMass = sphereMass 6 sampleParent.dropletDiameter := by
  simp only [sampleParent, sphereMass]
  ring

lemma sampleParent_fresh : FreshChildren sampleParent 7 0 2 :=
  ⟨by decide +kernel, by decide +kernel, by decide +kernel⟩

lemma sampleTrigger_valid : validTabTrigger sampleTrigger = true := by
  simp only [validTabTrigger, sampleTrigger, finiteNonNegative, SprayMath.isFinite]
  norm_num

lemma sampleSupplied_split : SuppliedSplit sampleSupplied := by
  refine ⟨?_, rfl, sampleParent_sphere⟩
  have hdiam : sampleParent.dropletDiameter = 1 := rfl
  simp only [BreakupChildInput.refused, sampleSupplied, sampleParent_valid, sampleTrigger_valid, hdiam,
    finitePositive, finiteNonNegative, SprayReal.isFinite, SprayReal.lt, SprayReal.zero, SprayMath.isFinite,
    kMaximumBreakupChildParcels]
  norm_num

lemma sampleRatio : ((1 / 2 : ℝ) ^ ((3 : ℕ)⁻¹ : ℝ)) ^ 3 = 1 / 2 ∧ 0 < (1 / 2 : ℝ) ^ ((3 : ℕ)⁻¹ : ℝ) ∧
    (1 / 2 : ℝ) ^ ((3 : ℕ)⁻¹ : ℝ) ≤ 1 :=
  ⟨Real.rpow_inv_natCast_pow (by norm_num) (by norm_num), Real.rpow_pos_of_pos (by norm_num) _,
    Real.rpow_le_one (by norm_num) (by norm_num) (by positivity)⟩

lemma sampleSgs_split : SgsSplit sampleSgs := by
  obtain ⟨hcube, hpos, hle⟩ := sampleRatio
  refine ⟨?_, rfl, ?_, sampleParent_sphere, ?_⟩
  · have hzero : finiteNonNegative (0 : ℝ) = true := (finiteNonNegative_iff (fun _ => rfl) _).mpr le_rfl
    have hone : finiteNonNegative (1 : ℝ) = true := (finiteNonNegative_iff (fun _ => rfl) _).mpr zero_le_one
    simp only [SgsChildInput.refused, sampleSgs, sampleParent_valid, finitePositive, all_cons, all_nil,
      hzero, hone, SprayReal.isFinite, SprayReal.lt, SprayReal.zero, SprayMath.isFinite]
    norm_num
    decide
  · have hvolume : ∀ ratio : ℝ, ratio ^ 3 = 1 / 2 →
        ratio * ratio * ratio + ratio * ratio * ratio - 1 = 0 := fun ratio h => by linear_combination 2 * h
    simp only [SgsChildInput.eventRefused, SgsChildInput.validRatio, sampleSgs, hvolume _ hcube, finitePositive,
      SprayReal.isFinite, SprayReal.lt, SprayReal.zero, SprayMath.isFinite, hpos, not_lt.mpr hle, abs_zero]
    norm_num [doubleEpsilon]
    exact ⟨by decide, by rw [show (1 : UInt8).toNat = 1 from rfl]; norm_num⟩
  · simp only [sampleSgs]
    rw [hcube]
    norm_num

lemma sampleTab_split : TabSplit sampleTab := by
  refine ⟨?_, sampleParent_valid, sampleParent_sphere⟩
  have hradius : sampleTab.radius = 1 / 2 := by
    simp only [TabRepresentativeSplitInput.radius, sampleTab, sampleParent]
    norm_num
  have hstiffness : sampleTab.stiffness = 32 / 3 := by
    rw [TabRepresentativeSplitInput.stiffness, hradius]
    simp only [sampleTab]
    norm_num
  have hlength : sampleTab.axisLength = 1 := by
    simp only [TabRepresentativeSplitInput.axisLength, sampleTab, dot, SprayMath.sqrt]
    norm_num
  have htolerance : withinTolerance (32 / 3 - 32 / 3 : ℝ) (32 / 3) (32 / 3) (1 / 10 ^ 10) = true :=
    withinTolerance_of_eq_zero (sub_self _) (by positivity)
  simp only [TabRepresentativeSplitInput.refused, hradius, hstiffness, hlength]
  simp only [sampleTab, sampleTrigger_valid]
  simp only [sampleTrigger, htolerance, finitePositive, finiteVector, SprayReal.isFinite, SprayReal.lt,
    SprayReal.zero, SprayMath.isFinite, kMaximumBreakupChildParcels]
  norm_num

theorem breakup_conserves_samples : (generateSuppliedDiameterChildren sampleSupplied).succeeded = true ∧
      (generateSgsChildren sampleSgs).succeeded = true ∧
      (generateTabRepresentativeChildren sampleTab).succeeded = true := by
  obtain ⟨hsupplied, hsgs, htab⟩ := breakup_conserves
  refine ⟨?_, ?_, ?_⟩
  · obtain h | h := hsupplied sampleSupplied sampleSupplied_split
    · exact h.2.1
    · exact absurd sampleParent_fresh h.1
  · obtain h | h := hsgs sampleSgs sampleSgs_split
    · exact h.2.1
    · exact absurd sampleParent_fresh h.1
  · obtain h | h := htab sampleTab sampleTab_split
    · exact h.2.1
    · exact absurd sampleParent_fresh h.1

end HundunFlow.Proofs
