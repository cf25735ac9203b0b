import HundunFlow.Proofs.MgRestriction

/-!
# Prolongation interpolates in the box

A fine cell takes two coarse cells on each axis that is coarsened.
-/

namespace HundunFlow.Proofs

open Lib MgWorkspace MgTransfer List
open EBTopology (addIndex subIndex boxIndices)

def image (periodic : Bool) (extent index : ℤ) : ℤ := if periodic then index % extent else max 0 (min index (extent - 1))

section Weights

variable {F : Type} [Field F]

def weights (coarsened periodic : Bool) (extent fine : ℤ) : List (ℤ × F) :=
  if !coarsened then [(fine, 1)]
  else if fine % 2 = 0 then
    [(image periodic extent (fine / 2 - 1), 1 / 4), (image periodic extent (fine / 2), 3 / 4)]
  else [(image periodic extent (fine / 2), 3 / 4), (image periodic extent (fine / 2 + 1), 1 / 4)]

def globalProlongation (mask : AxisMask) (coarseShape : Int3) (periodic : Axis → Bool) (value : Int3 → F) (cell : Int3) : F :=
  let terms (axis : Axis) : List (ℤ × F) :=
    weights (mask.has axis) (periodic axis) (component coarseShape axis) (component cell axis)
  ((terms .z).map fun z => ((terms .y).map fun y => ((terms .x).map fun x =>
    x.2 * y.2 * z.2 * value ⟨x.1, y.1, z.1⟩).sum).sum).sum

lemma image_of_mem {periodic : Bool} {extent index : ℤ} (h : 0 ≤ index) (h' : index < extent) :
    image periodic extent index = index := by
  unfold image
  split_ifs
  · exact Int.emod_eq_of_lt h h'
  · omega

lemma rounds_one (index : ℤ) : (Interpolation.mk index index (0 : F)).rounds = [(index, 1 - 0)] := if_pos rfl

lemma rounds_two {left right : ℤ} (hne : left ≠ right) (weight : F) :
    (Interpolation.mk left right weight).rounds = [(left, 1 - weight), (right, weight)] := if_neg hne

section Cases

variable {fine extent : ℤ} {periodic : Bool}

lemma interpolation_even (heven : fine % 2 = 0) (hend : periodic = true ∨ 1 ≤ fine / 2) (hextent : fine / 2 < extent) :
    interpolation fine true extent periodic = ⟨fine / 2 - 1, fine / 2, (3 / 4 : F)⟩ := by
  unfold interpolation
  simp only [Bool.not_true, Bool.false_eq_true, if_false, if_pos heven]
  rcases hend with rfl | hend
  · rfl
  · rw [if_neg, if_neg] <;> simp <;> omega

lemma interpolation_first (heven : fine % 2 = 0) (hend : fine / 2 < 1) :
    interpolation fine true extent false = ⟨0, 0, (0 : F)⟩ := by
  unfold interpolation
  simp only [Bool.not_true, Bool.false_eq_true, if_false, if_pos heven]
  rw [if_pos]
  simp
  omega

lemma interpolation_odd (hodd : ¬ fine % 2 = 0) (hend : periodic = true ∨ fine / 2 + 1 < extent) (hfine : 0 ≤ fine) :
    interpolation fine true extent periodic = ⟨fine / 2, fine / 2 + 1, (1 / 4 : F)⟩ := by
  unfold interpolation
  simp only [Bool.not_true, Bool.false_eq_true, if_false, if_neg hodd]
  rcases hend with rfl | hend
  · rfl
  · rw [if_neg, if_neg] <;> simp <;> omega

lemma interpolation_last (hodd : ¬ fine % 2 = 0) (hend : extent ≤ fine / 2 + 1) (hfine : 0 ≤ fine) :
    interpolation fine true extent false = ⟨extent - 1, extent - 1, (0 : F)⟩ := by
  unfold interpolation
  simp only [Bool.not_true, Bool.false_eq_true, if_false, if_neg hodd]
  rw [if_neg, if_pos] <;> simp <;> omega

end Cases

lemma rounds_sum [CharZero F] {coarsened periodic : Bool} {extent fine : ℤ} (hfine : 0 ≤ fine)
    (hextent : coarsened = true → fine / 2 < extent) (hinside : coarsened = false → image periodic extent fine = fine)
    {φ : ℤ × F → F} {ψ : ℤ → F}
    (h : ∀ t ∈ (interpolation (F := F) fine coarsened extent periodic).rounds, φ t = t.2 * ψ (image periodic extent t.1)) :
    ((interpolation (F := F) fine coarsened extent periodic).rounds.map φ).sum =
      ((weights (F := F) coarsened periodic extent fine).map fun t => t.2 * ψ t.1).sum := by
  rw [map_congr_left h]
  unfold weights
  cases coarsened with
  | false =>
    have hrounds : (interpolation (F := F) fine false extent periodic).rounds = [(fine, 1 - 0)] := if_pos rfl
    rw [hrounds]
    simp [hinside rfl]
  | true =>
    have hparent := hextent rfl
    by_cases heven : fine % 2 = 0
    · simp only [Bool.not_true, Bool.false_eq_true, if_false, if_pos heven]
      by_cases hend : periodic = true ∨ 1 ≤ fine / 2
      · rw [interpolation_even heven hend hparent, rounds_two (by omega)]
        simp only [map_cons, map_nil, sum_cons, sum_nil]
        ring
      · obtain ⟨hperiodic, hfirst⟩ := not_or.mp hend
        obtain rfl := Bool.eq_false_of_not_eq_true hperiodic
        have hleft : image false extent (fine / 2 - 1) = image false extent 0 := by
          simp only [image, Bool.false_eq_true, if_false]
          omega
        have hright : fine / 2 = 0 := by omega
        rw [interpolation_first heven (by omega), rounds_one, hleft, hright]
        simp only [map_cons, map_nil, sum_cons, sum_nil]
        ring
    · simp only [Bool.not_true, Bool.false_eq_true, if_false, if_neg heven]
      by_cases hend : periodic = true ∨ fine / 2 + 1 < extent
      · rw [interpolation_odd heven hend hfine, rounds_two (by omega)]
        simp only [map_cons, map_nil, sum_cons, sum_nil]
        ring
      · obtain ⟨hperiodic, hlast⟩ := not_or.mp hend
        obtain rfl := Bool.eq_false_of_not_eq_true hperiodic
        have hleft : fine / 2 = extent - 1 := by omega
        have hright : image false extent (extent - 1 + 1) = image false extent (extent - 1) := by
          simp only [image, Bool.false_eq_true, if_false]
          omega
        rw [interpolation_last heven (by omega) hfine, rounds_one, hleft, hright]
        simp only [map_cons, map_nil, sum_cons, sum_nil]
        ring

end Weights

lemma round_place {F : Type} [Field F] {coarsened periodic : Bool} {begin_ end_ coarseBegin coarseEnd fine shape extent : ℤ}
    (hbegin : coarseBegin = if coarsened then (begin_ + 1) / 2 else begin_)
    (hend : coarseEnd = if coarsened then (end_ + 1) / 2 else end_)
    (hextent : extent = if coarsened then (shape + 1) / 2 else shape) (hnonneg : 0 ≤ begin_) (hle : end_ ≤ shape)
    (hcoarse : coarseBegin < coarseEnd) (hfine : begin_ ≤ fine) (hfine' : fine < end_) {t : ℤ × F}
    (ht : t ∈ (interpolation (F := F) fine coarsened extent periodic).rounds) :
    (coarseBegin ≤ t.1 ∧ t.1 < coarseEnd) ∨
      coarsened = true ∧ (t.1 = coarseBegin - 1 ∨ t.1 = coarseEnd) ∧ (periodic = true ∨ 0 ≤ t.1 ∧ t.1 < extent) := by
  cases coarsened with
  | false =>
    have hrounds : (interpolation (F := F) fine false extent periodic).rounds = [(fine, 1 - 0)] := if_pos rfl
    rw [hrounds, mem_singleton] at ht
    simp only [Bool.false_eq_true, if_false] at hbegin hend
    left
    rw [ht]
    constructor <;> omega
  | true =>
    simp only [if_true] at hbegin hend hextent
    simp only [true_and]
    by_cases heven : fine % 2 = 0
    · by_cases hfirst : periodic = true ∨ 1 ≤ fine / 2
      · rw [interpolation_even heven hfirst (by omega), rounds_two (by omega)] at ht
        simp only [mem_cons, not_mem_nil, or_false] at ht
        rcases ht with rfl | rfl
        · by_cases hout : coarseBegin ≤ fine / 2 - 1
          · exact .inl ⟨hout, by omega⟩
          · exact .inr ⟨.inl (by omega), hfirst.imp_right fun hone => by omega⟩
        · exact .inl ⟨by omega, by omega⟩
      · obtain ⟨hperiodic, hone⟩ := not_or.mp hfirst
        obtain rfl := Bool.eq_false_of_not_eq_true hperiodic
        rw [interpolation_first heven (by omega), rounds_one, mem_singleton] at ht
        rw [ht]
        exact .inl ⟨by omega, by omega⟩
    · by_cases hlast : periodic = true ∨ fine / 2 + 1 < extent
      · rw [interpolation_odd heven hlast (by omega), rounds_two (by omega)] at ht
        simp only [mem_cons, not_mem_nil, or_false] at ht
        rcases ht with rfl | rfl
        · by_cases hout : coarseBegin ≤ fine / 2
          · exact .inl ⟨hout, by omega⟩
          · exact .inr ⟨.inl (by omega), .inr ⟨by omega, by omega⟩⟩
        · by_cases hout : fine / 2 + 1 < coarseEnd
          · exact .inl ⟨by omega, hout⟩
          · exact .inr ⟨.inr (by omega), hlast.imp_right fun hinside => by omega⟩
      · obtain ⟨hperiodic, hone⟩ := not_or.mp hlast
        obtain rfl := Bool.eq_false_of_not_eq_true hperiodic
        rw [interpolation_last heven (by omega) (by omega), rounds_one, mem_singleton] at ht
        rw [ht]
        exact .inl ⟨by omega, by omega⟩

section Tensor

variable {F : Type} [Field F]

lemma tensor_sum (rounds weighted : Axis → List (ℤ × F)) (stands : Axis → ℤ → ℤ) (local_ value : Int3 → F)
    (haxis : ∀ axis (φ : ℤ × F → F) (ψ : ℤ → F), (∀ t ∈ rounds axis, φ t = t.2 * ψ (stands axis t.1)) →
      ((rounds axis).map φ).sum = ((weighted axis).map fun t => t.2 * ψ t.1).sum)
    (hread : ∀ x ∈ rounds .x, ∀ y ∈ rounds .y, ∀ z ∈ rounds .z, local_ ⟨x.1, y.1, z.1⟩ =
      value ⟨stands .x x.1, stands .y y.1, stands .z z.1⟩) :
    ((rounds .z).map fun z => ((rounds .y).map fun y => ((rounds .x).map fun x =>
        x.2 * y.2 * z.2 * local_ ⟨x.1, y.1, z.1⟩).sum).sum).sum =
      ((weighted .z).map fun z => ((weighted .y).map fun y => ((weighted .x).map fun x =>
        x.2 * y.2 * z.2 * value ⟨x.1, y.1, z.1⟩).sum).sum).sum := by
  have hx : ∀ y ∈ rounds .y, ∀ z ∈ rounds .z,
      ((rounds .x).map fun x => x.2 * y.2 * z.2 * local_ ⟨x.1, y.1, z.1⟩).sum =
        y.2 * ((weighted .x).map fun x => x.2 * z.2 * value ⟨x.1, stands .y y.1, stands .z z.1⟩).sum := by
    intro y hy z hz
    rw [haxis .x _ (fun k => y.2 * z.2 * value ⟨k, stands .y y.1, stands .z z.1⟩), ← sum_map_mul_left]
    · congr 2
      funext x
      ring
    · intro x hx
      rw [hread x hx y hy z hz]
      ring
  have hy : ∀ z ∈ rounds .z, ((rounds .y).map fun y => ((rounds .x).map fun x =>
        x.2 * y.2 * z.2 * local_ ⟨x.1, y.1, z.1⟩).sum).sum =
      z.2 * ((weighted .y).map fun y => ((weighted .x).map fun x => x.2 * y.2 * value ⟨x.1, y.1, stands .z z.1⟩).sum).sum := by
    intro z hz
    rw [haxis .y _ (fun k => ((weighted .x).map fun x => x.2 * z.2 * value ⟨x.1, k, stands .z z.1⟩).sum)
      (fun y hy => hx y hy z hz), ← sum_map_mul_left]
    congr 2
    funext y
    rw [← sum_map_mul_left, ← sum_map_mul_left]
    congr 2
    funext x
    ring
  rw [haxis .z _ (fun k => ((weighted .y).map fun y => ((weighted .x).map fun x => x.2 * y.2 * value ⟨x.1, y.1, k⟩).sum).sum) hy]
  congr 2
  funext z
  rw [← sum_map_mul_left]
  congr 2
  funext y
  rw [← sum_map_mul_left]
  congr 2
  funext x
  ring

end Tensor

variable {F : Type} [Field F] [LinearOrder F] {n : ℕ} {mask : AxisMask} {shape coarseShape grid : Int3}
  {fine coarse : Fin n → MgWorkspaceLevelRequirements} (h : LevelPair mask shape coarseShape grid fine coarse)
  {boundaries : MgBoundarySet}

/-- The prolongation adds the interpolation of the box to every fluid cell and clears the solid ones,
whatever the ghost cells hold before. -/
def ProlongatesGlobally (F : Type) [Field F] [LinearOrder F] (fine coarse : Fin n → MgWorkspaceLevelRequirements)
    (boundaries : MgBoundarySet) (grid : Int3) : Prop :=
  ∀ (fluidVolumes solution coarseSolution : Fin n → LevelSlot F) (value : Int3 → F), Spread coarse value coarseSolution →
    ∀ i cell, MgTransfer.interior (fine i).patch.cells cell = true →
      prolongateAdd fine coarse boundaries grid fluidVolumes solution coarseSolution i cell =
        if fluidVolumes i cell = 0 then 0
        else solution i cell + globalProlongation (fine i).coarsenAxisMask (coarse i).globalShape (periodicAxes boundaries)
          value (addIndex (fine i).patch.begin cell)

include h

lemma LevelPair.axis_facts (i : Fin n) (axis : Axis) : component (coarse i).patch.begin axis =
        (if mask.has axis then (component (fine i).patch.begin axis + 1) / 2 else component (fine i).patch.begin axis) ∧
      patchEnd (coarse i).patch axis =
        (if mask.has axis then (patchEnd (fine i).patch axis + 1) / 2 else patchEnd (fine i).patch axis) ∧
      component coarseShape axis =
        (if mask.has axis then (component shape axis + 1) / 2 else component shape axis) ∧
      0 ≤ component (fine i).patch.begin axis ∧ patchEnd (fine i).patch axis ≤ component shape axis ∧
      component (coarse i).patch.begin axis < patchEnd (coarse i).patch axis := by
  obtain ⟨cut, hcut⟩ := h.fineCut
  obtain ⟨coarseCut, hcoarse⟩ := h.coarseCut
  have hpos := hcoarse.cells_pos i axis
  refine ⟨congrFun (h.begin_ i) axis, congrFun (h.end_ i) axis, congrFun h.halves axis, hcut.begin_nonneg i axis,
    hcut.end_le i axis, ?_⟩
  rw [patchEnd]
  omega

lemma LevelPair.active_of_beside {periodic : Axis → Bool} {i : Fin n} {axis : Axis} {index : ℤ} (hmask : mask.has axis = true)
    (hbeside : index = component (coarse i).patch.begin axis - 1 ∨ index = patchEnd (coarse i).patch axis)
    (hbox : periodic axis = true ∨ 0 ≤ index ∧ index < component coarseShape axis) :
    activeAxes mask grid periodic axis = true := by
  obtain ⟨coarseCut, hcoarse⟩ := h.coarseCut
  rw [activeAxes, hmask, Bool.true_and, Bool.or_eq_true, decide_eq_true_eq]
  by_contra hnot
  obtain ⟨hgrid, hperiodic⟩ := not_or.mp hnot
  have hin := inGrid_iff.mp (hcoarse.coord i) axis
  have hone : component grid axis = 1 := by omega
  have hzero : component (coarse i).patch.processCoord axis = 0 := by omega
  have hbegin := hcoarse.begin_ i axis
  have hend := hcoarse.end_ i axis
  rw [hzero, hcoarse.first] at hbegin
  rw [hzero, zero_add, ← hone, hcoarse.last] at hend
  have hinside := hbox.resolve_left hperiodic
  omega

variable [IsStrictOrderedRing F]

lemma LevelPair.prolongates : ProlongatesGlobally F fine coarse boundaries grid := by
  intro fluidVolumes solution coarseSolution value hspread i cell hcell
  obtain ⟨cut, hcut⟩ := h.fineCut
  obtain ⟨coarseCut, hcoarse⟩ := h.coarseCut
  have hext := (delivers_of_spread hcoarse hspread (periodicAxes boundaries)).prolongation hcoarse mask
  unfold prolongateAdd
  simp only [writeCells, hcell, if_true]
  congr 2
  rw [h.mask_eq i, h.coarse_eq i]
  unfold MgTransfer.prolongation globalProlongation
  simp only [foldl_add_eq, zero_add, h.mask_eq i, h.coarse_eq i]
  have hrange : ∀ axis, component (fine i).patch.begin axis ≤ component (addIndex (fine i).patch.begin cell) axis ∧
      component (addIndex (fine i).patch.begin cell) axis < patchEnd (fine i).patch axis := by
    intro axis
    have hinside := interior_iff.mp hcell axis
    rw [component_addIndex, patchEnd]
    omega
  generalize addIndex (fine i).patch.begin cell = global at hrange
  refine tensor_sum (fun axis => (interpolation (component global axis) (mask.has axis) (component coarseShape axis)
    (periodicAxes boundaries axis)).rounds) (fun axis => weights (mask.has axis) (periodicAxes boundaries axis)
    (component coarseShape axis) (component global axis))
    (fun axis => image (periodicAxes boundaries axis) (component coarseShape axis))
    (fun index => extendProlongationFaceHalos mask grid (fun i => (coarse i).patch) (periodicAxes boundaries)
      (exchangeFaces (fun i => (coarse i).patch) (periodicAxes boundaries) coarseSolution) i
      (subIndex index (coarse i).patch.begin)) value ?_ ?_
  · intro axis φ ψ hφ
    obtain ⟨-, -, hextent, hnonneg, hle, -⟩ := h.axis_facts i axis
    have hin := hrange axis
    apply rounds_sum (by omega) _ _ hφ
    · intro hmask
      rw [if_pos hmask] at hextent
      omega
    · intro hmask
      rw [hmask] at hextent
      exact image_of_mem (by omega) (by rw [hextent]; exact hin.2.trans_le hle)
  · intro x hx y hy z hz
    have hplace : ∀ axis, (component (coarse i).patch.begin axis ≤ component ⟨x.1, y.1, z.1⟩ axis ∧
          component ⟨x.1, y.1, z.1⟩ axis < patchEnd (coarse i).patch axis) ∨
        mask.has axis = true ∧ (component ⟨x.1, y.1, z.1⟩ axis = component (coarse i).patch.begin axis - 1 ∨
          component ⟨x.1, y.1, z.1⟩ axis = patchEnd (coarse i).patch axis) ∧
          (periodicAxes boundaries axis = true ∨
            0 ≤ component ⟨x.1, y.1, z.1⟩ axis ∧ component ⟨x.1, y.1, z.1⟩ axis < component coarseShape axis) := by
      intro axis
      obtain ⟨hbegin, hend, hextent, hnonneg, hle, hpos⟩ := h.axis_facts i axis
      have hin := hrange axis
      cases axis
      · exact round_place hbegin hend hextent hnonneg hle hpos hin.1 hin.2 hx
      · exact round_place hbegin hend hextent hnonneg hle hpos hin.1 hin.2 hy
      · exact round_place hbegin hend hextent hnonneg hle hpos hin.1 hin.2 hz
    have hstands : ofComponents (fun axis => image (periodicAxes boundaries axis) (component coarseShape axis)
        (component ⟨x.1, y.1, z.1⟩ axis)) = wrap coarseShape ⟨x.1, y.1, z.1⟩ := by
      apply int3_ext
      intro axis
      rw [wrap, component_ofComponents, component_ofComponents]
      by_cases hperiodic : periodicAxes boundaries axis = true
      · exact if_pos hperiodic
      · have hlow := hcoarse.begin_nonneg i axis
        have hhigh := hcoarse.end_le i axis
        have hbox : 0 ≤ component ⟨x.1, y.1, z.1⟩ axis ∧ component ⟨x.1, y.1, z.1⟩ axis < component coarseShape axis :=
          (hplace axis).elim (fun hinside => ⟨hlow.trans hinside.1, hinside.2.trans_le hhigh⟩)
            fun hout => hout.2.2.resolve_left hperiodic
        rw [image_of_mem hbox.1 hbox.2, Int.emod_eq_of_lt hbox.1 hbox.2]
    change _ = value (ofComponents fun axis => image (periodicAxes boundaries axis) (component coarseShape axis)
      (component ⟨x.1, y.1, z.1⟩ axis))
    rw [hstands]
    generalize (⟨x.1, y.1, z.1⟩ : Int3) = index at hplace
    have hreal : ∀ axis, RealOn coarseShape (periodicAxes boundaries) (coarse i).patch
        (fun other => activeAxes mask grid (periodicAxes boundaries) other = true) (subIndex index (coarse i).patch.begin)
        axis := by
      intro axis
      rw [RealOn, component_subIndex]
      rcases hplace axis with hinside | ⟨hmask, hbeside, hbox⟩
      · rw [patchEnd] at hinside
        left
        omega
      · right
        refine ⟨h.active_of_beside hmask hbeside hbox, ?_⟩
        rcases hbeside with hbelow | habove
        · refine ⟨true, ?_, hbox.imp_right fun hin => by omega⟩
          rw [ghostPlane, if_pos rfl]
          omega
        · refine ⟨false, ?_, hbox.imp_right fun hin => by omega⟩
          rw [patchEnd] at habove
          rw [ghostPlane, if_neg Bool.false_ne_true]
          omega
    have hvalue := hext i _ hreal
    rwa [addIndex_subIndex] at hvalue

end HundunFlow.Proofs
