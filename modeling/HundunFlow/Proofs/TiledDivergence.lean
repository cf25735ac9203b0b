import HundunFlow.Proofs.TiledReconstruction
import Mathlib.Algebra.BigOperators.Intervals
import Mathlib.Data.List.GetD
import Mathlib.Tactic.LinearCombination

/-!
# Divergence of a flux over the boxes of a tiling

The divergence of a cell, times its volume, is the net flux out of the cell.
-/

namespace HundunFlow.Proofs

open Lib List Option

structure ValidCells (view : FieldView) (cells : Int3) (start : ArenaAddress) : Prop where
  base : view.base = some start
  row : cells.x.toNat ≤ view.strideY
  plane : view.strideY * cells.y.toNat ≤ view.strideZ

variable {view : FieldView}

lemma fieldStorageInterval_spec {interval : ArenaAddress × ℕ × ℕ}
    (h : fieldStorageInterval view = some interval) : ∃ start, ValidCells view view.interior start := by
  obtain ⟨start, hbase, h⟩ := bind_eq_some_iff.mp h
  obtain ⟨_, -, h⟩ := bind_eq_some_iff.mp h
  obtain ⟨_, -, h⟩ := bind_eq_some_iff.mp h
  obtain ⟨_, -, h⟩ := bind_eq_some_iff.mp h
  obtain ⟨twiceX, -, h⟩ := bind_eq_some_iff.mp h
  obtain ⟨paddedX, hx, h⟩ := bind_eq_some_iff.mp h
  obtain ⟨twiceY, -, h⟩ := bind_eq_some_iff.mp h
  obtain ⟨paddedY, hy, h⟩ := bind_eq_some_iff.mp h
  obtain ⟨_, -, h⟩ := bind_eq_some_iff.mp h
  obtain ⟨_, -, h⟩ := bind_eq_some_iff.mp h
  obtain ⟨_, hrow, h⟩ := bind_eq_some_iff.mp h
  obtain ⟨minimum, hminimum, h⟩ := bind_eq_some_iff.mp h
  obtain ⟨_, hplane, -⟩ := bind_eq_some_iff.mp h
  obtain ⟨rfl, -⟩ := checkedAdd_spec hx
  obtain ⟨rfl, -⟩ := checkedAdd_spec hy
  obtain ⟨rfl, -⟩ := checkedMultiply_spec hminimum
  refine ⟨start, hbase, (Nat.le_add_right _ _).trans (guard_iff.mp hrow), ?_⟩
  exact (Nat.mul_le_mul_left _ (Nat.le_add_right _ _)).trans (guard_iff.mp hplane)

lemma ValidCells.at_inj {cells : Int3} {start : ArenaAddress} (h : ValidCells view cells start) (component : ℕ)
    {c c' : Int3} (hc : c ∈ faceIndices cells) (hc' : c' ∈ faceIndices cells)
    (heq : view.at start c component = view.at start c' component) : c = c' := by
  rcases c with ⟨x, y, z⟩
  rcases c' with ⟨x', y', z'⟩
  obtain ⟨hx, hy, hz⟩ := (mem_faceIndices _ _).mp hc
  obtain ⟨hx', hy', hz'⟩ := (mem_faceIndices _ _).mp hc'
  simp only at hx hy hz hx' hy' hz'
  have hrow := h.row
  have hplane : ∀ {a b : ℕ}, a < view.strideY → b < cells.y.toNat → a + b * view.strideY < view.strideZ :=
    fun ha hb => (strided_lt ha hb).trans_le h.plane
  obtain ⟨x, rfl⟩ := Int.eq_ofNat_of_zero_le hx.1
  obtain ⟨y, rfl⟩ := Int.eq_ofNat_of_zero_le hy.1
  obtain ⟨z, rfl⟩ := Int.eq_ofNat_of_zero_le hz.1
  obtain ⟨x', rfl⟩ := Int.eq_ofNat_of_zero_le hx'.1
  obtain ⟨y', rfl⟩ := Int.eq_ofNat_of_zero_le hy'.1
  obtain ⟨z', rfl⟩ := Int.eq_ofNat_of_zero_le hz'.1
  have hoffset : (x + y * view.strideY) + z * view.strideZ = (x' + y' * view.strideY) + z' * view.strideZ := by
    have hat := congrArg ArenaAddress.offset heq
    simp only [FieldView.at] at hat
    zify
    linarith
  obtain ⟨hlow, rfl⟩ := strided_inj (hplane (by omega) (by omega)) (hplane (by omega) (by omega)) hoffset
  obtain ⟨rfl, rfl⟩ := strided_inj (by omega) (by omega) hlow
  rfl

section Runs

variable {F : Type} [KernelArithmetic F]

variable {output : FieldView} {start : ArenaAddress} {invocation : KernelInvocation}
  {plan : CartesianKernelPlan F} {flux : FaceFluxView} {box : KernelBox} {status : Status}
  {faces : Memory Address F}

lemma kernelCells_patchBox (cells : Int3) : kernelCells (patchBox cells) = faceIndices cells := by
  simp only [kernelCells, patchBox, loopIndices, zero_add, sub_zero, List.map_id']

lemma storeCells_run (hbase : output.base = some start) (component : ℕ) (value : Int3 → F)
    (cells : Memory ArenaAddress F) (l : List Int3)
    (hok : (storeCells output component value cells l).1.isOk = true) :
    (storeCells output component value cells l).2 =
      storeLoop (fun c => output.at start c component) (fun _ c => value c) cells l := by
  induction l generalizing cells with
  | nil => rfl
  | cons cell rest ih =>
    rw [storeCells] at hok ⊢
    split_ifs at hok ⊢ with hfinite
    · simp only [hbase] at hok ⊢
      rw [ih _ hok, storeLoop_cons]
    · have hfail : ¬ (⟨.numericalFailure, kFaceNumerical⟩ : Status).isOk = true := by decide
      exact absurd hok hfail

omit [KernelArithmetic F] in
lemma divergenceOutput_spec (h : divergenceOutput plan flux invocation = some output) :
    invocation.writes = .of [output] ∧ ∃ start, ValidCells output plan.cells start := by
  unfold divergenceOutput at h
  split at h
  · rename_i view hwrites
    split_ifs at h with hchecks
    obtain rfl := some.inj h
    simp only [Bool.or_eq_true, not_or, Bool.not_eq_true, Bool.not_eq_false'] at hchecks
    have hview := hchecks.2
    simp only [validCellView, Bool.and_eq_true, sameCells, decide_eq_true_eq] at hview
    have hcells : view.interior = plan.cells := by
      cases hv : view.interior
      cases hp : plan.cells
      simp_all
    obtain ⟨interval, hinterval⟩ := isSome_iff_exists.mp hview.1.1.1.1.1.1.1.1.1.1.1.1.1
    rw [← hcells]
    exact ⟨hwrites, fieldStorageInterval_spec hinterval⟩
  · cases h

lemma addKernelCounters_error {c : KernelCounters} {faces reads writes : ℕ}
    (h : addKernelCounters c box faces reads writes = .error status) : ¬ status.isOk = true := by
  have hfail : ¬ (⟨.invalidPlan, kKernelInvocation⟩ : Status).isOk = true := by decide
  unfold addKernelCounters at h
  dsimp only at h
  split_ifs at h with hchecks
  · rwa [← Except.error.inj h]
  · exact addKernelCounterTotals_error h

lemma prepared_error {counters : Option KernelCounters}
    (h : (counters.mapM fun c => addKernelCounters c box 6 6 1) = .error status) : ¬ status.isOk = true := by
  cases counters with
  | none => exact absurd h (by simp [pure, Except.pure])
  | some c =>
    rw [mapM_some] at h
    cases hadd : addKernelCounters c box 6 6 1 with
    | error status' =>
      rw [hadd] at h
      obtain rfl : status' = status := Except.error.inj h
      exact addKernelCounters_error hadd
    | ok c' =>
      rw [hadd] at h
      exact absurd h (by simp [Functor.map, Except.map])

lemma divergence_run (plan : CartesianKernelPlan F) (faces : Memory Address F) (flux : FaceFluxView)
    (invocation : KernelInvocation) (hbase : output.base = some start) (hwrites : invocation.writes = .of [output])
    (cells : Memory ArenaAddress F)
    (hok : (cartesianProvisionalFaceDivergence plan faces flux invocation cells).1.isOk = true) :
    divergenceOutput plan flux invocation = some output ∧
      (cartesianProvisionalFaceDivergence plan faces flux invocation cells).2.1 =
        storeLoop (fun c => output.at start c invocation.writeComponentBegin)
          (fun _ c => cellDivergence plan faces flux c) cells (kernelCells invocation.box) := by
  have hfail : ¬ (⟨.invalidPlan, kFaceKernel⟩ : Status).isOk = true := by decide
  unfold cartesianProvisionalFaceDivergence at hok ⊢
  cases hout : divergenceOutput plan flux invocation with
  | none =>
    simp only [hout] at hok
    exact absurd hok hfail
  | some view =>
    obtain rfl : view = output := by
      have hview := (divergenceOutput_spec hout).1
      rw [hwrites] at hview
      simpa using hview.symm
    simp only [hout] at hok ⊢
    cases hprepared : invocation.counters.mapM fun c => addKernelCounters c invocation.box 6 6 1 with
    | error status =>
      simp only [hprepared] at hok
      exact absurd hok (prepared_error hprepared)
    | ok prepared =>
      simp only [hprepared] at hok ⊢
      by_cases hstored : (storeCells view invocation.writeComponentBegin (cellDivergence plan faces flux) cells
          (kernelCells invocation.box)).1.isOk = true
      · rw [if_neg (by simp [hstored])]
        exact ⟨trivial, storeCells_run hbase _ _ _ _ hstored⟩
      · rw [if_pos (by rw [Bool.eq_false_iff.mpr hstored, Bool.not_false])] at hok
        exact absurd hok hstored

lemma divergenceBoxes_run (hbase : output.base = some start) (hwrites : invocation.writes = .of [output])
    (boxes : List KernelBox) (cells : Memory ArenaAddress F) (counters : Option KernelCounters)
    (hok : (divergenceBoxes plan faces flux invocation cells counters boxes).1.isOk = true) :
    (divergenceBoxes plan faces flux invocation cells counters boxes).2.1 =
      storeLoop (fun c => output.at start c invocation.writeComponentBegin)
        (fun _ c => cellDivergence plan faces flux c) cells (boxes.flatMap kernelCells) := by
  induction boxes generalizing cells counters with
  | nil => rfl
  | cons box rest ih =>
    have hfirst := divergence_run plan faces flux { invocation with box := box, counters := counters } hbase hwrites cells
    rw [divergenceBoxes] at hok ⊢
    generalize cartesianProvisionalFaceDivergence plan faces flux
      { invocation with box := box, counters := counters } cells = r at *
    obtain ⟨status, cells', counters'⟩ := r
    dsimp only at hfirst hok ⊢
    by_cases hstatus : status.isOk = true
    · rw [if_neg (by simp [hstatus])] at hok ⊢
      rw [ih _ _ hok, (hfirst hstatus).2, flatMap_cons, storeLoop_append]
    · rw [if_pos (by rw [Bool.eq_false_iff.mpr hstatus, Bool.not_false])] at hok
      exact absurd hok hstatus

lemma tiled_divergence {boxes : List KernelBox} (h : Tiles plan.cells boxes) {cells : Memory ArenaAddress F}
    (hok : (divergenceBoxes plan faces flux invocation cells invocation.counters boxes).1.isOk = true) :
    ∃ output, invocation.writes = .of [output] ∧ ∀ c ∈ faceIndices plan.cells,
      output.unchecked (divergenceBoxes plan faces flux invocation cells invocation.counters boxes).2.1 c
        invocation.writeComponentBegin = cellDivergence plan faces flux c := by
  have hfail : ¬ (⟨.invalidPlan, kFaceKernel⟩ : Status).isOk = true := by decide
  have hout : ∃ output start, invocation.writes = .of [output] ∧ ValidCells output plan.cells start := by
    obtain ⟨box, rest, rfl⟩ := exists_cons_of_ne_nil h.ne_nil
    rw [divergenceBoxes, cartesianProvisionalFaceDivergence] at hok
    cases hout : divergenceOutput plan flux { invocation with box := box, counters := invocation.counters } with
    | none =>
      simp only [hout] at hok
      rw [if_pos (by decide)] at hok
      exact absurd hok hfail
    | some output =>
      obtain ⟨hwrites, start, hvalid⟩ := divergenceOutput_spec hout
      exact ⟨output, start, hwrites, hvalid⟩
  obtain ⟨output, start, hwrites, hvalid⟩ := hout
  refine ⟨output, hwrites, fun c hc => ?_⟩
  have hcells := h.cells_perm
  rw [kernelCells_patchBox] at hcells
  have hdist : (boxes.flatMap kernelCells).Pairwise fun c c' =>
      output.at start c invocation.writeComponentBegin ≠ output.at start c' invocation.writeComponentBegin := by
    refine List.Pairwise.imp_of_mem ?_ (hcells.nodup_iff.mpr (faceIndices_nodup _))
    intro c c' hc hc' hne heq
    exact hne (hvalid.at_inj _ (hcells.mem_iff.mp hc) (hcells.mem_iff.mp hc') heq)
  rw [divergenceBoxes_run hvalid.base hwrites boxes cells _ hok]
  simp only [FieldView.unchecked, hvalid.base]
  exact storeLoop_get cells _ hdist (fun _ _ _ _ => rfl) c (hcells.mem_iff.mpr hc)

end Runs

section Sums

variable {𝕜 : Type} [Field 𝕜]

variable {plan : CartesianKernelPlan 𝕜}

lemma sum_faceIndices (extents : Int3) (f : Int3 → 𝕜) : ((faceIndices extents).map f).sum =
    ∑ z ∈ Finset.range extents.z.toNat, ∑ y ∈ Finset.range extents.y.toNat, ∑ x ∈ Finset.range extents.x.toNat,
      f ⟨(x : ℕ), (y : ℕ), (z : ℕ)⟩ := by
  have hrange : ∀ (n : ℕ) (g : ℕ → 𝕜), ((range n).map g).sum = ∑ i ∈ Finset.range n, g i := by
    intro n g
    induction n with
    | zero => rfl
    | succ n ih => rw [range_succ, map_append, sum_append, ih, Finset.sum_range_succ, map_singleton,
        sum_singleton]
  have hflat : ∀ (n : ℕ) (g : ℕ → List Int3), (((range n).flatMap g).map f).sum =
      ∑ i ∈ Finset.range n, ((g i).map f).sum := by
    intro n g
    rw [map_flatMap, flatMap, sum_flatten, List.map_map, hrange]
    rfl
  rw [faceIndices, hflat]
  refine Finset.sum_congr rfl fun z _ => ?_
  rw [hflat]
  refine Finset.sum_congr rfl fun y _ => ?_
  rw [List.map_map, hrange]
  rfl

lemma sum_axis_flux (cells : Int3) (hpos : validCells cells = true) (axis : CartesianAxis) (g : Int3 → 𝕜) :
    ((faceIndices cells).map fun c => g (setAxis axis c (axisIndex axis c + 1)) - g c).sum =
      ((faceIndices (setAxis axis cells 1)).map fun c => g (setAxis axis c (axisIndex axis cells)) - g c).sum := by
  rw [validCells_iff] at hpos
  have htop : ∀ n : ℤ, 0 < n → ((n.toNat : ℕ) : ℤ) = n := fun n hn => Int.toNat_of_nonneg hn.le
  rw [sum_faceIndices, sum_faceIndices]
  cases axis with
  | x =>
    simp only [setAxis, axisIndex, Int.toNat_one, Finset.sum_range_one, Nat.cast_zero]
    refine Finset.sum_congr rfl fun z _ => Finset.sum_congr rfl fun y _ => ?_
    have hsum := Finset.sum_range_sub (fun x : ℕ => g ⟨(x : ℕ), (y : ℕ), (z : ℕ)⟩) cells.x.toNat
    simpa only [Nat.cast_add, Nat.cast_one, Nat.cast_zero, htop _ hpos.1] using hsum
  | y =>
    simp only [setAxis, axisIndex, Int.toNat_one, Finset.sum_range_one, Nat.cast_zero]
    refine Finset.sum_congr rfl fun z _ => ?_
    rw [Finset.sum_comm]
    refine Finset.sum_congr rfl fun x _ => ?_
    have hsum := Finset.sum_range_sub (fun y : ℕ => g ⟨(x : ℕ), (y : ℕ), (z : ℕ)⟩) cells.y.toNat
    simpa only [Nat.cast_add, Nat.cast_one, Nat.cast_zero, htop _ hpos.2.1] using hsum
  | z =>
    simp only [setAxis, axisIndex, Int.toNat_one, Finset.sum_range_one, Nat.cast_zero]
    rw [Finset.sum_comm]
    refine Finset.sum_congr rfl fun y _ => ?_
    rw [Finset.sum_comm]
    refine Finset.sum_congr rfl fun x _ => ?_
    have hsum := Finset.sum_range_sub (fun z : ℕ => g ⟨(x : ℕ), (y : ℕ), (z : ℕ)⟩) cells.z.toNat
    simpa only [Nat.cast_add, Nat.cast_one, Nat.cast_zero, htop _ hpos.2.2] using hsum

def Reciprocal (plan : CartesianKernelPlan 𝕜) : Prop := ∀ axis i, 0 ≤ i → i < axisIndex axis plan.cells →
  plan.metricWidth axis i * plan.metricInverseWidth axis i = 1

section Compilation

variable [LinearOrder 𝕜]

variable {metric : AxisMetricData 𝕜} {faces : List 𝕜}

lemma finishAxisMetrics_inverse
    (h : finishAxisMetrics faces = .ok metric) : (metric.inverseWidths = metric.widths.map fun width => 1 / width) ∧
      (∀ width ∈ metric.widths, width ≠ 0) ∧
        (metric.uniform = true → metric.uniformWidth * metric.uniformInverseWidth = 1) := by
  unfold finishAxisMetrics at h
  dsimp only at h
  generalize zipWith (fun left right => right - left) faces faces.tail = widths at h
  split at h
  · cases h
  · rename_i width rest
    have hcancel := fun (hpos : ((width :: rest).all fun width => decide (0 < width)) = true) w hw =>
      (of_decide_eq_true (all_eq_true.mp hpos w hw)).ne'
    split_ifs at h with hpos huniform
    · obtain rfl := Except.ok.inj h
      exact ⟨rfl, hcancel hpos, fun _ => mul_one_div_cancel (hcancel hpos width mem_cons_self)⟩
    · obtain rfl := Except.ok.inj h
      exact ⟨rfl, hcancel hpos, fun h => absurd h huniform⟩

omit [LinearOrder 𝕜] in
lemma entry_inverse {widths : List 𝕜} (hne : ∀ width ∈ widths, width ≠ 0) {i : ℤ} (hi : 0 ≤ i)
    (hlt : i < widths.length) : CartesianKernelPlan.entry widths i *
      CartesianKernelPlan.entry (widths.map fun width => 1 / width) i = 1 := by
  have hindex : i.toNat < widths.length := by omega
  simp only [CartesianKernelPlan.entry]
  rw [getD_eq_getElem _ _ hindex, getD_eq_getElem _ _ (by rwa [length_map]), getElem_map]
  exact mul_one_div_cancel (hne _ (getElem_mem hindex))

omit [LinearOrder 𝕜] in
lemma entry_range (g : ℕ → 𝕜) {count : ℕ} {i : ℤ} (hi : 0 ≤ i) (hlt : i < count) :
    CartesianKernelPlan.entry ((range count).map g) i = g i.toNat := by
  have hindex : i.toNat < count := by omega
  simp only [CartesianKernelPlan.entry]
  rw [getD_eq_getElem _ _ (by simpa using hindex), getElem_map, getElem_range]

lemma compileMetric_inverse (hmetric : finishAxisMetrics faces = .ok metric) {kind : GeometryKind} {begin cells : ℤ}
    {reach : ℕ} {periodic : Bool} {packet : CartesianMetricPacket 𝕜}
    (h : compileMetric kind metric begin cells reach periodic = some packet) (hbegin : 0 ≤ begin)
    (hend : begin + cells ≤ metric.centres.length) :
    (packet.uniformWidth = metric.uniformWidth ∧ packet.uniformInverseWidth = metric.uniformInverseWidth) ∧
      ∀ i, 0 ≤ i → i < cells → CartesianKernelPlan.entry packet.widths (packet.globalBegin + i) *
        CartesianKernelPlan.entry packet.inverseWidths (packet.globalBegin + i) = 1 := by
  obtain ⟨hinverse, hne, -⟩ := finishAxisMetrics_inverse hmetric
  unfold compileMetric at h
  dsimp only at h
  split_ifs at h with hsizes hslice hwrapped
  · simp only [Bool.or_eq_true, decide_eq_true_eq, not_or, not_lt, not_le] at hsizes hslice
    obtain rfl := some.inj h
    refine ⟨⟨rfl, rfl⟩, fun i hi hlt => ?_⟩
    dsimp only
    rw [entry_range _ (by omega) (by omega), entry_range _ (by omega) (by omega)]
    have hcell : (begin - (reach : ℤ) + ((reach : ℤ) + i).toNat) % (metric.centres.length : ℤ) = begin + i := by
      rw [Int.toNat_of_nonneg (by omega)]
      rw [show begin - (reach : ℤ) + ((reach : ℤ) + i) = begin + i by ring]
      exact Int.emod_eq_of_lt (by omega) (by omega)
    rw [hcell, hinverse]
    exact entry_inverse hne (by omega) (by omega)
  · simp only [Bool.or_eq_true, decide_eq_true_eq, not_or, not_lt, not_le] at hsizes hslice
    obtain rfl := some.inj h
    refine ⟨⟨rfl, rfl⟩, fun i hi hlt => ?_⟩
    dsimp only
    rw [entry_range _ (by omega) (by omega), entry_range _ (by omega) (by omega)]
    have hcell : max 0 (begin - (reach : ℤ)) + ((begin - max 0 (begin - (reach : ℤ)) + i).toNat : ℤ) = begin + i := by
      omega
    rw [hcell, hinverse]
    exact entry_inverse hne (by omega) (by omega)

/-- The metrics of the plan are compiled from axes; the axes of a uniform geometry are uniform. -/
def CompiledMetrics (plan : CartesianKernelPlan 𝕜) : Prop := ∀ axis, ∃ faces metric begin reach periodic packet geometry,
  finishAxisMetrics faces = .ok metric ∧
    compileMetric plan.geometryKind metric begin (axisIndex axis plan.cells) reach periodic = some packet ∧ 0 ≤ begin ∧
      begin + axisIndex axis plan.cells ≤ metric.centres.length ∧
        (plan.geometryKind = .uniform → metric.uniform = true) ∧
          plan.metric axis = { packet with faceGeometry := geometry }

lemma CompiledMetrics.reciprocal {plan : CartesianKernelPlan 𝕜} (h : CompiledMetrics plan) : Reciprocal plan := by
  intro axis i hi hlt
  obtain ⟨faces, metric, begin, reach, periodic, packet, geometry, hmetric, hpacket, hbegin, hend, hkind, hplan⟩ := h axis
  obtain ⟨⟨hwidth, hinverse⟩, hentry⟩ := compileMetric_inverse hmetric hpacket hbegin hend
  simp only [CartesianKernelPlan.metricWidth, CartesianKernelPlan.metricInverseWidth, hplan]
  by_cases huniform : plan.uniform = true
  · rw [if_pos huniform, if_pos huniform, hwidth, hinverse]
    exact (finishAxisMetrics_inverse hmetric).2.2 (hkind (of_decide_eq_true huniform))
  · rw [if_neg huniform, if_neg huniform]
    exact hentry i hi hlt

end Compilation

/-- The net flux through the two boundary planes of each axis. -/
def boundaryFlux (faces : Memory Address 𝕜) (flux : FaceFluxView) (cells : Int3) : 𝕜 :=
  let through (axis : CartesianAxis) : 𝕜 := ((faceIndices (setAxis axis cells 1)).map fun c =>
    (flux.select axis).unchecked faces (setAxis axis c (axisIndex axis cells)) -
      (flux.select axis).unchecked faces c).sum
  through .x + through .y + through .z

lemma volume_cellDivergence (h : Reciprocal plan) (faces : Memory Address 𝕜) (flux : FaceFluxView) {c : Int3}
    (hc : c ∈ faceIndices plan.cells) : plan.cellVolume c * cellDivergence plan faces flux c =
      ((flux.select .x).unchecked faces (setAxis .x c (axisIndex .x c + 1)) - (flux.select .x).unchecked faces c) +
      ((flux.select .y).unchecked faces (setAxis .y c (axisIndex .y c + 1)) - (flux.select .y).unchecked faces c) +
      ((flux.select .z).unchecked faces (setAxis .z c (axisIndex .z c + 1)) - (flux.select .z).unchecked faces c) := by
  obtain ⟨hx, hy, hz⟩ := (mem_faceIndices _ _).mp hc
  have hwx := h .x c.x hx.1 hx.2
  have hwy := h .y c.y hy.1 hy.2
  have hwz := h .z c.z hz.1 hz.2
  have hvolume : plan.cellVolume c * plan.metricInverseVolume c = 1 := by
    calc plan.cellVolume c * plan.metricInverseVolume c
        = (plan.metricWidth .x c.x * plan.metricInverseWidth .x c.x) *
            (plan.metricWidth .y c.y * plan.metricInverseWidth .y c.y) *
              (plan.metricWidth .z c.z * plan.metricInverseWidth .z c.z) := by
          change plan.metricWidth .x c.x * plan.metricWidth .y c.y * plan.metricWidth .z c.z *
            (plan.metricInverseWidth .x c.x * plan.metricInverseWidth .y c.y * plan.metricInverseWidth .z c.z) = _
          ring
      _ = 1 := by rw [hwx, hwy, hwz, one_mul, one_mul]
  change plan.cellVolume c * ((flux.x.unchecked faces { c with x := c.x + 1 } - flux.x.unchecked faces c +
      flux.y.unchecked faces { c with y := c.y + 1 } - flux.y.unchecked faces c +
      flux.z.unchecked faces { c with z := c.z + 1 } - flux.z.unchecked faces c) * plan.metricInverseVolume c) =
    (flux.x.unchecked faces { c with x := c.x + 1 } - flux.x.unchecked faces c) +
      (flux.y.unchecked faces { c with y := c.y + 1 } - flux.y.unchecked faces c) +
      (flux.z.unchecked faces { c with z := c.z + 1 } - flux.z.unchecked faces c)
  linear_combination (flux.x.unchecked faces { c with x := c.x + 1 } - flux.x.unchecked faces c +
      flux.y.unchecked faces { c with y := c.y + 1 } - flux.y.unchecked faces c +
      flux.z.unchecked faces { c with z := c.z + 1 } - flux.z.unchecked faces c) * hvolume

lemma sum_volume_cellDivergence (h : Reciprocal plan) (hpos : validCells plan.cells = true)
    (faces : Memory Address 𝕜) (flux : FaceFluxView) :
    ((faceIndices plan.cells).map fun c => plan.cellVolume c * cellDivergence plan faces flux c).sum =
      boundaryFlux faces flux plan.cells := by
  rw [map_congr_left fun c hc => volume_cellDivergence h faces flux hc, sum_map_add, sum_map_add]
  simp only [boundaryFlux, sum_axis_flux plan.cells hpos]

end Sums

/-- For every patch and every partition of its cells into kernel boxes, run in any order. -/
theorem tiled_kernels_conserve {patch : Int3} {boxes : List KernelBox} (h : Tiles patch boxes) :
    (∀ {F : Type} [KernelArithmetic F] (plan : CartesianKernelPlan F) (cells : Memory ArenaAddress F)
      (invocation : KernelInvocation) (flux : FaceFluxView) (s : FaceStores F), plan.cells = patch →
        InAddressSpace flux →
        let tiled := reconstructBoxes plan cells invocation flux s invocation.counters boxes
        let single := reconstructMassFlux plan cells { invocation with box := patchBox patch } flux s
        (tiled.1.isOk = true → TiledResult plan invocation s tiled single) ∧
          ((∀ c ∈ invocation.counters, c.invocations + boxes.length ≤ maxU64) → single.1.isOk = true →
            tiled.1.isOk = true)) ∧
    (∀ {𝕜 : Type} [Field 𝕜] [LinearOrder 𝕜] (plan : CartesianKernelPlan 𝕜) (faces : Memory Address 𝕜) (flux : FaceFluxView)
      (invocation : KernelInvocation) (cells : Memory ArenaAddress 𝕜), plan.cells = patch → CompiledMetrics plan →
        let run := divergenceBoxes plan faces flux invocation cells invocation.counters boxes
        run.1.isOk = true → ∃ output, invocation.writes = .of [output] ∧
          ((faceIndices patch).map fun c =>
            plan.cellVolume c * output.unchecked run.2.1 c invocation.writeComponentBegin).sum =
              boundaryFlux faces flux patch) := by
  constructor
  · intro F _ plan cells invocation flux s hpatch hspace
    subst hpatch
    exact ⟨fun hok => tiled_result h hspace hok, fun hinvocations hok => tiled_ok h hinvocations hok⟩
  · intro 𝕜 _ _ plan faces flux invocation cells hpatch hplan run hok
    subst hpatch
    obtain ⟨output, hwrites, hcells⟩ := tiled_divergence h hok
    refine ⟨output, hwrites, ?_⟩
    rw [← sum_volume_cellDivergence hplan.reciprocal h.positive faces flux]
    congr 1
    exact map_congr_left fun c hc => by rw [hcells c hc]

/-! Two cells, the upper one first. -/

def pairBoxes : List KernelBox := [⟨⟨1, 0, 0⟩, ⟨1, 1, 1⟩⟩, ⟨{}, ⟨1, 1, 1⟩⟩]

lemma pairBoxes_tiles : Tiles ⟨2, 1, 1⟩ pairBoxes := by
  refine ⟨by decide, by decide, ?_, ?_⟩
  · rw [pairBoxes, pairwise_pair, disjoint_left]
    intro c hc hc'
    rw [mem_kernelCells] at hc hc'
    dsimp only at hc hc'
    omega
  · intro c hc
    rw [mem_kernelCells] at hc
    simp only [patchBox] at hc
    by_cases hx : c.x = 0
    · exact ⟨⟨{}, ⟨1, 1, 1⟩⟩, by decide, mem_kernelCells.mpr (by dsimp only; omega)⟩
    · exact ⟨⟨⟨1, 0, 0⟩, ⟨1, 1, 1⟩⟩, by decide, mem_kernelCells.mpr (by dsimp only; omega)⟩

def pairMetric : AxisMetricData ℚ := ⟨[0, 2, 4], [1, 3], [2, 2], [1 / 2, 1 / 2], true, 2, 1 / 2⟩

def pairPacket : CartesianMetricPacket ℚ where
  faces := [0, 2, 4]
  centres := [1, 3]
  widths := [2, 2]
  inverseWidths := [1 / 2, 1 / 2]
  cells := 2
  localFaceOrigin := 0
  localCentreOrigin := 1
  uniformWidth := 2
  uniformInverseWidth := 1 / 2

def pairKernelPlan : CartesianKernelPlan ℚ where
  cells := ⟨2, 1, 1⟩
  geometryKind := .uniform
  fingerprint := 1
  metric _ := pairPacket

lemma pairKernelPlan_compiled : CompiledMetrics pairKernelPlan := by
  have hmetric : finishAxisMetrics [0, 2, 4] = .ok pairMetric := by
    norm_num [finishAxisMetrics, pairMetric]
  have hpacket : ∀ cells : ℤ, cells = 1 ∨ cells = 2 →
      compileMetric .uniform pairMetric 0 cells 1 false = some pairPacket := by
    rintro cells (rfl | rfl) <;> rfl
  intro axis
  refine ⟨[0, 2, 4], pairMetric, 0, 1, false, pairPacket, [], hmetric, hpacket _ ?_, le_rfl, ?_, fun _ => rfl, rfl⟩ <;>
    cases axis <;> decide

def pairFlux : FaceFluxView where
  x := ⟨some ⟨.storage 0, 0⟩, ⟨3, 1, 1⟩, 8, 8, .x, 1, 1⟩
  y := ⟨some ⟨.storage 0, 8⟩, ⟨2, 2, 1⟩, 8, 16, .y, 1, 1⟩
  z := ⟨some ⟨.storage 0, 24⟩, ⟨2, 1, 2⟩, 8, 8, .z, 1, 1⟩
  revision := 1

lemma pairFlux_space : InAddressSpace pairFlux := by
  have hcovers : ∀ p, Covers pairFlux p → p.block = .storage 0 ∧ p.offset < 2 ^ 61 := by
    rintro p ⟨face, hface, base, hbase, i, hi, rfl⟩
    have hi := (mem_faceIndices _ _).mp hi
    simp only [FaceFluxView.faces, pairFlux, mem_cons, not_mem_nil, or_false] at hface
    rcases hface with rfl | rfl | rfl <;> obtain rfl := some.inj hbase <;>
      simp only [FaceFieldView.at] at hi ⊢ <;> exact ⟨trivial, by omega⟩
  refine ⟨fun p => Fin.ofNat (2 ^ 61) p.offset, ?_⟩
  intro p hp q hq heq
  obtain ⟨hpb, hpo⟩ := hcovers p hp
  obtain ⟨hqb, hqo⟩ := hcovers q hq
  have hoffset := congrArg Fin.val heq
  simp only [Fin.val_ofNat, Nat.mod_eq_of_lt hpo, Nat.mod_eq_of_lt hqo] at hoffset
  cases p
  cases q
  simp_all

/-- Cells of one layer of ghosts. -/
def pairView (offset : ℤ) (components : ℕ) : FieldView where
  base := some ⟨0, 0, offset⟩
  interior := ⟨2, 1, 1⟩
  ghosts := ⟨1, 1, 1⟩
  components := components
  strideY := 8
  strideZ := 24
  componentStride := 72
  revision := 1
  storageIdentity := 1
  revisionDomain := 1

def pairReconstruction : KernelInvocation :=
  { reads := .of [pairView 33 1, pairView 105 3], counters := some {} }

def pairDivergence : KernelInvocation :=
  { writes := .of [pairView 33 1], requiredFaceFluxRevision := 1 }

theorem tiled_kernels_conserve_pair : TiledResult pairKernelPlan pairReconstruction ⟨fun _ => 0, []⟩
        (reconstructBoxes pairKernelPlan (fun _ => 1) pairReconstruction pairFlux ⟨fun _ => 0, []⟩ (some {}) pairBoxes)
        (reconstructMassFlux pairKernelPlan (fun _ => 1)
          { pairReconstruction with box := patchBox ⟨2, 1, 1⟩ } pairFlux ⟨fun _ => 0, []⟩) ∧
      ((faceIndices ⟨2, 1, 1⟩).map fun c => pairKernelPlan.cellVolume c * (pairView 33 1).unchecked
        (divergenceBoxes pairKernelPlan (fun p => (p.offset : ℚ)) pairFlux pairDivergence (fun _ => 0) none
          pairBoxes).2.1 c 0).sum = boundaryFlux (fun p => (p.offset : ℚ)) pairFlux ⟨2, 1, 1⟩ := by
  obtain ⟨hreconstruct, hdivergence⟩ := tiled_kernels_conserve pairBoxes_tiles
  constructor
  · exact (hreconstruct pairKernelPlan (fun _ => 1) pairReconstruction pairFlux ⟨fun _ => 0, []⟩ rfl
      pairFlux_space).1 (by decide +kernel)
  · obtain ⟨output, hwrites, hsum⟩ := hdivergence pairKernelPlan (fun p => (p.offset : ℚ)) pairFlux pairDivergence
      (fun _ => 0) rfl pairKernelPlan_compiled (by decide +kernel)
    obtain rfl : pairView 33 1 = output := by simpa [pairDivergence] using hwrites
    exact hsum

end HundunFlow.Proofs
