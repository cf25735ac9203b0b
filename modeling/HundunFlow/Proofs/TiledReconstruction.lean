import HundunFlow.Proofs.KernelTiling

/-!
# Reconstruction on the boxes of a tiling

A successful run on a box stores the rate of every face that the box visits, and the rate reads
cell fields only.
-/

namespace HundunFlow.Proofs

open Lib List Option

variable {F : Type} [KernelArithmetic F]

def faceAddress (flux : FaceFluxView) (p : CartesianAxis × Int3) : Address :=
  match (flux.select p.1).base with
  | none => ⟨.external 0, 0⟩
  | some base => (flux.select p.1).at base p.2

variable {view : FaceFieldView} {axis : CartesianAxis} {extents : Int3} {start : Address}
  {flux : FaceFluxView} {rate : CartesianAxis → Int3 → F} {s : FaceStores F} {r : Status × FaceStores F}
  {plan : CartesianKernelPlan F} {cells : Memory ArenaAddress F} {c : KernelCounters}
  {invocation : KernelInvocation} {boxes : List KernelBox}

lemma faceStorageInterval_spec {base : Address} {stop : ℕ} (h : faceStorageInterval view = some (base, stop)) :
    view.base = some base ∧ view.extents.x.toNat ≤ view.strideY ∧
      view.strideY * view.extents.y.toNat ≤ view.strideZ ∧
        stop = base.offset + ((view.extents.x.toNat - 1) + (view.extents.y.toNat - 1) * view.strideY +
          (view.extents.z.toNat - 1) * view.strideZ + 1) := by
  unfold faceStorageInterval at h
  simp only [Option.bind_eq_bind, guard_iff, Option.bind_eq_some_iff, Option.pure_def, Option.some.injEq,
    Prod.mk.injEq] at h
  obtain ⟨base', hbase, -, -, -, -, -, hrow, minimum, hminimum, -, hplane, span, -, lastY, hlastY, lastZ, hlastZ,
    offset, hoffset, offset', hoffset', stop', hstop', -, -, -, -, rfl, rfl⟩ := h
  obtain ⟨rfl, -⟩ := checkedMultiply_spec hminimum
  obtain ⟨rfl, -⟩ := checkedMultiply_spec hlastY
  obtain ⟨rfl, -⟩ := checkedMultiply_spec hlastZ
  obtain ⟨rfl, -⟩ := checkedAdd_spec hoffset
  obtain ⟨rfl, -⟩ := checkedAdd_spec hoffset'
  obtain ⟨rfl, -⟩ := checkedAdd_spec hstop'
  exact ⟨hbase, hrow, hplane, rfl⟩

structure ValidFaces (view : FaceFieldView) (extents : Int3) (start : Address) : Prop where
  base : view.base = some start
  row : extents.x.toNat ≤ view.strideY
  plane : view.strideY * extents.y.toNat ≤ view.strideZ
  interval : ∃ stop, faceStorageInterval view = some (start, stop) ∧
    ∀ i ∈ faceIndices extents, (view.at start i).offset < stop

lemma validFace_valid
    (h : validFace view axis extents = true) : view.extents = extents ∧ ∃ start, ValidFaces view extents start := by
  simp only [validFace, Bool.and_eq_true, decide_eq_true_eq, sameCells] at h
  obtain ⟨⟨⟨⟨hsome, -⟩, ⟨hex, hey⟩, hez⟩, -⟩, -⟩ := h
  obtain ⟨⟨start, stop⟩, hinterval⟩ := isSome_iff_exists.mp hsome
  obtain rfl : view.extents = extents := by
    cases hv : view.extents
    cases extents
    simp_all
  obtain ⟨hbase, hrow, hplane, rfl⟩ := faceStorageInterval_spec hinterval
  refine ⟨rfl, start, hbase, hrow, hplane, _, hinterval, ?_⟩
  intro i hi
  obtain ⟨hx, hy, hz⟩ := (mem_faceIndices _ _).mp hi
  have hiy := Nat.mul_le_mul_right view.strideY (show i.y.toNat ≤ view.extents.y.toNat - 1 by omega)
  have hiz := Nat.mul_le_mul_right view.strideZ (show i.z.toNat ≤ view.extents.z.toNat - 1 by omega)
  simp only [FaceFieldView.at]
  omega

lemma ValidFaces.at_inj (h : ValidFaces view extents start) {i i' : Int3} (hi : i ∈ faceIndices extents)
    (hi' : i' ∈ faceIndices extents) (heq : view.at start i = view.at start i') : i = i' := by
  rcases i with ⟨x, y, z⟩
  rcases i' with ⟨x', y', z'⟩
  obtain ⟨hx, hy, hz⟩ := (mem_faceIndices _ _).mp hi
  obtain ⟨hx', hy', hz'⟩ := (mem_faceIndices _ _).mp hi'
  simp only at hx hy hz hx' hy' hz'
  have hrow := h.row
  have hplane : ∀ {a b : ℕ}, a < view.strideY → b < extents.y.toNat → a + b * view.strideY < view.strideZ :=
    fun ha hb => (strided_lt ha hb).trans_le h.plane
  have hoffset : (x.toNat + y.toNat * view.strideY) + z.toNat * view.strideZ =
      (x'.toNat + y'.toNat * view.strideY) + z'.toNat * view.strideZ := by
    have := congrArg Address.offset heq
    simp only [FaceFieldView.at] at this
    omega
  obtain ⟨hlow, hzz⟩ := strided_inj (hplane (by omega) (by omega)) (hplane (by omega) (by omega)) hoffset
  obtain ⟨hxx, hyy⟩ := strided_inj (by omega) (by omega) hlow
  rw [Int3.mk.injEq]
  omega

def AcceptedFlux (flux : FaceFluxView) (cells : Int3) : Prop := ∃ revision, validFluxView flux cells revision = true

def axisExtents (axis : CartesianAxis) (cells : Int3) : Int3 := setAxis axis cells (axisIndex axis cells + 1)

lemma mem_patchFaces {cells : Int3} {p : CartesianAxis × Int3} :
    p ∈ patchFaces cells ↔ p.2 ∈ faceIndices (axisExtents p.1 cells) := by
  rw [← boxFaces_patchBox, mem_boxFaces, axisFaces_patchBox]
  rfl

lemma AcceptedFlux.select {cells : Int3} (h : AcceptedFlux flux cells) (axis : CartesianAxis) :
    (flux.select axis).extents = axisExtents axis cells ∧
      ∃ start, ValidFaces (flux.select axis) (axisExtents axis cells) start := by
  obtain ⟨revision, h⟩ := h
  unfold validFluxView at h
  split at h
  · exact nomatch h
  · simp only [Bool.and_eq_true] at h
    cases axis with
    | x => exact validFace_valid h.1.1.1.1.1.1.1.1.1.2
    | y => exact validFace_valid h.1.1.1.1.1.1.1.1.2
    | z => exact validFace_valid h.1.1.1.1.1.1.1.2

lemma AcceptedFlux.apart {cells : Int3} (h : AcceptedFlux flux cells) {axis' : CartesianAxis}
    (hne : axis ≠ axis') : faceViewsOverlap (flux.select axis) (flux.select axis') = false := by
  have hsymm : ∀ left right, faceViewsOverlap left right = faceViewsOverlap right left := by
    intro left right
    unfold faceViewsOverlap
    cases faceStorageInterval left <;> cases faceStorageInterval right <;> try rfl
    rw [Bool.eq_iff_iff]
    simp only [Bool.and_eq_true, decide_eq_true_eq, and_assoc]
    exact ⟨fun ⟨hblock, hl, hr⟩ => ⟨hblock.symm, hr, hl⟩, fun ⟨hblock, hl, hr⟩ => ⟨hblock.symm, hr, hl⟩⟩
  obtain ⟨revision, h⟩ := h
  unfold validFluxView at h
  split at h
  · exact nomatch h
  · simp only [Bool.and_eq_true, Bool.not_eq_true'] at h
    obtain ⟨⟨⟨⟨⟨⟨⟨-, hxy⟩, hxz⟩, hyz⟩, -⟩, -⟩, -⟩, -⟩ := h
    cases axis <;> cases axis' <;> simp_all [FaceFluxView.select]

lemma AcceptedFlux.address_inj {cells : Int3} (h : AcceptedFlux flux cells) {p q : CartesianAxis × Int3}
    (hp : p ∈ patchFaces cells) (hq : q ∈ patchFaces cells) (heq : faceAddress flux p = faceAddress flux q) : p = q := by
  rw [mem_patchFaces] at hp hq
  rcases p with ⟨axis, i⟩
  rcases q with ⟨axis', i'⟩
  obtain ⟨-, start, hstart⟩ := h.select axis
  obtain ⟨-, start', hstart'⟩ := h.select axis'
  simp only [faceAddress, hstart.base, hstart'.base] at heq
  by_cases hne : axis = axis'
  · subst hne
    obtain rfl : start = start' := some.inj (hstart.base.symm.trans hstart'.base)
    have hface : i = i' := hstart.at_inj hp hq heq
    rw [hface]
  · exfalso
    obtain ⟨stop, hinterval, hstop⟩ := hstart.interval
    obtain ⟨stop', hinterval', hstop'⟩ := hstart'.interval
    have hlt := hstop i hp
    have hlt' := hstop' i' hq
    have hapart := h.apart hne
    simp only [faceViewsOverlap, hinterval, hinterval', Bool.and_eq_false_iff, decide_eq_false_iff_not] at hapart
    have hblock : start.block = start'.block := (Address.mk.inj heq).1
    have hoffset := congrArg Address.offset heq
    have hlow : start.offset ≤ ((flux.select axis).at start i).offset := by
      simp only [FaceFieldView.at]
      omega
    have hlow' : start'.offset ≤ ((flux.select axis').at start' i').offset := by
      simp only [FaceFieldView.at]
      omega
    rcases hapart with (hapart | hapart) | hapart
    · exact hapart hblock
    · omega
    · omega

lemma AcceptedFlux.distinct {cells : Int3} (h : AcceptedFlux flux cells) :
    (patchFaces cells).Pairwise fun p q => faceAddress flux p ≠ faceAddress flux q := by
  have hnodup : (patchFaces cells).Nodup := by
    rw [← boxFaces_patchBox]
    exact boxFaces_nodup _
  refine List.Pairwise.imp_of_mem ?_ hnodup
  intro p q hp hq hne heq
  exact hne (h.address_inj hp hq heq)

def FaceStores.run (s : FaceStores F) (flux : FaceFluxView) (rate : CartesianAxis → Int3 → F)
    (faces : List (CartesianAxis × Int3)) : FaceStores F where
  memory := storeLoop (faceAddress flux) (fun _ p => rate p.1 p.2) s.memory faces
  written := s.written ++ faces

omit [KernelArithmetic F] in
lemma FaceStores.run_append (s : FaceStores F) (flux : FaceFluxView) (rate : CartesianAxis → Int3 → F)
    (faces faces' : List (CartesianAxis × Int3)) :
    FaceStores.run (FaceStores.run s flux rate faces) flux rate faces' = FaceStores.run s flux rate (faces ++ faces') := by
  simp only [FaceStores.run, storeLoop_append, append_assoc]

def AllFinite (rate : CartesianAxis → Int3 → F) (faces : List (CartesianAxis × Int3)) : Prop :=
  ∀ p ∈ faces, FaceValue.isFinite (rate p.1 p.2) = true

lemma AllFinite.append {faces faces' : List (CartesianAxis × Int3)} :
    AllFinite rate (faces ++ faces') ↔ AllFinite rate faces ∧ AllFinite rate faces' := by
  simp only [AllFinite, mem_append, or_imp, forall_and]

/-- A run from `s` succeeds when the rates of the faces are finite, and then has stored them all. -/
structure Stores (flux : FaceFluxView) (rate : CartesianAxis → Int3 → F) (s : FaceStores F)
    (faces : List (CartesianAxis × Int3)) (r : Status × FaceStores F) : Prop where
  ok : r.1.isOk = true ↔ AllFinite rate faces
  run : r.1.isOk = true → r.2 = FaceStores.run s flux rate faces

lemma Stores.andThen {faces faces' : List (CartesianAxis × Int3)} (h : Stores flux rate s faces r)
    {next : FaceStores F → Status × FaceStores F} (hnext : ∀ s', Stores flux rate s' faces' (next s')) :
    Stores flux rate s (faces ++ faces') (if !r.1.isOk then (r.1, r.2) else next r.2) := by
  by_cases hok : r.1.isOk = true
  · rw [if_neg (by simp [hok])]
    obtain ⟨hfinite, hrun⟩ := hnext r.2
    refine ⟨?_, fun hsuccess => ?_⟩
    · rw [hfinite, AllFinite.append]
      exact ⟨fun hnext => ⟨h.ok.mp hok, hnext⟩, fun hboth => hboth.2⟩
    · rw [hrun hsuccess, h.run hok, FaceStores.run_append]
  · rw [if_pos (by rw [Bool.eq_false_iff.mpr hok, Bool.not_false])]
    refine ⟨⟨fun hsuccess => absurd hsuccess hok, fun hfinite => ?_⟩, fun hsuccess => absurd hsuccess hok⟩
    exact absurd (h.ok.mpr (AllFinite.append.mp hfinite).1) hok

lemma storeRates_stores (hbase : (flux.select axis).base = some start) (rate : CartesianAxis → Int3 → F)
    (s : FaceStores F) (faces : List Int3) : Stores flux rate s (faces.map (axis, ·))
      (storeRates axis (flux.select axis) (rate axis) s faces) := by
  induction faces generalizing s with
  | nil =>
    refine ⟨⟨fun _ => by simp [AllFinite], fun _ => rfl⟩, fun _ => ?_⟩
    simp [storeRates, FaceStores.run]
  | cons face rest ih =>
    have hstore : s.store axis (flux.select axis) face (rate axis face) = FaceStores.run s flux rate [(axis, face)] := by
      simp only [FaceStores.store, hbase, FaceStores.run, storeLoop_cons, storeLoop_nil, faceAddress]
    have hcons : AllFinite rate ((face :: rest).map (axis, ·)) ↔
        FaceValue.isFinite (rate axis face) = true ∧ AllFinite rate (rest.map (axis, ·)) := by
      simp only [AllFinite, map_cons, mem_cons, forall_eq_or_imp]
    by_cases hfinite : FaceValue.isFinite (rate axis face) = true
    · rw [storeRates, if_pos hfinite]
      obtain ⟨hok, hrun⟩ := ih (s.store axis (flux.select axis) face (rate axis face))
      refine ⟨?_, fun h => ?_⟩
      · rw [hok, hcons]
        exact ⟨fun h => ⟨hfinite, h⟩, fun h => h.2⟩
      · rw [hrun h, hstore, FaceStores.run_append]
        rfl
    · rw [storeRates, if_neg hfinite]
      have hfails : ¬ (⟨.numericalFailure, kFaceNumerical⟩ : Status).isOk = true := by decide
      exact ⟨⟨fun h => absurd h hfails, fun h => absurd (hcons.mp h).1 hfinite⟩, fun h => absurd h hfails⟩

lemma reconstructAllAxes_stores {patch : Int3} (hflux : AcceptedFlux flux patch)
    (plan : CartesianKernelPlan F) (cells : Memory ArenaAddress F) (density velocity : FieldView) (box : KernelBox)
    (s : FaceStores F) : Stores flux (faceRate plan cells density velocity) s (boxFaces box)
      (reconstructAllAxes plan cells density velocity box flux s) := by
  have axis_stores : ∀ (axis : CartesianAxis) (s : FaceStores F),
      Stores flux (faceRate plan cells density velocity) s ((axisFaces axis box).map (axis, ·))
        (reconstructAxis plan cells density velocity axis box (flux.select axis) s) := by
    intro axis s
    obtain ⟨-, start, hstart⟩ := hflux.select axis
    exact storeRates_stores hstart.base _ s _
  rw [boxFaces, append_assoc]
  exact (axis_stores .x s).andThen fun s' => (axis_stores .y s').andThen fun s'' => axis_stores .z s''

/-- The counters after `count` more runs over so many cells and faces. -/
def countersPlus (c : KernelCounters) (count cells faces : ℕ) : KernelCounters where
  invocations := c.invocations + count
  cells := c.cells + cells
  faces := c.faces + faces
  logicalBytesRead := c.logicalBytesRead + 4 * faces * 8
  logicalBytesWritten := c.logicalBytesWritten + faces * 8

structure CountersFit (c : KernelCounters) : Prop where
  invocations : c.invocations ≤ maxU64
  cells : c.cells ≤ maxU64
  faces : c.faces ≤ maxU64
  logicalBytesRead : c.logicalBytesRead ≤ maxU64
  logicalBytesWritten : c.logicalBytesWritten ≤ maxU64

lemma checkedCounterAdd_iff {destination increment result : ℕ} (h : 0 < increment) :
    checkedCounterAdd destination increment = some result ↔
      result = destination + increment ∧ destination + increment ≤ maxU64 := by
  unfold checkedCounterAdd
  split_ifs with hover
  · simp only [false_iff]
    omega
  · simp only [some.injEq]
    omega

lemma addKernelCounterTotals_iff {c c' : KernelCounters} {cells faces : ℕ} (hcells : 0 < cells) (hfaces : 0 < faces) :
    addKernelCounterTotals c cells faces (4 * faces) faces = .ok c' ↔
      c' = countersPlus c 1 cells faces ∧ CountersFit (countersPlus c 1 cells faces) := by
  have hreads : 0 < 4 * faces * 8 := by omega
  have hwrites : 0 < faces * 8 := by omega
  unfold addKernelCounterTotals
  rw [if_neg (by omega)]
  split_ifs with hover
  · simp only [false_iff, not_and]
    rintro - hfit
    have hread := hfit.logicalBytesRead
    have hwritten := hfit.logicalBytesWritten
    simp only [countersPlus, Bool.or_eq_true, decide_eq_true_eq] at hread hwritten hover
    omega
  · simp only [Option.bind_eq_bind, Option.pure_def]
    split
    · rename_i hnone
      simp only [reduceCtorEq, false_iff, not_and]
      rintro - hfit
      rw [(checkedCounterAdd_iff one_pos).mpr ⟨rfl, hfit.invocations⟩, bind_some,
        (checkedCounterAdd_iff hcells).mpr ⟨rfl, hfit.cells⟩, bind_some,
        (checkedCounterAdd_iff hfaces).mpr ⟨rfl, hfit.faces⟩, bind_some,
        (checkedCounterAdd_iff hreads).mpr ⟨rfl, hfit.logicalBytesRead⟩, bind_some,
        (checkedCounterAdd_iff hwrites).mpr ⟨rfl, hfit.logicalBytesWritten⟩, bind_some] at hnone
      exact nomatch hnone
    · rename_i candidate hsome
      simp only [bind_eq_some_iff, checkedCounterAdd_iff one_pos, checkedCounterAdd_iff hcells,
        checkedCounterAdd_iff hfaces, checkedCounterAdd_iff hreads, checkedCounterAdd_iff hwrites,
        some.injEq] at hsome
      obtain ⟨_, ⟨rfl, hi⟩, _, ⟨rfl, hc⟩, _, ⟨rfl, hf⟩, _, ⟨rfl, hr⟩, _, ⟨rfl, hw⟩, rfl⟩ := hsome
      rw [Except.ok.injEq]
      exact ⟨fun h => ⟨h.symm, hi, hc, hf, hr, hw⟩, fun h => h.1.symm⟩

/-- Where a run on a box ends: it succeeds under a condition that the order of boxes cannot change. -/
structure BoxRun (plan : CartesianKernelPlan F) (cells : Memory ArenaAddress F) (density velocity : FieldView)
    (flux : FaceFluxView) (s : FaceStores F) (counters : Option KernelCounters) (box : KernelBox)
    (r : Status × FaceStores F × Option KernelCounters) : Prop where
  ok : r.1.isOk = true ↔ AllFinite (faceRate plan cells density velocity) (boxFaces box) ∧
    (boxFaces box).length ≤ maxU64 / 4 ∧
      ∀ c ∈ counters, CountersFit (countersPlus c 1 (kernelCells box).length (boxFaces box).length)
  run : r.1.isOk = true → r.2.1 = FaceStores.run s flux (faceRate plan cells density velocity) (boxFaces box)
  counters : r.1.isOk = true →
    r.2.2 = counters.map (countersPlus · 1 (kernelCells box).length (boxFaces box).length)

section

omit [KernelArithmetic F]

variable {invocation : KernelInvocation} {views : FieldView × FieldView} {flux : FaceFluxView}
  {plan : CartesianKernelPlan F}

lemma massFluxReads_accepted (h : massFluxReads plan invocation flux = some views) :
    validKernelBox invocation.box plan.cells = true ∧ AcceptedFlux flux plan.cells := by
  unfold massFluxReads at h
  split at h
  · split_ifs at h with hchecks
    simp only [Bool.or_eq_true, not_or, Bool.not_eq_true, Bool.not_eq_false'] at hchecks
    exact ⟨hchecks.1.1.1.1.1.1.2, flux.revision, hchecks.1.1.1.2⟩
  · exact nomatch h

lemma massFluxReads_box (h : massFluxReads plan invocation flux = some views) {box : KernelBox}
    (hbox : validKernelBox box plan.cells = true) (counters : Option KernelCounters) :
    massFluxReads plan { invocation with box := box, counters := counters } flux = some views := by
  have hvalid := (massFluxReads_accepted h).1
  unfold massFluxReads at h ⊢
  split at h
  · rename_i density velocity hreads
    simp only [hreads, hbox]
    simpa only [hvalid] using h
  · exact nomatch h

end

lemma boxRun_of_stores {density velocity : FieldView} {box : KernelBox}
    (hstores : Stores flux (faceRate plan cells density velocity) s (boxFaces box) r)
    {counters prepared : Option KernelCounters} (hcount : (boxFaces box).length ≤ maxU64 / 4)
    (hfit : ∀ c ∈ counters, CountersFit (countersPlus c 1 (kernelCells box).length (boxFaces box).length))
    (hprepared : prepared = counters.map (countersPlus · 1 (kernelCells box).length (boxFaces box).length)) :
    BoxRun plan cells density velocity flux s counters box
      (if !r.1.isOk then (r.1, r.2, counters) else (r.1, r.2, prepared)) := by
  have hstatus : (if !r.1.isOk then (r.1, r.2, counters) else (r.1, r.2, prepared)).1 = r.1 := by
    split_ifs <;> rfl
  refine ⟨?_, fun hok => ?_, fun hok => ?_⟩
  · rw [hstatus, hstores.ok]
    exact ⟨fun hfinite => ⟨hfinite, hcount, hfit⟩, fun h => h.1⟩
  · rw [hstatus] at hok
    rw [if_neg (by simp [hok])]
    exact hstores.run hok
  · rw [hstatus] at hok
    rw [if_neg (by simp [hok])]
    exact hprepared

lemma addKernelCounterTotals_error {cells faces reads writes : ℕ} {status : Status}
    (h : addKernelCounterTotals c cells faces reads writes = .error status) : ¬ status.isOk = true := by
  have hfail : ¬ (⟨.invalidPlan, kKernelInvocation⟩ : Status).isOk = true := by decide
  unfold addKernelCounterTotals at h
  split_ifs at h with hcells hbytes
  · rwa [← Except.error.inj h]
  · rwa [← Except.error.inj h]
  · dsimp only at h
    split at h
    · rwa [← Except.error.inj h]
    · exact nomatch h

lemma reconstructMassFlux_boxRun {density velocity : FieldView}
    (h : massFluxReads plan invocation flux = some (density, velocity)) (cells : Memory ArenaAddress F)
    (s : FaceStores F) : BoxRun plan cells density velocity flux s invocation.counters invocation.box
      (reconstructMassFlux plan cells invocation flux s) := by
  obtain ⟨hbox, hflux⟩ := massFluxReads_accepted h
  obtain ⟨hpos, hle⟩ := boxCellCount_le hbox
  have hfail : ¬ (⟨.invalidPlan, kFaceKernel⟩ : Status).isOk = true := by decide
  have hmax : maxU64 / 4 ≤ maxU64 := Nat.div_le_self _ _
  unfold reconstructMassFlux
  simp only [h]
  cases hcount : checkedFaceCount invocation.box with
  | none =>
    have hover : ¬ (boxFaces invocation.box).length ≤ maxU64 / 4 := by
      intro hfits
      rw [(checkedFaceCount_iff hbox).mpr ⟨rfl, hfits.trans hmax⟩] at hcount
      exact nomatch hcount
    exact ⟨⟨fun hok => absurd hok hfail, fun hok => absurd hok.2.1 hover⟩, fun hok => absurd hok hfail,
      fun hok => absurd hok hfail⟩
  | some count =>
    obtain ⟨rfl, hcount⟩ := (checkedFaceCount_iff hbox).mp hcount
    have hcells := boxCellCount_eq (hle.trans hcount) ((validCells_iff _).mpr (validKernelBox_iff.mp hbox).1)
    simp only [hcells]
    by_cases hover : maxU64 / 4 < (boxFaces invocation.box).length
    · rw [if_pos hover]
      exact ⟨⟨fun hok => absurd hok hfail, fun hok => absurd hok.2.1 (by omega)⟩, fun hok => absurd hok hfail,
        fun hok => absurd hok hfail⟩
    · rw [if_neg hover]
      have hstores := reconstructAllAxes_stores hflux plan cells density velocity invocation.box s
      have hfaces : 0 < (boxFaces invocation.box).length := lt_of_lt_of_le hpos hle
      cases hcnt : invocation.counters with
      | none =>
        dsimp only [mapM_none]
        exact boxRun_of_stores hstores (by omega) (by simp) rfl
      | some c =>
        have hadd := fun prepared => @addKernelCounterTotals_iff c prepared _ _ hpos hfaces
        cases htotals : addKernelCounterTotals c (kernelCells invocation.box).length (boxFaces invocation.box).length
            (4 * (boxFaces invocation.box).length) (boxFaces invocation.box).length with
        | error status =>
          have hnot := addKernelCounterTotals_error htotals
          simp only [mapM_some, htotals]
          refine ⟨⟨fun hok => absurd hok hnot, fun hok => ?_⟩, fun hok => absurd hok hnot, fun hok => absurd hok hnot⟩
          rw [(hadd _).mpr ⟨rfl, hok.2.2 c rfl⟩] at htotals
          exact nomatch htotals
        | ok prepared =>
          obtain ⟨rfl, hfit⟩ := (hadd prepared).mp htotals
          simp only [mapM_some, htotals]
          exact boxRun_of_stores hstores (by omega) (by simpa using hfit) rfl

lemma countersPlus_plus (c : KernelCounters) (n cells faces n' cells' faces' : ℕ) :
    countersPlus (countersPlus c n cells faces) n' cells' faces' =
      countersPlus c (n + n') (cells + cells') (faces + faces') := by
  simp only [countersPlus, KernelCounters.mk.injEq]
  omega

lemma CountersFit.mono {n cells faces n' cells' faces' : ℕ} (h : CountersFit (countersPlus c n cells faces))
    (hn : n' ≤ n) (hcells : cells' ≤ cells) (hfaces : faces' ≤ faces) :
    CountersFit (countersPlus c n' cells' faces') := by
  obtain ⟨hi, hc, hf, hr, hw⟩ := h
  simp only [countersPlus] at hi hc hf hr hw
  exact ⟨by simp only [countersPlus]; omega, by simp only [countersPlus]; omega, by simp only [countersPlus]; omega,
    by simp only [countersPlus]; omega, by simp only [countersPlus]; omega⟩

structure BoxesRun (plan : CartesianKernelPlan F) (cells : Memory ArenaAddress F) (density velocity : FieldView)
    (flux : FaceFluxView) (s : FaceStores F) (counters : Option KernelCounters) (boxes : List KernelBox)
    (r : Status × FaceStores F × Option KernelCounters) : Prop where
  finite : AllFinite (faceRate plan cells density velocity) (boxes.flatMap boxFaces)
  fit : boxes ≠ [] → ∀ c ∈ counters,
    CountersFit (countersPlus c boxes.length (boxes.flatMap kernelCells).length (boxes.flatMap boxFaces).length)
  run : r.2.1 = FaceStores.run s flux (faceRate plan cells density velocity) (boxes.flatMap boxFaces)
  counters : r.2.2 = counters.map
    (countersPlus · boxes.length (boxes.flatMap kernelCells).length (boxes.flatMap boxFaces).length)

lemma reconstructBoxes_run
    {density velocity : FieldView} (h : massFluxReads plan { invocation with box := patchBox plan.cells } flux =
      some (density, velocity))
    (cells : Memory ArenaAddress F)
    (hboxes : ∀ box ∈ boxes, validKernelBox box plan.cells = true) (s : FaceStores F) (counters : Option KernelCounters)
    (hok : (reconstructBoxes plan cells invocation flux s counters boxes).1.isOk = true) :
    BoxesRun plan cells density velocity flux s counters boxes
      (reconstructBoxes plan cells invocation flux s counters boxes) := by
  induction boxes generalizing s counters with
  | nil =>
    refine ⟨nofun, fun hne => absurd rfl hne, ?_, ?_⟩
    · simp [reconstructBoxes, FaceStores.run]
    · cases counters <;> simp [reconstructBoxes, countersPlus]
  | cons box rest ih =>
    have hfirst := reconstructMassFlux_boxRun
      (massFluxReads_box h (hboxes box mem_cons_self) counters) cells s
    dsimp only at hfirst
    rw [reconstructBoxes] at hok ⊢
    generalize reconstructMassFlux plan cells { invocation with box := box, counters := counters } flux s = r at *
    obtain ⟨status, s', counters'⟩ := r
    dsimp only at hfirst hok ⊢
    by_cases hstatus : status.isOk = true
    · rw [if_neg (by simp [hstatus])] at hok ⊢
      obtain ⟨hfinite, hcount, hfit⟩ := hfirst.ok.mp hstatus
      obtain rfl : s' = _ := hfirst.run hstatus
      obtain rfl : counters' = _ := hfirst.counters hstatus
      have hrest := ih (fun box hbox => hboxes box (mem_cons_of_mem _ hbox)) _ _ hok
      refine ⟨?_, ?_, ?_, ?_⟩
      · rw [flatMap_cons, AllFinite.append]
        exact ⟨hfinite, hrest.finite⟩
      · intro _ c hc
        by_cases hempty : rest = []
        · subst hempty
          simpa using hfit c hc
        · have hlater := hrest.fit hempty _ (Option.mem_map_of_mem _ hc)
          rw [countersPlus_plus] at hlater
          simpa only [flatMap_cons, length_append, length_cons, Nat.add_comm 1] using hlater
      · rw [hrest.run, FaceStores.run_append, flatMap_cons]
      · rw [hrest.counters, Option.map_map]
        congr 1
        funext c
        simp only [Function.comp, countersPlus_plus, flatMap_cons, length_append, length_cons,
          Nat.add_comm 1]
    · rw [if_pos (by rw [Bool.eq_false_iff.mpr hstatus, Bool.not_false])] at hok
      exact absurd hok hstatus

lemma reconstructBoxes_ok
    {density velocity : FieldView} (h : massFluxReads plan { invocation with box := patchBox plan.cells } flux =
      some (density, velocity))
    (cells : Memory ArenaAddress F)
    (hboxes : ∀ box ∈ boxes, validKernelBox box plan.cells = true)
    (hfinite : AllFinite (faceRate plan cells density velocity) (boxes.flatMap boxFaces))
    (hcount : (boxes.flatMap boxFaces).length ≤ maxU64 / 4) (s : FaceStores F) (counters : Option KernelCounters)
    (hfit : ∀ c ∈ counters,
      CountersFit (countersPlus c boxes.length (boxes.flatMap kernelCells).length (boxes.flatMap boxFaces).length)) :
    (reconstructBoxes plan cells invocation flux s counters boxes).1.isOk = true := by
  induction boxes generalizing s counters with
  | nil => rfl
  | cons box rest ih =>
    have hfirst := reconstructMassFlux_boxRun
      (massFluxReads_box h (hboxes box mem_cons_self) counters) cells s
    dsimp only at hfirst
    rw [flatMap_cons, length_append] at hcount
    rw [flatMap_cons, AllFinite.append] at hfinite
    simp only [flatMap_cons, length_append, length_cons] at hfit
    have hstatus := hfirst.ok.mpr ⟨hfinite.1, by omega, fun c hc => (hfit c hc).mono (by omega) (by omega) (by omega)⟩
    have hcnt := hfirst.counters hstatus
    rw [reconstructBoxes]
    generalize reconstructMassFlux plan cells { invocation with box := box, counters := counters } flux s = r at *
    obtain ⟨status, s', counters'⟩ := r
    dsimp only at hstatus hcnt ⊢
    rw [if_neg (by simp [hstatus])]
    refine ih (fun box hbox => hboxes box (mem_cons_of_mem _ hbox)) hfinite.2 (by omega) _ _ ?_
    intro c' hc'
    rw [hcnt] at hc'
    obtain ⟨c, hc, rfl⟩ := Option.mem_map.mp hc'
    rw [countersPlus_plus]
    exact (hfit c hc).mono (by omega) le_rfl le_rfl

/-- The doubles of the views lie at places of one address space, which holds `2 ^ 61` of them. -/
def InAddressSpace (flux : FaceFluxView) : Prop := ∃ place : Address → Fin (2 ^ 61), Set.InjOn place {p | Covers flux p}

lemma AcceptedFlux.faces_le {cells : Int3} (h : AcceptedFlux flux cells)
    (hspace : InAddressSpace flux) : (patchFaces cells).length ≤ 2 ^ 61 := by
  obtain ⟨place, hplace⟩ := hspace
  have hcovers : ∀ p ∈ patchFaces cells, Covers flux (faceAddress flux p) := by
    rintro ⟨axis, face⟩ hp
    rw [mem_patchFaces] at hp
    obtain ⟨hextents, start, hstart⟩ := h.select axis
    refine ⟨flux.select axis, ?_, start, hstart.base, face, ?_, ?_⟩
    · cases axis <;> simp [FaceFluxView.faces, FaceFluxView.select]
    · rwa [hextents]
    · simp only [faceAddress, hstart.base]
  have hnodup : ((patchFaces cells).map fun p => place (faceAddress flux p)).Nodup := by
    rw [nodup_map_iff_inj_on]
    · intro p hp q hq heq
      exact h.address_inj hp hq (hplace (hcovers p hp) (hcovers q hq) heq)
    · rw [← boxFaces_patchBox]
      exact boxFaces_nodup _
  have hcard := hnodup.length_le_card
  rwa [length_map, Fintype.card_fin] at hcard

lemma Tiles.ne_nil {cells : Int3} (h : Tiles cells boxes) : boxes ≠ [] := by
  have hpos := h.positive
  rw [validCells_iff] at hpos
  obtain ⟨box, hbox, -⟩ := h.cover {} (mem_kernelCells.mpr (by simp only [patchBox]; omega))
  exact ne_nil_of_mem hbox

lemma Tiles.reads (h : Tiles plan.cells boxes)
    (hok : (reconstructBoxes plan cells invocation flux s invocation.counters boxes).1.isOk = true) :
    ∃ views, massFluxReads plan { invocation with box := patchBox plan.cells } flux = some views := by
  obtain ⟨box, rest, rfl⟩ := exists_cons_of_ne_nil h.ne_nil
  cases hreads : massFluxReads plan { invocation with box := box } flux with
  | none =>
    rw [reconstructBoxes, reconstructMassFlux] at hok
    simp only [hreads] at hok
    have hfail : ¬ (⟨.invalidPlan, kFaceKernel⟩ : Status).isOk = true := by decide
    rw [if_pos (by decide)] at hok
    exact absurd hok hfail
  | some views =>
    exact ⟨views, massFluxReads_box hreads (validKernelBox_patchBox h.positive) invocation.counters⟩

/-- What a tiled run that succeeds leaves. -/
structure TiledResult (plan : CartesianKernelPlan F) (invocation : KernelInvocation) (s : FaceStores F)
    (tiled single : Status × FaceStores F × Option KernelCounters) : Prop where
  /-- Every face of the three families is written once. -/
  once : ∃ stores, tiled.2.1.written = s.written ++ stores ∧ stores.Perm (patchFaces plan.cells) ∧ stores.Nodup
  /-- The reported counts add up to the number of faces. -/
  counted : ∀ c ∈ invocation.counters, ∃ c' ∈ tiled.2.2, c'.faces = c.faces + (patchFaces plan.cells).length
  succeeds : single.1.isOk = true
  memory : tiled.2.1.memory = single.2.1.memory

lemma tiled_result (h : Tiles plan.cells boxes) (hspace : InAddressSpace flux)
    (hok : (reconstructBoxes plan cells invocation flux s invocation.counters boxes).1.isOk = true) :
    TiledResult plan invocation s (reconstructBoxes plan cells invocation flux s invocation.counters boxes)
      (reconstructMassFlux plan cells { invocation with box := patchBox plan.cells } flux s) := by
  obtain ⟨⟨density, velocity⟩, hreads⟩ := h.reads hok
  have hflux : AcceptedFlux flux plan.cells := (massFluxReads_accepted hreads).2
  have htiled := reconstructBoxes_run hreads cells h.valid s invocation.counters hok
  have hsingle := reconstructMassFlux_boxRun hreads cells s
  have hfaces := h.faces_perm
  have hcellsLength := h.cells_perm.length_eq
  have hlength := hfaces.length_eq
  have hspace' := hflux.faces_le hspace
  have hsingleRun := hsingle.run
  have hone := hsingle.ok
  dsimp only at hsingleRun hone
  rw [boxFaces_patchBox] at hsingleRun hone
  replace hone := hone.mpr ⟨fun p hp => htiled.finite p (hfaces.mem_iff.mpr hp),
    hspace'.trans (by decide), fun c hc => by
      have hfit := htiled.fit h.ne_nil c hc
      rw [hcellsLength, hlength] at hfit
      exact hfit.mono (length_pos_of_ne_nil h.ne_nil) le_rfl le_rfl⟩
  refine ⟨⟨boxes.flatMap boxFaces, ?_, hfaces, ?_⟩, ?_, hone, ?_⟩
  · rw [htiled.run]
    rfl
  · rw [hfaces.nodup_iff, ← boxFaces_patchBox]
    exact boxFaces_nodup _
  · intro c hc
    rw [htiled.counters]
    refine ⟨_, Option.mem_map_of_mem _ hc, ?_⟩
    rw [← hlength]
    rfl
  · rw [htiled.run, hsingleRun hone]
    exact storeLoop_perm s.memory hfaces (hfaces.pairwise_iff (fun hne => hne.symm) |>.mpr hflux.distinct) _

lemma tiled_ok (h : Tiles plan.cells boxes)
    (hinvocations : ∀ c ∈ invocation.counters, c.invocations + boxes.length ≤ maxU64)
    (hok : (reconstructMassFlux plan cells { invocation with box := patchBox plan.cells } flux s).1.isOk = true) :
    (reconstructBoxes plan cells invocation flux s invocation.counters boxes).1.isOk = true := by
  cases hreads : massFluxReads plan { invocation with box := patchBox plan.cells } flux with
  | none =>
    rw [reconstructMassFlux] at hok
    simp only [hreads] at hok
    have hfail : ¬ (⟨.invalidPlan, kFaceKernel⟩ : Status).isOk = true := by decide
    exact absurd hok hfail
  | some views =>
    obtain ⟨density, velocity⟩ := views
    obtain ⟨hfinite, hcount, hfit⟩ := (reconstructMassFlux_boxRun hreads cells s).ok.mp hok
    dsimp only at hfinite hcount hfit
    rw [boxFaces_patchBox] at hfinite hcount hfit
    have hfaces := h.faces_perm
    refine reconstructBoxes_ok hreads cells h.valid (fun p hp => hfinite p (hfaces.mem_iff.mp hp))
      (hfaces.length_eq.trans_le hcount) s _ ?_
    intro c hc
    rw [h.cells_perm.length_eq, hfaces.length_eq]
    obtain ⟨-, hcells, hfacesFit, hread, hwritten⟩ := hfit c hc
    exact ⟨hinvocations c hc, hcells, hfacesFit, hread, hwritten⟩

end HundunFlow.Proofs
