import HundunFlow.Proofs.TopologyRegions

/-!
# Regions and links agree with the global box

After a compilation on all ranks, every rank reads the regions of the global box four cells around its
patch, and the links of all ranks are the pairs of a fluid and a solid cell in the box.
-/

namespace HundunFlow.Proofs

open Lib EBTopology MgWorkspace List

variable {globalCells cell : Int3} {periodic : Axis → Bool}

lemma real_iff : Real globalCells periodic cell ↔
    (periodic .x = true ∨ 0 ≤ cell.x ∧ cell.x < globalCells.x) ∧ (periodic .y = true ∨ 0 ≤ cell.y ∧ cell.y < globalCells.y) ∧
      (periodic .z = true ∨ 0 ≤ cell.z ∧ cell.z < globalCells.z) := by
  constructor
  · intro h
    exact ⟨h .x, h .y, h .z⟩
  · rintro ⟨hx, hy, hz⟩ axis
    cases axis
    · exact hx
    · exact hy
    · exact hz

lemma outside_iff {periodic : Bool} {c extent : ℤ} :
    (!periodic && (decide (c < 0) || decide (extent ≤ c))) = true ↔ ¬ (periodic = true ∨ 0 ≤ c ∧ c < extent) := by
  cases periodic
  · simp only [Bool.not_false, Bool.true_and, Bool.or_eq_true, decide_eq_true_eq, Bool.false_eq_true, false_or]
    omega
  · simp

lemma not_real_iff : ((!periodic .x && (cell.x < 0 || globalCells.x ≤ cell.x)) ||
      (!periodic .y && (cell.y < 0 || globalCells.y ≤ cell.y)) ||
      (!periodic .z && (cell.z < 0 || globalCells.z ≤ cell.z))) = true ↔ ¬ Real globalCells periodic cell := by
  rw [Bool.or_eq_true, Bool.or_eq_true, outside_iff, outside_iff, outside_iff, real_iff]
  tauto

lemma isFluidGlobal_iff {topology : EBTopology} {cell : Int3} (hwidth : topology.regionHaloWidth = kRegionHalo)
    (hnear : Near topology.patch (fun _ => kRegionHalo) cell) : topology.isFluidGlobal cell = true ↔
      Real topology.globalCells topology.periodicAxes cell ∧ view topology.patch topology.haloRegion cell = fluid := by
  have hx := hnear .x
  have hy := hnear .y
  have hz := hnear .z
  simp only [patchEnd, component] at hx hy hz
  unfold isFluidGlobal
  simp only [hwidth]
  split_ifs with hout hfar
  · have hnot := not_real_iff.mp hout
    exact iff_of_false (by simp) fun h => hnot h.1
  · omega
  · rw [decide_eq_true_eq]
    have hreal := not_not.mp fun h => hout (not_real_iff.mpr h)
    exact (and_iff_right hreal).symm

lemma inside_iff : inside cell globalCells = true ↔ InBox globalCells cell := by
  simp only [inside, InBox, Bool.and_eq_true, decide_eq_true_eq]
  tauto

structure ImmersedPair (globalCells : Int3) (value : Int3 → ℕ) (cell : Int3) (direction : Fin 6) : Prop where
  fluidInside : InBox globalCells cell
  isFluid : value cell = fluid
  solidInside : InBox globalCells (addIndex cell (directionDelta direction))
  isSolid : value (addIndex cell (directionDelta direction)) = solid

def placeOf (link : ImmersedLink) : Site := (link.fluidGlobalIndex, link.direction)

structure GloballyNumbered (globalCells : Int3) (link : ImmersedLink) : Prop where
  solidIndex : link.solidGlobalIndex = addIndex link.fluidGlobalIndex (directionDelta link.direction)
  fluidCell : (link.fluidCell : ℤ) = flatIndex globalCells.x globalCells.y link.fluidGlobalIndex.x
    link.fluidGlobalIndex.y link.fluidGlobalIndex.z
  solidCell : (link.solidCell : ℤ) = flatIndex globalCells.x globalCells.y link.solidGlobalIndex.x
    link.solidGlobalIndex.y link.solidGlobalIndex.z
  globalLink : link.globalLink = 6 * link.fluidCell + link.direction

lemma directionDelta_bound (direction : Fin 6) (axis : Axis) :
    -1 ≤ component (directionDelta direction) axis ∧ component (directionDelta direction) axis ≤ 1 := by
  revert direction
  cases axis <;> decide

lemma near_neighbor {patch : MeshPatch} (h : Contains patch cell) (direction : Fin 6) :
    Near patch (fun _ => kRegionHalo) (addIndex cell (directionDelta direction)) := by
  intro axis
  have hcell := contains_iff_axes.mp h axis
  have hdelta := directionDelta_bound direction axis
  have hwidth : kRegionHalo = 4 := rfl
  change _ - kRegionHalo ≤ _ ∧ _ < _ + kRegionHalo
  rw [component_addIndex]
  omega

lemma linkSite_index (cell begin_ delta : Int3) :
    addIndex (haloIndex (subIndex cell begin_)) delta = haloIndex (subIndex (addIndex cell delta) begin_) := by
  apply int3_ext
  intro axis
  simp only [component_addIndex, component_haloIndex, component_subIndex]
  ring

section Links

variable {input : TopologyInput} {halo : Region} {value : Int3 → ℕ}

variable {link : ImmersedLink} {comm : RankComm}

lemma placeOf_madeBy (h : MadeBy input link) :
    placeOf link = (addIndex input.patch.begin (siteOf link).1, (siteOf link).2) := by
  obtain ⟨triangle, hlink⟩ := h
  rw [hlink]
  rfl

structure Knows (input : TopologyInput) (halo : Region) (value : Int3 → ℕ) : Prop where
  own : ∀ cell, Contains input.patch cell → value cell = input.region (subIndex cell input.patch.begin)
  near : ∀ cell, Near input.patch (fun _ => kRegionHalo) cell → InBox input.globalCells cell →
    view input.patch halo cell = value cell
  inBox : ∀ cell, Contains input.patch cell → InBox input.globalCells cell

lemma mem_linkSites_iff (hknows : Knows input halo value) {cell : Int3} {direction : Fin 6} :
    (subIndex cell input.patch.begin, direction) ∈ linkSites input halo input.fluidCells ↔
      Contains input.patch cell ∧ ImmersedPair input.globalCells value cell direction := by
  rw [mem_linkSites, mem_boxIndices_iff_contains, addIndex_subIndex, inside_iff, linkSite_index]
  constructor
  · rintro ⟨⟨hown, hfluid⟩, hinside, hsolid⟩
    refine ⟨hown, hknows.inBox cell hown, ?_, hinside, ?_⟩
    · rw [hknows.own cell hown]
      exact hfluid
    · rw [← hknows.near _ (near_neighbor hown direction) hinside]
      exact hsolid
  · rintro ⟨hown, hpair⟩
    refine ⟨⟨hown, ?_⟩, hpair.solidInside, ?_⟩
    · rw [← hknows.own cell hown]
      exact hpair.isFluid
    · have hnear := hknows.near _ (near_neighbor hown direction) hpair.solidInside
      exact hnear.trans hpair.isSolid

lemma links_exact (hknows : Knows input halo value) (hok : (input.buildLinks halo).1.isOk = true) :
    ((input.buildLinks halo).2.1.map placeOf).Nodup ∧ ∀ cell direction,
      (cell, direction) ∈ (input.buildLinks halo).2.1.map placeOf ↔
        Contains input.patch cell ∧ ImmersedPair input.globalCells value cell direction := by
  obtain ⟨hsites, hmade⟩ := buildLinks_ok hok
  have hplaces : (input.buildLinks halo).2.1.map placeOf = (linkSites input halo input.fluidCells).map
      fun site => (addIndex input.patch.begin site.1, site.2) := by
    rw [← hsites, map_map]
    exact map_congr_left fun link hlink => placeOf_madeBy (hmade link hlink)
  rw [hplaces]
  constructor
  · apply Nodup.map _ linkSites_nodup
    rintro ⟨cell, direction⟩ ⟨cell', direction'⟩ h
    rw [Prod.mk.injEq] at h
    have hcell := congrArg (subIndex · input.patch.begin) h.1
    simp only [subIndex_addIndex] at hcell
    rw [Prod.mk.injEq]
    exact ⟨hcell, h.2⟩
  · intro cell direction
    rw [← mem_linkSites_iff hknows, mem_map]
    constructor
    · rintro ⟨⟨own, direction'⟩, hmem, hplace⟩
      rw [Prod.mk.injEq] at hplace
      obtain ⟨rfl, rfl⟩ := hplace
      rw [subIndex_addIndex]
      exact hmem
    · intro hmem
      exact ⟨_, hmem, by rw [addIndex_subIndex]⟩

lemma globalId_eq {cells cell : Int3} {count : ℕ} (hcount : checkedProduct cells = some count) (hmax : count < 2 ^ 64)
    (h : InBox cells cell) : (globalId cell cells : ℤ) = flatIndex cells.x cells.y cell.x cell.y cell.z ∧
      globalId cell cells < count := by
  obtain ⟨⟨hx, hx'⟩, ⟨hy, hy'⟩, hz, hz'⟩ := h
  have hnonneg : 0 ≤ flatIndex cells.x cells.y cell.x cell.y cell.z := flatIndex_nonneg hx hx' hy hy' hz
  have hlt := flatIndex_lt hx' hx hy' hy hz'
  have hproduct : (count : ℤ) = cells.x * cells.y * cells.z := by
    unfold checkedProduct at hcount
    simp only at hcount
    split_ifs at hcount
    rw [← Option.some.inj hcount]
    push_cast
    rw [Int.toNat_of_nonneg (by omega), Int.toNat_of_nonneg (by omega), Int.toNat_of_nonneg (by omega)]
  have hmod : flatIndex cells.x cells.y cell.x cell.y cell.z % 2 ^ 64 = flatIndex cells.x cells.y cell.x cell.y cell.z :=
    Int.emod_eq_of_lt hnonneg (by omega)
  rw [globalId, hmod]
  omega

lemma product_of_check (h : (input.check comm).isOk = true) :
    ∃ count, checkedProduct input.globalCells = some count ∧ count ≤ (HundunFlow.maxU64 - 5) / 6 := by
  unfold TopologyInput.check at h
  simp only at h
  split_ifs at h with hbad
  · exact absurd h (by simp [invalid, Status.isOk])
  · push Not at hbad
    obtain ⟨-, -, -, -, -, -, hsome, hmax, -⟩ := hbad
    obtain ⟨count, hcount⟩ := Option.ne_none_iff_exists'.mp hsome
    rw [hcount] at hmax
    exact ⟨count, hcount, hmax⟩

lemma madeBy_fields (h : MadeBy input link) : link.fluidCell = globalId link.fluidGlobalIndex input.globalCells ∧
      link.solidCell = globalId link.solidGlobalIndex input.globalCells ∧
      link.solidGlobalIndex = addIndex link.fluidGlobalIndex (directionDelta link.direction) ∧
      link.globalLink = (6 * link.fluidCell + link.direction) % 2 ^ 64 := by
  obtain ⟨triangle, hlink⟩ := h
  generalize link.fluidLocalIndex = own at hlink
  generalize link.direction = direction at hlink
  subst hlink
  exact ⟨rfl, rfl, rfl, rfl⟩

lemma numbered_of_madeBy (hcheck : (input.check comm).isOk = true) (hlink : MadeBy input link)
    (hpair : ImmersedPair input.globalCells value link.fluidGlobalIndex link.direction) :
    GloballyNumbered input.globalCells link := by
  obtain ⟨count, hcount, hmax⟩ := product_of_check hcheck
  have hword : HundunFlow.maxU64 = 2 ^ 64 - 1 := rfl
  obtain ⟨hfluid, hsolid, hindex, hid⟩ := madeBy_fields hlink
  obtain ⟨hfluidCell, hbound⟩ := globalId_eq hcount (by omega) hpair.fluidInside
  have hsolidCell := (globalId_eq hcount (by omega) hpair.solidInside).1
  have hdirec := link.direction.isLt
  rw [← hfluid] at hfluidCell hbound
  rw [← hindex, ← hsolid] at hsolidCell
  refine ⟨hindex, hfluidCell, hsolidCell, ?_⟩
  rw [hid]
  exact Nat.mod_eq_of_lt (by omega)

end Links

lemma place_of_globalLink {value : Int3 → ℕ} {link link' : ImmersedLink} (h : GloballyNumbered globalCells link)
    (h' : GloballyNumbered globalCells link')
    (hpair : ImmersedPair globalCells value link.fluidGlobalIndex link.direction)
    (hpair' : ImmersedPair globalCells value link'.fluidGlobalIndex link'.direction)
    (hid : link.globalLink = link'.globalLink) : placeOf link = placeOf link' := by
  have hdirec := link.direction.isLt
  have hdirec' := link'.direction.isLt
  rw [h.globalLink, h'.globalLink] at hid
  have hcell : link.fluidCell = link'.fluidCell := by omega
  have hflat : (link.fluidCell : ℤ) = link'.fluidCell := by rw [hcell]
  rw [h.fluidCell, h'.fluidCell] at hflat
  obtain ⟨⟨hx, hx'⟩, ⟨hy, hy'⟩, -⟩ := hpair.fluidInside
  obtain ⟨⟨kx, kx'⟩, ⟨ky, ky'⟩, -⟩ := hpair'.fluidInside
  obtain ⟨ex, ey, ez⟩ := flatIndex_inj hx hx' hy hy' kx kx' ky ky' hflat
  rw [placeOf, placeOf, Prod.mk.injEq]
  constructor
  · apply int3_ext
    intro axis
    cases axis
    · exact ex
    · exact ey
    · exact ez
  · exact Fin.ext (by omega)

/-- What the topologies of all ranks have in common: `value` is the region of each cell of the box. -/
structure RegionsAgree {n : ℕ} (globalCells : Int3) (periodic : Axis → Bool) (value : Int3 → ℕ) (input : Fin n → TopologyInput)
    (topology : Fin n → EBTopology) : Prop where
  owned : ∀ cell, ∃ i, Contains (input i).patch (wrap globalCells cell)
  classified : ∀ i cell, Contains (input i).patch cell →
    value cell = (input i).region (subIndex cell (input i).patch.begin)
  read : ∀ i cell, Near (input i).patch (fun _ => kRegionHalo) cell →
    ((topology i).isFluidGlobal cell = true ↔ Real globalCells periodic cell ∧ value (wrap globalCells cell) = fluid)
  listed : ∀ i, ((topology i).links.map placeOf).Nodup ∧ ∀ cell direction,
    (cell, direction) ∈ (topology i).links.map placeOf ↔
      Contains (input i).patch cell ∧ ImmersedPair globalCells value cell direction
  numbered : ∀ i, ∀ link ∈ (topology i).links, GloballyNumbered globalCells link
  distinct : ∀ i j, ∀ link ∈ (topology i).links, ∀ link' ∈ (topology j).links,
    link.globalLink = link'.globalLink → i = j ∧ link = link'

/-- Where every patch has the cells of a slab, the paths of an axis leave one halo on all ranks. -/
def PathsAgree {n : ℕ} (hn : 0 < n) (patch : Fin n → MeshPatch) (periodic : Axis → Bool) : Prop :=
  ∀ axis, (∀ i, kRegionHalo ≤ component (patch i).cells axis) → ∀ halo : Fin n → Region, ∃ t t', ∃ halo' : Fin n → Region,
    (mpiJob hn).Run (fun i => exchangePlaneByPlane (patch i) (shapeOf (patch i)) (periodic axis) axis
      kRegionHalo.toNat 0 (halo i)) t (fun i => ({}, halo' i)) ∧
    (mpiJob hn).Run (fun i => exchangeSlab (patch i) (shapeOf (patch i)) (periodic axis) axis (halo i)) t'
      (fun i => ({}, halo' i))

section Main

variable {n : ℕ} (hn : 0 < n) {globalCells : Int3} {periodic : Axis → Bool} {input : Fin n → TopologyInput}

include hn in
lemma standard_partition (hpatch : ∀ i : Fin n, makeMeshPatch i n globalCells = .ok (input i).patch) :
    PartitionOf globalCells n (chooseGrid globalCells n).grid ∧
      ∀ i : Fin n, (input i).patch = gridPatch i globalCells (chooseGrid globalCells n).grid := by
  have hg := (makeMeshPatch_partition (hpatch ⟨0, hn⟩)).1
  refine ⟨hg, fun i => ?_⟩
  have hi := hg.patch i (Int.natCast_nonneg _) (by exact_mod_cast i.isLt)
  rw [hpatch i] at hi
  exact Except.ok.inj hi

variable {grid : Int3}

lemma compile_exchange (hg : PartitionOf globalCells n grid) (hgrid : ∀ i, (input i).patch = gridPatch i globalCells grid)
    (hcells : ∀ i, (input i).globalCells = globalCells) (hperiodic : ∀ i, (input i).periodicAxes = periodic)
    (sizes : Fin n → TopologyInput.Sizes) (hsizes : ∀ i, (input i).sizes = some (sizes i)) :
    ∃ u halo, (mpiJob hn).Run (fun i => exchangeOf (input i) (sizes i)) u (fun i => ({}, halo i)) ∧
      HaloFilled (fun i : Fin n => gridPatch i globalCells grid) globalCells periodic
        (ownedRegion hn globalCells grid fun i => (input i).region) (fun _ => kRegionHalo) halo := by
  have hbuffers : ∀ axis (i : Fin n), BuffersFit (gridPatch i globalCells grid) globalCells (periodic axis) axis
      (sizes i).maximumExchangeElements := by
    intro axis i
    have hfit := buffersFit (hsizes i) axis
    rwa [hgrid i, hcells i, hperiodic i] at hfit
  have hshape : ∀ i, (input i).haloShape = shapeOf (gridPatch i globalCells grid) := by
    intro i
    rw [← hgrid i]
    rfl
  simp only [exchangeOf, hshape, hgrid, hcells, hperiodic]
  exact exchangeAxes_run hg hbuffers (initialHalo_filled hn hg hgrid periodic)

lemma knows_of_filled (hg : PartitionOf globalCells n grid) (hgrid : ∀ i, (input i).patch = gridPatch i globalCells grid)
    (hcells : ∀ i, (input i).globalCells = globalCells) {halo : Fin n → Region}
    (hfilled : HaloFilled (fun i : Fin n => gridPatch i globalCells grid) globalCells periodic
      (ownedRegion hn globalCells grid fun i => (input i).region) (fun _ => kRegionHalo) halo) (i : Fin n) :
    Knows (input i) (halo i) (ownedRegion hn globalCells grid fun i => (input i).region) where
  own cell hcell := by
    rw [hgrid i] at hcell ⊢
    exact ownedRegion_eq hn hg hcell
  near cell hnear hin := by
    rw [hgrid i] at hnear ⊢
    rw [hcells i] at hin
    have hvalue := hfilled i cell hnear (real_of_inBox hin periodic)
    rwa [wrap_of_inBox hin] at hvalue
  inBox cell hcell := by
    rw [hgrid i] at hcell
    rw [hcells i]
    exact rank_inBox hg hcell

/-- The topologies that a compilation on all ranks of a standard partition gives agree with the global
classification, and both exchange paths do the same. -/
theorem region_halo_is_global (hsize : n < 2 ^ 31)
    (hpatch : ∀ i : Fin n, makeMeshPatch i n globalCells = .ok (input i).patch)
    (hcells : ∀ i, (input i).globalCells = globalCells) (hperiodic : ∀ i, (input i).periodicAxes = periodic)
    {t : List JobSignature} {topology : Fin n → EBTopology}
    (h : (mpiJob hn).Run (fun i => compile (jobComm hsize i) (input i)) t fun i => .ok (topology i)) :
    (∃ value, RegionsAgree globalCells periodic value input topology) ∧
      PathsAgree hn (fun i => (input i).patch) periodic := by
  obtain ⟨hg, hgrid⟩ := standard_partition hn hpatch
  constructor
  · obtain ⟨hcheck, halo, hfilled, hbuilt⟩ := compile_ok hn h (compile_exchange hn hg hgrid hcells hperiodic)
    have hknows := knows_of_filled hn hg hgrid hcells hfilled
    have hlisted := fun i => links_exact (hknows i) (hbuilt i).1
    have hlinks : ∀ i, (topology i).links = ((input i).buildLinks (halo i)).2.1 := fun i => by rw [(hbuilt i).2, compiled]
    simp only [← hlinks, hcells] at hlisted
    have hpair : ∀ i, ∀ link ∈ (topology i).links, Contains (input i).patch link.fluidGlobalIndex ∧
        ImmersedPair globalCells _ link.fluidGlobalIndex link.direction :=
      fun i link hlink => ((hlisted i).2 _ _).mp (mem_map_of_mem hlink)
    have hnumbered : ∀ i, ∀ link ∈ (topology i).links, GloballyNumbered globalCells link := by
      intro i link hlink
      have hmade := (buildLinks_ok (hbuilt i).1).2 link (hlinks i ▸ hlink)
      have hnumbers := numbered_of_madeBy (hcheck i) hmade (by rw [hcells i]; exact (hpair i link hlink).2)
      rwa [hcells i] at hnumbers
    refine ⟨ownedRegion hn globalCells (chooseGrid globalCells n).grid fun i => (input i).region, ?_, ?_, ?_, hlisted,
      hnumbered, ?_⟩
    · intro cell
      have hpositive : ∀ axis, 0 < component globalCells axis :=
        fun axis => (grid_pos hg.toGridFits axis).trans_le (grid_le hg.toGridFits axis)
      refine ⟨cellOwner hn globalCells (chooseGrid globalCells n).grid (wrap globalCells cell), ?_⟩
      rw [hgrid]
      exact cellOwner_contains hn hg (wrap_inBox hpositive cell)
    · exact fun i => (hknows i).own
    · intro i cell hnear
      have hread := @isFluidGlobal_iff (topology i) cell (by rw [(hbuilt i).2, compiled])
      simp only [(hbuilt i).2, compiled, hcells i, hperiodic i] at hread ⊢
      rw [hread hnear]
      apply and_congr_right
      intro hreal
      have hvalue := hfilled i cell
      simp only [← hgrid i] at hvalue
      rw [hvalue hnear hreal]
    · intro i j link hlink link' hlink' hid
      have hplace := place_of_globalLink (hnumbered i link hlink) (hnumbered j link' hlink') (hpair i link hlink).2
        (hpair j link' hlink').2 hid
      have hcell : link.fluidGlobalIndex = link'.fluidGlobalIndex := congrArg Prod.fst hplace
      have hown := (hpair i link hlink).1
      have hown' := (hpair j link' hlink').1
      rw [← hcell, hgrid j] at hown'
      rw [hgrid i] at hown
      obtain rfl : i = j := (eq_cellOwner hn hg hown).trans (eq_cellOwner hn hg hown').symm
      exact ⟨rfl, inj_on_of_nodup_map (hlisted i).1 hlink hlink' hplace⟩
  · intro axis hwide halo
    simp only [hgrid] at hwide ⊢
    exact paths_agree hn (standard_neighbors hg hn (periodic axis) axis) hwide halo

end Main

/-- Each of two ranks has one cell, and the first one is fluid. -/
def twoCells (i : Fin 2) : TopologyInput where
  geometryFingerprint := 1
  topologyRevision := 1
  scanFingerprint := 1
  surfaceFingerprint := 1
  scanTriangleFingerprint := 1
  sourceTriangleFingerprint := 1
  globalCells := ⟨2, 1, 1⟩
  patch := ⟨⟨i, 0, 0⟩, ⟨1, 1, 1⟩, ⟨2, 1, 1⟩, ⟨i, 0, 0⟩⟩
  fluidSide := .outside
  limits := ⟨10000, 10000, 10⟩
  lowerImages _ := false
  upperImages _ := false
  contract := 1
  allocatesBuffers := true
  classify := ({}, fun _ => if i = 0 then fluid else solid)
  allocatesLinks := true
  firstSegmentIntersection _ _ := ({}, some 0)

lemma twoCells_patch (i : Fin 2) : makeMeshPatch i 2 ⟨2, 1, 1⟩ = .ok (twoCells i).patch := by
  revert i
  decide

def twoSizes : TopologyInput.Sizes := ⟨1, 730, 734⟩

lemma twoCells_sizes (i : Fin 2) : (twoCells i).sizes = some twoSizes :=
  match i with
  | 0 => rfl
  | 1 => rfl

lemma twoCells_directions {halo : Region} (h : halo ⟨5, 4, 4⟩ = solid) :
    (twoCells 0).linkDirections halo ⟨0, 0, 0⟩ = [1] := by
  have hone : ∀ direction ∈ finRange 6,
      (inside (addIndex (addIndex (twoCells 0).patch.begin ⟨0, 0, 0⟩) (directionDelta direction)) (twoCells 0).globalCells &&
        decide (halo (addIndex (haloIndex ⟨0, 0, 0⟩) (directionDelta direction)) = solid)) = decide (direction = 1) := by
    intro direction _
    by_cases hdirec : direction = 1
    · subst hdirec
      exact decide_eq_true h
    · have houtside : inside (addIndex (addIndex (twoCells 0).patch.begin ⟨0, 0, 0⟩) (directionDelta direction))
          (twoCells 0).globalCells = false := by
        revert direction
        decide
      rw [houtside, Bool.false_and, decide_eq_false hdirec]
  rw [TopologyInput.linkDirections, filter_congr hone]
  rfl

lemma twoCells_built {halo : Fin 2 → Region} (h : halo 0 ⟨5, 4, 4⟩ = solid) (i : Fin 2) :
    ((twoCells i).linksFit twoSizes (halo i)).isOk = true ∧ ((twoCells i).buildLinks (halo i)).1.isOk = true := by
  have hdirs := twoCells_directions h
  have hfluid : (twoCells 0).fluidCells = [⟨0, 0, 0⟩] := by decide
  have hnone : (twoCells 1).fluidCells = [] := by decide
  match i with
  | 0 =>
    have hcount : (twoCells 0).linkCount (halo 0) = 1 := by simp [TopologyInput.linkCount, hfluid, hdirs]
    have hinterface : (twoCells 0).interfaceCount (halo 0) = 1 := by
      simp [TopologyInput.interfaceCount, hfluid, hdirs]
    rw [TopologyInput.linksFit, TopologyInput.buildLinks, hcount, hinterface, hfluid, TopologyInput.linkLoop, hdirs]
    exact ⟨rfl, rfl⟩
  | 1 =>
    rw [TopologyInput.linksFit, TopologyInput.buildLinks, TopologyInput.linkCount, TopologyInput.interfaceCount, hnone]
    exact ⟨rfl, rfl⟩

lemma twoCells_run (hsize : 2 < 2 ^ 31) : ∃ t, ∃ topology : Fin 2 → EBTopology,
    (mpiJob Nat.two_pos).Run (fun i => compile (jobComm hsize i) (twoCells i)) t fun i => .ok (topology i) := by
  obtain ⟨hg, hgrid⟩ := standard_partition Nat.two_pos twoCells_patch
  obtain ⟨u, halo, hrun, hfilled⟩ := compile_exchange Nat.two_pos hg hgrid (fun _ => rfl) (fun _ => rfl)
    (fun _ => twoSizes) twoCells_sizes
  have hsolid : halo 0 ⟨5, 4, 4⟩ = solid := by
    have hknows := knows_of_filled Nat.two_pos hg hgrid (fun _ => rfl) hfilled
    have hnear : Near (twoCells 0).patch (fun _ => kRegionHalo) ⟨1, 0, 0⟩ := fun axis => by cases axis <;> decide
    have hown : Contains (twoCells 1).patch ⟨1, 0, 0⟩ := contains_iff_axes.mpr fun axis => by cases axis <;> decide
    have hin : InBox ⟨2, 1, 1⟩ ⟨1, 0, 0⟩ := (hknows 1).inBox _ hown
    exact ((hknows 0).near _ hnear hin).trans ((hknows 1).own _ hown)
  have hbuilt := twoCells_built hsolid
  have hcheck : ∀ i, ((twoCells i).check (jobComm hsize i)).isOk = true := by
    intro i
    match i with
    | 0 => rfl
    | 1 => rfl
  obtain ⟨t, hcompile⟩ := compile_run Nat.two_pos hcheck (fun _ _ => rfl) twoCells_sizes
    (fun _ => rfl) (fun _ => rfl) ⟨u, hrun⟩ (fun i => (hbuilt i).1) (fun _ => rfl) fun i => (hbuilt i).2
  exact ⟨t, _, hcompile⟩

/-- On two ranks the compilation succeeds, and the fluid cell is linked to the solid one. -/
theorem region_halo_is_global_two : ∃ value, ∃ topology : Fin 2 → EBTopology,
    RegionsAgree ⟨2, 1, 1⟩ (fun _ => false) value twoCells topology ∧
      PathsAgree Nat.two_pos (fun i => (twoCells i).patch) fun _ => false := by
  obtain ⟨t, topology, hrun⟩ := twoCells_run (by decide)
  obtain ⟨⟨value, hagree⟩, hpaths⟩ := region_halo_is_global Nat.two_pos (by decide) twoCells_patch (fun _ => rfl)
    (fun i => (rfl : (twoCells i).periodicAxes = fun _ => false)) hrun
  exact ⟨value, topology, hagree, hpaths⟩

end HundunFlow.Proofs
