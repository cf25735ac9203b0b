import HundunFlow.Proofs.MigrationStages
import HundunFlow.Proofs.RegionNeighbors

/-!
# Every rank sees the classification of the owners

A consensus lets all ranks on or none, so a compilation that succeeds has passed every check on every
rank and has exchanged the regions of all patches.
-/

namespace HundunFlow.Proofs

section Compilation

open Lib EBTopology MgWorkspace List Option

section Stages

variable {n : ℕ} {hn : 0 < n} {hsize : n < 2 ^ 31}

variable {s : Fin n → Status}

lemma topologyConsensus_run (hn : 0 < n) (hsize : n < 2 ^ 31) (s : Fin n → Status) : ∃ trace,
    (mpiJob hn).Run (fun i => consensus (jobComm hsize i) (s i)) trace (fun _ => consensusResult s) := by
  have hsel := rankMin_firstFailing hn s (le_refl n)
  have hreduce := job_allreduce_min (W := ℕ) (D := Unit) hn (fun i => if (s i).isOk then n else (i : ℕ))
  unfold consensusResult
  cases h : firstFailing s with
  | none =>
    rw [h] at hsel
    refine ⟨_, Network.Run.bind (u := []) hreduce ?_⟩
    simp only [hsel, jobComm, if_true]
    exact .done _
  | some k =>
    rw [h] at hsel
    have hk : (k : ℕ) ≠ n := k.isLt.ne
    have hwire := job_bcast (W := ℕ) (D := Unit) hn k
      (fun i => if (i : ℕ) = k then [(s i).code.toWire, (s i).detail.toNat] else [0, 0]) 2 (fun i => by split_ifs <;> rfl)
    have hdetail : ¬ 2 ^ 32 - 1 < (s k).detail.toNat := by
      have := (s k).detail.toNat_lt
      omega
    refine ⟨_, Network.Run.bind (u := [.bcast k 2] ++ []) hreduce ?_⟩
    simp only [hsel, jobComm, hk, if_false]
    refine Network.Run.bind hwire ?_
    simp only [if_true, StatusCode.ofWire_toWire, hdetail, if_false, UInt32.ofNat_toNat]
    exact .done _

lemma passed {α : Type} {rest : Fin n → Unit → TopologyStage α} {t : List JobSignature} {a : Fin n → α}
    (h : (mpiJob hn).Run (fun i => (consensus (jobComm hsize i) (s i)).andThen (rest i)) t fun i => .ok (a i)) :
    (∀ i, (s i).isOk = true) ∧ ∃ u, (mpiJob hn).Run (fun i => rest i ()) u fun i => .ok (a i) := by
  have : Nonempty (Fin n) := ⟨⟨0, hn⟩⟩
  obtain ⟨t', hrun⟩ := topologyConsensus_run hn hsize s
  obtain ⟨u, -, hrest⟩ := hrun.bind_right h
  by_cases hok : ∀ i, (s i).isOk = true
  · simp only [consensusResult_ok hok] at hrest
    exact ⟨hok, u, hrest⟩
  · obtain ⟨k, -, -, hfailed⟩ := consensusResult_failed hok
    simp only [hfailed] at hrest
    have hsame := congrFun ((Network.run_done_iff _ _ _).mp hrest).2 ⟨0, hn⟩
    cases hsame

lemma passes {α : Type} {rest : Fin n → Unit → TopologyStage α} {r : Fin n → Stage (Status × ℤ) α}
    (hok : ∀ i, (s i).isOk = true) (h : ∃ u, (mpiJob hn).Run (fun i => rest i ()) u r) :
    ∃ t, (mpiJob hn).Run (fun i => (consensus (jobComm hsize i) (s i)).andThen (rest i)) t r := by
  obtain ⟨t, hrun⟩ := topologyConsensus_run hn hsize s
  obtain ⟨u, hrest⟩ := h
  refine ⟨t ++ u, Network.Run.bind hrun ?_⟩
  rw [consensusResult_ok hok]
  exact hrest

lemma foldl_max_le {list : List ℕ} {start : ℕ} : start ≤ list.foldl max start ∧ ∀ x ∈ list, x ≤ list.foldl max start := by
  induction list generalizing start with
  | nil => simp
  | cons first rest ih =>
    rw [foldl_cons, forall_mem_cons]
    obtain ⟨hstart, hrest⟩ := @ih (max start first)
    exact ⟨(le_max_left _ _).trans hstart, (le_max_right _ _).trans hstart, hrest⟩

lemma exists_of_mapM {α β : Type} {f : α → Option β} {list : List α} {results : List β} (h : list.mapM f = some results)
    {a : α} (ha : a ∈ list) : ∃ b ∈ results, f a = some b := by
  induction list generalizing results with
  | nil => exact absurd ha not_mem_nil
  | cons first rest ih =>
    simp only [mapM_cons, bind, pure, bind_eq_some_iff, some.injEq] at h
    obtain ⟨b, hb, others, hothers, rfl⟩ := h
    rcases mem_cons.mp ha with rfl | hrest
    · exact ⟨b, mem_cons_self, hb⟩
    · obtain ⟨b', hmem, hb'⟩ := ih hothers hrest
      exact ⟨b', mem_cons_of_mem _ hmem, hb'⟩

lemma buffersFit {input : TopologyInput} {sizes : TopologyInput.Sizes} (h : input.sizes = some sizes) (axis : Axis) :
    BuffersFit input.patch input.globalCells (input.periodicAxes axis) axis sizes.maximumExchangeElements := by
  unfold TopologyInput.sizes at h
  simp only [bind] at h
  split_ifs at h
  obtain ⟨elements, helem, h⟩ := bind_eq_some_iff.mp h
  obtain ⟨haloCount, -, h⟩ := bind_eq_some_iff.mp h
  obtain ⟨localCount, -, h⟩ := bind_eq_some_iff.mp h
  obtain ⟨persistent, -, h⟩ := bind_eq_some_iff.mp h
  obtain ⟨exchange, -, h⟩ := bind_eq_some_iff.mp h
  obtain ⟨peak, -, h⟩ := bind_eq_some_iff.mp h
  split_ifs at h
  obtain rfl := some.inj h
  obtain ⟨count, hcount, helement⟩ := exists_of_mapM helem (mem_axes axis)
  exact ⟨count, helement, foldl_max_le.2 count hcount⟩

section Axes

variable {globalCells grid : Int3} (hg : PartitionOf globalCells n grid) {periodic : Axis → Bool} {value : Int3 → ℕ}

include hg in
lemma exchangeAxes_run {bufferSize : Fin n → ℕ} (hbuffers : ∀ axis (i : Fin n),
      BuffersFit (gridPatch i globalCells grid) globalCells (periodic axis) axis (bufferSize i)) {halo : Fin n → Region}
    (hfilled : HaloFilled (fun i : Fin n => gridPatch i globalCells grid) globalCells periodic value (fun _ => 0) halo) :
    ∃ t halo', (mpiJob hn).Run (fun i : Fin n => exchangeAxes (gridPatch i globalCells grid)
        (shapeOf (gridPatch i globalCells grid)) periodic globalCells (bufferSize i) axes (halo i)) t
        (fun i => ({}, halo' i)) ∧
      HaloFilled (fun i : Fin n => gridPatch i globalCells grid) globalCells periodic value (fun _ => kRegionHalo) halo' := by
  have haxis := fun axis (halo : Fin n → Region)
      (hfilled : HaloFilled (fun i : Fin n => gridPatch i globalCells grid) globalCells periodic value (margin axis 0) halo) =>
    exchangeAxis_run hn (standard_neighbors hg hn (periodic axis) axis) (fun i => standard_cells_pos hg i axis)
      (standard_wide axis) (standard_alone hg hn (periodic axis) axis) (hbuffers axis) hfilled
  have hx : margin .x 0 = fun _ => 0 := funext fun axis => by cases axis <;> rfl
  have hy : margin .x kRegionHalo = margin .y 0 := funext fun axis => by cases axis <;> rfl
  have hz : margin .y kRegionHalo = margin .z 0 := funext fun axis => by cases axis <;> rfl
  have hall : margin .z kRegionHalo = fun _ => kRegionHalo := funext fun axis => by cases axis <;> rfl
  obtain ⟨t₁, halo₁, hrun₁, hfilled₁⟩ := haxis .x halo (hx ▸ hfilled)
  obtain ⟨t₂, halo₂, hrun₂, hfilled₂⟩ := haxis .y halo₁ (hy ▸ hfilled₁)
  obtain ⟨t₃, halo₃, hrun₃, hfilled₃⟩ := haxis .z halo₂ (hz ▸ hfilled₂)
  refine ⟨t₁ ++ (t₂ ++ (t₃ ++ [])), halo₃, ?_, hall ▸ hfilled₃⟩
  have hok : (({} : Status).isOk) = true := rfl
  simp only [exchangeAxes, axes]
  refine Network.Run.bind hrun₁ ?_
  simp only [hok, if_true]
  refine Network.Run.bind hrun₂ ?_
  simp only [hok, if_true]
  refine Network.Run.bind hrun₃ ?_
  simp only [hok, if_true]
  exact .done _

end Axes

end Stages

/-! ### Regions and links of all ranks -/

variable {input : TopologyInput} {halo : Region}

abbrev Site : Type := Int3 × Fin 6

def siteOf (link : ImmersedLink) : Site := (link.fluidLocalIndex, link.direction)

def MadeBy (input : TopologyInput) (link : ImmersedLink) : Prop :=
  ∃ triangle, link = input.makeLink link.fluidLocalIndex link.direction triangle

lemma directionLoop_ok {cell : Int3} {directions : List (Fin 6)} {links links' : List ImmersedLink} {status : Status}
    (h : input.directionLoop cell directions links = (status, links')) (hok : status.isOk = true) :
    ∃ added, links' = links ++ added ∧ added.map siteOf = directions.map (cell, ·) ∧ ∀ link ∈ added, MadeBy input link := by
  induction directions generalizing links with
  | nil =>
    rw [TopologyInput.directionLoop, Prod.mk.injEq] at h
    exact ⟨[], by rw [append_nil, h.2], rfl, by simp⟩
  | cons direction rest ih =>
    have hrefused : ∀ {status' : Status} {links'' : List ImmersedLink}, status'.isOk = false →
        (status', links'') ≠ (status, links') := by
      rintro status' links'' hbad heq
      rw [Prod.mk.injEq] at heq
      rw [heq.1, hok] at hbad
      exact nomatch hbad
    rw [TopologyInput.directionLoop] at h
    split_ifs at h with hfull
    · exact absurd h (hrefused rfl)
    · simp only at h
      split_ifs at h with hstatus
      · exact absurd h (hrefused (by simpa using hstatus))
      · split at h
        · exact absurd h (hrefused rfl)
        · rename_i triangle htriangle
          obtain ⟨added, rfl, hsites, hmade⟩ := ih h
          refine ⟨input.makeLink cell direction triangle :: added, by simp, ?_, ?_⟩
          · rw [map_cons, hsites]
            rfl
          · exact forall_mem_cons.mpr ⟨⟨triangle, rfl⟩, hmade⟩

def linkSites (input : TopologyInput) (halo : Region) (cells : List Int3) : List Site :=
  cells.flatMap fun cell => (input.linkDirections halo cell).map (cell, ·)

lemma linkLoop_ok {cells : List Int3} {links : List ImmersedLink} {interfaceCells : List ℕ}
    (hok : (input.linkLoop halo cells links interfaceCells).1.isOk = true) :
    ∃ added, (input.linkLoop halo cells links interfaceCells).2.1 = links ++ added ∧
      added.map siteOf = linkSites input halo cells ∧ ∀ link ∈ added, MadeBy input link := by
  induction cells generalizing links interfaceCells with
  | nil => exact ⟨[], by simp [TopologyInput.linkLoop], rfl, by simp⟩
  | cons cell rest ih =>
    rw [TopologyInput.linkLoop] at hok ⊢
    cases hdirs : input.directionLoop cell (input.linkDirections halo cell) links with
    | mk status links' =>
      rw [hdirs] at hok
      simp only at hok ⊢
      by_cases hstatus : status.isOk = true
      · rw [if_pos hstatus] at hok ⊢
        obtain ⟨first, rfl, hfirst, hmade⟩ := directionLoop_ok hdirs hstatus
        obtain ⟨added, hadded, hsites, hmade'⟩ := ih hok
        refine ⟨first ++ added, by rw [hadded, append_assoc], ?_, ?_⟩
        · rw [map_append, hfirst, hsites]
          rfl
        · intro link hlink
          exact (mem_append.mp hlink).elim (hmade link) (hmade' link)
      · rw [if_neg hstatus] at hok
        exact absurd hok hstatus

lemma buildLinks_ok (hok : (input.buildLinks halo).1.isOk = true) :
    (input.buildLinks halo).2.1.map siteOf = linkSites input halo input.fluidCells ∧
      ∀ link ∈ (input.buildLinks halo).2.1, MadeBy input link := by
  unfold TopologyInput.buildLinks at hok ⊢
  simp only at hok ⊢
  split_ifs at hok ⊢ with hbad
  · exact absurd hok (by simp [invalid, Status.isOk])
  · obtain ⟨added, hadded, hsites, hmade⟩ := linkLoop_ok hok
    rw [hadded, nil_append]
    exact ⟨hsites, hmade⟩

lemma linkSites_nodup : (linkSites input halo input.fluidCells).Nodup := by
  rw [linkSites, nodup_flatMap]
  constructor
  · intro cell _
    apply Nodup.map
    · intro direction direction' h
      exact (Prod.mk.inj h).2
    · exact (nodup_finRange 6).filter _
  · apply ((boxIndices_nodup _).filter _).imp
    intro cell cell' hne
    rw [Function.onFun, disjoint_left]
    intro site hsite hsite'
    obtain ⟨direction, -, rfl⟩ := mem_map.mp hsite
    obtain ⟨direction', -, h⟩ := mem_map.mp hsite'
    exact hne (Prod.mk.inj h).1.symm

lemma mem_linkSites {cell : Int3} {direction : Fin 6} : (cell, direction) ∈ linkSites input halo input.fluidCells ↔
    (cell ∈ boxIndices input.patch.cells ∧ input.region cell = fluid) ∧
      inside (addIndex (addIndex input.patch.begin cell) (directionDelta direction)) input.globalCells = true ∧
      halo (addIndex (haloIndex cell) (directionDelta direction)) = solid := by
  simp only [linkSites, mem_flatMap, List.mem_map, Prod.mk.injEq, TopologyInput.fluidCells,
    TopologyInput.linkDirections, mem_filter, mem_finRange, true_and, decide_eq_true_eq, Bool.and_eq_true]
  constructor
  · rintro ⟨cell', hcell, direction', hdirec, rfl, rfl⟩
    exact ⟨hcell, hdirec⟩
  · rintro ⟨hcell, hdirec⟩
    exact ⟨cell, hcell, direction, hdirec, rfl, rfl⟩

end Compilation

open Lib EBTopology MgWorkspace

instance (patch : MeshPatch) (cell : Int3) : Decidable (Contains patch cell) :=
  inferInstanceAs (Decidable ((_ ∧ _) ∧ (_ ∧ _) ∧ _ ∧ _))

variable {cell cells : Int3} {patch : MeshPatch}

lemma contains_iff_axes : Contains patch cell ↔
    ∀ axis, component patch.begin axis ≤ component cell axis ∧ component cell axis < patchEnd patch axis := by
  constructor
  · rintro ⟨hx, hy, hz⟩ axis
    cases axis
    · exact hx
    · exact hy
    · exact hz
  · intro h
    exact ⟨h .x, h .y, h .z⟩

lemma inBox_iff_axes :
    InBox cells cell ↔ ∀ axis, 0 ≤ component cell axis ∧ component cell axis < component cells axis := inGrid_iff

lemma near_zero_iff : Near patch (fun _ => 0) cell ↔ Contains patch cell := by
  rw [contains_iff_axes]
  apply forall_congr'
  intro axis
  rw [sub_zero, add_zero]

lemma mem_boxIndices_iff_contains : cell ∈ boxIndices patch.cells ↔ Contains patch (addIndex patch.begin cell) := by
  rw [mem_boxIndices, contains_iff_axes]
  apply forall_congr'
  intro axis
  rw [component_addIndex, patchEnd]
  omega

lemma wrap_of_inBox (h : InBox cells cell) : wrap cells cell = cell := by
  apply int3_ext
  intro axis
  obtain ⟨hnonneg, hlt⟩ := inBox_iff_axes.mp h axis
  rw [wrap, component_ofComponents, Int.emod_eq_of_lt hnonneg hlt]

lemma wrap_inBox (hcells : ∀ axis, 0 < component cells axis) (cell : Int3) : InBox cells (wrap cells cell) := by
  rw [inBox_iff_axes]
  intro axis
  rw [wrap, component_ofComponents]
  exact ⟨Int.emod_nonneg _ (hcells axis).ne', Int.emod_lt_of_pos _ (hcells axis)⟩

lemma real_of_inBox (h : InBox cells cell) (periodic : Axis → Bool) : Real cells periodic cell :=
  fun axis => .inr (inBox_iff_axes.mp h axis)

lemma view_initialHalo (input : TopologyInput) {cell : Int3} (h : Contains input.patch cell) :
    view input.patch input.initialHalo cell = input.region (subIndex cell input.patch.begin) := by
  have hstores : input.initialHalo =
      storeAll ((boxIndices input.patch.cells).map fun own => (haloIndex own, input.region own)) fun _ => solid := by
    rw [storeAll, List.foldl_map]
    rfl
  rw [view, hstores]
  apply storeAll_of_mem
  · refine ⟨_, List.mem_map.mpr ⟨subIndex cell input.patch.begin, ?_, rfl⟩, rfl⟩
    rw [mem_boxIndices_iff_contains, addIndex_subIndex]
    exact h
  · intro store hstore hindex
    obtain ⟨own, -, rfl⟩ := List.mem_map.mp hstore
    apply congrArg input.region
    apply int3_ext
    intro axis
    have haxis := congrArg (component · axis) hindex
    simp only [component_haloIndex] at haxis
    omega

section Owners

variable {n : ℕ} (hn : 0 < n) {globalCells grid : Int3} (hg : PartitionOf globalCells n grid)

def cellOwner (globalCells grid cell : Int3) : Fin n := rankOf hn grid (ownerCoord globalCells grid cell)

def ownedRegion (globalCells grid : Int3) (region : Fin n → Region) (cell : Int3) : ℕ :=
  region (cellOwner hn globalCells grid cell)
    (subIndex cell (gridPatch (cellOwner hn globalCells grid cell : Fin n) globalCells grid).begin)

include hg

variable {cell : Int3} {i : Fin n}

lemma cellOwner_contains (h : InBox globalCells cell) :
    Contains (gridPatch (cellOwner hn globalCells grid cell : Fin n) globalCells grid) cell := by
  have hin := ownerCoord_inGrid hg h
  have hrange := rankAt_range hg hin
  have hmem := contains_rankAt hg h
  rwa [cellOwner, rankOf_val hg hn hin, Int.toNat_of_nonneg hrange.1]

lemma eq_cellOwner (h : Contains (gridPatch i globalCells grid) cell) : i = cellOwner hn globalCells grid cell := by
  rw [cellOwner, (contains_iff hg _).mp h]
  exact (rankOf_coordOf hg hn i).symm

lemma rank_inBox (h : Contains (gridPatch i globalCells grid) cell) : InBox globalCells cell :=
  contains_inBox hg (Int.natCast_nonneg _) (by exact_mod_cast i.isLt) h

lemma ownedRegion_eq {region : Fin n → Region}
    (h : Contains (gridPatch i globalCells grid) cell) : ownedRegion hn globalCells grid region cell =
      region i (subIndex cell (gridPatch i globalCells grid).begin) := by
  rw [ownedRegion, ← eq_cellOwner hn hg h]

lemma initialHalo_filled {input : Fin n → TopologyInput} (hpatch : ∀ i, (input i).patch = gridPatch i globalCells grid)
    (periodic : Axis → Bool) :
    HaloFilled (fun i : Fin n => gridPatch i globalCells grid) globalCells periodic
      (ownedRegion hn globalCells grid fun i => (input i).region) (fun _ => 0) fun i => (input i).initialHalo := by
  intro i cell hnear _
  have hmem := near_zero_iff.mp hnear
  rw [wrap_of_inBox (rank_inBox hg hmem), ownedRegion_eq hn hg hmem]
  have hview := @view_initialHalo (input i) cell
  rw [hpatch i] at hview
  exact hview hmem

end Owners

variable {n : ℕ} (hn : 0 < n) {hsize : n < 2 ^ 31} {input : Fin n → TopologyInput} {t : List JobSignature}
  {topology : Fin n → EBTopology}

lemma sizes_of_ok {input : TopologyInput}
    (h : (okUnless input.sizes.isNone (invalid kTopologyRegion)).isOk = true) : ∃ sizes, input.sizes = some sizes := by
  cases hsizes : input.sizes with
  | none =>
    rw [hsizes] at h
    exact absurd h (by simp [okUnless, invalid, Status.isOk])
  | some sizes => exact ⟨sizes, rfl⟩

abbrev exchangeOf (input : TopologyInput) (sizes : TopologyInput.Sizes) : JobProg ℕ Unit (Status × Region) :=
  exchangeAxes input.patch input.haloShape input.periodicAxes input.globalCells sizes.maximumExchangeElements axes
    input.initialHalo

def compiled (input : TopologyInput) (halo : Region) : EBTopology where
  globalCells := input.globalCells
  patch := input.patch
  periodicAxes := input.periodicAxes
  regionHaloWidth := kRegionHalo
  region := input.region
  haloRegion := halo
  links := (input.buildLinks halo).2.1
  interfaceCells := (input.buildLinks halo).2.2

lemma compile_ok (h : (mpiJob hn).Run (fun i => compile (jobComm hsize i) (input i)) t fun i => .ok (topology i))
    {good : (Fin n → Region) → Prop}
    (hexchange : ∀ sizes : Fin n → TopologyInput.Sizes, (∀ i, (input i).sizes = some (sizes i)) → ∃ u halo,
      (mpiJob hn).Run (fun i => exchangeOf (input i) (sizes i)) u (fun i => ({}, halo i)) ∧ good halo) :
    (∀ i, ((input i).check (jobComm hsize i)).isOk = true) ∧ ∃ halo, good halo ∧ ∀ i,
      ((input i).buildLinks (halo i)).1.isOk = true ∧ topology i = compiled (input i) (halo i) := by
  have : Nonempty (Fin n) := ⟨⟨0, hn⟩⟩
  obtain ⟨hcheck, u₁, h₁⟩ := passed h
  have hcontract := job_bcast (D := Unit) hn ⟨0, hn⟩ (fun i => [(input i).contract]) 1 fun _ => rfl
  obtain ⟨u₂, -, h₂⟩ := hcontract.bind_right h₁
  obtain ⟨-, u₃, h₃⟩ := passed h₂
  obtain ⟨hsizes, u₄, h₄⟩ := passed h₃
  obtain ⟨-, u₅, h₅⟩ := passed h₄
  obtain ⟨-, u₆, h₆⟩ := passed h₅
  choose sizes hsizes using fun i => sizes_of_ok (hsizes i)
  simp only [hsizes] at h₆
  obtain ⟨t', halo, hrun, hgood⟩ := hexchange sizes hsizes
  obtain ⟨u₇, -, h₇⟩ := hrun.bind_right h₆
  obtain ⟨-, u₈, h₈⟩ := passed h₇
  obtain ⟨-, u₉, h₉⟩ := passed h₈
  obtain ⟨-, u₁₀, h₁₀⟩ := passed h₉
  obtain ⟨hlinks, u₁₁, h₁₁⟩ := passed h₁₀
  have hresult := ((Network.run_done_iff _ _ _).mp h₁₁).2
  exact ⟨hcheck, halo, hgood, fun i => ⟨hlinks i, Stage.ok.inj (congrFun hresult i)⟩⟩

lemma compile_run {sizes : Fin n → TopologyInput.Sizes} {halo : Fin n → Region}
    (hcheck : ∀ i, ((input i).check (jobComm hsize i)).isOk = true) (hcontract : ∀ i j, (input i).contract = (input j).contract)
    (hsizes : ∀ i, (input i).sizes = some (sizes i)) (hbuffers : ∀ i, (input i).allocatesBuffers = true)
    (hclassify : ∀ i, (input i).classify.1.isOk = true)
    (hexchange : ∃ u, (mpiJob hn).Run (fun i => exchangeOf (input i) (sizes i)) u fun i => ({}, halo i))
    (hfits : ∀ i, ((input i).linksFit (sizes i) (halo i)).isOk = true) (hlinks : ∀ i, (input i).allocatesLinks = true)
    (hbuilt : ∀ i, ((input i).buildLinks (halo i)).1.isOk = true) :
    ∃ t, (mpiJob hn).Run (fun i => compile (jobComm hsize i) (input i)) t fun i => .ok (compiled (input i) (halo i)) := by
  have : Nonempty (Fin n) := ⟨⟨0, hn⟩⟩
  have hroot := job_bcast (D := Unit) hn ⟨0, hn⟩ (fun i => [(input i).contract]) 1 fun _ => rfl
  obtain ⟨u, hrun⟩ := hexchange
  apply passes hcheck
  apply hroot.bind_iff.mpr
  apply passes fun i => ?_
  apply passes fun i => ?_
  apply passes fun i => ?_
  apply passes hclassify
  · simp only [hsizes]
    apply hrun.bind_iff.mpr
    apply passes fun _ => rfl
    apply passes hfits
    apply passes fun i => ?_
    · apply passes hbuilt
      exact ⟨[], .done _⟩
    · rw [hlinks i]
      rfl
  · rw [hbuffers i]
    rfl
  · rw [hsizes i]
    rfl
  · simp [hcontract i ⟨0, hn⟩, okUnless, Status.isOk]

end HundunFlow.Proofs
