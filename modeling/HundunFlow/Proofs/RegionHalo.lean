import HundunFlow.Proofs.PartitionOwnership
import HundunFlow.Proofs.RegionExchange

/-!
# The halo of a region

Seen by global cells, an exchange copies planes from the neighbours of a rank.
-/

namespace HundunFlow.Proofs

open Lib EBTopology MgWorkspace Option

def view (patch : MeshPatch) (halo : Region) (cell : Int3) : ℕ := halo (haloIndex (subIndex cell patch.begin))

def patchEnd (patch : MeshPatch) (axis : Axis) : ℤ := component patch.begin axis + component patch.cells axis

/-- How far the halo reaches, when the axes before `axis` are filled and `axis` is filled to `depth`. -/
def margin (axis : Axis) (depth : ℤ) (other : Axis) : ℤ :=
  if axisNumber other < axisNumber axis then kRegionHalo else if other = axis then depth else 0

def Near (patch : MeshPatch) (margins : Axis → ℤ) (cell : Int3) : Prop :=
  ∀ axis, component patch.begin axis - margins axis ≤ component cell axis ∧
    component cell axis < patchEnd patch axis + margins axis

/-- A cell is in the planes of an exchange, whatever its place on `axis`. -/
def Beside (patch : MeshPatch) (axis : Axis) (cell : Int3) : Prop :=
  ∀ other, other ≠ axis → component patch.begin other - margin axis 0 other ≤ component cell other ∧
    component cell other < patchEnd patch other + margin axis 0 other

variable {axis : Axis} {patch : MeshPatch} {cell : Int3}

lemma margin_of_ne {other : Axis} (depth : ℤ) (h : other ≠ axis) : margin axis depth other = margin axis 0 other := by
  unfold margin
  rw [if_neg h, if_neg h]

lemma margin_same (axis : Axis) (depth : ℤ) : margin axis depth axis = depth := by
  unfold margin
  rw [if_neg (lt_irrefl _), if_pos rfl]

lemma Near.beside {depth : ℤ} (h : Near patch (margin axis depth) cell) : Beside patch axis cell := by
  intro other hother
  rw [← margin_of_ne depth hother]
  exact h other

lemma near_of_beside {depth : ℤ} (h : Beside patch axis cell)
    (haxis : component patch.begin axis - depth ≤ component cell axis ∧ component cell axis < patchEnd patch axis + depth) :
    Near patch (margin axis depth) cell := by
  intro other
  by_cases hother : other = axis
  · rw [hother, margin_same]
    exact haxis
  · rw [margin_of_ne depth hother]
    exact h other hother

/-- The patch `above` begins where `patch` ends, around the box if need be. -/
structure Above (globalCells : Int3) (periodic : Bool) (axis : Axis) (patch above : MeshPatch) : Prop where
  beside : ∀ other, other ≠ axis → component above.begin other = component patch.begin other ∧
    component above.cells other = component patch.cells other
  meets : component above.begin axis = patchEnd patch axis ∨
    periodic = true ∧ component above.begin axis = 0 ∧ patchEnd patch axis = component globalCells axis

structure Neighbors {n : ℕ} (patch : Fin n → MeshPatch) (globalCells : Int3) (periodic : Bool) (axis : Axis)
    (upper lower : Fin n → Option (Fin n)) : Prop where
  upperRank : ∀ i, upperRank (patch i) periodic axis = (upper i).map Fin.val
  lowerRank : ∀ i, lowerRank (patch i) periodic axis = (lower i).map Fin.val
  inverse : ∀ i j, upper i = some j ↔ lower j = some i
  above : ∀ i j, upper i = some j → Above globalCells periodic axis (patch i) (patch j)
  upper_none : ∀ i, upper i = none → periodic = false ∧ patchEnd (patch i) axis = component globalCells axis
  lower_none : ∀ i, lower i = none → periodic = false ∧ component (patch i).begin axis = 0

lemma Above.beside_iff {globalCells : Int3} {periodic : Bool} {above : MeshPatch}
    (h : Above globalCells periodic axis patch above) (cell : Int3) : Beside above axis cell ↔ Beside patch axis cell := by
  unfold Beside patchEnd
  apply forall_congr'
  intro other
  apply imp_congr_right
  intro hother
  rw [(h.beside other hother).1, (h.beside other hother).2]

lemma Beside.setComponent (h : Beside patch axis cell) (plane : ℤ) :
    Beside patch axis (setComponent cell axis plane) := by
  intro other hother
  rw [component_setComponent_of_ne _ _ hother.symm]
  exact h other hother

def Receives {n : ℕ} (patch : Fin n → MeshPatch) (axis : Axis) (depth depth' : ℤ) (upper lower : Fin n → Option (Fin n))
    (i : Fin n) (cell : Int3) : Prop :=
  Beside (patch i) axis cell ∧
    ((upper i ≠ none ∧ patchEnd (patch i) axis + depth ≤ component cell axis ∧
        component cell axis < patchEnd (patch i) axis + depth') ∨
      (lower i ≠ none ∧ component (patch i).begin axis - depth' ≤ component cell axis ∧
        component cell axis < component (patch i).begin axis - depth))

/-- The planes an exchange fills, as seen by global cells: from `depth` to `depth'`, on both sides of
every patch. -/
structure Exchanged {n : ℕ} (patch : Fin n → MeshPatch) (axis : Axis) (depth depth' : ℤ)
    (upper lower : Fin n → Option (Fin n)) (halo halo' : Fin n → Region) : Prop where
  above : ∀ i j, upper i = some j → ∀ cell d, Beside (patch i) axis cell → depth ≤ d → d < depth' →
    component cell axis = patchEnd (patch i) axis + d →
    view (patch i) (halo' i) cell =
      view (patch j) (halo j) (setComponent cell axis (component (patch j).begin axis + d))
  below : ∀ i j, lower i = some j → ∀ cell d, Beside (patch i) axis cell → depth ≤ d → d < depth' →
    component cell axis = component (patch i).begin axis - 1 - d →
    view (patch i) (halo' i) cell = view (patch j) (halo j) (setComponent cell axis (patchEnd (patch j) axis - 1 - d))
  frame : ∀ i cell, ¬ Receives patch axis depth depth' upper lower i cell →
    view (patch i) (halo' i) cell = view (patch i) (halo i) cell

section Planes

variable {n : ℕ} (hn : 0 < n) {patch : Fin n → MeshPatch} {globalCells : Int3} {periodic : Bool} {axis : Axis}
  {upper lower : Fin n → Option (Fin n)} (hneighbors : Neighbors patch globalCells periodic axis upper lower)

include hneighbors

lemma exchangePlanes_run (tag : ℕ) (indices : Fin n → List Int3) (hindices : ∀ i j, upper i = some j → indices i = indices j)
    (lowerSource upperSource lowerTarget upperTarget : Fin n → Int3 → Int3) (halo : Fin n → Region) :
    ∃ t, ∃ stores : Fin n → List (Int3 × ℕ), (mpiJob hn).Run
        (fun i => exchangePlanes (EBTopology.lowerRank (patch i) periodic axis) (EBTopology.upperRank (patch i) periodic axis)
          tag (indices i) (lowerSource i) (upperSource i) (lowerTarget i) (upperTarget i) (halo i)) t
        (fun i => some (storeAll (stores i) (halo i))) ∧
      ∀ i store, store ∈ stores i ↔
        (∃ j, lower i = some j ∧ ∃ index ∈ indices i, store = (lowerTarget i index, halo j (upperSource j index))) ∨
          ∃ j, upper i = some j ∧ ∃ index ∈ indices i, store = (upperTarget i index, halo j (lowerSource j index)) := by
  have hlower : ∀ i j, lower i = some j → indices j = indices i := fun i j h => hindices j i ((hneighbors.inverse j i).mpr h)
  have hreceiveUpper := job_sendrecv (W := ℕ) (D := Unit) hn
    (fun i => ⟨(indices i).map fun index => halo i (lowerSource i index), (lower i).map Fin.val, (upper i).map Fin.val,
      (indices i).length, tag⟩) tag (fun _ => rfl) upper (fun _ => rfl) (fun i j h => by
        simp only [(hneighbors.inverse i j).mp h, map_some, List.length_map, hindices i j h, le_refl, and_self])
  have hreceiveLower := job_sendrecv (W := ℕ) (D := Unit) hn
    (fun i => ⟨(indices i).map fun index => halo i (upperSource i index), (upper i).map Fin.val, (lower i).map Fin.val,
      (indices i).length, tag + 1⟩) (tag + 1) (fun _ => rfl) lower (fun _ => rfl) (fun i j h => by
        simp only [(hneighbors.inverse j i).mpr h, map_some, List.length_map, hlower i j h, le_refl, and_self])
  refine ⟨[.sendrecv tag] ++ ([.sendrecv (tag + 1)] ++ []), fun i => planeStores ((lower i).map Fin.val) ((upper i).map Fin.val) (lowerTarget i) (upperTarget i) (indices i)
    ((lower i).elim [] fun j => (indices j).map fun index => halo j (upperSource j index))
    ((upper i).elim [] fun j => (indices j).map fun index => halo j (lowerSource j index)), ?_, fun i store => ?_⟩
  · unfold exchangePlanes
    simp only [hneighbors.lowerRank, hneighbors.upperRank]
    exact Network.Run.bind hreceiveUpper (Network.Run.bind hreceiveLower (.done _))
  · rw [mem_planeStores (fun index => (lower i).elim 0 fun j => halo j (upperSource j index))
      (fun index => (upper i).elim 0 fun j => halo j (lowerSource j index))]
    · cases hl : lower i <;> cases hu : upper i <;> simp
    · intro h
      cases hl : lower i with
      | none => simp [hl] at h
      | some j => simp only [elim_some, hlower i j hl]
    · intro h
      cases hu : upper i with
      | none => simp [hu] at h
      | some j => simp only [elim_some, hindices i j hu]

end Planes

structure Depths (turn : ℤ → ℤ) (count depth depth' : ℤ) : Prop where
  maps : ∀ k, 0 ≤ k → k < count → depth ≤ turn k ∧ turn k < depth'
  onto : ∀ d, depth ≤ d → d < depth' → ∃ k, 0 ≤ k ∧ k < count ∧ turn k = d
  injective : ∀ k k', 0 ≤ k → k < count → 0 ≤ k' → k' < count → turn k = turn k' → k = k'

def shapeOf (patch : MeshPatch) : Int3 :=
  ⟨patch.cells.x + 2 * kRegionHalo, patch.cells.y + 2 * kRegionHalo, patch.cells.z + 2 * kRegionHalo⟩

lemma component_exchangeCount (cells : Int3) (patch : MeshPatch) (hcells : patch.cells = cells) (axis other : Axis)
    (count : ℤ) : component (exchangeCount cells (shapeOf patch) axis count) other =
      if other = axis then count else component cells other + 2 * margin axis 0 other := by
  subst hcells
  cases axis <;> cases other <;> simp [exchangeCount, shapeOf, component, margin, axisNumber]

lemma component_exchangeBegin {other : Axis} (h : other ≠ axis) :
    component (exchangeBegin axis) other = kRegionHalo - margin axis 0 other := by
  cases axis <;> cases other <;> first | exact absurd rfl h | rfl

def ofComponents (f : Axis → ℤ) : Int3 := ⟨f .x, f .y, f .z⟩

@[simp] lemma component_ofComponents (f : Axis → ℤ) (axis : Axis) : component (ofComponents f) axis = f axis := by
  cases axis <;> rfl

lemma exists_index (h : Beside patch axis cell) {count k : ℤ} (hk : 0 ≤ k) (hk' : k < count) :
    ∃ index ∈ boxIndices (exchangeCount patch.cells (shapeOf patch) axis count), component index axis = k ∧
      ∀ other, other ≠ axis →
        component cell other - component patch.begin other + margin axis 0 other = component index other := by
  refine ⟨ofComponents fun other => if other = axis then k
    else component cell other - component patch.begin other + margin axis 0 other, ?_, ?_, fun other hother => ?_⟩
  · rw [mem_boxIndices]
    intro other
    rw [component_ofComponents, component_exchangeCount _ _ rfl]
    split_ifs with hother
    · exact ⟨hk, hk'⟩
    · have hbeside := h other hother
      unfold patchEnd at hbeside
      omega
  · rw [component_ofComponents, if_pos rfl]
  · rw [component_ofComponents, if_neg hother]

lemma beside_of_index {index : Int3} {count : ℤ}
    (hindex : index ∈ boxIndices (exchangeCount patch.cells (shapeOf patch) axis count))
    (hothers : ∀ other, other ≠ axis →
      component cell other - component patch.begin other + margin axis 0 other = component index other) :
    Beside patch axis cell := by
  intro other hother
  have hrange := mem_boxIndices.mp hindex other
  rw [component_exchangeCount _ _ rfl, if_neg hother, ← hothers other hother] at hrange
  unfold patchEnd
  omega

lemma haloIndex_eq_onPlane_iff {index : Int3} {plane : ℤ} :
    haloIndex (subIndex cell patch.begin) = onPlane axis index plane ↔
      component cell axis - component patch.begin axis + kRegionHalo = plane ∧
        ∀ other, other ≠ axis → component cell other - component patch.begin other + margin axis 0 other =
          component index other := by
  constructor
  · intro h
    constructor
    · have haxis := congrArg (component · axis) h
      simpa only [component_haloIndex, component_subIndex, component_onPlane, if_true] using haxis
    · intro other hother
      have haxis := congrArg (component · other) h
      simp only [component_haloIndex, component_subIndex, component_onPlane, if_neg hother.symm,
        component_exchangeBegin hother] at haxis
      omega
  · rintro ⟨haxis, hothers⟩
    apply int3_ext
    intro other
    simp only [component_haloIndex, component_subIndex, component_onPlane]
    split_ifs with h
    · rw [← h]
      exact haxis
    · have hother := hothers other (Ne.symm h)
      rw [component_exchangeBegin (Ne.symm h)]
      omega

section Effect

variable {n : ℕ} (hn : 0 < n) {patch : Fin n → MeshPatch} {globalCells : Int3} {periodic : Bool} {axis : Axis}
  {upper lower : Fin n → Option (Fin n)} (hneighbors : Neighbors patch globalCells periodic axis upper lower)

lemma exchangeCount_eq {i j : Fin n} (h : Above globalCells periodic axis (patch i) (patch j)) (count : ℤ) :
    exchangeCount (patch i).cells (shapeOf (patch i)) axis count =
      exchangeCount (patch j).cells (shapeOf (patch j)) axis count := by
  apply int3_ext
  intro other
  rw [component_exchangeCount _ _ rfl, component_exchangeCount _ _ rfl]
  split_ifs with hother
  · rfl
  · rw [(h.beside other hother).2]

include hneighbors in
lemma exchange_effect (hcells : ∀ i, 0 ≤ component (patch i).cells axis) (tag : ℕ) {count depth depth' : ℤ}
    (hdepth : 0 ≤ depth) {up down : ℤ → ℤ} (hup : Depths up count depth depth') (hdown : Depths down count depth depth')
    (halo : Fin n → Region) :
    ∃ t halo', (mpiJob hn).Run (fun i => exchangePlanes (EBTopology.lowerRank (patch i) periodic axis)
        (EBTopology.upperRank (patch i) periodic axis) tag
        (boxIndices (exchangeCount (patch i).cells (shapeOf (patch i)) axis count))
        (fun index => onPlane axis index (kRegionHalo + up (component index axis)))
        (fun index => onPlane axis index (kRegionHalo + component (patch i).cells axis - 1 - down (component index axis)))
        (fun index => onPlane axis index (kRegionHalo - 1 - down (component index axis)))
        (fun index => onPlane axis index (kRegionHalo + component (patch i).cells axis + up (component index axis)))
        (halo i)) t (fun i => some (halo' i)) ∧
      Exchanged patch axis depth depth' upper lower halo halo' := by
  obtain ⟨t, stores, hrun, hstores⟩ := exchangePlanes_run hn hneighbors tag
    (fun i => boxIndices (exchangeCount (patch i).cells (shapeOf (patch i)) axis count))
    (fun i j h => by rw [exchangeCount_eq (hneighbors.above i j h)])
    (fun _ index => onPlane axis index (kRegionHalo + up (component index axis)))
    (fun i index => onPlane axis index (kRegionHalo + component (patch i).cells axis - 1 - down (component index axis)))
    (fun _ index => onPlane axis index (kRegionHalo - 1 - down (component index axis)))
    (fun i index => onPlane axis index (kRegionHalo + component (patch i).cells axis + up (component index axis))) halo
  refine ⟨t, _, hrun, ?_⟩
  have hturn : ∀ {i index}, index ∈ boxIndices (exchangeCount (patch i).cells (shapeOf (patch i)) axis count) →
      0 ≤ component index axis ∧ component index axis < count := by
    intro i index hindex
    have haxis := mem_boxIndices.mp hindex axis
    rwa [component_exchangeCount _ _ rfl, if_pos rfl] at haxis
  -- two cells of the loop that are stored in one place are one
  have hsame : ∀ {cell : Int3} {begin_ : Int3} {index index' : Int3}, component index axis = component index' axis →
      (∀ other, other ≠ axis → component cell other - component begin_ other + margin axis 0 other = component index other) →
      (∀ other, other ≠ axis → component cell other - component begin_ other + margin axis 0 other = component index' other) →
      index = index' := by
    intro cell begin_ index index' haxis h h'
    apply int3_ext
    intro other
    by_cases hother : other = axis
    · rw [hother, haxis]
    · rw [← h other hother, ← h' other hother]
  constructor
  · intro i j hij cell d hbeside hd hd' hcell
    obtain ⟨k, hk, hk', rfl⟩ := hup.onto d hd hd'
    obtain ⟨index, hindex, rfl, hothers⟩ := exists_index hbeside hk hk'
    have hplace : haloIndex (subIndex cell (patch i).begin) =
        onPlane axis index (kRegionHalo + component (patch i).cells axis + up (component index axis)) := by
      rw [haloIndex_eq_onPlane_iff]
      unfold patchEnd at hcell
      exact ⟨by omega, hothers⟩
    have hvalue : halo j (onPlane axis index (kRegionHalo + up (component index axis))) = view (patch j) (halo j)
        (setComponent cell axis (component (patch j).begin axis + up (component index axis))) := by
      rw [view, haloIndex_eq_onPlane_iff.mpr ⟨?_, fun other hother => ?_⟩]
      · rw [component_setComponent_same]
        omega
      · rw [component_setComponent_of_ne _ _ hother.symm, ((hneighbors.above i j hij).beside other hother).1]
        exact hothers other hother
    rw [← hvalue]
    refine storeAll_of_mem ⟨_, (hstores i _).mpr (.inr ⟨j, hij, index, hindex, rfl⟩), hplace.symm⟩ fun store hstore hat => ?_
    rcases (hstores i store).mp hstore with ⟨j', -, index', hindex', rfl⟩ | ⟨j', hj', index', hindex', rfl⟩
    · have hplane := (haloIndex_eq_onPlane_iff.mp hat.symm).1
      have hmaps := hdown.maps _ (hturn hindex').1 (hturn hindex').2
      have hextent := hcells i
      unfold patchEnd at hcell
      omega
    · obtain ⟨hplane, hothers'⟩ := haloIndex_eq_onPlane_iff.mp hat.symm
      have hplane' := (haloIndex_eq_onPlane_iff.mp hplace).1
      have hk'' := hup.injective _ _ (hturn hindex').1 (hturn hindex').2 hk hk' (by omega)
      obtain rfl := hsame hk'' hothers' hothers
      obtain rfl : j = j' := some.inj (hij.symm.trans hj')
      rfl
  · intro i j hij cell d hbeside hd hd' hcell
    obtain ⟨k, hk, hk', rfl⟩ := hdown.onto d hd hd'
    obtain ⟨index, hindex, rfl, hothers⟩ := exists_index hbeside hk hk'
    have habove := hneighbors.above j i ((hneighbors.inverse j i).mpr hij)
    have hplace : haloIndex (subIndex cell (patch i).begin) =
        onPlane axis index (kRegionHalo - 1 - down (component index axis)) := by
      rw [haloIndex_eq_onPlane_iff]
      exact ⟨by omega, hothers⟩
    have hvalue : halo j (onPlane axis index
          (kRegionHalo + component (patch j).cells axis - 1 - down (component index axis))) =
        view (patch j) (halo j) (setComponent cell axis (patchEnd (patch j) axis - 1 - down (component index axis))) := by
      rw [view, haloIndex_eq_onPlane_iff.mpr ⟨?_, fun other hother => ?_⟩]
      · rw [component_setComponent_same, patchEnd]
        omega
      · rw [component_setComponent_of_ne _ _ hother.symm, ← (habove.beside other hother).1]
        exact hothers other hother
    rw [← hvalue]
    refine storeAll_of_mem ⟨_, (hstores i _).mpr (.inl ⟨j, hij, index, hindex, rfl⟩), hplace.symm⟩ fun store hstore hat => ?_
    rcases (hstores i store).mp hstore with ⟨j', hj', index', hindex', rfl⟩ | ⟨j', -, index', hindex', rfl⟩
    · obtain ⟨hplane, hothers'⟩ := haloIndex_eq_onPlane_iff.mp hat.symm
      have hplane' := (haloIndex_eq_onPlane_iff.mp hplace).1
      have hk'' := hdown.injective _ _ (hturn hindex').1 (hturn hindex').2 hk hk' (by omega)
      obtain rfl := hsame hk'' hothers' hothers
      obtain rfl : j = j' := some.inj (hij.symm.trans hj')
      rfl
    · have hplane := (haloIndex_eq_onPlane_iff.mp hat.symm).1
      have hmaps := hup.maps _ (hturn hindex').1 (hturn hindex').2
      have hextent := hcells i
      omega
  · intro i cell hnot
    refine storeAll_of_not_mem fun store hstore hat => hnot ?_
    rcases (hstores i store).mp hstore with ⟨j, hj, index, hindex, rfl⟩ | ⟨j, hj, index, hindex, rfl⟩
    · obtain ⟨hplane, hothers⟩ := haloIndex_eq_onPlane_iff.mp hat.symm
      have hmaps := hdown.maps _ (hturn hindex).1 (hturn hindex).2
      refine ⟨beside_of_index hindex hothers, .inr ⟨by rw [hj]; exact some_ne_none j, by omega, by omega⟩⟩
    · obtain ⟨hplane, hothers⟩ := haloIndex_eq_onPlane_iff.mp hat.symm
      have hmaps := hup.maps _ (hturn hindex).1 (hturn hindex).2
      refine ⟨beside_of_index hindex hothers, .inl ⟨by rw [hj]; exact some_ne_none j, ?_, ?_⟩⟩ <;>
        unfold patchEnd <;> omega

end Effect

def wrap (globalCells cell : Int3) : Int3 :=
  ofComponents fun axis => component cell axis % component globalCells axis

/-- A cell of the box, or an image of one on periodic axes. -/
def Real (globalCells : Int3) (periodic : Axis → Bool) (cell : Int3) : Prop :=
  ∀ axis, periodic axis = true ∨ 0 ≤ component cell axis ∧ component cell axis < component globalCells axis

def HaloFilled {n : ℕ} (patch : Fin n → MeshPatch) (globalCells : Int3) (periodic : Axis → Bool) (value : Int3 → ℕ)
    (margins : Axis → ℤ) (halo : Fin n → Region) : Prop :=
  ∀ i cell, Near (patch i) margins cell → Real globalCells periodic cell →
    view (patch i) (halo i) cell = value (wrap globalCells cell)

variable {n : ℕ} (hn : 0 < n) {patch : Fin n → MeshPatch} {globalCells : Int3} {periodic : Axis → Bool} {axis : Axis}
  {upper lower : Fin n → Option (Fin n)} (hneighbors : Neighbors patch globalCells (periodic axis) axis upper lower)
  {value : Int3 → ℕ} {halo halo' : Fin n → Region}

variable {depth : ℤ} {halo'' : Fin n → Region}

variable {depth' : ℤ}

lemma wrap_setComponent {cell : Int3} {plane : ℤ}
    (h : plane % component globalCells axis = component cell axis % component globalCells axis) :
    wrap globalCells (setComponent cell axis plane) = wrap globalCells cell := by
  apply int3_ext
  intro other
  rw [wrap, wrap, component_ofComponents, component_ofComponents, component_setComponent]
  split_ifs with hother
  · rw [← hother, h]
  · rfl

lemma Above.image {patch above : MeshPatch} (h : Above globalCells (periodic axis) axis patch above) (d : ℤ) : ((component above.begin axis + d) % component globalCells axis =
        (patchEnd patch axis + d) % component globalCells axis) ∧
      (periodic axis = true ∨ component above.begin axis + d = patchEnd patch axis + d) := by
  rcases h.meets with hmeets | ⟨hperiodic, hbegin, hend⟩
  · rw [hmeets]
    exact ⟨rfl, .inr rfl⟩
  · rw [hbegin, hend, zero_add]
    exact ⟨(Int.add_emod_left _ _).symm, .inl hperiodic⟩

lemma Real.setComponent {cell : Int3} (h : Real globalCells periodic cell) {plane : ℤ}
    (hplane : periodic axis = true ∨ plane = component cell axis) :
    Real globalCells periodic (setComponent cell axis plane) := by
  intro other
  rw [component_setComponent]
  split_ifs with hother
  · subst hother
    rcases hplane with hperiodic | rfl
    · exact .inl hperiodic
    · exact h axis
  · exact h other

include hneighbors in
lemma Exchanged.filled (h : Exchanged patch axis depth depth' upper lower halo halo') (hdepth : 0 ≤ depth)
    (hsource : ∀ i, depth' ≤ component (patch i).cells axis + depth)
    (hfilled : HaloFilled patch globalCells periodic value (margin axis depth) halo) :
    HaloFilled patch globalCells periodic value (margin axis depth') halo' := by
  intro i cell hnear hreal
  have haxis := hnear axis
  rw [margin_same] at haxis
  -- what a rank receives is filled where it comes from, and stands for the cell
  have hfrom : ∀ {j plane}, (Beside (patch j) axis cell ↔ Beside (patch i) axis cell) →
      component (patch j).begin axis - depth ≤ plane → plane < patchEnd (patch j) axis + depth →
      plane % component globalCells axis = component cell axis % component globalCells axis →
      (periodic axis = true ∨ plane = component cell axis) →
      view (patch j) (halo j) (setComponent cell axis plane) = value (wrap globalCells cell) := by
    intro j plane hbeside hbegin hend hmod hplane
    rw [← wrap_setComponent hmod]
    apply hfilled j _ _ (hreal.setComponent hplane)
    apply near_of_beside ((hbeside.mpr hnear.beside).setComponent plane)
    rw [component_setComponent_same]
    exact ⟨hbegin, hend⟩
  by_cases hlow : component cell axis < component (patch i).begin axis - depth
  · obtain ⟨d, hd⟩ : ∃ d, component cell axis = component (patch i).begin axis - 1 - d :=
      ⟨component (patch i).begin axis - 1 - component cell axis, by ring⟩
    cases hlower : lower i with
    | none =>
      obtain ⟨hperiodic, hbegin⟩ := hneighbors.lower_none i hlower
      have hinside := (hreal axis).resolve_left (by rw [hperiodic]; exact Bool.false_ne_true)
      omega
    | some j =>
      have habove := hneighbors.above j i ((hneighbors.inverse j i).mpr hlower)
      have himage := habove.image (-1 - d)
      have hsourcej := hsource j
      rw [h.below i j hlower cell d hnear.beside (by omega) (by omega) hd]
      refine hfrom (habove.beside_iff cell).symm (by unfold patchEnd; omega) (by omega) ?_ ?_
      · rw [hd, show patchEnd (patch j) axis - 1 - d = patchEnd (patch j) axis + (-1 - d) by ring, ← himage.1]
        congr 1
        ring
      · exact himage.2.imp_right fun hmeets => by omega
  · by_cases hhigh : patchEnd (patch i) axis + depth ≤ component cell axis
    · obtain ⟨d, hd⟩ : ∃ d, component cell axis = patchEnd (patch i) axis + d := ⟨_, (add_sub_cancel _ _).symm⟩
      cases hupper : upper i with
      | none =>
        obtain ⟨hperiodic, hend⟩ := hneighbors.upper_none i hupper
        have hinside := (hreal axis).resolve_left (by rw [hperiodic]; exact Bool.false_ne_true)
        omega
      | some j =>
        have habove := hneighbors.above i j hupper
        have himage := habove.image d
        have hsourcej := hsource j
        rw [h.above i j hupper cell d hnear.beside (by omega) (by omega) hd]
        refine hfrom (habove.beside_iff cell) (by omega) (by unfold patchEnd; omega) ?_ ?_
        · rw [hd, himage.1]
        · exact himage.2.imp_right fun hmeets => by omega
    · have hnot : ¬ Receives patch axis depth depth' upper lower i cell := by
        rintro ⟨-, ⟨-, hin, -⟩ | ⟨-, -, hin⟩⟩ <;> omega
      rw [h.frame i cell hnot]
      exact hfilled i cell (near_of_beside hnear.beside ⟨not_lt.mp hlow, not_le.mp hhigh⟩) hreal

lemma Exchanged.trans {depth'' : ℤ} (h : Exchanged patch axis depth depth' upper lower halo halo')
    (h' : Exchanged patch axis depth' depth'' upper lower halo' halo'') (hdepth : 0 ≤ depth) (hle : depth ≤ depth')
    (hle' : depth' ≤ depth'') (hsource : ∀ i, depth'' ≤ component (patch i).cells axis + depth) :
    Exchanged patch axis depth depth'' upper lower halo halo'' := by
  constructor
  · intro i j hij cell d hbeside hd hd' hcell
    have hsourcej := hsource j
    by_cases hfirst : d < depth'
    · rw [h'.frame i cell, h.above i j hij cell d hbeside hd hfirst hcell]
      rintro ⟨-, ⟨-, hin, -⟩ | ⟨-, -, hin⟩⟩
      · omega
      · have hcells := hsource i
        unfold patchEnd at hcell
        omega
    · rw [h'.above i j hij cell d hbeside (not_lt.mp hfirst) hd' hcell, h.frame j]
      rintro ⟨-, ⟨-, hin, -⟩ | ⟨-, -, hin⟩⟩ <;> rw [component_setComponent_same] at hin
      · unfold patchEnd at hin
        omega
      · omega
  · intro i j hij cell d hbeside hd hd' hcell
    have hsourcej := hsource j
    by_cases hfirst : d < depth'
    · rw [h'.frame i cell, h.below i j hij cell d hbeside hd hfirst hcell]
      rintro ⟨-, ⟨-, hin, -⟩ | ⟨-, -, hin⟩⟩
      · have hcells := hsource i
        unfold patchEnd at hin
        omega
      · omega
    · rw [h'.below i j hij cell d hbeside (not_lt.mp hfirst) hd' hcell, h.frame j]
      rintro ⟨-, ⟨-, hin, -⟩ | ⟨-, -, hin⟩⟩ <;> rw [component_setComponent_same] at hin
      · omega
      · unfold patchEnd at hin
        omega
  · intro i cell hnot
    rw [h'.frame i cell, h.frame i cell]
    · rintro ⟨hbeside, ⟨hupper, hin, hin'⟩ | ⟨hlower, hin, hin'⟩⟩
      · exact hnot ⟨hbeside, .inl ⟨hupper, hin, by omega⟩⟩
      · exact hnot ⟨hbeside, .inr ⟨hlower, by omega, hin'⟩⟩
    · rintro ⟨hbeside, ⟨hupper, hin, hin'⟩ | ⟨hlower, hin, hin'⟩⟩
      · exact hnot ⟨hbeside, .inl ⟨hupper, by omega, hin'⟩⟩
      · exact hnot ⟨hbeside, .inr ⟨hlower, hin, by omega⟩⟩

lemma Exchanged.unique (h : Exchanged patch axis depth depth' upper lower halo halo')
    (h' : Exchanged patch axis depth depth' upper lower halo halo'') : halo' = halo'' := by
  funext i index
  -- the global cell of the index
  have hview : ∀ region : Region, region index = view (patch i) region
      (subIndex (addIndex index (patch i).begin) ⟨kRegionHalo, kRegionHalo, kRegionHalo⟩) := by
    intro region
    unfold view
    congr 1
    apply int3_ext
    intro other
    simp only [component_haloIndex, component_subIndex, component_addIndex]
    cases other <;> simp only [component] <;> ring
  rw [hview (halo' i), hview (halo'' i)]
  generalize subIndex (addIndex index (patch i).begin) ⟨kRegionHalo, kRegionHalo, kRegionHalo⟩ = cell
  by_cases hreceives : Receives patch axis depth depth' upper lower i cell
  · obtain ⟨hbeside, ⟨hupper, hin, hin'⟩ | ⟨hlower, hin, hin'⟩⟩ := hreceives
    · obtain ⟨j, hj⟩ := ne_none_iff_exists'.mp hupper
      have hcell : component cell axis = patchEnd (patch i) axis + (component cell axis - patchEnd (patch i) axis) := by ring
      rw [h.above i j hj cell _ hbeside (by omega) (by omega) hcell,
        h'.above i j hj cell _ hbeside (by omega) (by omega) hcell]
    · obtain ⟨j, hj⟩ := ne_none_iff_exists'.mp hlower
      have hcell : component cell axis =
          component (patch i).begin axis - 1 - (component (patch i).begin axis - 1 - component cell axis) := by ring
      rw [h.below i j hj cell _ hbeside (by omega) (by omega) hcell,
        h'.below i j hj cell _ hbeside (by omega) (by omega) hcell]
  · rw [h.frame i cell hreceives, h'.frame i cell hreceives]

lemma depths_one (depth : ℕ) : Depths (fun _ => (depth : ℤ)) 1 depth (depth + 1 : ℕ) := by
  constructor
  · intro k _ _
    omega
  · intro d _ _
    exact ⟨0, le_refl _, Int.one_pos, by omega⟩
  · intro k k' _ _ _ _ _
    omega

lemma depths_up : Depths (fun k => k) kRegionHalo 0 kRegionHalo :=
  ⟨fun _ h h' => ⟨h, h'⟩, fun d h h' => ⟨d, h, h', rfl⟩, fun _ _ _ _ _ _ h => h⟩

lemma depths_down : Depths (fun k => kRegionHalo - 1 - k) kRegionHalo 0 kRegionHalo := by
  constructor
  · intro k _ _
    omega
  · intro d _ _
    exact ⟨kRegionHalo - 1 - d, by omega, by omega, by ring⟩
  · intro k k' _ _ _ _ _
    omega

include hneighbors in
lemma planeByPlane_step (hcells : ∀ i, 0 < component (patch i).cells axis) (tag depth : ℕ) (halo : Fin n → Region) :
    ∃ t halo', (mpiJob hn).Run (fun i => exchangePlanes (EBTopology.lowerRank (patch i) (periodic axis) axis)
        (EBTopology.upperRank (patch i) (periodic axis) axis) tag
        (boxIndices (exchangeCount (patch i).cells (shapeOf (patch i)) axis 1))
        (fun index => onPlane axis index (kRegionHalo + depth))
        (fun index => onPlane axis index (kRegionHalo + component (patch i).cells axis - 1 - depth))
        (fun index => onPlane axis index (kRegionHalo - 1 - depth))
        (fun index => onPlane axis index (kRegionHalo + component (patch i).cells axis + depth)) (halo i)) t
        (fun i => some (halo' i)) ∧
      Exchanged patch axis depth (depth + 1 : ℕ) upper lower halo halo' :=
  exchange_effect hn hneighbors (fun i => (hcells i).le) tag (Int.natCast_nonneg depth) (depths_one depth)
    (depths_one depth) halo

lemma Exchanged.refl (patch : Fin n → MeshPatch) (axis : Axis) (depth : ℤ) (upper lower : Fin n → Option (Fin n))
    (halo : Fin n → Region) : Exchanged patch axis depth depth upper lower halo halo :=
  ⟨fun _ _ _ _ _ _ hd hd' => absurd hd' (not_lt.mpr hd), fun _ _ _ _ _ _ hd hd' => absurd hd' (not_lt.mpr hd),
    fun _ _ _ => rfl⟩

variable (value) in
include hneighbors in
lemma planeByPlane_run (hcells : ∀ i, 0 < component (patch i).cells axis) (remaining depth : ℕ) (halo : Fin n → Region) :
    ∃ t halo', (mpiJob hn).Run (fun i => exchangePlaneByPlane (patch i) (shapeOf (patch i)) (periodic axis) axis remaining
        depth (halo i)) t (fun i => ({}, halo' i)) ∧
      (HaloFilled patch globalCells periodic value (margin axis depth) halo →
        HaloFilled patch globalCells periodic value (margin axis (depth + remaining : ℕ)) halo') ∧
      ((∀ i, (remaining : ℤ) ≤ component (patch i).cells axis) →
        Exchanged patch axis depth (depth + remaining : ℕ) upper lower halo halo') := by
  induction remaining generalizing depth halo with
  | zero => exact ⟨[], halo, .done _, id, fun _ => Exchanged.refl ..⟩
  | succ remaining ih =>
    obtain ⟨t, next, hstep, hexch⟩ := planeByPlane_step hn hneighbors hcells
      (kHaloTagBase + 8 * axisNumber axis + 2 * depth) depth halo
    have hsource : ∀ i, ((depth + 1 : ℕ) : ℤ) ≤ component (patch i).cells axis + depth := by
      intro i
      have := hcells i
      omega
    obtain ⟨u, halo', hrun, hdone, hwide⟩ := ih (depth + 1) next
    rw [show depth + (remaining + 1) = depth + 1 + remaining by ring]
    refine ⟨t ++ u, halo', Network.Run.bind hstep hrun, fun hfilled => ?_, fun hwidth => ?_⟩
    · exact hdone (hexch.filled hneighbors (Int.natCast_nonneg depth) hsource hfilled)
    · apply hexch.trans (hwide fun i => by have := hwidth i; omega) <;> intros <;> try omega
      have := hwidth ‹_›
      omega

include hneighbors in
lemma slab_step (hcells : ∀ i, 0 < component (patch i).cells axis) (halo : Fin n → Region) :
    ∃ t halo', (mpiJob hn).Run (fun i => exchangeSlab (patch i) (shapeOf (patch i)) (periodic axis) axis (halo i)) t
        (fun i => ({}, halo' i)) ∧ Exchanged patch axis 0 kRegionHalo upper lower halo halo' := by
  obtain ⟨t, halo', hrun, hexch⟩ := exchange_effect hn hneighbors (fun i => (hcells i).le)
    (kHaloTagBase + 2 * axisNumber axis) (le_refl 0) depths_up depths_down halo
  refine ⟨t ++ [], halo', ?_, hexch⟩
  have hlowerTarget : ∀ k : ℤ, kRegionHalo - 1 - (kRegionHalo - 1 - k) = k := fun k => by ring
  have hupperSource : ∀ extent k : ℤ, kRegionHalo + extent - 1 - (kRegionHalo - 1 - k) =
      kRegionHalo + (extent - kRegionHalo + k) := fun extent k => by ring
  simp only [hlowerTarget, hupperSource] at hrun
  exact Network.Run.bind hrun (.done _)

include hneighbors in
lemma paths_agree (hcells : ∀ i, kRegionHalo ≤ component (patch i).cells axis) (halo : Fin n → Region) :
    ∃ t t', ∃ halo' : Fin n → Region, (mpiJob hn).Run (fun i => exchangePlaneByPlane (patch i) (shapeOf (patch i)) (periodic axis) axis
        kRegionHalo.toNat 0 (halo i)) t (fun i => ({}, halo' i)) ∧
      (mpiJob hn).Run (fun i => exchangeSlab (patch i) (shapeOf (patch i)) (periodic axis) axis (halo i)) t'
        (fun i => ({}, halo' i)) := by
  have hpos : ∀ i, 0 < component (patch i).cells axis := fun i => lt_of_lt_of_le (by decide) (hcells i)
  obtain ⟨t, halo', hplanes, -, hwide⟩ := planeByPlane_run hn hneighbors (fun _ => 0) hpos
    kRegionHalo.toNat 0 halo
  obtain ⟨t', halo'', hslab, hexch⟩ := slab_step hn hneighbors hpos halo
  obtain rfl := (hwide hcells).unique hexch
  exact ⟨t, t', halo', hplanes, hslab⟩

def BuffersFit (patch : MeshPatch) (globalCells : Int3) (periodic : Bool) (axis : Axis) (bufferSize : ℕ) : Prop :=
  ∃ elements, exchangeBufferElements patch globalCells (shapeOf patch) periodic axis = some elements ∧
    elements ≤ bufferSize

lemma exchangeAxis_eq {patch : MeshPatch} {periodic : Bool} {bufferSize : ℕ} (halone : alone patch periodic axis = false)
    (hbuffers : BuffersFit patch globalCells periodic axis bufferSize) {halo : Region} :
    exchangeAxis patch (shapeOf patch) periodic axis globalCells bufferSize halo =
      if narrow patch globalCells axis then
        exchangePlaneByPlane patch (shapeOf patch) periodic axis kRegionHalo.toNat 0 halo
      else exchangeSlab patch (shapeOf patch) periodic axis halo := by
  obtain ⟨elements, helem, hsize⟩ := hbuffers
  rw [exchangeBufferElements, halone, if_neg Bool.false_ne_true] at helem
  rw [exchangeAxis, halone, if_neg Bool.false_ne_true]
  cases hproduct : checkedProduct (exchangeCount patch.cells (shapeOf patch) axis
      (if narrow patch globalCells axis then 1 else kRegionHalo)) with
  | none =>
    rw [hproduct] at helem
    exact nomatch helem
  | some product =>
    rw [hproduct] at helem
    simp only at helem
    split_ifs at helem with hfits
    obtain rfl := some.inj helem
    exact if_neg (by omega)

include hneighbors in
lemma filled_alone (hupper : ∀ i, upper i = none) (hlower : ∀ i, lower i = none)
    (hfilled : HaloFilled patch globalCells periodic value (margin axis 0) halo) :
    HaloFilled patch globalCells periodic value (margin axis depth) halo := by
  intro i cell hnear hreal
  obtain ⟨hperiodic, hend⟩ := hneighbors.upper_none i (hupper i)
  have hbegin := (hneighbors.lower_none i (hlower i)).2
  have hinside := (hreal axis).resolve_left (by rw [hperiodic]; exact Bool.false_ne_true)
  exact hfilled i cell (near_of_beside hnear.beside ⟨by omega, by omega⟩) hreal

include hneighbors in
lemma exchangeAxis_run (hcells : ∀ i, 0 < component (patch i).cells axis)
    (hwide : (∀ i, narrow (patch i) globalCells axis = true) ∨
      ∀ i, narrow (patch i) globalCells axis = false ∧ kRegionHalo ≤ component (patch i).cells axis)
    (halone : (∀ i, alone (patch i) (periodic axis) axis = true ∧ upper i = none ∧ lower i = none) ∨
      ∀ i, alone (patch i) (periodic axis) axis = false)
    {bufferSize : Fin n → ℕ} (hbuffers : ∀ i, BuffersFit (patch i) globalCells (periodic axis) axis (bufferSize i))
    (hfilled : HaloFilled patch globalCells periodic value (margin axis 0) halo) :
    ∃ t halo', (mpiJob hn).Run (fun i => exchangeAxis (patch i) (shapeOf (patch i)) (periodic axis) axis globalCells
        (bufferSize i) (halo i)) t (fun i => ({}, halo' i)) ∧
      HaloFilled patch globalCells periodic value (margin axis kRegionHalo) halo' := by
  rcases halone with halone | halone
  · simp only [exchangeAxis, (halone _).1, if_true]
    exact ⟨[], halo, .done _, filled_alone hneighbors (fun i => (halone i).2.1) (fun i => (halone i).2.2) hfilled⟩
  · simp only [exchangeAxis_eq (halone _) (hbuffers _)]
    rcases hwide with hnarrow | hwide
    · simp only [hnarrow, if_true]
      obtain ⟨t, halo', hrun, hdone, -⟩ := planeByPlane_run hn hneighbors value hcells kRegionHalo.toNat 0 halo
      exact ⟨t, halo', hrun, hdone hfilled⟩
    · simp only [(hwide _).1, Bool.false_eq_true, if_false]
      obtain ⟨t, halo', hrun, hexch⟩ := slab_step hn hneighbors hcells halo
      refine ⟨t, halo', hrun, hexch.filled hneighbors (le_refl 0) (fun i => ?_) hfilled⟩
      rw [add_zero]
      exact (hwide i).2

end HundunFlow.Proofs
