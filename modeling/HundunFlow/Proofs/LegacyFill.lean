import HundunFlow.Proofs.LegacyPlanes

/-!
# The padded blocks

On the axes done so far a rank has the values of the box up to the end of its block, on the others up to
the end of its patch.
-/

namespace HundunFlow.Proofs

open Lib MgWorkspace LegacyFrame List Option
open EBTopology (boxIndices addIndex subIndex)

variable {D : Type} {n : ℕ} (hn : 0 < n) (format : DoubleFormat D)

def localField (begin_ : Int3) (field : SnapshotFieldView D) : SnapshotFieldView D :=
  { field with values := fun cell c => field.values (addIndex begin_ cell) c }

/-- The ranks hold the fields of one box. -/
structure LegacyJob (fields : List (SnapshotFieldView D)) (globalCells : Int3) (centres : Axis → ℤ → D) (pressureReference : D)
    (input : Fin n → LegacyInput D) : Prop where
  fields_eq : ∀ i, (input i).fields = fields.map (localField (input i).patch.begin)
  globalCells_eq : ∀ i, (input i).globalCells = globalCells
  centres_eq : ∀ i, (input i).centres = centres
  pressure_eq : ∀ i, (input i).pressureReference = pressureReference
  partition : Partitions {cell | InBox globalCells cell} fun i => {cell | Contains (input i).patch cell}

def valuesAt (fields : List (SnapshotFieldView D)) (cell : Int3) : List D :=
  fields.flatMap fun field => (range field.components).map fun d => field.values cell d

def componentCount (fields : List (SnapshotFieldView D)) : ℕ := (fields.map SnapshotFieldView.components).sum

variable (i : Fin n) {axis : Axis} {values : Fin n → Values D} {done : List Axis}

lemma length_valuesAt (fields : List (SnapshotFieldView D)) (cell : Int3) : (valuesAt fields cell).length = componentCount fields := by
  simp [valuesAt, componentCount, length_flatMap]

/-- Component `c` at a cell of the box. -/
def globalValue (fields : List (SnapshotFieldView D)) (cell : Int3) (c : ℕ) : D := (valuesAt fields cell).getD c format.zero

variable {fields : List (SnapshotFieldView D)} {globalCells : Int3} {centres : Axis → ℤ → D} {pressureReference : D}
  {input : Fin n → LegacyInput D} (job : LegacyJob fields globalCells centres pressureReference input)

include job

lemma LegacyJob.cellValues_eq (cell : Int3) :
    (input i).cellValues cell = valuesAt fields (addIndex (input i).patch.begin cell) := by
  rw [LegacyInput.cellValues, job.fields_eq, flatMap_map]
  rfl

lemma LegacyJob.components_eq : (input i).components = componentCount fields := by
  rw [LegacyInput.components, job.fields_eq, List.map_map]
  rfl

lemma LegacyJob.patches (hvalid : ∀ i, (input i).validateOutputSnapshot.isOk = true) : LegacyPatches globalCells input := by
  refine ⟨job.globalCells_eq, fun i axis => ?_, job.partition⟩
  have hi := hvalid i
  unfold LegacyInput.validateOutputSnapshot at hi
  split_ifs at hi with hbad
  · exact nomatch hi
  · push Not at hbad
    obtain ⟨hx, hy, hz, -⟩ := hbad
    cases axis
    · exact hx
    · exact hy
    · exact hz

def BlockFilled (format : DoubleFormat D) (fields : List (SnapshotFieldView D)) (input : LegacyInput D) (done : List Axis)
    (values : Values D) : Prop :=
  ∀ point, (∀ a, 0 ≤ component point a ∧ component point a < input.extent a) →
    (∀ a, a ∉ done → component point a < component input.patch.cells a) →
    ∀ c < componentCount fields, values point c = globalValue format fields (addIndex input.patch.begin point) c

omit job in
lemma foldl_cell (l : List D) (cell : Int3) (values : Values D) (point : Int3) (c : ℕ) :
    l.zipIdx.foldl (fun values entry => setValue values cell entry.2 entry.1) values point c =
      if point = cell ∧ c < l.length then l.getD c format.zero else values point c := by
  have hmap : l.zipIdx.foldl (fun values entry => setValue values cell entry.2 entry.1) values =
      (l.zipIdx.map fun entry => ((cell, entry.2), entry.1)).foldl (fun values e => setValue values e.1.1 e.1.2 e.2) values := by
    rw [foldl_map]
  rw [hmap, foldl_setValue (l.getD c format.zero) ?_]
  · have hmem : (point, c) ∈ (l.zipIdx.map fun entry => ((cell, entry.2), entry.1)).map Prod.fst ↔ point = cell ∧ c < l.length := by
      simp only [List.map_map, List.mem_map, Function.comp_apply, Prod.mk.injEq, Prod.exists, mk_mem_zipIdx_iff_getElem?]
      constructor
      · rintro ⟨value, k, hk, rfl, rfl⟩
        exact ⟨rfl, (List.getElem?_eq_some_iff.mp hk).1⟩
      · rintro ⟨rfl, hc⟩
        exact ⟨l[c], c, List.getElem?_eq_getElem hc, rfl, rfl⟩
    rw [if_congr hmem rfl rfl]
  · intro e he heq
    obtain ⟨⟨value, k⟩, hk, rfl⟩ := List.mem_map.mp he
    obtain ⟨rfl, rfl⟩ := Prod.mk.inj heq
    rw [mk_mem_zipIdx_iff_getElem?] at hk
    rw [getD_eq_getElem?_getD, hk]
    rfl

lemma LegacyJob.filled_initial : BlockFilled format fields (input i) [] ((input i).initialValues format) := by
  intro point hblock hpatch c hc
  have hrule := foldl_rule (I := fun seen (values : Values D) => ∀ p ∈ seen, ∀ c < componentCount fields,
      values p c = ((input i).cellValues p).getD c format.zero)
    (f := fun values cell => ((input i).cellValues cell).zipIdx.foldl
      (fun values entry => setValue values cell entry.2 entry.1) values)
    (l := boxIndices (input i).patch.cells) (s := fun _ _ => format.zero) (by simp) ?_
  · have hmem : point ∈ boxIndices (input i).patch.cells :=
      mem_boxIndices.mpr fun a => ⟨(hblock a).1, hpatch a (not_mem_nil)⟩
    rw [globalValue, ← job.cellValues_eq]
    exact hrule point hmem c hc
  · intro seen cell values _ hseen p hp c hc
    have hlength : ((input i).cellValues cell).length = componentCount fields := by rw [job.cellValues_eq, length_valuesAt]
    rw [foldl_cell format, hlength]
    by_cases hcell : p = cell
    · subst hcell
      rw [if_pos ⟨rfl, hc⟩]
    · rw [if_neg fun h => hcell h.1]
      rcases mem_append.mp hp with hold | hnew
      · exact hseen p hold c hc
      · exact absurd (mem_singleton.mp hnew) hcell

variable (patches : LegacyPatches globalCells input)

omit job in
include patches in
lemma LegacyPatches.extent_behind {a : Axis} {i j : Fin n} (h : Behind axis (input i).patch (input j).patch)
    (ha : a ≠ axis) : (input j).extent a = (input i).extent a := by
  rw [LegacyInput.extent, LegacyInput.extent, h.begin_ a ha, h.cells a ha, patches.globalCells_eq, patches.globalCells_eq]

omit job in
lemma component_dims (input : LegacyInput D) (axis : Axis) : component input.dims axis = input.extent axis := by
  cases axis <;> rfl

omit job in
include patches in
lemma LegacyPatches.plane_behind {i j : Fin n} (h : Behind axis (input i).patch (input j).patch) :
    setComponent (input j).dims axis 1 = setComponent (input i).dims axis 1 := by
  apply int3_ext
  intro a
  rw [component_setComponent, component_setComponent]
  by_cases ha : axis = a
  · rw [if_pos ha, if_pos ha]
  · rw [if_neg ha, if_neg ha, component_dims, component_dims, patches.extent_behind h (Ne.symm ha)]

omit job in
lemma length_sent (input : LegacyInput D) (axis : Axis) (values : Values D) :
    (input.sent axis values).length = (slots (boxIndices (setComponent input.dims axis 1)) input.components).length := by
  rw [LegacyInput.sent, length_map, planePoints, slots_map, length_map]

omit job in
include patches in
lemma exists_before (j : Fin n) (axis : Axis) : ∃ low : Option (Fin n),
    lowRank (input j).own (boxesOf input) axis = low.map Fin.val ∧
      ∀ i, Behind axis (input i).patch (input j).patch → low = some i := by
  cases hlow : lowRank (input j).own (boxesOf input) axis with
  | none =>
    refine ⟨none, rfl, fun i hi => ?_⟩
    rw [lowRank_of_behind patches hi] at hlow
    cases hlow
  | some r =>
    obtain ⟨i, rfl, hi⟩ := lowRank_some hlow
    exact ⟨some i, rfl, fun k hk => by rw [Behind.unique_before patches hi hk]⟩

def withPlane (input : Fin n → LegacyInput D) (axis : Axis) (values : Fin n → Values D) (high : Option (Fin n)) (i : Fin n) : Values D :=
  match high with
  | none => values i
  | some j => (input i).storePlane axis ((input j).sent axis (values j)) (values i)

include patches

lemma LegacyJob.filled_axis (h : ∀ i, BlockFilled format fields (input i) done (values i)) {i : Fin n}
    {high : Option (Fin n)} (hhigh : highRank (input i).own (boxesOf input) axis = high.map Fin.val)
    (hbehind : ∀ j, high = some j → Behind axis (input i).patch (input j).patch)
    (hok : ((input i).neighbourStatus (boxesOf input) axis).isOk = true) :
    BlockFilled format fields (input i) (axis :: done) (withPlane input axis values high i) := by
  intro point hblock hpatch c hc
  have hothers : ∀ a, a ≠ axis → a ∉ done → component point a < component (input i).patch.cells a := fun a ha hdone =>
    hpatch a fun hmem => (mem_cons.mp hmem).elim ha hdone
  cases high with
  | none =>
    -- without a neighbour the patch ends at the side of the box
    have hend : component globalCells axis ≤ component (input i).patch.begin axis + component (input i).patch.cells axis := by
      unfold LegacyInput.neighbourStatus at hok
      split_ifs at hok with hbad
      · exact nomatch hok
      · by_contra hlt
        rw [← patches.globalCells_eq i] at hlt
        exact hbad (.inr ⟨not_le.mp hlt, hhigh⟩)
    refine h i point hblock (fun a hdone => ?_) c hc
    by_cases ha : a = axis
    · subst ha
      have hextent := (hblock a).2
      rw [LegacyInput.extent, patches.globalCells_eq, if_neg (by omega)] at hextent
      omega
    · exact hothers a ha hdone
  | some j =>
    have hj := hbehind j rfl
    have hpos := patches.nonempty j axis
    have hextent : (input i).extent axis = component (input i).patch.cells axis + 1 := by
      have hfirst : Contains (input j).patch (input j).patch.begin := contains_iff_axes.mpr fun a => by
        have hpos := patches.nonempty j a
        rw [patchEnd]
        omega
      have hbox := (inBox_iff_axes.mp (patches.partition.subset j hfirst) axis).2
      have hmeets := hj.meets
      rw [LegacyInput.extent, patches.globalCells_eq, if_pos (by omega)]
    have hcompon : (input j).components = (input i).components := by rw [job.components_eq, job.components_eq]
    change (input i).storePlane axis ((input j).sent axis (values j)) (values i) point c = _
    rw [storePlane_spec (patches.plane_behind hj) hcompon, job.components_eq, component_dims, hextent, add_sub_cancel_right]
    by_cases hplane : component point axis = component (input i).patch.cells axis
    · -- the plane has the values of the cells behind the patch
      rw [if_pos ⟨mem_planePoints.mpr ⟨hplane, fun a _ => by rw [component_dims]; exact hblock a⟩, hc⟩]
      have hcell : addIndex (input j).patch.begin (setComponent point axis 0) = addIndex (input i).patch.begin point := by
        apply int3_ext
        intro a
        rw [component_addIndex, component_addIndex, component_setComponent]
        by_cases ha : axis = a
        · subst ha
          have hmeets := hj.meets
          rw [if_pos rfl]
          omega
        · rw [if_neg ha, hj.begin_ a (Ne.symm ha)]
      rw [← hcell]
      refine h j _ (fun a => ?_) (fun a hdone => ?_) c hc
      · rw [component_setComponent]
        by_cases ha : axis = a
        · subst ha
          rw [if_pos rfl, LegacyInput.extent]
          split_ifs <;> omega
        · rw [if_neg ha, patches.extent_behind hj (Ne.symm ha)]
          exact hblock a
      · rw [component_setComponent]
        by_cases ha : axis = a
        · subst ha
          rwa [if_pos rfl]
        · rw [if_neg ha, hj.cells a (Ne.symm ha)]
          exact hothers a (Ne.symm ha) hdone
    · rw [if_neg fun hmem => hplane (mem_planePoints.mp hmem.1).1]
      refine h i point hblock (fun a hdone => ?_) c hc
      by_cases ha : a = axis
      · subst ha
        have hlt := (hblock a).2
        rw [hextent] at hlt
        omega
      · exact hothers a ha hdone

lemma LegacyJob.together_exchangeAxis (axis : Axis)
    (h : ∀ i, BlockFilled format fields (input i) done (values i)) : ∃ values' : Fin n → Values D,
      Network.Together (legacyNetwork hn) (fun i => (input i).exchangeAxis (boxesOf input) axis (values i))
        (∀ i, ((input i).neighbourStatus (boxesOf input) axis).isOk = true) (fun status => status.isOk = false) values' ∧
      ((∀ i, ((input i).neighbourStatus (boxesOf input) axis).isOk = true) →
        ∀ i, BlockFilled format fields (input i) (axis :: done) (values' i)) := by
  have hhighs : ∀ i, ∃ high : Option (Fin n), highRank (input i).own (boxesOf input) axis = high.map Fin.val ∧
      ∀ j, high = some j → Behind axis (input i).patch (input j).patch := fun i => exists_behind i axis
  choose high hhigh hbehind using hhighs
  have hlows := fun j => exists_before patches j axis
  choose low hlow hbefore using hlows
  refine ⟨fun i => withPlane input axis values (high i) i, ?_, fun hok i => job.filled_axis format patches h (hhigh i) (hbehind i) (hok i)⟩
  have hlengths : ∀ i j, high i = some j → ((input j).sent axis (values j)).length = ((input i).sent axis (values i)).length := by
    intro i j hij
    rw [length_sent, length_sent, patches.plane_behind (hbehind i j hij), job.components_eq, job.components_eq]
  obtain ⟨maximum, hmaximum, hle⟩ : ∃ maximum : ℕ, (legacyNetwork hn).Run
      (fun i => LegacyFrame.allreduceMax (D := D) ((input i).sent axis (values i)).length) [.allreduceMax] (fun _ => .ok maximum) ∧
        ∀ j, ((input j).sent axis (values j)).length ≤ maximum :=
    ⟨_, run_allreduceMax hn fun i => ((input i).sent axis (values i)).length, le_rankMax hn _⟩
  have hpieces : ∀ j, (chunkOffsets maximum).flatMap (chunk ((input j).sent axis (values j))) = (input j).sent axis (values j) :=
    fun j => flatMap_chunks _ (hle j)
  obtain ⟨offsets, hoffsets⟩ : ∃ offsets, chunkOffsets maximum = offsets := ⟨_, rfl⟩
  rw [hoffsets] at hpieces
  obtain ⟨t, hchunks⟩ := run_exchangeChunks hn (LegacyInput.axisTag axis) (fun i j hij => hbefore j i (hbehind i j hij)) hlengths
    offsets fun _ => []
  have hreceived : ∀ i, ([] ++ offsets.flatMap fun offset =>
      (high i).elim [] fun j => chunk ((input j).sent axis (values j)) offset) =
        (high i).elim [] fun j => (input j).sent axis (values j) := by
    intro i
    cases hi : high i with
    | none => simp only [elim_none, nil_append, flatMap_eq_nil_iff, implies_true]
    | some j => simp only [elim_some, nil_append, hpieces j]
  simp only [hreceived] at hchunks
  have hstored : ∀ i, (if ((high i).map Fin.val).isSome then
      (input i).storePlane axis ((high i).elim [] fun j => (input j).sent axis (values j)) (values i) else values i) =
        withPlane input axis values (high i) i := by
    intro i
    cases hi : high i with
    | none => simp only [map_none, isSome_none, Bool.false_eq_true, if_false, withPlane]
    | some j => simp only [map_some, isSome_some, if_true, elim_some, withPlane]
  refine Network.Together.congr (Network.Together.andThen (together_stage hn _) fun _ => ?_) (and_iff_left trivial)
  refine hmaximum.andThen_together ?_
  simp only [hlow, hhigh, hoffsets]
  refine hchunks.andThen_together ?_
  simp only [hstored]
  exact Network.Together.done

lemma LegacyJob.together_exchangeAxes {l : List Axis}
    (h : ∀ i, BlockFilled format fields (input i) done (values i)) : ∃ values' : Fin n → Values D,
      Network.Together (legacyNetwork hn) (fun i => (input i).exchangeAxes (boxesOf input) l (values i))
        (∀ axis ∈ l, ∀ i, ((input i).neighbourStatus (boxesOf input) axis).isOk = true) (fun status => status.isOk = false) values' ∧
      ((∀ axis ∈ l, ∀ i, ((input i).neighbourStatus (boxesOf input) axis).isOk = true) →
        ∀ i, BlockFilled format fields (input i) (l.reverse ++ done) (values' i)) := by
  induction l generalizing done values with
  | nil => exact ⟨values, Network.Together.congr Network.Together.done (by simp), fun _ => h⟩
  | cons axis l ih =>
    obtain ⟨values₁, haxis, hfilled⟩ := job.together_exchangeAxis hn format patches axis h
    by_cases hok : ∀ i, ((input i).neighbourStatus (boxesOf input) axis).isOk = true
    · obtain ⟨values', hrest, hall⟩ := ih (hfilled hok)
      refine ⟨values', (haxis.andThen fun _ => hrest).congr (by simp), fun hnext => ?_⟩
      simpa using hall fun a ha => hnext a (mem_cons_of_mem axis ha)
    · have hnot : ¬ ∀ a ∈ axis :: l, ∀ i, ((input i).neighbourStatus (boxesOf input) a).isOk = true :=
        fun hall => hok (hall axis mem_cons_self)
      exact ⟨values, (haxis.andThen_failed hok).congr (by simpa using hnot), fun hall => absurd hall hnot⟩

end HundunFlow.Proofs
