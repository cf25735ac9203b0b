import HundunFlow.Proofs.LegacyFill

/-!
# The frames of all ranks

The file of a rank is what the fields of the box give on its padded block, and every section is as
long as its header says.
-/

namespace HundunFlow.Proofs

open Lib MgWorkspace LegacyFrame List
open EBTopology (boxIndices addIndex subIndex)

section Lengths

variable {D : Type} (format : DoubleFormat D)

lemma length_real (value : D) : (real format value).length = 8 := rfl

lemma length_ascii (text : String) : (ascii text).length = text.length := by
  rw [ascii, length_map, String.length_toList]

lemma length_boxIndices (count : Int3) : (boxIndices count).length = count.x.toNat * count.y.toNat * count.z.toNat := by
  simp only [boxIndices, length_flatMap, length_map, length_range, map_const', sum_replicate, smul_eq_mul]
  ring

lemma length_flatMap_const {α β : Type} (l : List α) (f : α → List β) {k : ℕ} (h : ∀ a ∈ l, (f a).length = k) :
    (l.flatMap f).length = l.length * k := by
  rw [length_flatMap, map_congr_left h, map_const', sum_replicate, smul_eq_mul]

lemma length_slots (points : List Int3) (components : ℕ) : (slots points components).length = points.length * components := by
  rw [slots]
  exact length_flatMap_const points _ fun _ _ => by rw [length_map, length_range]

end Lengths

section Frames

variable {D : Type} {n : ℕ} (hn : 0 < n) (format : DoubleFormat D)

def headersOf (points : ℕ) (field : SnapshotFieldView D) : List Header :=
  fieldHeader field.stableName field.components field.source points ::
    if field.stableName = "pi" then [.scalars "Pressure" 1] else []

def headers (input : LegacyInput D) (fields : List (SnapshotFieldView D)) : List Header :=
  .preamble (format.text input.pressureReference) input.dims input.points :: .pointData input.points ::
    (fields.flatMap (headersOf input.points) ++ [.ghostType])

def headerLength (header : Header) : ℕ := header.text.length + header.ending.length

def textLength (input : LegacyInput D) (fields : List (SnapshotFieldView D)) : ℕ :=
  ((headers format input fields).map headerLength).sum

/-- The texts of a file, and a second copy of the pressure, fit in what the reservation has beyond
coordinates, components and marks: 16384 bytes and 23 for every point. -/
def TextsFit (input : LegacyInput D) (fields : List (SnapshotFieldView D)) : Prop :=
  textLength format input fields + fields.countP (fun field => field.stableName = "pi") * input.points * 8 ≤
    16384 + 23 * input.points

def globalFieldSections (input : LegacyInput D) (pressureReference : D) (field : SnapshotFieldView D) : List FileSection :=
  ⟨fieldHeader field.stableName field.components field.source input.points, input.pointList.flatMap fun point =>
      (range field.components).flatMap fun c => real format (field.values (addIndex input.patch.begin point) c)⟩ ::
    if field.stableName = "pi" then
      [⟨.scalars "Pressure" 1, input.pointList.flatMap fun point =>
        real format (format.add pressureReference (field.values (addIndex input.patch.begin point) 0))⟩]
    else []

/-- What the file of a rank should hold: at every point of its block the coordinates and the values of
the cell there, and a mark on the cells of other ranks. -/
def globalSections (input : LegacyInput D) (fields : List (SnapshotFieldView D)) (centres : Axis → ℤ → D)
    (pressureReference : D) : List FileSection :=
  ⟨.preamble (format.text pressureReference) input.dims input.points, input.pointList.flatMap fun point =>
      real format (centres .x (addIndex input.patch.begin point).x) ++ real format (centres .y (addIndex input.patch.begin point).y) ++
        real format (centres .z (addIndex input.patch.begin point).z)⟩ ::
    ⟨.pointData input.points, []⟩ :: (fields.flatMap (globalFieldSections format input pressureReference) ++
      [⟨.ghostType, input.pointList.map fun point =>
        if Contains input.patch (addIndex input.patch.begin point) then 0 else 1⟩])

lemma length_pointList (input : LegacyInput D) : input.pointList.length = input.points := length_boxIndices _

lemma mem_pointList {input : LegacyInput D} {point : Int3} : point ∈ input.pointList ↔
    ∀ a, 0 ≤ component point a ∧ component point a < input.extent a := by
  rw [LegacyInput.pointList, mem_boxIndices]
  simp only [component_dims]

variable {fields : List (SnapshotFieldView D)} {globalCells : Int3} {centres : Axis → ℤ → D} {pressureReference : D}
  {input : Fin n → LegacyInput D} (job : LegacyJob fields globalCells centres pressureReference input)

lemma fieldSections_eq (input : LegacyInput D) (values : Values D) (offset : ℕ) (rest : List (SnapshotFieldView D))
    (h0 : ∀ field ∈ rest, 0 < field.components)
    (h : ∀ point ∈ input.pointList, ∀ c < componentCount rest,
      values point (offset + c) = globalValue format rest (addIndex input.patch.begin point) c) :
    input.fieldSections format values offset (rest.map (localField input.patch.begin)) =
      rest.flatMap (globalFieldSections format input input.pressureReference) := by
  induction rest generalizing offset with
  | nil => rfl
  | cons field rest ih =>
    have hcount : componentCount (field :: rest) = field.components + componentCount rest := by
      simp [componentCount]
    have hfirst : ∀ point ∈ input.pointList, ∀ c < field.components,
        values point (offset + c) = field.values (addIndex input.patch.begin point) c := by
      intro point hpoint c hc
      rw [h point hpoint c (by omega), globalValue, valuesAt, flatMap_cons, getD_append _ _ _ _ (by simpa using hc),
        getD_eq_getElem _ _ (by simpa using hc)]
      simp
    have hlater : ∀ point ∈ input.pointList, ∀ c < componentCount rest,
        values point (offset + field.components + c) = globalValue format rest (addIndex input.patch.begin point) c := by
      intro point hpoint c hc
      rw [add_assoc, h point hpoint _ (by omega), globalValue, valuesAt, flatMap_cons,
        getD_append_right _ _ _ _ (by simp), length_map, length_range, Nat.add_sub_cancel_left]
      rfl
    have hzero := h0 field mem_cons_self
    have hmain : (input.pointList.flatMap fun point => (range field.components).flatMap fun c => real format (values point (offset + c))) =
        input.pointList.flatMap fun point => (range field.components).flatMap fun c =>
          real format (field.values (addIndex input.patch.begin point) c) := by
      refine flatMap_congr fun point hpoint => flatMap_congr fun c hc => ?_
      rw [hfirst point hpoint c (mem_range.mp hc)]
    have hpres : (input.pointList.flatMap fun point => real format (format.add input.pressureReference (values point offset))) =
        input.pointList.flatMap fun point =>
          real format (format.add input.pressureReference (field.values (addIndex input.patch.begin point) 0)) := by
      refine flatMap_congr fun point hpoint => ?_
      rw [← hfirst point hpoint 0 hzero, add_zero]
    rw [map_cons, LegacyInput.fieldSections, flatMap_cons,
      ← ih (offset + field.components) (fun f hf => h0 f (mem_cons_of_mem field hf)) hlater]
    simp only [localField, globalFieldSections, hmain, hpres, cons_append]

include job

lemma LegacyJob.sections_eq {i : Fin n} {values : Values D} (h0 : ∀ field ∈ fields, 0 < field.components)
    (hfilled : ∀ point ∈ (input i).pointList, ∀ c < componentCount fields,
      values point c = globalValue format fields (addIndex (input i).patch.begin point) c) :
    (input i).sections format values = globalSections format (input i) fields centres pressureReference := by
  have hfields := fieldSections_eq format (input i) values 0 fields h0 fun point hpoint c hc => by
    rw [zero_add]
    exact hfilled point hpoint c hc
  have hghosts : (input i).pointList.map (input i).ghost = (input i).pointList.map fun point =>
      if Contains (input i).patch (addIndex (input i).patch.begin point) then 0 else 1 := by
    refine map_congr_left fun point hpoint => ?_
    have hx : 0 ≤ point.x := (mem_pointList.mp hpoint .x).1
    have hy : 0 ≤ point.y := (mem_pointList.mp hpoint .y).1
    have hz : 0 ≤ point.z := (mem_pointList.mp hpoint .z).1
    have hiff : Contains (input i).patch (addIndex (input i).patch.begin point) ↔ ¬ ((input i).patch.cells.x ≤ point.x ∨
        (input i).patch.cells.y ≤ point.y ∨ (input i).patch.cells.z ≤ point.z) := by
      simp only [Contains, addIndex]
      omega
    rw [LegacyInput.ghost, if_congr hiff rfl rfl, ite_not]
  have hcoordinates : (input i).coordinates format = fun point =>
      real format (centres .x (addIndex (input i).patch.begin point).x) ++ real format (centres .y (addIndex (input i).patch.begin point).y) ++
        real format (centres .z (addIndex (input i).patch.begin point).z) := by
    funext point
    rw [LegacyInput.coordinates, job.centres_eq]
    rfl
  rw [LegacyInput.sections, globalSections, job.fields_eq, hfields, hghosts, hcoordinates, job.pressure_eq]

omit job

lemma fieldHeader_announces (name : String) (width : ℕ) (source : SnapshotSource) (points : ℕ) :
    (fieldHeader name width source points).announces points = points * width * 8 := by
  unfold fieldHeader
  split_ifs with hspecies hvector
  · rfl
  · rw [hvector]
    rfl
  · rfl
  · rfl

lemma globalSections_announced (input : LegacyInput D) (fields : List (SnapshotFieldView D)) (centres : Axis → ℤ → D)
    (pressureReference : D) {s : FileSection} (hs : s ∈ globalSections format input fields centres pressureReference) :
    s.payload.length = s.header.announces input.points := by
  rcases mem_cons.mp hs with rfl | hs
  · rw [length_flatMap_const _ _ fun _ _ => by rw [length_append, length_append, length_real, length_real, length_real],
      length_pointList]
    simp only [Header.announces]
    ring
  rcases mem_cons.mp hs with rfl | hs
  · rfl
  rcases mem_append.mp hs with hs | hs
  · obtain ⟨field, -, hs⟩ := mem_flatMap.mp hs
    rcases mem_cons.mp hs with rfl | hs
    · rw [length_flatMap_const _ _ fun _ _ => length_flatMap_const _ _ fun _ _ => length_real format _, length_range,
        length_pointList, fieldHeader_announces, mul_assoc]
    · split_ifs at hs
      · obtain rfl := mem_singleton.mp hs
        rw [length_flatMap_const _ _ fun _ _ => length_real format _, length_pointList]
        simp only [Header.announces, mul_one]
      · simp at hs
  · obtain rfl := mem_singleton.mp hs
    rw [length_map, length_pointList]
    rfl

lemma headers_globalSections (input : LegacyInput D) (fields : List (SnapshotFieldView D)) (centres : Axis → ℤ → D) :
    (globalSections format input fields centres input.pressureReference).map FileSection.header = headers format input fields := by
  have hfield : ∀ field, (globalFieldSections format input input.pressureReference field).map FileSection.header =
      headersOf input.points field := by
    intro field
    rw [globalFieldSections, headersOf, map_cons]
    split_ifs <;> rfl
  simp only [globalSections, headers, map_cons, map_append, map_flatMap, hfield, map_nil]

lemma announces_fields (points : ℕ) (fields : List (SnapshotFieldView D)) :
    ((fields.flatMap (headersOf points)).map (Header.announces points)).sum =
      points * componentCount fields * 8 + fields.countP (fun field => field.stableName = "pi") * points * 8 := by
  induction fields with
  | nil => simp [componentCount]
  | cons field fields ih =>
    have hcount : componentCount (field :: fields) = field.components + componentCount fields := by
      simp [componentCount]
    rw [flatMap_cons, map_append, sum_append, ih, headersOf, map_cons, sum_cons, fieldHeader_announces,
      countP_cons, hcount]
    by_cases hpi : field.stableName = "pi"
    · simp only [hpi, if_true, decide_true, map_cons, map_nil, sum_cons, sum_nil, Header.announces]
      ring
    · simp only [hpi, if_false, decide_false, map_nil, sum_nil, Bool.false_eq_true]
      ring

lemma length_file (input : LegacyInput D) (fields : List (SnapshotFieldView D)) (centres : Axis → ℤ → D) :
    ((globalSections format input fields centres input.pressureReference).flatMap FileSection.bytes).length =
      textLength format input fields + 25 * input.points + input.points * componentCount fields * 8 +
        fields.countP (fun field => field.stableName = "pi") * input.points * 8 := by
  have hbytes : ∀ s ∈ globalSections format input fields centres input.pressureReference,
      s.bytes.length = headerLength s.header + s.header.announces input.points := by
    intro s hs
    rw [FileSection.bytes, length_append, length_append, length_ascii, length_ascii,
      globalSections_announced format input fields centres input.pressureReference hs, headerLength]
    omega
  have hsum : ((globalSections format input fields centres input.pressureReference).flatMap FileSection.bytes).length =
      textLength format input fields + ((headers format input fields).map (Header.announces input.points)).sum := by
    rw [length_flatMap, map_congr_left hbytes, sum_map_add, textLength, ← headers_globalSections format input fields centres,
      map_map, map_map]
    rfl
  have hannounced : ((headers format input fields).map (Header.announces input.points)).sum =
      25 * input.points + input.points * componentCount fields * 8 +
        fields.countP (fun field => field.stableName = "pi") * input.points * 8 := by
    simp only [headers, map_cons, map_append, sum_cons, sum_append, announces_fields, Header.announces, map_nil,
      sum_nil]
    ring
  rw [hsum, hannounced]
  omega

include job

structure LegacySucceeds (format : DoubleFormat D) (fields : List (SnapshotFieldView D)) (centres : Axis → ℤ → D)
    (input : Fin n → LegacyInput D) : Prop where
  validated : ∀ i, (input i).validateOutputSnapshot.isOk = true
  indexed : ∀ i, (input i).indexed.isOk = true
  staging : ∀ i, (input i).stagingStatus.isOk = true
  neighbours : ∀ axis, ∀ i, ((input i).neighbourStatus (boxesOf input) axis).isOk = true
  created : ∀ i, (input i).created.isOk = true
  written : ∀ i, ((input i).writeStatus
    ((globalSections format (input i) fields centres (input i).pressureReference).flatMap FileSection.bytes)).isOk = true
  published : ∀ i, (input i).published.isOk = true

include hn in
lemma LegacyJob.components_pos (hvalid : ∀ i, (input i).validateOutputSnapshot.isOk = true) :
    ∀ field ∈ fields, 0 < field.components := by
  intro field hfield
  have hfirst := hvalid ⟨0, hn⟩
  unfold LegacyInput.validateOutputSnapshot at hfirst
  split_ifs at hfirst with hbad
  · exact nomatch hfirst
  · by_contra hzero
    refine hbad (.inr (.inr (.inr ⟨localField (input ⟨0, hn⟩).patch.begin field, ?_, .inr (Nat.eq_zero_of_not_pos hzero)⟩)))
    rw [job.fields_eq]
    exact mem_map_of_mem hfield

lemma LegacyJob.together_writeLegacy : Network.Together (legacyNetwork hn) (fun i => (input i).writeLegacy format)
    (LegacySucceeds format fields centres input) (fun status => status.isOk = false)
    fun i => (globalSections format (input i) fields centres (input i).pressureReference).flatMap FileSection.bytes := by
  by_cases hvalid : ∀ i, (input i).validateOutputSnapshot.isOk = true
  · have patches := job.patches hvalid
    have h0 := job.components_pos hn hvalid
    obtain ⟨values, hexchange, hfilled⟩ := job.together_exchangeAxes hn format patches (l := axes) fun i => job.filled_initial format i
    have hencode : (∀ axis ∈ axes, ∀ i, ((input i).neighbourStatus (boxesOf input) axis).isOk = true) → ∀ i,
        (input i).encode format (values i) =
          (globalSections format (input i) fields centres (input i).pressureReference).flatMap FileSection.bytes := by
      intro hok i
      have hsections := job.sections_eq format h0 fun point hpoint c hc => by
        refine hfilled hok i point (mem_pointList.mp hpoint) (fun a ha => absurd ?_ ha) c hc
        cases a <;> decide
      rw [LegacyInput.encode, hsections, job.pressure_eq]
    have hrest : Network.Together (legacyNetwork hn) (fun i => ((input i).exchangeAxes (boxesOf input) axes ((input i).initialValues format)).andThen
        fun values => (collectiveStage (input i).created).andThen fun _ =>
          (collectiveStage ((input i).writeStatus ((input i).encode format values))).andThen fun _ =>
            (collectiveStage (input i).published).andThen fun _ => .done (.ok ((input i).encode format values))) _ _ _ :=
      hexchange.andThen fun hok => by
        simp only [hencode hok]
        exact (together_stage hn _).andThen fun _ => (together_stage hn _).andThen fun _ => (together_stage hn _).andThen fun _ =>
          Network.Together.done
    refine Network.Together.congr (Network.Together.andThen (together_stage hn _) fun _ =>
      Network.Together.andThen (together_stage hn _) fun _ => Network.Together.andThen (together_stage hn _) fun _ =>
        (run_allgather hn input).andThen_together hrest) ⟨?_, ?_⟩
    · rintro ⟨hvalidated, hindexed, hstaging, hneighbours, hcreated, hwritten, hpubl, -⟩
      refine ⟨hvalidated, hindexed, hstaging, fun axis => hneighbours axis ?_, hcreated, hwritten, hpubl⟩
      cases axis <;> decide
    · intro h
      exact ⟨h.validated, h.indexed, h.staging, fun axis _ => h.neighbours axis, h.created, h.written, h.published, trivial⟩
  · refine ((together_stage hn fun i => (input i).validateOutputSnapshot).andThen_failed hvalid).congr ?_
    exact iff_of_false not_false fun h => hvalid h.validated

/-- What a frame should be: the files hold the values of the box on the padded blocks, every cell is
unmarked in one file, the sections have the lengths their headers announce, and no buffer outgrows what
is reserved for it. -/
structure FramesCorrect (format : DoubleFormat D) (fields : List (SnapshotFieldView D)) (globalCells : Int3)
    (centres : Axis → ℤ → D) (pressureReference : D) (input : Fin n → LegacyInput D) (file : Fin n → List UInt8) : Prop where
  content : ∀ i, file i = (globalSections format (input i) fields centres pressureReference).flatMap FileSection.bytes
  announced : ∀ i, ∀ s ∈ globalSections format (input i) fields centres pressureReference,
    s.payload.length = s.header.announces (input i).points
  inside : ∀ i, ∀ point ∈ (input i).pointList, InBox globalCells (addIndex (input i).patch.begin point)
  unmarked : ∀ cell, InBox globalCells cell →
    ∃! i, ∃ point ∈ (input i).pointList, addIndex (input i).patch.begin point = cell ∧ Contains (input i).patch cell
  planes : ∀ i axis values, ((input i).sent axis values).length ≤ (input i).points * (input i).components
  bytes : ∀ i, (file i).length ≤ (input i).reserved

omit job in
lemma length_sent_le (input : LegacyInput D) (h : ∀ a, 0 < component input.patch.cells a) (axis : Axis) (values : Values D) :
    (input.sent axis values).length ≤ input.points * input.components := by
  have hextent : ∀ a, 1 ≤ (component input.dims a).toNat := by
    intro a
    have hpos := h a
    rw [component_dims, LegacyInput.extent]
    split_ifs <;> omega
  rw [length_sent, length_slots, length_boxIndices]
  apply Nat.mul_le_mul_right
  rw [LegacyInput.points]
  cases axis
  · exact Nat.mul_le_mul_right _ (Nat.mul_le_mul_right _ (hextent .x))
  · exact Nat.mul_le_mul_right _ (Nat.mul_le_mul_left _ (hextent .y))
  · exact Nat.mul_le_mul_left _ (hextent .z)

lemma LegacyJob.point_inBox (patches : LegacyPatches globalCells input) {i : Fin n} {point : Int3}
    (hpoint : point ∈ (input i).pointList) : InBox globalCells (addIndex (input i).patch.begin point) := by
  have hfirst : Contains (input i).patch (input i).patch.begin := contains_iff_axes.mpr fun a => by
    have hpos := patches.nonempty i a
    rw [patchEnd]
    omega
  have hlast : Contains (input i).patch (ofComponents fun a => patchEnd (input i).patch a - 1) := contains_iff_axes.mpr fun a => by
    have hpos := patches.nonempty i a
    rw [component_ofComponents, patchEnd]
    omega
  rw [inBox_iff_axes]
  intro a
  have hlow := inBox_iff_axes.mp (job.partition.subset i hfirst) a
  have hhigh := inBox_iff_axes.mp (job.partition.subset i hlast) a
  have hrange := mem_pointList.mp hpoint a
  rw [component_ofComponents, patchEnd] at hhigh
  rw [LegacyInput.extent, job.globalCells_eq] at hrange
  rw [component_addIndex]
  split_ifs at hrange <;> omega

end Frames

def plainFormat : DoubleFormat UInt64 := ⟨fun d => d, fun a b => a + b, fun _ => "0", 0⟩

def plainField : SnapshotFieldView UInt64 := ⟨"a", 1, .registeredField, fun _ _ => 0⟩

/-- One cell on one rank, with `count` fields of one component. -/
def manyFields (count : ℕ) (_ : Fin 1) : LegacyInput UInt64 where
  fields := replicate count plainField
  patch := { begin := ⟨0, 0, 0⟩, cells := ⟨1, 1, 1⟩ }
  globalCells := ⟨1, 1, 1⟩
  centres := fun _ _ => 0
  pressureReference := 0
  capacity := 2 ^ 20
  validated := {}
  indexed := {}
  created := {}
  written := {}
  published := {}

variable (count : ℕ)

lemma manyFields_job : LegacyJob (replicate count plainField) ⟨1, 1, 1⟩ (fun _ _ => 0) 0 (manyFields count) where
  fields_eq i := by
    rw [map_replicate]
    rfl
  globalCells_eq _ := rfl
  centres_eq _ := rfl
  pressure_eq _ := rfl
  partition := by
    constructor
    · ext cell
      rw [Set.mem_iUnion]
      change (∃ i, Contains (manyFields count i).patch cell) ↔ InBox ⟨1, 1, 1⟩ cell
      simp only [Contains, InBox, manyFields, exists_const]
      omega
    · intro i j hij
      exact absurd (Subsingleton.elim i j) hij

lemma componentCount_plain : componentCount (replicate count plainField) = count := by
  rw [componentCount, map_replicate, sum_replicate, smul_eq_mul]
  exact Nat.mul_one count

lemma textLength_manyFields (i : Fin 1) :
    textLength plainFormat (manyFields count i) (replicate count plainField) = 206 + 41 * count := by
  have hone : headersOf (manyFields count i).points plainField = [.scalars "a" 1] := by
    have hpoints : (manyFields count i).points = 1 := rfl
    rw [hpoints]
    decide
  have hpreamble : headerLength (.preamble (plainFormat.text (manyFields count i).pressureReference) (manyFields count i).dims
      (manyFields count i).points) = 133 := by
    change headerLength (.preamble "0" ⟨1, 1, 1⟩ 1) = 133
    decide +kernel
  have hdata : headerLength (.pointData (manyFields count i).points) = 14 := by
    change headerLength (.pointData 1) = 14
    decide
  have hfield : headerLength (.scalars "a" 1) = 41 := by decide
  have hghost : headerLength .ghostType = 59 := by decide
  rw [textLength, headers, flatMap_replicate, hone, flatten_replicate_singleton]
  simp only [map_cons, map_append, map_replicate, sum_cons, sum_append, sum_replicate, hfield, hghost, hpreamble,
    hdata, map_nil, sum_nil, smul_eq_mul]
  ring

lemma manyFields_succeeds {count : ℕ} (hcount : count ≤ 400) :
    LegacySucceeds plainFormat (replicate count plainField) (fun _ _ => 0) (manyFields count) where
  validated i := by
    have hfields : ¬ ∃ field ∈ (manyFields count i).fields, field.stableName = "" ∨ field.components = 0 := by
      rintro ⟨field, hfield, hbad⟩
      obtain rfl := eq_of_mem_replicate hfield
      revert hbad
      decide
    have hcells : ¬ ((manyFields count i).patch.cells.x ≤ 0 ∨ (manyFields count i).patch.cells.y ≤ 0 ∨
        (manyFields count i).patch.cells.z ≤ 0) := by
      change ¬ ((1 : ℤ) ≤ 0 ∨ (1 : ℤ) ≤ 0 ∨ (1 : ℤ) ≤ 0)
      decide
    rw [LegacyInput.validateOutputSnapshot, if_neg fun hbad => ?_]
    · rfl
    · rcases hbad with hx | hy | hz | hfield
      · exact hcells (.inl hx)
      · exact hcells (.inr (.inl hy))
      · exact hcells (.inr (.inr hz))
      · exact hfields hfield
  indexed _ := rfl
  staging i := by
    have hpoints : (manyFields count i).checkedPoints = some 1 := by
      have hdims : (manyFields count i).dims = ⟨1, 1, 1⟩ := rfl
      rw [LegacyInput.checkedPoints, hdims]
      decide
    have hcompon : (manyFields count i).components = count := by
      rw [(manyFields_job count).components_eq, componentCount_plain]
    have hfits : ¬ (maxU64 - 6 < count ∨ 2 ^ 20 / (5 * (count + 6) * 8) < 1) := by
      have h0 : 1 ≤ 2 ^ 20 / (5 * (count + 6) * 8) := (Nat.le_div_iff_mul_le (by omega)).mpr (by omega)
      simp only [maxU64]
      omega
    rw [LegacyInput.stagingStatus, hpoints, hcompon]
    exact congrArg Status.isOk (if_neg hfits)
  neighbours axis i := by
    have hinner : ¬ ((0 < component (manyFields count i).patch.begin axis ∧
          lowRank (manyFields count i).own (boxesOf (manyFields count)) axis = none) ∨
        (component (manyFields count i).patch.begin axis + component (manyFields count i).patch.cells axis <
            component (manyFields count i).globalCells axis ∧
          highRank (manyFields count i).own (boxesOf (manyFields count)) axis = none)) := by
      rintro (⟨hlow, -⟩ | ⟨hhigh, -⟩)
      · cases axis <;> exact lt_irrefl (0 : ℤ) hlow
      · cases axis <;> exact lt_irrefl (1 : ℤ) hhigh
    rw [LegacyInput.neighbourStatus, if_neg hinner]
    rfl
  created _ := rfl
  written i := by
    have hpi : (replicate count plainField).countP (fun field => field.stableName = "pi") = 0 :=
      countP_eq_zero.mpr fun field hfield => by
        obtain rfl := eq_of_mem_replicate hfield
        decide
    have hpoints : (manyFields count i).points = 1 := rfl
    have hlength : ¬ (manyFields count i).capacity <
        ((globalSections plainFormat (manyFields count i) (replicate count plainField) (fun _ _ => 0)
          (manyFields count i).pressureReference).flatMap FileSection.bytes).length := by
      rw [length_file, textLength_manyFields, componentCount_plain, hpi, hpoints]
      change ¬ (2 ^ 20 < _)
      omega
    rw [LegacyInput.writeStatus, if_neg hlength]
    rfl
  published _ := rfl

end HundunFlow.Proofs
