import HundunFlow.Proofs.MgExchange
import HundunFlow.Proofs.TopologyRegions

/-!
# Restriction sums the children of the box

A coarse cell takes the residuals of its children from its own patch and, where the patch ends at an
odd cell inside the box, from the plane behind it.
-/

namespace HundunFlow.Proofs

open Lib MgWorkspace MgTransfer List
open EBTopology (addIndex subIndex boxIndices)

structure LevelPair {n : ℕ} (mask : AxisMask) (shape coarseShape grid : Int3)
    (fine coarse : Fin n → MgWorkspaceLevelRequirements) : Prop where
  mask_eq : ∀ i, (fine i).coarsenAxisMask = mask
  shape_eq : ∀ i, (fine i).globalShape = shape
  coarse_eq : ∀ i, (coarse i).globalShape = coarseShape
  halves : component coarseShape = halfUp mask.has (component shape)
  begin_ : ∀ i, component (coarse i).patch.begin = halfUp mask.has (component (fine i).patch.begin)
  end_ : ∀ i, patchEnd (coarse i).patch = halfUp mask.has (patchEnd (fine i).patch)
  fineCut : ∃ cut, TensorPartition shape grid cut fun i => (fine i).patch
  coarseCut : ∃ cut, TensorPartition coarseShape grid cut fun i => (coarse i).patch

def parentCell (mask : AxisMask) (cell : Int3) : Int3 := ofComponents (half mask.has (component cell))

def childrenOf (mask : AxisMask) (shape cell : Int3) : Finset Int3 :=
  (boxIndices shape).toFinset.filter fun child => parentCell mask child = cell

def OddEnd (mask : AxisMask) (shape : Int3) (patch : MeshPatch) (axis : Axis) : Prop :=
  mask.has axis = true ∧ patchEnd patch axis % 2 = 1 ∧ patchEnd patch axis < component shape axis

lemma mem_childrenOf {mask : AxisMask} {shape cell child : Int3} : child ∈ childrenOf mask shape cell ↔
    ∀ axis, (0 ≤ component child axis ∧ component child axis < component shape axis) ∧
      component cell axis = half mask.has (component child) axis := by
  rw [childrenOf, Finset.mem_filter, mem_toFinset, mem_boxIndices]
  constructor
  · rintro ⟨hbox, rfl⟩ axis
    rw [parentCell, component_ofComponents]
    exact ⟨hbox axis, rfl⟩
  · intro h
    refine ⟨fun axis => (h axis).1, int3_ext fun axis => ?_⟩
    rw [parentCell, component_ofComponents, (h axis).2]

lemma interior_iff {cells index : Int3} : MgTransfer.interior cells index = true ↔
    ∀ axis, 0 ≤ component index axis ∧ component index axis < component cells axis := by
  unfold MgTransfer.interior
  rw [all_eq_true]
  constructor
  · intro h axis
    simpa using h axis (mem_axes axis)
  · intro h axis _
    simpa using h axis

lemma kept_iff {shape global index : Int3} {kept : Int3} :
    (if shape.x ≤ global.x ∨ shape.y ≤ global.y ∨ shape.z ≤ global.z then none else some kept) = some index ↔
      (∀ axis, component global axis < component shape axis) ∧ kept = index := by
  have haxes : (∀ axis, component global axis < component shape axis) ↔
      ¬ (shape.x ≤ global.x ∨ shape.y ≤ global.y ∨ shape.z ≤ global.z) := by
    constructor
    · intro hall hout
      have hx := hall .x
      have hy := hall .y
      have hz := hall .z
      simp only [component] at hx hy hz
      omega
    · intro hin axis
      cases axis <;> simp only [component] <;> omega
  rw [haxes]
  split_ifs with hout <;> simp [hout]

lemma TensorPartition.sum_cells {n : ℕ} {shape grid : Int3} {cut : Axis → ℤ → ℤ} {patch : Fin n → MeshPatch}
    (h : TensorPartition shape grid cut patch) (i₀ : Fin n) {F : Type} [AddCommMonoid F] (f : Int3 → F) :
    ∑ i, ((boxIndices (patch i).cells).map fun cell => f (addIndex (patch i).begin cell)).sum =
      ∑ cell ∈ (boxIndices shape).toFinset, f cell := by
  have hmem : ∀ i cell, cell ∈ boxIndices (patch i).cells ↔
      component (addIndex (patch i).begin cell) ∈ patchCells (patch i) := by
    intro i cell
    rw [mem_boxIndices]
    apply forall_congr'
    intro axis
    rw [component_addIndex]
    dsimp only
    omega
  simp only [← sum_toFinset _ (boxIndices_nodup _)]
  rw [Finset.sum_sigma']
  apply Finset.sum_bij fun (entry : (_ : Fin n) × Int3) _ => addIndex (patch entry.1).begin entry.2
  · rintro ⟨i, cell⟩ hentry
    simp only [Finset.mem_sigma, Finset.mem_univ, true_and, mem_toFinset] at hentry ⊢
    rw [mem_boxIndices]
    exact (h.partitions i₀).subset i ((hmem i cell).mp hentry)
  · rintro ⟨i, cell⟩ hentry ⟨j, cell'⟩ hentry' hsame
    simp only [Finset.mem_sigma, Finset.mem_univ, true_and, mem_toFinset] at hentry hentry'
    have hi := (hmem i cell).mp hentry
    have hj := (hmem j cell').mp hentry'
    simp only at hsame
    rw [hsame] at hi
    obtain rfl : i = j := (h.partitions i₀).unique hi hj
    rw [← subIndex_addIndex cell (patch i).begin, hsame, subIndex_addIndex]
  · intro cell hcell
    rw [mem_toFinset, mem_boxIndices] at hcell
    obtain ⟨i, hi⟩ := (h.partitions i₀).exists_mem (a := component cell) hcell
    have hindex : addIndex (patch i).begin (subIndex cell (patch i).begin) = cell := addIndex_subIndex _ _
    refine ⟨⟨i, subIndex cell (patch i).begin⟩, ?_, hindex⟩
    simp only [Finset.mem_sigma, Finset.mem_univ, true_and, mem_toFinset]
    rw [hmem, hindex]
    exact hi
  · intro entry _
    rfl

section Pair

variable {n : ℕ} {mask : AxisMask} {shape coarseShape grid : Int3} {fine coarse : Fin n → MgWorkspaceLevelRequirements}
  (h : LevelPair mask shape coarseShape grid fine coarse)

include h

variable (i : Fin n) {cell : Int3}

lemma LevelPair.fine_begin_nonneg (axis : Axis) : 0 ≤ component (fine i).patch.begin axis := by
  obtain ⟨cut, hcut⟩ := h.fineCut
  exact hcut.begin_nonneg i axis

lemma LevelPair.child_place {i : Fin n} {child : Int3}
    (hcell : MgTransfer.interior (coarse i).patch.cells cell = true)
    (hchild : child ∈ childrenOf mask shape (addIndex (coarse i).patch.begin cell)) (axis : Axis) :
    component (fine i).patch.begin axis ≤ component child axis ∧
      (component child axis < patchEnd (fine i).patch axis ∨
        component child axis = patchEnd (fine i).patch axis ∧ OddEnd mask shape (fine i).patch axis) := by
  obtain ⟨hbox, hparent⟩ := mem_childrenOf.mp hchild axis
  have hrange := interior_iff.mp hcell axis
  have hbegin := congrFun (h.begin_ i) axis
  have hend := congrFun (h.end_ i) axis
  have hnonneg := h.fine_begin_nonneg i axis
  rw [component_addIndex] at hparent
  unfold OddEnd
  unfold half at hparent
  unfold halfUp at hbegin hend
  simp only [patchEnd] at hend ⊢
  split_ifs at hparent hbegin hend with hmask <;> simp only [hmask, true_and, Bool.false_eq_true, false_and, and_false, or_false] <;>
    omega

lemma LevelPair.coarse_begin_nonneg (axis : Axis) : 0 ≤ component (coarse i).patch.begin axis := by
  have hnonneg := h.fine_begin_nonneg i axis
  rw [h.begin_ i, halfUp]
  split_ifs <;> omega

lemma LevelPair.mem_children {i : Fin n} (hcell : MgTransfer.interior (coarse i).patch.cells cell = true)
    {index : Int3} : index ∈ children (fine i) (coarse i) cell ↔
      addIndex (fine i).patch.begin index ∈ childrenOf mask shape (addIndex (coarse i).patch.begin cell) := by
  have hparent : ∀ axis, 0 ≤ component (addIndex (coarse i).patch.begin cell) axis := by
    intro axis
    have hbegin := h.coarse_begin_nonneg i axis
    have hrange := interior_iff.mp hcell axis
    rw [component_addIndex]
    omega
  rw [children, mem_filterMap, mem_childrenOf, h.mask_eq i, h.shape_eq i]
  simp only [mem_map, exists_exists_and_eq_and, kept_iff]
  generalize addIndex (coarse i).patch.begin cell = parent at hparent ⊢
  change (∃ offset ∈ boxIndices (ofComponents fun axis => if mask.has axis then 2 else 1),
    (∀ axis, component (addIndex (ofComponents fun axis =>
      if mask.has axis then 2 * component parent axis else component parent axis) offset) axis < component shape axis) ∧
    subIndex (addIndex (ofComponents fun axis =>
      if mask.has axis then 2 * component parent axis else component parent axis) offset) (fine i).patch.begin = index) ↔ _
  simp only [mem_boxIndices, component_ofComponents, component_addIndex]
  constructor
  · rintro ⟨offset, hoffset, hbox, rfl⟩
    intro axis
    have hrange := hoffset axis
    have hlt := hbox axis
    have hnonneg := hparent axis
    rw [half, ← component_addIndex, addIndex_subIndex, component_addIndex, component_ofComponents]
    split_ifs at hrange hlt ⊢ <;> omega
  · intro hchild
    refine ⟨subIndex (addIndex (fine i).patch.begin index) (ofComponents fun axis =>
      if mask.has axis then 2 * component parent axis else component parent axis), fun axis => ?_, fun axis => ?_, ?_⟩
    · have hrange := hchild axis
      rw [half, component_addIndex] at hrange
      rw [component_subIndex, component_addIndex, component_ofComponents]
      split_ifs at hrange ⊢ <;> omega
    · have hrange := (hchild axis).1
      rw [component_subIndex, component_addIndex, component_ofComponents]
      omega
    · rw [addIndex_subIndex, subIndex_addIndex]

omit h in
lemma children_nodup (cell : Int3) : (children (fine i) (coarse i) cell).Nodup := by
  have hinj : ∀ base : Int3, Function.Injective (addIndex base) := by
    intro base left right hsame
    rw [← subIndex_addIndex left base, hsame, subIndex_addIndex]
  apply Nodup.filterMap
  · intro global global' index hglobal hglobal'
    rw [Option.mem_def, kept_iff] at hglobal hglobal'
    rw [← addIndex_subIndex global (fine i).patch.begin, hglobal.2, ← hglobal'.2, addIndex_subIndex]
  · exact (boxIndices_nodup _).map (hinj _)

omit h in
lemma foldl_add_eq {F α : Type} [Field F] (list : List α) (f : α → F) (start : F) :
    list.foldl (fun sum a => sum + f a) start = start + (list.map f).sum := by
  induction list generalizing start with
  | nil => simp
  | cons a rest ih =>
    rw [foldl_cons, ih, map_cons, sum_cons]
    ring

lemma LevelPair.sum_children {F : Type} [Field F] {i : Fin n}
    (hcell : MgTransfer.interior (coarse i).patch.cells cell = true) (residual : LevelSlot F) :
    (children (fine i) (coarse i) cell).foldl (fun sum child => sum + residual child) 0 =
      ∑ child ∈ childrenOf mask shape (addIndex (coarse i).patch.begin cell),
        residual (subIndex child (fine i).patch.begin) := by
  rw [foldl_add_eq, zero_add, ← sum_toFinset residual (children_nodup i cell)]
  apply Finset.sum_nbij' (addIndex (fine i).patch.begin) (subIndex · (fine i).patch.begin)
  · intro index hindex
    rw [mem_toFinset] at hindex
    exact (h.mem_children hcell).mp hindex
  · intro child hchild
    rw [mem_toFinset, h.mem_children hcell, addIndex_subIndex]
    exact hchild
  · intro index _
    exact subIndex_addIndex _ _
  · intro child _
    exact addIndex_subIndex _ _
  · intro index _
    rw [subIndex_addIndex]

end Pair

variable {F : Type} [Field F] [LinearOrder F] {n : ℕ} {mask : AxisMask} {shape coarseShape grid : Int3}
  {fine coarse : Fin n → MgWorkspaceLevelRequirements} {boundaries : MgBoundarySet} {nullSpace : MgNullSpace}
  {coarseVolumes residual : Fin n → LevelSlot F}

def Spread (level : Fin n → MgWorkspaceLevelRequirements) (value : Int3 → F) (slots : Fin n → LevelSlot F) : Prop :=
  ∀ i index, MgTransfer.interior (level i).patch.cells index = true → slots i index = value (addIndex (level i).patch.begin index)

/-- The right-hand sides in terms of the box alone: the sums over the children, less their mean when
the null space is constant. Without volume there is no mean. -/
def globalRestriction (mask : AxisMask) (shape coarseShape : Int3) (nullSpace : MgNullSpace) (volume value : Int3 → F) :
    Option (Int3 → F) :=
  let sums (cell : Int3) : F := ∑ child ∈ childrenOf mask shape cell, value child
  match nullSpace with
  | .none => some sums
  | .constant =>
    let weighted := ∑ cell ∈ (boxIndices coarseShape).toFinset, volume cell * sums cell
    let total := ∑ cell ∈ (boxIndices coarseShape).toFinset, volume cell
    if 0 < total then some fun cell => if 0 < volume cell then sums cell - weighted / total else 0 else none

/-- The restriction is that of the box on every rank, whatever the ghost cells hold before. -/
def RestrictsGlobally (F : Type) [Field F] [LinearOrder F] (mask : AxisMask) (shape coarseShape : Int3)
    (fine coarse : Fin n → MgWorkspaceLevelRequirements) (boundaries : MgBoundarySet) (nullSpace : MgNullSpace) : Prop :=
  ∀ (coarseVolumes residual rhs solution : Fin n → LevelSlot F) (volume value : Int3 → F),
    Spread coarse volume coarseVolumes → Spread fine value residual →
      Option.Rel (fun result global => ∀ i cell, MgTransfer.interior (coarse i).patch.cells cell = true →
          result.1 i cell = global (addIndex (coarse i).patch.begin cell))
        (restrictResidual fine coarse boundaries nullSpace coarseVolumes residual rhs solution)
        (globalRestriction mask shape coarseShape nullSpace volume value)

def OneOddEnd (fine : Fin n → MgWorkspaceLevelRequirements) : Prop :=
  ∀ i axis other, OddEnd (fine i).coarsenAxisMask (fine i).globalShape (fine i).patch axis →
    OddEnd (fine i).coarsenAxisMask (fine i).globalShape (fine i).patch other → axis = other

variable {slots : Fin n → LevelSlot F} {value : Int3 → F} {i : Fin n}

omit [Field F] [LinearOrder F] in
lemma exchangeFaces_induction {patch : Fin n → MeshPatch} {periodic : Axis → Bool} (good : F → Prop)
    (hgood : ∀ i index, good (slots i index)) (i : Fin n) (index : Int3) :
    good (exchangeFaces patch periodic slots i index) := by
  have hunpack : ∀ {neighborOf axis reach minus own} {i : Fin n}, (∀ index, good (own index)) →
      ∀ index, good (unpackPlane patch neighborOf axis reach slots i minus own index) := by
    intro neighborOf axis reach minus own i hown index
    unfold unpackPlane
    simp only
    split
    · exact hown index
    · split_ifs <;> first | exact hgood _ _ | exact hown index
  have hfold : ∀ (list : List Axis) (current : Fin n → LevelSlot F), (∀ i index, good (current i index)) →
      ∀ i index, good (facesOf patch periodic slots list current i index) := by
    intro list
    induction list with
    | nil => exact fun current hcurrent => hcurrent
    | cons first rest ih =>
      intro current hcurrent
      apply ih
      intro i
      have hreceived : ∀ index, good (receivePlanes patch (fun patch => MgTransfer.neighborRank patch periodic) first
          (fun _ => 0) slots current i index) := by
        unfold receivePlanes
        exact hunpack (hunpack (hcurrent i))
      exact hreceived
  exact hfold axes slots hgood i index

omit [Field F] [LinearOrder F] in
lemma delivers_of_spread {level : Fin n → MgWorkspaceLevelRequirements} {cut : Axis → ℤ → ℤ}
    (hcut : TensorPartition shape grid cut fun i => (level i).patch) (hspread : Spread level value slots)
    (periodic : Axis → Bool) : Delivers shape periodic (fun i => (level i).patch) value (fun _ => False) slots := by
  intro i index hreal
  have hinside : ∀ axis, 0 ≤ component index axis ∧ component index axis < component (level i).patch.cells axis :=
    fun axis => (hreal axis).resolve_right fun hghost => hghost.1
  have hbox : InBox shape (addIndex (level i).patch.begin index) := by
    rw [inBox_iff_axes]
    intro axis
    have hlow := hcut.begin_nonneg i axis
    have hhigh := hcut.end_le i axis
    have hrange := hinside axis
    rw [patchEnd] at hhigh
    rw [component_addIndex]
    omega
  rw [wrap_of_inBox hbox]
  exact hspread i index (interior_iff.mpr hinside)

omit [LinearOrder F] in
lemma TensorPartition.sum_spread {cut : Axis → ℤ → ℤ} (h : TensorPartition shape grid cut fun i => (fine i).patch)
    (i₀ : Fin n) (f : Int3 → F) (hslots : Spread fine f slots) :
    ∑ i, ((boxIndices (fine i).patch.cells).map (slots i)).sum = ∑ cell ∈ (boxIndices shape).toFinset, f cell := by
  rw [← h.sum_cells i₀ f]
  apply Finset.sum_congr rfl
  intro i _
  congr 1
  apply map_congr_left
  intro cell hcell
  exact hslots i cell (interior_iff.mpr (mem_boxIndices.mp hcell))

variable (h : LevelPair mask shape coarseShape grid fine coarse)

include h

omit [Field F] [LinearOrder F] in
lemma LevelPair.delivered_child (hspread : Spread fine value residual) {cell child : Int3}
    (hcell : MgTransfer.interior (coarse i).patch.cells cell = true)
    (hchild : child ∈ childrenOf mask shape (addIndex (coarse i).patch.begin cell)) (axis : Axis)
    (hbehind : ∀ other, component child other = patchEnd (fine i).patch other → other = axis) :
    exchangeFaces (fun i => (fine i).patch) (periodicAxes boundaries) residual i (subIndex child (fine i).patch.begin) =
      value child := by
  obtain ⟨cut, hcut⟩ := h.fineCut
  have hfaces := (delivers_of_spread hcut hspread (periodicAxes boundaries)).faces hcut
  have hbox : InBox shape child := inBox_iff_axes.mpr fun axis => (mem_childrenOf.mp hchild axis).1
  have hreal : ∀ other, RealOn shape (periodicAxes boundaries) (fine i).patch (· = axis)
      (subIndex child (fine i).patch.begin) other := by
    intro other
    have hplace := h.child_place hcell hchild other
    have hrange := (mem_childrenOf.mp hchild other).1
    have hother := hbehind other
    simp only [patchEnd] at hplace hother
    rw [RealOn, component_subIndex]
    rcases hplace.2 with hinside | ⟨hend, -⟩
    · left
      omega
    · right
      refine ⟨hother hend, false, ?_, .inr ⟨by omega, by omega⟩⟩
      simp only [ghostPlane, Bool.false_eq_true, if_false]
      omega
  have hvalue := hfaces axis i _ hreal
  rwa [addIndex_subIndex, wrap_of_inBox hbox] at hvalue

omit [LinearOrder F] in
lemma LevelPair.sums_of_oneOddEnd (hodd : OneOddEnd fine) (hspread : Spread fine value residual) {cell : Int3}
    (hcell : MgTransfer.interior (coarse i).patch.cells cell = true) :
    (children (fine i) (coarse i) cell).foldl (fun sum child =>
        sum + exchangeFaces (fun i => (fine i).patch) (periodicAxes boundaries) residual i child) 0 =
      ∑ child ∈ childrenOf mask shape (addIndex (coarse i).patch.begin cell), value child := by
  rw [h.sum_children hcell]
  apply Finset.sum_congr rfl
  intro child hchild
  -- the axis on which children may lie behind the patch
  obtain ⟨axis, hone⟩ : ∃ axis, ∀ other, OddEnd mask shape (fine i).patch other → other = axis := by
    by_cases hnone : ∃ axis, OddEnd mask shape (fine i).patch axis
    · obtain ⟨axis, haxis⟩ := hnone
      have hodd' := hodd i
      rw [h.mask_eq i, h.shape_eq i] at hodd'
      exact ⟨axis, fun other hother => hodd' other axis hother haxis⟩
    · exact ⟨.x, fun other hother => absurd ⟨other, hother⟩ hnone⟩
  apply h.delivered_child hspread hcell hchild axis
  intro other hend
  rcases (h.child_place hcell hchild other).2 with hinside | ⟨-, hoddEnd⟩
  · exact absurd hend hinside.ne
  · exact hone other hoddEnd

lemma LevelPair.first_interior (i : Fin n) : MgTransfer.interior (coarse i).patch.cells ⟨0, 0, 0⟩ = true := by
  obtain ⟨cut, hcut⟩ := h.coarseCut
  exact interior_iff.mpr fun axis => by cases axis <;> exact ⟨le_refl _, hcut.cells_pos i _⟩

lemma LevelPair.coarse_nonempty (i : Fin n) : (boxIndices coarseShape).toFinset.Nonempty := by
  obtain ⟨cut, hcut⟩ := h.coarseCut
  refine ⟨(coarse i).patch.begin, ?_⟩
  rw [mem_toFinset, mem_boxIndices]
  intro axis
  have hend := hcut.end_le i axis
  have hpos := hcut.cells_pos i axis
  rw [patchEnd] at hend
  exact ⟨hcut.begin_nonneg i axis, by omega⟩

omit [LinearOrder F] in
lemma LevelPair.sum_coarse (i₀ : Fin n) (f : Int3 → F) (hslots : Spread coarse f slots) :
    ∑ i, ((boxIndices (coarse i).patch.cells).map (slots i)).sum = ∑ cell ∈ (boxIndices coarseShape).toFinset, f cell := by
  obtain ⟨cut, hcut⟩ := h.coarseCut
  exact hcut.sum_spread i₀ f hslots

lemma LevelPair.restricts (i₀ : Fin n) (hodd : OneOddEnd fine) :
    RestrictsGlobally F mask shape coarseShape fine coarse boundaries nullSpace := by
  intro coarseVolumes residual rhs solution volume value hvolumes hspread
  have hsums : ∀ i cell, MgTransfer.interior (coarse i).patch.cells cell = true →
      writeCells (coarse i).patch.cells (fun cell => (children (fine i) (coarse i) cell).foldl (fun sum child =>
        sum + exchangeFaces (fun i => (fine i).patch) (periodicAxes boundaries) residual i child) 0) (rhs i) cell =
      ∑ child ∈ childrenOf mask shape (addIndex (coarse i).patch.begin cell), value child := by
    intro i cell hcell
    rw [writeCells, if_pos hcell, h.sums_of_oneOddEnd hodd hspread hcell]
  cases nullSpace with
  | none => exact .some hsums
  | constant =>
    unfold restrictResidual globalRestriction projectConstant
    simp only
    rw [h.sum_coarse i₀ _ hvolumes, h.sum_coarse i₀
      (fun cell => volume cell * ∑ child ∈ childrenOf mask shape cell, value child)
      fun i cell hcell => by rw [hvolumes i cell hcell, hsums i cell hcell]]
    split_ifs with htotal
    · apply Option.Rel.some
      intro i cell hcell
      have hsum := hsums i cell hcell
      simp only [writeCells, hcell, if_true] at hsum ⊢
      rw [hvolumes i cell hcell, hsum]
    · exact .none

variable [IsStrictOrderedRing F]

lemma LevelPair.exists_undelivered {axis other : Axis} (hne : axis ≠ other)
    (haxis : OddEnd mask shape (fine i).patch axis) (hother : OddEnd mask shape (fine i).patch other) :
    ∃ cell child, MgTransfer.interior (coarse i).patch.cells cell = true ∧
      child ∈ childrenOf mask shape (addIndex (coarse i).patch.begin cell) ∧
      component child axis = patchEnd (fine i).patch axis ∧ component child other = patchEnd (fine i).patch other := by
  obtain ⟨cut, hcut⟩ := h.fineCut
  obtain ⟨coarseCut, hcoarse⟩ := h.coarseCut
  have hplace : ∀ third, third = axis ∨ third = other → OddEnd mask shape (fine i).patch third := by
    rintro third (rfl | rfl)
    · exact haxis
    · exact hother
  refine ⟨ofComponents fun third => if third = axis ∨ third = other then component (coarse i).patch.cells third - 1 else 0,
    ofComponents fun third => if third = axis ∨ third = other then patchEnd (fine i).patch third
      else double mask.has (component (coarse i).patch.begin) third, ?_, ?_, ?_, ?_⟩
  · rw [interior_iff]
    intro third
    have hpos := hcoarse.cells_pos i third
    rw [component_ofComponents]
    split_ifs <;> omega
  · rw [mem_childrenOf]
    intro third
    have hpos := hcoarse.cells_pos i third
    have hcells := hcut.cells_pos i third
    have hlow := hcut.begin_nonneg i third
    have hhigh := hcut.end_le i third
    have hbegin := congrFun (h.begin_ i) third
    have hend := congrFun (h.end_ i) third
    unfold halfUp at hbegin hend
    rw [component_addIndex, half, component_ofComponents, component_ofComponents, double]
    by_cases hthird : third = axis ∨ third = other
    · obtain ⟨hmask, hodd, hinside⟩ := hplace third hthird
      rw [if_pos hmask] at hbegin hend
      simp only [if_pos hthird, if_pos hmask]
      simp only [patchEnd] at hend hodd hinside hhigh ⊢
      omega
    · simp only [if_neg hthird]
      simp only [patchEnd] at hend hhigh
      split_ifs at hbegin hend ⊢ <;> omega
  · rw [component_ofComponents, if_pos (.inl rfl)]
  · rw [component_ofComponents, if_pos (.inr rfl)]

omit [IsStrictOrderedRing F] in
lemma LevelPair.exists_other {axis : Axis} (haxis : patchEnd (fine i).patch axis < component shape axis) :
    ∃ j, j ≠ i := by
  obtain ⟨cut, hcut⟩ := h.fineCut
  have hmem : (fun other => if other = axis then patchEnd (fine i).patch axis else component (fine i).patch.begin other) ∈
      shapeCells shape := by
    intro other
    have hlow := hcut.begin_nonneg i other
    have hhigh := hcut.end_le i other
    have hpos := hcut.cells_pos i other
    by_cases hother : other = axis
    · subst hother
      simp only [if_true, patchEnd] at haxis ⊢
      exact ⟨by omega, haxis⟩
    · simp only [if_neg hother, patchEnd] at hhigh ⊢
      exact ⟨hlow, by omega⟩
  obtain ⟨j, hj⟩ := (hcut.partitions i).exists_mem hmem
  refine ⟨j, ?_⟩
  rintro rfl
  have hlt := (hj axis).2
  simp only [if_true, patchEnd] at hlt
  exact lt_irrefl _ hlt

lemma LevelPair.not_restricts (hodd : ¬ OneOddEnd fine) :
    ¬ RestrictsGlobally F mask shape coarseShape fine coarse boundaries nullSpace := by
  intro hrestr
  unfold OneOddEnd at hodd
  push Not at hodd
  obtain ⟨i, axis, other, haxis, hother, hne⟩ := hodd
  rw [h.mask_eq i, h.shape_eq i] at haxis hother
  obtain ⟨cell, child, hcell, hchild, hbehind, hbehind'⟩ := h.exists_undelivered hne haxis hother
  have hout : ∀ {j : Fin n} {cell : Int3} {axis : Axis}, component cell axis = patchEnd (fine j).patch axis →
      ¬ (0 ≤ component (subIndex cell (fine j).patch.begin) axis ∧
        component (subIndex cell (fine j).patch.begin) axis < component (fine j).patch.cells axis) := by
    intro j cell axis hend
    rw [component_subIndex, hend, patchEnd]
    omega
  -- the residuals vanish but for that ghost cell
  let stale : Fin n → LevelSlot F := fun j index => if j = i ∧ index = subIndex child (fine i).patch.begin then 1 else 0
  let sums : Fin n → LevelSlot F := fun j => writeCells (coarse j).patch.cells (fun cell =>
    (children (fine j) (coarse j) cell).foldl (fun sum child =>
      sum + exchangeFaces (fun i => (fine i).patch) (periodicAxes boundaries) stale j child) 0) (stale j)
  have hspread : Spread fine (fun _ => 0) stale := by
    intro j index hindex
    apply if_neg
    rintro ⟨rfl, rfl⟩
    exact hout hbehind (interior_iff.mp hindex axis)
  -- the sums are the same everywhere
  obtain ⟨k, hk⟩ : ∃ k, ∀ j cell, MgTransfer.interior (coarse j).patch.cells cell = true → sums j cell = k := by
    have hrel := hrestr (fun _ _ => 1) stale stale stale (fun _ => 1) (fun _ => 0) (fun _ _ _ => rfl) hspread
    cases nullSpace with
    | none =>
      refine ⟨0, fun j cell hcell => ?_⟩
      cases hrel with
      | some hsame => exact (hsame j cell hcell).trans Finset.sum_const_zero
    | constant =>
      have htotal : 0 < ∑ i, ((boxIndices (coarse i).patch.cells).map fun _ => (1 : F)).sum := by
        rw [h.sum_coarse i (fun _ => 1) fun _ _ _ => rfl]
        exact Finset.sum_pos (fun _ _ => zero_lt_one) (h.coarse_nonempty i)
      unfold restrictResidual projectConstant globalRestriction at hrel
      simp only at hrel
      rw [if_pos htotal, ← h.sum_coarse i (fun _ => 1) fun _ _ _ => rfl, if_pos htotal] at hrel
      refine ⟨(∑ i, ((boxIndices (coarse i).patch.cells).map fun cell => 1 * sums i cell).sum) /
        ∑ i, ((boxIndices (coarse i).patch.cells).map fun _ => (1 : F)).sum, fun j cell hcell => ?_⟩
      cases hrel with
      | some hsame =>
        have hvalue := hsame j cell hcell
        simp only [writeCells, hcell, if_true, zero_lt_one, Finset.sum_const_zero, mul_zero, zero_div, sub_zero] at hvalue
        rw [← sub_eq_zero, ← hvalue]
        simp only [sums, writeCells, hcell, if_true]
  -- one is positive
  have hnonneg : ∀ index, 0 ≤ exchangeFaces (fun i => (fine i).patch) (periodicAxes boundaries) stale i index :=
    exchangeFaces_induction (fun value => 0 ≤ value) (fun j index => by dsimp only [stale]; split_ifs <;> simp) i
  have hone : exchangeFaces (fun i => (fine i).patch) (periodicAxes boundaries) stale i
      (subIndex child (fine i).patch.begin) = 1 := by
    rw [exchangeFaces_edge hne (hout hbehind) (hout hbehind')]
    exact if_pos ⟨rfl, rfl⟩
  have h0 : 1 ≤ k := by
    rw [← hk i cell hcell, ← hone]
    simp only [sums, writeCells, hcell, if_true]
    rw [h.sum_children hcell]
    exact Finset.single_le_sum (f := fun child => exchangeFaces (fun i => (fine i).patch) (periodicAxes boundaries) stale i
      (subIndex child (fine i).patch.begin)) (fun child _ => hnonneg _) hchild
  -- and one of another rank vanishes
  obtain ⟨j, hj⟩ := h.exists_other haxis.2.2
  have hfirst := h.first_interior j
  have hzero : k = 0 := by
    rw [← hk j _ hfirst]
    simp only [sums, writeCells, hfirst, if_true]
    rw [h.sum_children hfirst]
    apply Finset.sum_eq_zero
    intro child' hchild'
    by_cases htwo : ∃ axis other, axis ≠ other ∧ component child' axis = patchEnd (fine j).patch axis ∧
        component child' other = patchEnd (fine j).patch other
    · obtain ⟨axis, other, hne', hend, hend'⟩ := htwo
      rw [exchangeFaces_edge hne' (hout hend) (hout hend')]
      exact if_neg fun hsame => hj hsame.1
    · push Not at htwo
      by_cases hnone : ∃ axis, component child' axis = patchEnd (fine j).patch axis
      · obtain ⟨axis, hend⟩ := hnone
        exact h.delivered_child hspread hfirst hchild' axis fun other hend' =>
          not_not.mp fun hother => htwo other axis hother hend' hend
      · exact h.delivered_child hspread hfirst hchild' .x fun other hend' => absurd ⟨other, hend'⟩ hnone
  rw [hzero] at h0
  exact absurd h0 (not_le.mpr zero_lt_one)

lemma LevelPair.restricts_iff (i₀ : Fin n) :
    RestrictsGlobally F mask shape coarseShape fine coarse boundaries nullSpace ↔ OneOddEnd fine :=
  ⟨fun hrestr => not_not.mp fun hodd => h.not_restricts hodd hrestr, h.restricts i₀⟩

end HundunFlow.Proofs
