import HundunFlow.MgWorkspace
import Mathlib.Order.CompletePartialOrder

/-!
# The arena of a rank

`append_storage` puts the levels one behind the other.
-/

namespace HundunFlow.Proofs

open Lib MgWorkspace List Option

variable {level : MgWorkspaceLevelRequirements} {requirements : MgWorkspaceRequirements}
  {levels : List MgWorkspaceLevelRequirements}

variable {stored : MgWorkspaceLevelRequirements}

lemma checkedAdd_eq {left right sum : ℕ} (h : MgWorkspace.checkedAdd left right = some sum) : sum = left + right := by
  unfold MgWorkspace.checkedAdd at h
  split_ifs at h
  exact (some.inj h).symm

lemma checkedMultiply_eq {left right product : ℕ} (h : MgWorkspace.checkedMultiply left right = some product) :
    product = left * right := by
  unfold MgWorkspace.checkedMultiply at h
  split_ifs at h
  exact (some.inj h).symm

lemma checkedAlign_spec {value aligned : ℕ} (h : MgWorkspace.checkedAlign value = some aligned) :
    aligned % alignmentDoubles = 0 ∧ value ≤ aligned := by
  unfold MgWorkspace.checkedAlign at h
  obtain ⟨candidate, hadd, rfl⟩ := map_eq_some_iff.mp h
  have hcand := checkedAdd_eq hadd
  refine ⟨Nat.mul_mod_left _ _, ?_⟩
  unfold alignmentDoubles at hcand ⊢
  omega

def levelEnd (level : MgWorkspaceLevelRequirements) : ℕ :=
  level.offsetDoubles + level.slotStrideDoubles * slotsPerLevel

structure WellStored (level : MgWorkspaceLevelRequirements) : Prop where
  offset : level.offsetDoubles % alignmentDoubles = 0
  strideY : level.strideY % alignmentDoubles = 0
  row : MgWorkspace.sizeOf level.patch.cells.x + 2 * ghostWidth ≤ level.strideY
  plane : level.strideZ = level.strideY * (MgWorkspace.sizeOf level.patch.cells.y + 2 * ghostWidth)
  slot : level.slotStrideDoubles = level.strideZ * (MgWorkspace.sizeOf level.patch.cells.z + 2 * ghostWidth)

lemma appendStorage_spec {cursor next : ℕ} (h : appendStorage level cursor = some (stored, next)) : stored = { level with
      offsetDoubles := stored.offsetDoubles, slotStrideDoubles := stored.slotStrideDoubles,
      strideY := stored.strideY, strideZ := stored.strideZ } ∧
      WellStored stored ∧ cursor ≤ stored.offsetDoubles ∧ next = levelEnd stored := by
  simp only [appendStorage, bind, bind_eq_some_iff, some.injEq, Prod.mk.injEq] at h
  obtain ⟨paddedX, hx, paddedY, hy, paddedZ, hz, strideY, hstrideY, strideZ, hstrideZ, slotStride, hslot, offset, hoffset,
    levelSpan, hspan, end_, hend, rfl, rfl⟩ := h
  obtain ⟨hstrideY, hrow⟩ := checkedAlign_spec hstrideY
  obtain ⟨hoffset, hcursor⟩ := checkedAlign_spec hoffset
  rw [checkedAdd_eq hx] at hrow
  rw [checkedAdd_eq hy] at hstrideZ
  rw [checkedAdd_eq hz] at hslot
  refine ⟨rfl, ⟨hoffset, hstrideY, hrow, checkedMultiply_eq hstrideZ, checkedMultiply_eq hslot⟩, hcursor, ?_⟩
  rw [checkedAdd_eq hend, checkedMultiply_eq hspan]
  rfl

lemma appendStorage_again {cursor next : ℕ}
    (h : appendStorage level cursor = some (stored, next)) : appendStorage stored cursor = some (stored, next) := by
  have hpatch : stored.patch = level.patch := by
    rw [(appendStorage_spec h).1]
  simp only [appendStorage, hpatch, bind, bind_eq_some_iff, some.injEq, Prod.mk.injEq] at h ⊢
  obtain ⟨paddedX, hx, paddedY, hy, paddedZ, hz, strideY, hstrideY, strideZ, hstrideZ, slotStride, hslot, offset, hoffset,
    levelSpan, hspan, end_, hend, rfl, rfl⟩ := h
  exact ⟨paddedX, hx, paddedY, hy, paddedZ, hz, strideY, hstrideY, strideZ, hstrideZ, slotStride, hslot, offset, hoffset,
    levelSpan, hspan, _, hend, rfl, rfl⟩

def slotRange (level : MgWorkspaceLevelRequirements) (slot : MgWorkspaceSlot) : Set ℕ :=
  Set.Ico (level.offsetDoubles + slot.index * level.slotStrideDoubles)
    (level.offsetDoubles + (slot.index + 1) * level.slotStrideDoubles)

lemma slot_index_lt (slot : MgWorkspaceSlot) : slot.index < slotsPerLevel := by
  cases slot <;> decide

lemma slot_index_injective : Function.Injective MgWorkspaceSlot.index := by
  intro slot other h
  cases slot <;> cases other <;> first | rfl | exact nomatch h

lemma slotRange_subset (level : MgWorkspaceLevelRequirements) (slot : MgWorkspaceSlot) :
    slotRange level slot ⊆ Set.Ico level.offsetDoubles (levelEnd level) := by
  apply Set.Ico_subset_Ico
  · exact Nat.le_add_right _ _
  · rw [levelEnd, Nat.mul_comm level.slotStrideDoubles]
    apply Nat.add_le_add_left
    exact Nat.mul_le_mul_right _ (slot_index_lt slot)

lemma slotRange_disjoint_of_lt (level : MgWorkspaceLevelRequirements) {slot other : MgWorkspaceSlot}
    (h : slot.index < other.index) : Disjoint (slotRange level slot) (slotRange level other) := by
  rw [Set.disjoint_left]
  intro position hslot hother
  have hle := Nat.mul_le_mul_right level.slotStrideDoubles (show slot.index + 1 ≤ other.index from h)
  have hend := hslot.2
  have hbegin := hother.1
  omega

lemma slotRange_disjoint (level : MgWorkspaceLevelRequirements) {slot other : MgWorkspaceSlot} (h : slot ≠ other) :
    Disjoint (slotRange level slot) (slotRange level other) := by
  rcases Nat.lt_or_gt_of_ne (fun hindex => h (slot_index_injective hindex)) with hlt | hgt
  · exact slotRange_disjoint_of_lt level hlt
  · exact (slotRange_disjoint_of_lt level hgt).symm

lemma WellStored.slotStride (h : WellStored level) : level.slotStrideDoubles % alignmentDoubles = 0 := by
  rw [h.slot, h.plane, Nat.mul_assoc, Nat.mul_mod, h.strideY, Nat.zero_mul, Nat.zero_mod]

lemma WellStored.aligned (h : WellStored level) (slot : MgWorkspaceSlot) :
    (level.offsetDoubles + slot.index * level.slotStrideDoubles) % alignmentDoubles = 0 := by
  rw [Nat.add_mod, Nat.mul_mod, h.slotStride, h.offset, Nat.mul_zero, Nat.zero_mod, Nat.add_zero, Nat.zero_mod]

def address (view : ArenaView) (x y z : ℤ) : ℤ := view.base + x + y * view.strideY + z * view.strideZ

lemma add_mul_lt {inner outer stride count : ℕ} (hinner : inner < stride) (houter : outer < count) :
    inner + outer * stride < stride * count := by
  calc inner + outer * stride < stride + outer * stride := Nat.add_lt_add_right hinner _
    _ = stride * (outer + 1) := by ring
    _ ≤ stride * count := Nat.mul_le_mul_left _ houter

structure InPadded (cells : Int3) (x y z : ℤ) : Prop where
  x : -1 ≤ x ∧ x ≤ cells.x
  y : -1 ≤ y ∧ y ≤ cells.y
  z : -1 ≤ z ∧ z ≤ cells.z

lemma sizeOf_eq {value : ℤ} (h : 0 ≤ value) (h' : value < 2 ^ 64) : (MgWorkspace.sizeOf value : ℤ) = value := by
  unfold MgWorkspace.sizeOf
  rw [Int.emod_eq_of_lt h h', Int.toNat_of_nonneg h]

lemma address_mem_slotRange {k : ℕ} {slot : MgWorkspaceSlot}
    {view : ArenaView} (hghost : requirements.ghostWidth = ghostWidth)
    (hlevel : requirements.levels[k]? = some level) (hview : MgWorkspace.level requirements k slot = some view)
    (hstored : WellStored level) (hcells : ∀ axis, 0 < component level.patch.cells axis ∧
      component level.patch.cells axis < 2 ^ 64) {x y z : ℤ} (hcell : InPadded view.interior x y z) :
    ∃ position ∈ slotRange level slot, address view x y z = position := by
  rw [MgWorkspace.level, hlevel, hghost] at hview
  simp only at hview
  split_ifs at hview
  obtain rfl := some.inj hview
  obtain ⟨⟨hx, hx'⟩, ⟨hy, hy'⟩, ⟨hz, hz'⟩⟩ := hcell
  -- the indices from the first ghost on
  obtain ⟨i, hi⟩ := Int.eq_ofNat_of_zero_le (show 0 ≤ x + 1 by omega)
  obtain ⟨j, hj⟩ := Int.eq_ofNat_of_zero_le (show 0 ≤ y + 1 by omega)
  obtain ⟨k, hk⟩ := Int.eq_ofNat_of_zero_le (show 0 ≤ z + 1 by omega)
  have hsizeX := sizeOf_eq (hcells .x).1.le (hcells .x).2
  have hsizeY := sizeOf_eq (hcells .y).1.le (hcells .y).2
  have hsizeZ := sizeOf_eq (hcells .z).1.le (hcells .z).2
  simp only [component] at hsizeX hsizeY hsizeZ
  have hrow := hstored.row
  simp only [ghostWidth] at hrow hx' hy' hz'
  have hplane : i + j * level.strideY < level.strideZ := by
    rw [hstored.plane, ghostWidth]
    exact add_mul_lt (by omega) (by omega)
  have hslot : i + j * level.strideY + k * level.strideZ < level.slotStrideDoubles := by
    rw [hstored.slot, ghostWidth]
    exact add_mul_lt hplane (by omega)
  refine ⟨level.offsetDoubles + slot.index * level.slotStrideDoubles + (i + j * level.strideY + k * level.strideZ),
    ⟨Nat.le_add_right _ _, ?_⟩, ?_⟩
  · rw [Nat.add_mul, Nat.one_mul]
    omega
  · obtain rfl : x = i - 1 := by omega
    obtain rfl : y = j - 1 := by omega
    obtain rfl : z = k - 1 := by omega
    simp only [address, ghostWidth]
    push_cast
    ring

/-- The levels that `valid_requirements` accepts lie one behind the other. -/
structure Placed (levels : List MgWorkspaceLevelRequirements) (start stop : ℕ) : Prop where
  ordered : start ≤ stop
  stored : ∀ level ∈ levels, WellStored level
  within : ∀ level ∈ levels, start ≤ level.offsetDoubles ∧ levelEnd level ≤ stop
  apart : levels.Pairwise fun level later => levelEnd level ≤ later.offsetDoubles
  last : ∀ level ∈ levels.getLast?, levelEnd level = stop

lemma placed_of_validLevels {start stop : ℕ} (h : validLevels levels start = some stop) : Placed levels start stop := by
  induction levels generalizing start with
  | nil =>
    obtain rfl := some.inj h
    exact ⟨le_refl _, by simp, by simp, .nil, by simp⟩
  | cons level rest ih =>
    rw [validLevels] at h
    split_ifs at h with hpos
    cases happend : appendStorage level start with
    | none =>
      rw [happend] at h
      exact nomatch h
    | some appended =>
      obtain ⟨checked, next⟩ := appended
      rw [happend] at h
      simp only at h
      split_ifs at h with hsame
      subst hsame
      obtain ⟨-, hstored, hstart, rfl⟩ := appendStorage_spec happend
      have hrest := ih h
      have hlevel : level.offsetDoubles ≤ levelEnd level := Nat.le_add_right _ _
      have hordered := hrest.ordered
      constructor
      · omega
      · exact forall_mem_cons.mpr ⟨hstored, hrest.stored⟩
      · refine forall_mem_cons.mpr ⟨⟨hstart, hordered⟩, fun later hlater => ?_⟩
        have hwithin := hrest.within later hlater
        omega
      · exact pairwise_cons.mpr ⟨fun later hlater => (hrest.within later hlater).1, hrest.apart⟩
      · cases rest with
        | nil =>
          intro last hlast
          obtain rfl : level = last := by simpa using hlast
          exact some.inj h
        | cons second rest => exact hrest.last

lemma validLevels_append (levels : List MgWorkspaceLevelRequirements) (level : MgWorkspaceLevelRequirements)
    (start : ℕ) : validLevels (levels ++ [level]) start = (validLevels levels start).bind (validLevels [level]) := by
  induction levels generalizing start with
  | nil => rfl
  | cons first rest ih =>
    rw [cons_append, validLevels, validLevels]
    split_ifs
    · cases appendStorage first start with
      | none => rfl
      | some appended =>
        simp only
        split_ifs
        · exact ih appended.2
        · rfl
    · rfl

/-- The arena of a rank: the ranges of its slots are aligned and do not meet, they end where the
arena ends, and the views stay in them. -/
structure ArenaSound (requirements : MgWorkspaceRequirements) : Prop where
  aligned : ∀ level ∈ requirements.levels, ∀ slot : MgWorkspaceSlot,
    (level.offsetDoubles + slot.index * level.slotStrideDoubles) % alignmentDoubles = 0
  disjoint : ∀ (k k' : ℕ) level level' slot slot', requirements.levels[k]? = some level →
    requirements.levels[k']? = some level' → (k, slot) ≠ (k', slot') →
    Disjoint (slotRange level slot) (slotRange level' slot')
  within : ∀ level ∈ requirements.levels, ∀ slot, slotRange level slot ⊆ Set.Iio requirements.totalDoubles
  ends : ∃ level ∈ requirements.levels.getLast?, level.offsetDoubles +
    (MgWorkspaceSlot.temporary.index + 1) * level.slotStrideDoubles = requirements.totalDoubles
  views : ∀ (k : ℕ) level slot, requirements.levels[k]? = some level →
    ∃ view, MgWorkspace.level requirements k slot = some view ∧ view.interior = level.patch.cells ∧
      ∀ x y z, InPadded view.interior x y z → ∃ position ∈ slotRange level slot, address view x y z = position

lemma Placed.slots_disjoint {start stop : ℕ} (h : Placed levels start stop) {k k' : ℕ}
    {level' : MgWorkspaceLevelRequirements} (hk : levels[k]? = some level) (hk' : levels[k']? = some level')
    (hlt : k < k') (slot slot' : MgWorkspaceSlot) : Disjoint (slotRange level slot) (slotRange level' slot') := by
  obtain ⟨hlength, rfl⟩ := List.getElem?_eq_some_iff.mp hk
  obtain ⟨hlength', rfl⟩ := List.getElem?_eq_some_iff.mp hk'
  have hapart := pairwise_iff_getElem.mp h.apart k k' hlength hlength' hlt
  rw [Set.disjoint_left]
  intro position hposition hposition'
  have hend := (slotRange_subset _ _ hposition).2
  have hbegin := (slotRange_subset _ _ hposition').1
  omega

lemma arenaSound_of_valid (h : validRequirements requirements = true)
    (hcells : ∀ level ∈ requirements.levels, ∀ axis, 0 < component level.patch.cells axis ∧
      component level.patch.cells axis < 2 ^ 64) : ArenaSound requirements := by
  unfold validRequirements at h
  split_ifs at h with hbad
  simp only [Bool.or_eq_true, decide_eq_true_eq, not_or, not_lt, not_not] at hbad
  obtain ⟨⟨⟨⟨⟨⟨⟨⟨⟨⟨⟨hcount, -⟩, hghost⟩, hslots⟩, -⟩, -⟩, -⟩, -⟩, -⟩, -⟩, -⟩, -⟩ := hbad
  have hplaced := placed_of_validLevels (decide_eq_true_eq.mp h)
  have hne : requirements.levels ≠ [] := by
    rintro hnil
    rw [hnil] at hcount
    exact nomatch hcount
  constructor
  · intro level hlevel slot
    exact (hplaced.stored level hlevel).aligned slot
  · intro k k' level level' slot slot' hk hk' hdist
    rcases Nat.lt_trichotomy k k' with hlt | rfl | hgt
    · exact hplaced.slots_disjoint hk hk' hlt slot slot'
    · obtain rfl := some.inj (hk.symm.trans hk')
      exact slotRange_disjoint level fun hslot => hdist (by rw [hslot])
    · exact (hplaced.slots_disjoint hk' hk hgt slot' slot).symm
  · intro level hlevel slot position hposition
    exact lt_of_lt_of_le (slotRange_subset level slot hposition).2 (hplaced.within level hlevel).2
  · refine ⟨_, List.getLast?_eq_getLast_of_ne_nil hne, ?_⟩
    rw [← hplaced.last _ (List.getLast?_eq_getLast_of_ne_nil hne), levelEnd, Nat.mul_comm]
    rfl
  · intro k level slot hk
    have hmem := mem_of_getElem? hk
    have hslot : ¬ requirements.slotsPerLevel ≤ slot.index := by
      rw [hslots, not_le]
      exact slot_index_lt slot
    have hview : ∃ view, MgWorkspace.level requirements k slot = some view ∧ view.interior = level.patch.cells := by
      rw [MgWorkspace.level, hk]
      simp only [if_neg hslot]
      exact ⟨_, rfl, rfl⟩
    obtain ⟨view, hview, hinterior⟩ := hview
    refine ⟨view, hview, hinterior, fun x y z hcell => ?_⟩
    exact address_mem_slotRange hghost hk hview (hplaced.stored level hmem) (hcells level hmem) hcell

lemma finish_ne_zero (hash : UInt64) : finish hash ≠ 0 := by
  unfold finish
  split_ifs with h
  · decide
  · exact h

lemma makeRequirements_valid {semantic executionRevision : UInt64} {cursor : ℕ}
    (h : makeRequirements semantic executionRevision levels cursor = some requirements)
    (hlevels : validLevels levels 0 = some cursor) (hcount : levels.length ≤ maximumLevels)
    (hrevision : executionRevision ≠ 0) : requirements.levels = levels ∧ validRequirements requirements = true := by
  unfold makeRequirements at h
  split_ifs at h with hbad
  simp only [Bool.or_eq_true, decide_eq_true_eq, not_or, not_lt] at hbad
  obtain ⟨⟨hleast, hcursor⟩, hfits⟩ := hbad
  obtain rfl := some.inj h
  refine ⟨rfl, ?_⟩
  unfold validRequirements
  rw [if_neg]
  · exact decide_eq_true hlevels
  · simp only [Bool.or_eq_true, decide_eq_true_eq, not_or, not_lt, not_not]
    exact ⟨⟨⟨⟨⟨⟨⟨⟨⟨⟨⟨hleast, hcount⟩, trivial⟩, trivial⟩, hcursor⟩, hfits⟩, trivial⟩, trivial⟩, trivial⟩, hrevision⟩,
      finish_ne_zero _⟩, finish_ne_zero _⟩

end HundunFlow.Proofs
