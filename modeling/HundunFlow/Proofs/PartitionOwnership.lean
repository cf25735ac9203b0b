import HundunFlow.CellOwnership
import HundunFlow.ScatterExchange

/-!
# Partition and ownership

The patches of a successful partition are non-empty, disjoint and cover the box, and the
three owner computations all name the rank whose patch holds the cell.
-/

namespace HundunFlow.Proofs

open Lib ParcelMigrationPlan

/-- The global cell lies in the patch. -/
def Contains (patch : MeshPatch) (c : Int3) : Prop :=
  (patch.begin.x ≤ c.x ∧ c.x < patch.begin.x + patch.cells.x) ∧
  (patch.begin.y ≤ c.y ∧ c.y < patch.begin.y + patch.cells.y) ∧
  patch.begin.z ≤ c.z ∧ c.z < patch.begin.z + patch.cells.z

/-- The global cell lies in the box. -/
def InBox (cells c : Int3) : Prop :=
  (0 ≤ c.x ∧ c.x < cells.x) ∧ (0 ≤ c.y ∧ c.y < cells.y) ∧ 0 ≤ c.z ∧ c.z < cells.z

/-- The cell a flat global id numbers. -/
def cellOf (cells : Int3) (id : ℕ) : Int3 :=
  ⟨(id : ℤ) % cells.x, (id : ℤ) / cells.x % cells.y, (id : ℤ) / cells.x / cells.y⟩

def ownerCoord (cells grid c : Int3) : Int3 :=
  ⟨blockOwner cells.x grid.x c.x, blockOwner cells.y grid.y c.y, blockOwner cells.z grid.z c.z⟩

section Partition

variable {cells grid : Int3} {ranks : ℤ} (hg : PartitionOf cells ranks grid)

include hg

variable {c : Int3} {id : ℕ}

lemma patch_validCells (rank : ℤ) : validCells (gridPatch rank cells grid).cells = true := by
  rw [validCells_iff]
  exact ⟨blockCount_pos hg.pos_x hg.le_x _, blockCount_pos hg.pos_y hg.le_y _,
    blockCount_pos hg.pos_z hg.le_z _⟩

lemma ownerCoord_inGrid (hc : InBox cells c) : InGrid grid (ownerCoord cells grid c) :=
  ⟨blockOwner_range hg.pos_x hg.le_x hc.1.1 hc.1.2, blockOwner_range hg.pos_y hg.le_y hc.2.1.1 hc.2.1.2,
    blockOwner_range hg.pos_z hg.le_z hc.2.2.1 hc.2.2.2⟩

lemma contains_iff (rank : ℤ) : Contains (gridPatch rank cells grid) c ↔
      ownerCoord cells grid c = (gridPatch rank cells grid).processCoord := by
  constructor
  · rintro ⟨hx, hy, hz⟩
    have ex := blockOwner_eq hg.pos_x hg.le_x hx.1 hx.2
    have ey := blockOwner_eq hg.pos_y hg.le_y hy.1 hy.2
    have ez := blockOwner_eq hg.pos_z hg.le_z hz.1 hz.2
    rw [ownerCoord, ex, ey, ez]
    rfl
  · intro h
    have hx := blockOwner_mem hg.pos_x hg.le_x c.x
    have hy := blockOwner_mem hg.pos_y hg.le_y c.y
    have hz := blockOwner_mem hg.pos_z hg.le_z c.z
    have ex : blockOwner cells.x grid.x c.x = (gridPatch rank cells grid).processCoord.x := congrArg Int3.x h
    have ey : blockOwner cells.y grid.y c.y = (gridPatch rank cells grid).processCoord.y := congrArg Int3.y h
    have ez : blockOwner cells.z grid.z c.z = (gridPatch rank cells grid).processCoord.z := congrArg Int3.z h
    rw [ex] at hx
    rw [ey] at hy
    rw [ez] at hz
    exact ⟨hx, hy, hz⟩

lemma contains_inBox {rank : ℤ} (h0 : 0 ≤ rank) (h1 : rank < ranks)
    (hc : Contains (gridPatch rank cells grid) c) : InBox cells c := by
  obtain ⟨⟨cx, cx'⟩, ⟨cy, cy'⟩, cz, cz'⟩ := processCoord_inGrid hg h0 h1
  have bx := blockBegin_nonneg hg.pos_x hg.le_x cx
  have by' := blockBegin_nonneg hg.pos_y hg.le_y cy
  have bz := blockBegin_nonneg hg.pos_z hg.le_z cz
  have ex := blockEnd_le hg.pos_x hg.le_x cx'
  have ey := blockEnd_le hg.pos_y hg.le_y cy'
  have ez := blockEnd_le hg.pos_z hg.le_z cz'
  obtain ⟨⟨hx, hx'⟩, ⟨hy, hy'⟩, hz, hz'⟩ := hc
  exact ⟨⟨bx.trans hx, hx'.trans_le ex⟩, ⟨by'.trans hy, hy'.trans_le ey⟩, bz.trans hz, hz'.trans_le ez⟩

lemma contains_rankAt (hc : InBox cells c) :
    Contains (gridPatch (rankAt grid (ownerCoord cells grid c)) cells grid) c := by
  rw [contains_iff hg]
  exact (processCoord_rankAt (ownerCoord_inGrid hg hc)).symm

lemma contains_unique {r s : ℤ} (hr : Contains (gridPatch r cells grid) c)
    (hs : Contains (gridPatch s cells grid) c) : r = s := by
  rw [contains_iff hg] at hr hs
  calc r = rankAt grid (gridPatch r cells grid).processCoord := rankAt_processCoord.symm
    _ = rankAt grid (gridPatch s cells grid).processCoord := by rw [← hr, hs]
    _ = s := rankAt_processCoord

lemma cellOf_inBox (hid : (id : ℤ) < cells.x * cells.y * cells.z) : InBox cells (cellOf cells id) := by
  obtain ⟨hx, hy, hz⟩ := (validCells_iff cells).mp hg.cells_valid
  have h0 : (0 : ℤ) ≤ id := Int.natCast_nonneg id
  have hd : 0 ≤ (id : ℤ) / cells.x := Int.ediv_nonneg h0 hx.le
  refine ⟨⟨Int.emod_nonneg _ hx.ne', Int.emod_lt_of_pos _ hx⟩,
    ⟨Int.emod_nonneg _ hy.ne', Int.emod_lt_of_pos _ hy⟩, Int.ediv_nonneg hd hy.le, ?_⟩
  have hlt : (id : ℤ) / cells.x < cells.z * cells.y := by
    rw [Int.ediv_lt_iff_lt_mul hx]
    linarith
  exact (Int.ediv_lt_iff_lt_mul hy).mpr hlt

lemma owner_inside (hid : (id : ℤ) < cells.x * cells.y * cells.z) :
    ParcelMigrationPlan.owner cells grid id = rankAt grid (ownerCoord cells grid (cellOf cells id)) := by
  have hz : ¬(id : ℤ) / cells.x / cells.y ≥ cells.z := not_le.mpr (cellOf_inBox hg hid).2.2.2
  unfold ParcelMigrationPlan.owner
  rw [if_neg hz]
  rfl

lemma owner_outside (hid : cells.x * cells.y * cells.z ≤ (id : ℤ)) :
    ParcelMigrationPlan.owner cells grid id = -1 := by
  obtain ⟨hx, hy, -⟩ := (validCells_iff cells).mp hg.cells_valid
  have hz : (id : ℤ) / cells.x / cells.y ≥ cells.z := by
    rw [ge_iff_le, Int.le_ediv_iff_mul_le hy, Int.le_ediv_iff_mul_le hx]
    linarith
  unfold ParcelMigrationPlan.owner
  rw [if_pos hz]

lemma locate_inside {R : Type} {A : CoordinateArithmetic R} {input : CartesianParcelLocationInput R}
    {position : Vector3 R} (hid : (id : ℤ) < cells.x * cells.y * cells.z)
    (hmax : cells.x < maxI32 ∧ cells.y < maxI32 ∧ cells.z < maxI32)
    (hcount : cells.x * cells.y * cells.z ≤ (maxU64 : ℤ)) (hcells : input.globalCells = cells)
    (hranks : input.rankCount = ranks) (hversion : input.revision.algorithmVersion = 1)
    (h : InsideCell A input position (cellOf cells id)) :
    CartesianParcelLocationProvider.locate A input position input.revision =
      .ok ⟨input.revision, id, rankAt grid (ownerCoord cells grid (cellOf cells id))⟩ := by
  obtain ⟨⟨hx, hx'⟩, ⟨hy, hy'⟩, hz, hz'⟩ := cellOf_inBox hg hid
  have hrank : 0 < ranks := by
    rw [← hg.product]
    exact mul_pos (mul_pos hg.pos_x hg.pos_y) hg.pos_z
  have hpatch := hg.patch 0 le_rfl hrank
  have hx0 := locateAxis_inside grid.x hx hx' hmax.1 h.x
  have hy0 := locateAxis_inside grid.y hy hy' hmax.2.1 h.y
  have hz0 := locateAxis_inside grid.z hz hz' hmax.2.2 h.z
  have hflat : (cellOf cells id).x + cells.x * ((cellOf cells id).y + cells.y * (cellOf cells id).z) = id :=
    @flatIndex_digits cells.x cells.y (id : ℤ)
  have hmod : (id : ℤ) % 2 ^ 64 = id := by
    have hm : (maxU64 : ℤ) = 2 ^ 64 - 1 := rfl
    exact Int.emod_eq_of_lt (Int.natCast_nonneg id) (by omega)
  unfold CartesianParcelLocationProvider.locate
  rw [if_neg (by simp), if_neg (by simp [hversion]), hranks, hcells, hpatch]
  simp only [gridPatch, hx0, hy0, hz0, bind, Except.bind]
  rw [hflat, hmod, Int.toNat_natCast]
  rfl

end Partition

variable {cells grid : Int3} {n : ℕ} (hg : PartitionOf cells n grid)

include hg

variable (id : ℕ)

lemma owner_range : owner cells grid id = -1 ∨ (0 ≤ owner cells grid id ∧ owner cells grid id < n) := by
  by_cases hid : (id : ℤ) < cells.x * cells.y * cells.z
  · rw [owner_inside hg hid]
    exact .inr (rankAt_range hg (ownerCoord_inGrid hg (cellOf_inBox hg hid)))
  · exact .inl (owner_outside hg (not_lt.mp hid))

lemma subscript_lt_iff : subscript n (owner cells grid id) < n ↔ 0 ≤ owner cells grid id := by
  have hrange := owner_range hg id
  unfold subscript
  split_ifs with hneg
  · omega
  · omega

lemma subscript_eq_iff {r : ℕ} (hr : r < n) : subscript n (owner cells grid id) = r ↔ owner cells grid id = r := by
  have hrange := owner_range hg id
  unfold subscript
  split_ifs with hneg
  · omega
  · omega

lemma contains_owner {id r : ℕ} (h : owner cells grid id = r) :
    Contains (gridPatch r cells grid) (cellOf cells id) := by
  by_cases hid : (id : ℤ) < cells.x * cells.y * cells.z
  · rw [owner_inside hg hid] at h
    rw [← h]
    exact contains_rankAt hg (cellOf_inBox hg hid)
  · rw [owner_outside hg (not_lt.mp hid)] at h
    omega

end HundunFlow.Proofs
