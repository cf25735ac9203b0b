import HundunFlow.Proofs.MgPartition
import HundunFlow.Proofs.RegionNeighbors

/-!
# Partitions along cuts

A process grid with cuts on each axis gives every rank a patch.
-/

namespace HundunFlow.Proofs

open Lib MgWorkspace

/-- The patches of the ranks are what the cuts leave between them, on a process grid. -/
structure TensorPartition {n : ℕ} (shape grid : Int3) (cut : Axis → ℤ → ℤ) (patch : Fin n → MeshPatch) : Prop where
  processGrid : ∀ i, (patch i).processGrid = grid
  coord : ∀ i, InGrid grid (patch i).processCoord
  rank : ∀ i, rankAt grid (patch i).processCoord = (i : ℕ)
  ranks : grid.x * grid.y * grid.z = n
  begin_ : ∀ i axis, component (patch i).begin axis = cut axis (component (patch i).processCoord axis)
  end_ : ∀ i axis, patchEnd (patch i) axis = cut axis (component (patch i).processCoord axis + 1)
  first : ∀ axis, cut axis 0 = 0
  last : ∀ axis, cut axis (component grid axis) = component shape axis
  cells_pos : ∀ i axis, 0 < component (patch i).cells axis

variable {n : ℕ} {shape grid : Int3} {cut : Axis → ℤ → ℤ} {patch : Fin n → MeshPatch}
  (h : TensorPartition shape grid cut patch)

include h

variable {periodic : Bool}

lemma TensorPartition.exists_rank {coord : Int3} (hcoord : InGrid grid coord) :
    ∃ i, (patch i).processCoord = coord ∧ rankAt grid coord = (i : ℕ) := by
  have hrange : 0 ≤ rankAt grid coord ∧ rankAt grid coord < n := by
    obtain ⟨⟨hx, hx'⟩, ⟨hy, hy'⟩, hz, hz'⟩ := hcoord
    rw [← h.ranks]
    exact ⟨flatIndex_nonneg hx hx' hy hy' hz, flatIndex_lt hx' hx hy' hy hz'⟩
  refine ⟨⟨(rankAt grid coord).toNat, by omega⟩, ?_, (Int.toNat_of_nonneg hrange.1).symm⟩
  have hown := h.coord ⟨(rankAt grid coord).toNat, by omega⟩
  have hrank := h.rank ⟨(rankAt grid coord).toNat, by omega⟩
  rw [Int.toNat_of_nonneg hrange.1] at hrank
  obtain ⟨⟨hx, hx'⟩, ⟨hy, hy'⟩, -⟩ := hown
  obtain ⟨⟨kx, kx'⟩, ⟨ky, ky'⟩, -⟩ := hcoord
  obtain ⟨ex, ey, ez⟩ := flatIndex_inj hx hx' hy hy' kx kx' ky ky' hrank
  apply int3_ext
  intro axis
  cases axis
  · exact ex
  · exact ey
  · exact ez

lemma TensorPartition.eq_of_coord {i j : Fin n} (hij : (patch i).processCoord = (patch j).processCoord) : i = j := by
  have hi := h.rank i
  rw [hij, h.rank j] at hi
  exact Fin.ext (by exact_mod_cast hi.symm)

lemma TensorPartition.grid_pos (i : Fin n) (axis : Axis) : 0 < component grid axis := by
  have hin := inGrid_iff.mp (h.coord i) axis
  omega

lemma TensorPartition.cut_lt (i : Fin n) (axis : Axis) {c : ℤ} (hc : 0 ≤ c) (hc' : c < component grid axis) :
    cut axis c < cut axis (c + 1) := by
  have hin : InGrid grid (setComponent (patch i).processCoord axis c) := by
    rw [inGrid_iff]
    intro other
    rw [component_setComponent]
    split_ifs with hother
    · rw [← hother]
      exact ⟨hc, hc'⟩
    · exact inGrid_iff.mp (h.coord i) other
  obtain ⟨j, hj, -⟩ := h.exists_rank hin
  have hbegin := h.begin_ j axis
  have hend := h.end_ j axis
  have hpos := h.cells_pos j axis
  rw [hj, component_setComponent_same] at hbegin hend
  unfold patchEnd at hend
  omega

lemma TensorPartition.cut_le (i : Fin n) (axis : Axis) {c c' : ℤ} (hc : 0 ≤ c) (hle : c ≤ c')
    (hc' : c' ≤ component grid axis) : cut axis c ≤ cut axis c' := by
  induction c', hle using Int.leInduction with
  | base => exact le_refl _
  | succ k hk ih =>
    have hstep : cut axis k < cut axis (k + 1) := h.cut_lt i axis (by omega) (by omega)
    have hbefore := ih (by omega)
    omega

lemma TensorPartition.begin_nonneg (i : Fin n) (axis : Axis) : 0 ≤ component (patch i).begin axis := by
  have hin := inGrid_iff.mp (h.coord i) axis
  have hle := h.cut_le i axis (le_refl 0) hin.1 hin.2.le
  rwa [h.first, ← h.begin_ i axis] at hle

lemma TensorPartition.end_le (i : Fin n) (axis : Axis) : patchEnd (patch i) axis ≤ component shape axis := by
  have hin := inGrid_iff.mp (h.coord i) axis
  have hle := h.cut_le i axis (add_nonneg hin.1 zero_le_one) (Int.add_one_le_of_lt hin.2) (le_refl _)
  rwa [h.last, ← h.end_ i axis] at hle

lemma TensorPartition.exists_cut (i : Fin n) (axis : Axis) {cell : ℤ} (hcell : 0 ≤ cell)
    (hcell' : cell < component shape axis) :
    ∃ c, (0 ≤ c ∧ c < component grid axis) ∧ cut axis c ≤ cell ∧ cell < cut axis (c + 1) := by
  by_contra hnone
  push Not at hnone
  have hall : ∀ k : ℕ, (k : ℤ) ≤ component grid axis → cut axis k ≤ cell := by
    intro k
    induction k with
    | zero =>
      intro _
      rw [Nat.cast_zero, h.first]
      exact hcell
    | succ k ih =>
      intro hk
      push_cast at hk ⊢
      exact hnone k ⟨by omega, by omega⟩ (ih (by omega))
  have hpos := h.grid_pos i axis
  have htop := hall (component grid axis).toNat (by omega)
  rw [Int.toNat_of_nonneg hpos.le, h.last] at htop
  omega

lemma TensorPartition.partitions (i₀ : Fin n) : Partitions (shapeCells shape) fun i => patchCells (patch i) := by
  have hmem : ∀ i cell, cell ∈ patchCells (patch i) ↔ ∀ axis,
      cut axis (component (patch i).processCoord axis) ≤ cell axis ∧
        cell axis < cut axis (component (patch i).processCoord axis + 1) := by
    intro i cell
    apply forall_congr'
    intro axis
    rw [← h.begin_ i axis, ← h.end_ i axis]
    rfl
  constructor
  · ext cell
    rw [Set.mem_iUnion]
    constructor
    · rintro ⟨i, hi⟩ axis
      have haxis := (hmem i cell).mp hi axis
      have hin := inGrid_iff.mp (h.coord i) axis
      have hlow := h.cut_le i axis (le_refl 0) hin.1 hin.2.le
      have hhigh := h.cut_le i axis (by omega) (Int.add_one_le_of_lt hin.2) (le_refl _)
      rw [h.first] at hlow
      rw [h.last] at hhigh
      exact ⟨hlow.trans haxis.1, haxis.2.trans_le hhigh⟩
    · intro hcell
      choose c hc hcut using fun axis => h.exists_cut i₀ axis (hcell axis).1 (hcell axis).2
      have hin : InGrid grid (ofComponents c) := by
        rw [inGrid_iff]
        intro axis
        rw [component_ofComponents]
        exact hc axis
      obtain ⟨i, hi, -⟩ := h.exists_rank hin
      refine ⟨i, (hmem i cell).mpr fun axis => ?_⟩
      rw [hi, component_ofComponents]
      exact hcut axis
  · intro i j hij
    rw [Function.onFun, Set.disjoint_left]
    intro cell hi hj
    apply hij
    apply h.eq_of_coord
    apply int3_ext
    intro axis
    have hini := inGrid_iff.mp (h.coord i) axis
    have hinj := inGrid_iff.mp (h.coord j) axis
    have hcuti := (hmem i cell).mp hi axis
    have hcutj := (hmem j cell).mp hj axis
    rcases lt_trichotomy (component (patch i).processCoord axis) (component (patch j).processCoord axis) with hlt | heq | hgt
    · have hle := h.cut_le i axis (by omega) (Int.add_one_le_of_lt hlt) hinj.2.le
      omega
    · exact heq
    · have hle := h.cut_le i axis (by omega) (Int.add_one_le_of_lt hgt) hini.2.le
      omega

lemma TensorPartition.above {axis : Axis} {i j : Fin n}
    (hfollows : Follows grid periodic axis (patch i).processCoord (patch j).processCoord) :
    Above shape periodic axis (patch i) (patch j) := by
  have hbegini := h.begin_ i
  have hbeginj := h.begin_ j
  have hendi := h.end_ i
  have hendj := h.end_ j
  constructor
  · intro other hother
    have hcoord := hfollows.beside other hother
    have hbegin : component (patch j).begin other = component (patch i).begin other := by
      rw [hbeginj, hbegini, hcoord]
    have hend : patchEnd (patch j) other = patchEnd (patch i) other := by rw [hendj, hendi, hcoord]
    unfold patchEnd at hend
    exact ⟨hbegin, by omega⟩
  · rw [hbeginj, hendi]
    rcases hfollows.next with hnext | ⟨hperiodic, hlast, hfirst⟩
    · rw [hnext]
      exact .inl rfl
    · rw [hlast, hfirst, sub_add_cancel, h.first, h.last]
      exact .inr ⟨hperiodic, rfl, rfl⟩

lemma TensorPartition.exists_neighbor {axis : Axis} {sign : ℤ} {i : Fin n} {coord : Int3}
    (hcoord : neighborCoord grid (patch i).processCoord axis sign periodic = some coord) :
    ∃ j, (patch j).processCoord = coord ∧ rankAt grid coord = (j : ℕ) :=
  h.exists_rank (neighborCoord_inGrid (h.coord i) hcoord)

lemma TensorPartition.coarsened {mask : AxisMask} {coarseShape : Int3} {coarse : Fin n → MeshPatch}
    (hshape : component coarseShape = halfUp mask.has (component shape))
    (hbegin : ∀ i, component (coarse i).begin = halfUp mask.has (component (patch i).begin))
    (hend : ∀ i, patchEnd (coarse i) = halfUp mask.has (patchEnd (patch i)))
    (hpos : ∀ i axis, 0 < component (coarse i).cells axis)
    (hgrid : ∀ i, (coarse i).processGrid = (patch i).processGrid)
    (hcoord : ∀ i, (coarse i).processCoord = (patch i).processCoord) :
    TensorPartition coarseShape grid (fun axis c => halfUp mask.has (fun axis => cut axis c) axis) coarse where
  processGrid i := (hgrid i).trans (h.processGrid i)
  coord i := by
    rw [hcoord i]
    exact h.coord i
  rank i := by
    rw [hcoord i]
    exact h.rank i
  ranks := h.ranks
  begin_ i axis := by
    rw [hbegin i, hcoord i, halfUp, halfUp, h.begin_ i axis]
  end_ i axis := by
    rw [hend i, hcoord i, halfUp, halfUp, h.end_ i axis]
  first axis := by
    rw [halfUp, h.first]
    split_ifs <;> rfl
  last axis := by
    rw [hshape, halfUp, halfUp, h.last]
  cells_pos := hpos

end HundunFlow.Proofs
