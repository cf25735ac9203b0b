import HundunFlow.Proofs.RegionHalo

/-!
# The neighbours of a rank

In a standard partition the neighbour computations of two ranks are inverse to each other, and
neighbouring patches meet, around the box on periodic axes.
-/

namespace HundunFlow.Proofs

open Lib EBTopology MgWorkspace Option Bool

variable (rank : ℤ)

lemma inGrid_iff {grid coord : Int3} :
    InGrid grid coord ↔ ∀ axis, 0 ≤ component coord axis ∧ component coord axis < component grid axis := by
  constructor
  · rintro ⟨hx, hy, hz⟩ axis
    cases axis
    · exact hx
    · exact hy
    · exact hz
  · intro h
    exact ⟨h .x, h .y, h .z⟩

def neighborCoord (grid coord : Int3) (axis : Axis) (sign : ℤ) (periodic : Bool) : Option Int3 :=
  let selected := component coord axis + sign
  if selected < 0 ∨ component grid axis ≤ selected then
    if periodic then some (setComponent coord axis ((selected + component grid axis) % component grid axis)) else none
  else some (setComponent coord axis selected)

lemma neighborRank_eq (patch : MeshPatch) (axis : Axis) (sign : ℤ) (periodic : Bool) :
    neighborRank patch axis sign periodic =
      (neighborCoord patch.processGrid patch.processCoord axis sign periodic).map (rankAt patch.processGrid) := by
  unfold neighborRank neighborCoord
  simp only
  split_ifs <;> rfl

/-- The coordinate `above` follows `coord` on an axis, around the grid if need be. -/
structure Follows (grid : Int3) (periodic : Bool) (axis : Axis) (coord above : Int3) : Prop where
  beside : ∀ other, other ≠ axis → component above other = component coord other
  next : component above axis = component coord axis + 1 ∨
    periodic = true ∧ component coord axis = component grid axis - 1 ∧ component above axis = 0

section Coordinates

variable {grid coord : Int3} {axis : Axis} {periodic : Bool}

lemma eq_setComponent_iff {value other : Int3} {selected : ℤ} : setComponent value axis selected = other ↔
    component other axis = selected ∧ ∀ third, third ≠ axis → component other third = component value third := by
  constructor
  · rintro rfl
    exact ⟨component_setComponent_same _ _ _, fun third h => component_setComponent_of_ne _ _ h.symm⟩
  · rintro ⟨hsame, hothers⟩
    apply int3_ext
    intro third
    rw [component_setComponent]
    split_ifs with h
    · rw [← h, hsame]
    · exact (hothers third (Ne.symm h)).symm

lemma neighborCoord_up (hcoord : InGrid grid coord) {above : Int3} (habove : InGrid grid above) :
    neighborCoord grid coord axis 1 periodic = some above ↔ Follows grid periodic axis coord above := by
  have hin := inGrid_iff.mp hcoord axis
  have hin' := inGrid_iff.mp habove axis
  unfold neighborCoord
  simp only
  split_ifs with hout hperiodic
  · have hlast : component coord axis = component grid axis - 1 := by omega
    rw [some.injEq, eq_setComponent_iff, hlast, sub_add_cancel, Int.add_emod_left, Int.emod_self]
    constructor
    · rintro ⟨hzero, hothers⟩
      exact ⟨hothers, .inr ⟨hperiodic, hlast, hzero⟩⟩
    · rintro ⟨hothers, hnext | ⟨-, -, hzero⟩⟩
      · omega
      · exact ⟨hzero, hothers⟩
  · refine iff_of_false (by simp) ?_
    rintro ⟨-, hnext | ⟨hp, -⟩⟩
    · omega
    · exact hperiodic hp
  · rw [some.injEq, eq_setComponent_iff]
    constructor
    · rintro ⟨hnext, hothers⟩
      exact ⟨hothers, .inl hnext⟩
    · rintro ⟨hothers, hnext | ⟨-, hlast, -⟩⟩
      · exact ⟨hnext, hothers⟩
      · omega

lemma neighborCoord_down (hcoord : InGrid grid coord) {below : Int3} (hbelow : InGrid grid below) :
    neighborCoord grid coord axis (-1) periodic = some below ↔ Follows grid periodic axis below coord := by
  have hin := inGrid_iff.mp hcoord axis
  have hin' := inGrid_iff.mp hbelow axis
  unfold neighborCoord
  simp only
  split_ifs with hout hperiodic
  · have hfirst : component coord axis = 0 := by omega
    have hwrapped : (component coord axis + -1 + component grid axis) % component grid axis = component grid axis - 1 := by
      rw [hfirst, show (0 : ℤ) + -1 + component grid axis = component grid axis - 1 by ring]
      exact Int.emod_eq_of_lt (by omega) (by omega)
    rw [some.injEq, eq_setComponent_iff, hwrapped]
    constructor
    · rintro ⟨hlast, hothers⟩
      exact ⟨fun other h => (hothers other h).symm, .inr ⟨hperiodic, hlast, hfirst⟩⟩
    · rintro ⟨hothers, hnext | ⟨-, hlast, -⟩⟩
      · omega
      · exact ⟨hlast, fun other h => (hothers other h).symm⟩
  · refine iff_of_false (by simp) ?_
    rintro ⟨-, hnext | ⟨hp, -⟩⟩
    · omega
    · exact hperiodic hp
  · rw [some.injEq, eq_setComponent_iff]
    constructor
    · rintro ⟨hnext, hothers⟩
      exact ⟨fun other h => (hothers other h).symm, .inl (by omega)⟩
    · rintro ⟨hothers, hnext | ⟨-, -, hfirst⟩⟩
      · exact ⟨by omega, fun other h => (hothers other h).symm⟩
      · omega

lemma neighborCoord_inGrid (hcoord : InGrid grid coord) {sign : ℤ} {other : Int3}
    (h : neighborCoord grid coord axis sign periodic = some other) : InGrid grid other := by
  have hin := inGrid_iff.mp hcoord axis
  rw [inGrid_iff]
  unfold neighborCoord at h
  simp only at h
  intro third
  split_ifs at h with hout hperiodic <;> obtain rfl := some.inj h <;> rw [component_setComponent] <;>
    split_ifs with hthird
  · subst hthird
    exact ⟨Int.emod_nonneg _ (by omega), Int.emod_lt_of_pos _ (by omega)⟩
  · exact inGrid_iff.mp hcoord third
  · subst hthird
    omega
  · exact inGrid_iff.mp hcoord third

lemma neighborCoord_up_none (hcoord : InGrid grid coord) (h : neighborCoord grid coord axis 1 periodic = none) :
    periodic = false ∧ component coord axis = component grid axis - 1 := by
  have hin := inGrid_iff.mp hcoord axis
  unfold neighborCoord at h
  simp only at h
  split_ifs at h with hout hperiodic
  exact ⟨eq_false_of_not_eq_true hperiodic, by omega⟩

lemma neighborCoord_down_none (hcoord : InGrid grid coord) (h : neighborCoord grid coord axis (-1) periodic = none) :
    periodic = false ∧ component coord axis = 0 := by
  have hin := inGrid_iff.mp hcoord axis
  unfold neighborCoord at h
  simp only at h
  split_ifs at h with hout hperiodic
  exact ⟨eq_false_of_not_eq_true hperiodic, by omega⟩

lemma neighborCoord_alone (hcoord : InGrid grid coord) (hgrid : component grid axis = 1) {sign : ℤ}
    (hsign : sign = 1 ∨ sign = -1) : neighborCoord grid coord axis sign false = none := by
  have hin := inGrid_iff.mp hcoord axis
  unfold neighborCoord
  simp only
  rw [if_pos (by omega), if_neg Bool.false_ne_true]

end Coordinates

lemma gridPatch_begin (cells grid : Int3) (axis : Axis) : component (gridPatch rank cells grid).begin axis =
    blockBegin (component cells axis) (component grid axis) (component (gridPatch rank cells grid).processCoord axis) := by
  cases axis <;> rfl

lemma gridPatch_cells (cells grid : Int3) (axis : Axis) : component (gridPatch rank cells grid).cells axis =
    blockCount (component cells axis) (component grid axis) (component (gridPatch rank cells grid).processCoord axis) := by
  cases axis <;> rfl

lemma gridPatch_end (cells grid : Int3) (axis : Axis) : patchEnd (gridPatch rank cells grid) axis =
    blockBegin (component cells axis) (component grid axis)
      (component (gridPatch rank cells grid).processCoord axis + 1) := by
  rw [patchEnd, gridPatch_begin, gridPatch_cells, ← blockBegin_succ]

variable {n : ℕ} {globalCells grid : Int3} (hg : PartitionOf globalCells n grid)

variable {periodic : Bool} {axis : Axis}

lemma grid_pos {cells grid : Int3} {ranks : ℤ} (h : GridFits cells ranks grid) (axis : Axis) :
    0 < component grid axis := by
  cases axis
  · exact h.pos_x
  · exact h.pos_y
  · exact h.pos_z

lemma grid_le {cells grid : Int3} {ranks : ℤ} (h : GridFits cells ranks grid) (axis : Axis) :
    component grid axis ≤ component cells axis := by
  cases axis
  · exact h.le_x
  · exact h.le_y
  · exact h.le_z

abbrev coordOf (globalCells grid : Int3) (i : Fin n) : Int3 := (gridPatch i globalCells grid).processCoord

include hg in
lemma coordOf_inGrid (i : Fin n) : InGrid grid (coordOf globalCells grid i) :=
  processCoord_inGrid hg (Int.natCast_nonneg _) (by exact_mod_cast i.isLt)

def rankOf (hn : 0 < n) (grid coord : Int3) : Fin n := ⟨(rankAt grid coord).toNat % n, Nat.mod_lt _ hn⟩

include hg in
lemma rankOf_val (hn : 0 < n) {coord : Int3} (h : InGrid grid coord) :
    ((rankOf hn grid coord : Fin n) : ℕ) = (rankAt grid coord).toNat := by
  have hrange := rankAt_range hg h
  exact Nat.mod_eq_of_lt (by omega)

include hg in
lemma coordOf_rankOf (hn : 0 < n) {coord : Int3} (h : InGrid grid coord) :
    coordOf globalCells grid (rankOf hn grid coord : Fin n) = coord := by
  have hrange := rankAt_range hg h
  rw [coordOf, rankOf_val hg hn h, Int.toNat_of_nonneg hrange.1]
  exact processCoord_rankAt h

include hg in
lemma rankOf_coordOf (hn : 0 < n) (i : Fin n) : rankOf hn grid (coordOf globalCells grid i) = i := by
  apply Fin.ext
  rw [rankOf_val hg hn (coordOf_inGrid hg i), rankAt_processCoord]
  rfl

def neighborOf (hn : 0 < n) (globalCells grid : Int3) (axis : Axis) (sign : ℤ) (periodic : Bool) (i : Fin n) :
    Option (Fin n) :=
  (neighborCoord grid (coordOf globalCells grid i) axis sign periodic).map (rankOf hn grid)

include hg in
lemma neighborOf_rank (hn : 0 < n) (axis : Axis) (sign : ℤ) (periodic : Bool) (i : Fin n) :
    (neighborRank (gridPatch i globalCells grid) axis sign periodic).map Int.toNat =
      (neighborOf hn globalCells grid axis sign periodic i).map Fin.val := by
  rw [neighborRank_eq, neighborOf, map_map, map_map]
  change Option.map _ (neighborCoord grid (coordOf globalCells grid i) axis sign periodic) = _
  cases hcoord : neighborCoord grid (coordOf globalCells grid i) axis sign periodic with
  | none => rfl
  | some coord =>
    have hin := neighborCoord_inGrid (coordOf_inGrid hg i) hcoord
    simp only [map_some, Function.comp_apply, rankOf_val hg hn hin]
    rfl

include hg in
lemma neighborOf_up_iff (hn : 0 < n) {i j : Fin n} : neighborOf hn globalCells grid axis 1 periodic i = some j ↔
      Follows grid periodic axis (coordOf globalCells grid i) (coordOf globalCells grid j) := by
  rw [← neighborCoord_up (coordOf_inGrid hg i) (coordOf_inGrid hg j), neighborOf, map_eq_some_iff]
  constructor
  · rintro ⟨coord, hcoord, rfl⟩
    rw [coordOf_rankOf hg hn (neighborCoord_inGrid (coordOf_inGrid hg i) hcoord)]
    exact hcoord
  · intro h
    exact ⟨_, h, rankOf_coordOf hg hn j⟩

include hg in
lemma neighborOf_down_iff (hn : 0 < n) {i j : Fin n} :
    neighborOf hn globalCells grid axis (-1) periodic i = some j ↔
      Follows grid periodic axis (coordOf globalCells grid j) (coordOf globalCells grid i) := by
  rw [← neighborCoord_down (coordOf_inGrid hg i) (coordOf_inGrid hg j), neighborOf, map_eq_some_iff]
  constructor
  · rintro ⟨coord, hcoord, rfl⟩
    rw [coordOf_rankOf hg hn (neighborCoord_inGrid (coordOf_inGrid hg i) hcoord)]
    exact hcoord
  · intro h
    exact ⟨_, h, rankOf_coordOf hg hn j⟩

include hg in
lemma Follows.above {i j : Fin n}
    (h : Follows grid periodic axis (coordOf globalCells grid i) (coordOf globalCells grid j)) :
    Above globalCells periodic axis (gridPatch i globalCells grid) (gridPatch j globalCells grid) := by
  constructor
  · intro other hother
    rw [gridPatch_begin, gridPatch_begin, gridPatch_cells, gridPatch_cells, h.beside other hother]
    exact ⟨rfl, rfl⟩
  · rw [gridPatch_begin, gridPatch_end]
    rcases h.next with hnext | ⟨hperiodic, hlast, hfirst⟩
    · rw [hnext]
      exact .inl rfl
    · rw [hlast, hfirst, sub_add_cancel, blockBegin_zero (grid_pos hg.toGridFits axis), blockBegin_top (grid_pos hg.toGridFits axis)]
      exact .inr ⟨hperiodic, rfl, rfl⟩

include hg in
/-- The neighbours in a standard partition. -/
theorem standard_neighbors (hn : 0 < n) (periodic : Bool) (axis : Axis) :
    Neighbors (fun i : Fin n => gridPatch i globalCells grid) globalCells periodic axis
      (neighborOf hn globalCells grid axis 1 periodic) (neighborOf hn globalCells grid axis (-1) periodic) where
  upperRank := neighborOf_rank hg hn axis 1 periodic
  lowerRank := neighborOf_rank hg hn axis (-1) periodic
  inverse i j := (neighborOf_up_iff hg hn).trans (neighborOf_down_iff hg hn).symm
  above i j h := ((neighborOf_up_iff hg hn).mp h).above hg
  upper_none i h := by
    obtain ⟨hperiodic, hlast⟩ := neighborCoord_up_none (coordOf_inGrid hg i) (map_eq_none_iff.mp h)
    rw [gridPatch_end, hlast, sub_add_cancel, blockBegin_top (grid_pos hg.toGridFits axis)]
    exact ⟨hperiodic, rfl⟩
  lower_none i h := by
    obtain ⟨hperiodic, hfirst⟩ := neighborCoord_down_none (coordOf_inGrid hg i) (map_eq_none_iff.mp h)
    rw [gridPatch_begin, hfirst, blockBegin_zero (grid_pos hg.toGridFits axis)]
    exact ⟨hperiodic, rfl⟩

include hg in
lemma standard_cells_pos (i : Fin n) (axis : Axis) : 0 < component (gridPatch i globalCells grid).cells axis := by
  rw [gridPatch_cells]
  exact blockCount_pos (grid_pos hg.toGridFits axis) (grid_le hg.toGridFits axis) _

lemma standard_wide (axis : Axis) : (∀ i : Fin n, narrow (gridPatch i globalCells grid) globalCells axis = true) ∨
      ∀ i : Fin n, narrow (gridPatch i globalCells grid) globalCells axis = false ∧
        kRegionHalo ≤ component (gridPatch i globalCells grid).cells axis := by
  by_cases h : component globalCells axis / component grid axis < kRegionHalo
  · exact .inl fun i => decide_eq_true h
  · refine .inr fun i => ⟨decide_eq_false h, ?_⟩
    rw [gridPatch_cells, blockCount]
    split_ifs <;> omega

include hg in
lemma standard_alone (hn : 0 < n) (periodic : Bool) (axis : Axis) :
    (∀ i : Fin n, alone (gridPatch i globalCells grid) periodic axis = true ∧
        neighborOf hn globalCells grid axis 1 periodic i = none ∧
        neighborOf hn globalCells grid axis (-1) periodic i = none) ∨
      ∀ i : Fin n, alone (gridPatch i globalCells grid) periodic axis = false := by
  by_cases h : component grid axis = 1 ∧ periodic = false
  · obtain ⟨hgrid, rfl⟩ := h
    refine .inl fun i => ⟨?_, ?_, ?_⟩
    · rw [alone, and_eq_true]
      exact ⟨decide_eq_true hgrid, rfl⟩
    · rw [neighborOf, neighborCoord_alone (coordOf_inGrid hg i) hgrid (.inl rfl)]
      rfl
    · rw [neighborOf, neighborCoord_alone (coordOf_inGrid hg i) hgrid (.inr rfl)]
      rfl
  · refine .inr fun i => ?_
    rw [alone, and_eq_false_iff, decide_eq_false_iff_not, not_eq_false']
    by_cases hperiodic : periodic = true
    · exact .inr hperiodic
    · exact .inl fun hgrid => h ⟨hgrid, eq_false_of_not_eq_true hperiodic⟩

end HundunFlow.Proofs
