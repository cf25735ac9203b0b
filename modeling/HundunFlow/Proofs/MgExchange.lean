import HundunFlow.MgTransfer
import HundunFlow.Proofs.MgTensor

/-!
# What the exchanges of a level deliver

An exchange of faces gives every rank the cells beside its patch on one axis, and leaves the ghost
cells at edges and corners alone.
-/

namespace HundunFlow.Proofs

open Lib MgWorkspace MgTransfer List Bool
open EBTopology (addIndex subIndex)

section Neighbors

variable {patch : MeshPatch} {periodic : Axis → Bool} {axis : Axis}

lemma neighborCoord_up_eq {grid coord : Int3} (hcoord : InGrid grid coord) (p : Bool) :
    neighborCoord grid coord axis 1 p = if component coord axis + 1 = component grid axis then
        if p then some (setComponent coord axis 0) else none
      else some (setComponent coord axis (component coord axis + 1)) := by
  have hin := inGrid_iff.mp hcoord axis
  unfold neighborCoord
  simp only
  by_cases hlast : component coord axis + 1 = component grid axis
  · have hwrapped : (component coord axis + 1 + component grid axis) % component grid axis = 0 := by
      rw [hlast, Int.add_emod_left, Int.emod_self]
    rw [if_pos (by omega), if_pos hlast, hwrapped]
  · rw [if_neg (by omega), if_neg hlast]

lemma neighborCoord_down_eq {grid coord : Int3} (hcoord : InGrid grid coord) (p : Bool) :
    neighborCoord grid coord axis (-1) p = if component coord axis = 0 then
        if p then some (setComponent coord axis (component grid axis - 1)) else none
      else some (setComponent coord axis (component coord axis - 1)) := by
  have hin := inGrid_iff.mp hcoord axis
  unfold neighborCoord
  simp only
  by_cases hfirst : component coord axis = 0
  · have hwrapped : (component coord axis + -1 + component grid axis) % component grid axis = component grid axis - 1 := by
      rw [hfirst, show (0 : ℤ) + -1 + component grid axis = component grid axis - 1 by ring]
      exact Int.emod_eq_of_lt (by omega) (by omega)
    rw [if_pos (by omega), if_pos hfirst, hwrapped]
  · rw [if_neg (by omega), if_neg hfirst]
    rfl

lemma haloNeighbor_eq (hcoord : InGrid patch.processGrid patch.processCoord) (minus : Bool) :
    MgTransfer.neighborRank patch periodic axis minus =
      (neighborCoord patch.processGrid patch.processCoord axis (if minus then -1 else 1) (periodic axis)).map
        (rankAt patch.processGrid) := by
  unfold MgTransfer.neighborRank
  cases minus
  · rw [if_neg Bool.false_ne_true, neighborCoord_up_eq hcoord]
    simp only [false_eq_true, if_false]
    split_ifs <;> rfl
  · rw [if_pos rfl, neighborCoord_down_eq hcoord]
    simp only [if_true]
    split_ifs <;> rfl

lemma extensionNeighbor_eq (hcoord : InGrid patch.processGrid patch.processCoord) (minus : Bool) :
    MgTransfer.neighbor patch periodic axis minus =
      (neighborCoord patch.processGrid patch.processCoord axis (if minus then -1 else 1) (periodic axis)).map
        (rankAt patch.processGrid) := by
  have hin := inGrid_iff.mp hcoord axis
  unfold MgTransfer.neighbor
  cases minus
  · rw [if_neg Bool.false_ne_true, neighborCoord_up_eq hcoord]
    by_cases hlast : component patch.processCoord axis + 1 = component patch.processGrid axis
    · have hout : component patch.processCoord axis + 1 < 0 ∨
          component patch.processGrid axis ≤ component patch.processCoord axis + 1 := .inr hlast.ge
      have hnonneg : ¬ component patch.processCoord axis + 1 < 0 := by omega
      rw [if_pos hlast]
      refine (if_pos hout).trans ?_
      rw [if_neg hnonneg]
      split_ifs <;> rfl
    · have hinside : ¬ (component patch.processCoord axis + 1 < 0 ∨
          component patch.processGrid axis ≤ component patch.processCoord axis + 1) := by omega
      simp only [hinside, hlast, if_false]
      rfl
  · rw [if_pos rfl, neighborCoord_down_eq hcoord]
    by_cases hfirst : component patch.processCoord axis = 0
    · have hbelow : component patch.processCoord axis + -1 < 0 := by omega
      rw [if_pos hfirst]
      refine (if_pos (.inl hbelow)).trans ?_
      rw [if_pos hbelow]
      split_ifs <;> rfl
    · have hinside : ¬ (component patch.processCoord axis + -1 < 0 ∨
          component patch.processGrid axis ≤ component patch.processCoord axis + -1) := by omega
      simp only [hinside, hfirst, if_false]
      rfl

end Neighbors

section Receive

variable {F : Type} {n : ℕ} {patch : Fin n → MeshPatch} {neighborOf : MeshPatch → Axis → Bool → Option ℤ} {axis : Axis}
  {reach : Axis → ℤ} {packed current : Fin n → LevelSlot F} {i : Fin n} {index : Int3}

variable {own : LevelSlot F} {minus : Bool}

lemma inPlane_iff {patch : MeshPatch} {plane : ℤ} : inPlane patch axis plane reach index = true ↔
    component index axis = plane ∧ ∀ other, other ≠ axis →
      -reach other ≤ component index other ∧ component index other < component patch.cells other + reach other := by
  unfold inPlane
  rw [all_eq_true]
  constructor
  · intro h
    refine ⟨?_, fun other hother => ?_⟩
    · have haxis := h axis (mem_axes axis)
      rwa [if_pos rfl, decide_eq_true_eq] at haxis
    · have hrange := h other (mem_axes other)
      rwa [if_neg hother, decide_eq_true_eq] at hrange
  · rintro ⟨hplane, hothers⟩ other -
    split_ifs with hother
    · rw [decide_eq_true_eq, hother]
      exact hplane
    · rw [decide_eq_true_eq]
      exact hothers other hother

lemma unpackPlane_frame (h : inPlane (patch i) axis (ghostPlane (patch i) axis minus) reach index = false) :
    unpackPlane patch neighborOf axis reach packed i minus own index = own index := by
  unfold unpackPlane
  simp only [h, false_eq_true, if_false]
  split
  · rfl
  · split_ifs <;> rfl

lemma unpackPlane_from {j : Fin n} (hj : neighborOf (patch i) axis minus = some ((j : ℕ) : ℤ))
    (h : inPlane (patch i) axis (ghostPlane (patch i) axis minus) reach index = true) :
    unpackPlane patch neighborOf axis reach packed i minus own index =
      packed j (setComponent index axis (if minus then component (patch j).cells axis - 1 else 0)) := by
  unfold unpackPlane
  simp only [hj, h, if_true, Int.toNat_natCast, j.isLt, dite_true]

lemma receivePlanes_frame (h : ∀ minus, inPlane (patch i) axis (ghostPlane (patch i) axis minus) reach index = false) :
    receivePlanes patch neighborOf axis reach packed current i index = current i index := by
  rw [receivePlanes, unpackPlane_frame (h false), unpackPlane_frame (h true)]

lemma receivePlanes_from {j : Fin n} (hj : neighborOf (patch i) axis minus = some ((j : ℕ) : ℤ))
    (hcells : 0 < component (patch i).cells axis)
    (h : inPlane (patch i) axis (ghostPlane (patch i) axis minus) reach index = true) :
    receivePlanes patch neighborOf axis reach packed current i index =
      packed j (setComponent index axis (if minus then component (patch j).cells axis - 1 else 0)) := by
  rw [receivePlanes]
  cases minus
  · exact unpackPlane_from hj h
  · have hbelow := (inPlane_iff.mp h).1
    have hother : inPlane (patch i) axis (ghostPlane (patch i) axis false) reach index = false := by
      rw [eq_false_iff]
      intro habove
      have hplane := (inPlane_iff.mp habove).1
      simp only [ghostPlane, if_true, false_eq_true, if_false] at hbelow hplane
      omega
    rw [unpackPlane_frame hother]
    exact unpackPlane_from hj h

end Receive

variable {F : Type} {n : ℕ}

/-- The cell of a rank is real on an axis: it is in the patch or, where `out` allows it, next to the
patch and in the box or an image of a cell of the box. -/
def RealOn (shape : Int3) (periodic : Axis → Bool) (patch : MeshPatch) (out : Axis → Prop) (index : Int3) (axis : Axis) :
    Prop :=
  (0 ≤ component index axis ∧ component index axis < component patch.cells axis) ∨
    out axis ∧ ∃ minus, component index axis = ghostPlane patch axis minus ∧
      (periodic axis = true ∨ 0 ≤ component patch.begin axis + component index axis ∧
        component patch.begin axis + component index axis < component shape axis)

/-- The ranks have the values of the box on their patches and, on the axes in `out`, beside them. -/
def Delivers (shape : Int3) (periodic : Axis → Bool) (patch : Fin n → MeshPatch) (value : Int3 → F) (out : Axis → Prop)
    (slots : Fin n → LevelSlot F) : Prop :=
  ∀ i index, (∀ axis, RealOn shape periodic (patch i) out index axis) →
    slots i index = value (wrap shape (addIndex (patch i).begin index))

variable {shape grid : Int3} {cut : Axis → ℤ → ℤ} {patch : Fin n → MeshPatch} (h : TensorPartition shape grid cut patch)
  {periodic : Axis → Bool} {axis : Axis} {neighborOf : MeshPatch → Axis → Bool → Option ℤ}

def ByCoordinates (grid : Int3) (periodic : Axis → Bool) (axis : Axis) (patch : Fin n → MeshPatch)
    (neighborOf : MeshPatch → Axis → Bool → Option ℤ) : Prop :=
  ∀ i minus, neighborOf (patch i) axis minus =
    (neighborCoord grid (patch i).processCoord axis (if minus then -1 else 1) (periodic axis)).map (rankAt grid)

include h

variable {index : Int3} {i : Fin n} {minus : Bool} {selected : ℤ} {list : List Axis}

lemma TensorPartition.sender (hnbr : ByCoordinates grid periodic axis patch neighborOf)
    (hplane : component index axis = ghostPlane (patch i) axis minus)
    (hreal : periodic axis = true ∨ 0 ≤ component (patch i).begin axis + component index axis ∧
      component (patch i).begin axis + component index axis < component shape axis) :
    ∃ j : Fin n, neighborOf (patch i) axis minus = some ((j : ℕ) : ℤ) ∧
      (∀ other, other ≠ axis → component (patch j).begin other = component (patch i).begin other ∧
        component (patch j).cells other = component (patch i).cells other) ∧
      (component (patch j).begin axis + (if minus then component (patch j).cells axis - 1 else 0)) % component shape axis =
        (component (patch i).begin axis + component index axis) % component shape axis := by
  rw [hnbr i minus]
  cases minus
  · simp only [ghostPlane, false_eq_true, if_false] at hplane ⊢
    cases hcoord : neighborCoord grid (patch i).processCoord axis 1 (periodic axis) with
    | none =>
      obtain ⟨hperiodic, hlast⟩ := neighborCoord_up_none (h.coord i) hcoord
      have hend := h.end_ i axis
      rw [hlast, sub_add_cancel, h.last, patchEnd] at hend
      have hinside := hreal.resolve_left (by rw [hperiodic]; exact Bool.false_ne_true)
      omega
    | some coord =>
      obtain ⟨j, rfl, hrank⟩ := h.exists_neighbor hcoord
      have habove := h.above ((neighborCoord_up (h.coord i) (h.coord j)).mp hcoord)
      refine ⟨j, by rw [Option.map_some, hrank], habove.beside, ?_⟩
      have himage := (habove.image 0).1
      rwa [add_zero, add_zero, patchEnd, ← hplane, ← add_zero (component (patch j).begin axis)] at himage
  · simp only [ghostPlane, if_true] at hplane ⊢
    cases hcoord : neighborCoord grid (patch i).processCoord axis (-1) (periodic axis) with
    | none =>
      obtain ⟨hperiodic, hfirst⟩ := neighborCoord_down_none (h.coord i) hcoord
      have hbegin := h.begin_ i axis
      rw [hfirst, h.first] at hbegin
      have hinside := hreal.resolve_left (by rw [hperiodic]; exact Bool.false_ne_true)
      omega
    | some coord =>
      obtain ⟨j, rfl, hrank⟩ := h.exists_neighbor hcoord
      have habove := h.above ((neighborCoord_down (h.coord i) (h.coord j)).mp hcoord)
      refine ⟨j, by rw [Option.map_some, hrank], fun other hother => ?_, ?_⟩
      · obtain ⟨hbegin, hcells⟩ := habove.beside other hother
        exact ⟨hbegin.symm, hcells.symm⟩
      · have himage := (habove.image (-1)).1
        rw [patchEnd] at himage
        rw [hplane, himage]
        congr 1
        ring

omit h in
lemma RealOn.congr {out : Axis → Prop} {own other : MeshPatch} {third : Axis} (hthird : third ≠ axis)
    (hbegin : component other.begin third = component own.begin third)
    (hcells : component other.cells third = component own.cells third)
    (hreal : RealOn shape periodic own out index third) :
    RealOn shape periodic other out (setComponent index axis selected) third := by
  unfold RealOn ghostPlane at hreal ⊢
  rw [component_setComponent_of_ne _ _ hthird.symm, hbegin, hcells]
  exact hreal

omit h in
lemma wrap_source {own other : MeshPatch}
    (hbegin : ∀ third, third ≠ axis → component other.begin third = component own.begin third)
    (hmod : (component other.begin axis + selected) % component shape axis =
      (component own.begin axis + component index axis) % component shape axis) :
    wrap shape (addIndex other.begin (setComponent index axis selected)) = wrap shape (addIndex own.begin index) := by
  apply int3_ext
  intro third
  rw [wrap, wrap, component_ofComponents, component_ofComponents, component_addIndex, component_addIndex,
    component_setComponent]
  split_ifs with hthird
  · rw [← hthird]
    exact hmod
  · rw [hbegin third (Ne.symm hthird)]

variable {value : Int3 → F} {out : Axis → Prop} {reach : Axis → ℤ} {slots current : Fin n → LevelSlot F}

lemma Delivers.received (current : Fin n → LevelSlot F) (hslots : Delivers shape periodic patch value out slots)
    (hnbr : ByCoordinates grid periodic axis patch neighborOf) (hreach : ∀ other, 0 ≤ reach other)
    (hout : ∀ other, out other → reach other = 1)
    (hplane : component index axis = ghostPlane (patch i) axis minus)
    (hreal : periodic axis = true ∨ 0 ≤ component (patch i).begin axis + component index axis ∧
      component (patch i).begin axis + component index axis < component shape axis)
    (hothers : ∀ other, other ≠ axis → RealOn shape periodic (patch i) out index other) :
    inPlane (patch i) axis (ghostPlane (patch i) axis minus) reach index = true ∧
      receivePlanes patch neighborOf axis reach slots current i index =
        value (wrap shape (addIndex (patch i).begin index)) := by
  have hcells := h.cells_pos i
  have hin : inPlane (patch i) axis (ghostPlane (patch i) axis minus) reach index = true := by
    rw [inPlane_iff]
    refine ⟨hplane, fun other hother => ?_⟩
    have hnonneg := hreach other
    have hpos := hcells other
    rcases hothers other hother with hinside | ⟨hout', minus', hghost, -⟩
    · omega
    · have hone := hout other hout'
      unfold ghostPlane at hghost
      split_ifs at hghost <;> omega
  obtain ⟨j, hj, hbeside, hmod⟩ := h.sender hnbr hplane hreal
  refine ⟨hin, ?_⟩
  rw [receivePlanes_from hj (hcells axis) hin, ← wrap_source (fun third hthird => (hbeside third hthird).1) hmod]
  apply hslots
  intro third
  by_cases hthird : third = axis
  · have hpos := h.cells_pos j axis
    rw [hthird, RealOn, component_setComponent_same]
    left
    split_ifs <;> omega
  · exact (hothers third hthird).congr hthird (hbeside third hthird).1 (hbeside third hthird).2

lemma Delivers.extend (hslots : Delivers shape periodic patch value out slots)
    (hnbr : ByCoordinates grid periodic axis patch neighborOf) (hreach : ∀ other, 0 ≤ reach other)
    (hout : ∀ other, out other → reach other = 1) :
    Delivers shape periodic patch value (fun other => out other ∨ other = axis)
      (receivePlanes patch neighborOf axis reach slots slots) := by
  intro i index hreal
  have hothers : ∀ other, other ≠ axis → RealOn shape periodic (patch i) out index other := fun other hother =>
    (hreal other).imp_right fun hghost => ⟨hghost.1.resolve_right hother, hghost.2⟩
  by_cases hinside : 0 ≤ component index axis ∧ component index axis < component (patch i).cells axis
  · rw [receivePlanes_frame]
    · apply hslots i index
      intro other
      by_cases hother : other = axis
      · rw [hother]
        exact .inl hinside
      · exact hothers other hother
    · intro minus
      rw [eq_false_iff]
      intro hplane
      have hghost := (inPlane_iff.mp hplane).1
      unfold ghostPlane at hghost
      split_ifs at hghost <;> omega
  · obtain ⟨-, minus, hplane, hbox⟩ := (hreal axis).resolve_left hinside
    exact (hslots.received h slots hnbr hreach hout hplane hbox hothers).2

omit h in
lemma Delivers.mono {out' : Axis → Prop} (hslots : Delivers shape periodic patch value out slots)
    (hle : ∀ other, out' other → out other) : Delivers shape periodic patch value out' slots := by
  intro i index hreal
  apply hslots i index
  intro other
  exact (hreal other).imp_right fun hghost => ⟨hle other hghost.1, hghost.2⟩

lemma TensorPartition.haloNeighbors (axis : Axis) :
    ByCoordinates grid periodic axis patch fun patch => MgTransfer.neighborRank patch periodic := by
  intro i minus
  have hcoord := h.coord i
  rw [← h.processGrid i] at hcoord
  refine (haloNeighbor_eq hcoord minus).trans ?_
  rw [h.processGrid i]

lemma TensorPartition.extensionNeighbors (axis : Axis) :
    ByCoordinates grid periodic axis patch fun patch => MgTransfer.neighbor patch periodic := by
  intro i minus
  have hcoord := h.coord i
  rw [← h.processGrid i] at hcoord
  refine (extensionNeighbor_eq hcoord minus).trans ?_
  rw [h.processGrid i]

variable (patch periodic slots) in
def facesOf (list : List Axis) (current : Fin n → LevelSlot F) : Fin n → LevelSlot F :=
  list.foldl (fun current axis =>
    receivePlanes patch (fun patch => MgTransfer.neighborRank patch periodic) axis (fun _ => 0) slots current) current

omit h in
lemma inPlane_face {own : MeshPatch} {other third : Axis} (hne : other ≠ third)
    (hout : ¬ (0 ≤ component index other ∧ component index other < component own.cells other)) (plane : ℤ) :
    inPlane own third plane (fun _ => 0) index = false := by
  rw [eq_false_iff]
  intro hin
  have hrange := (inPlane_iff.mp hin).2 other hne
  rw [neg_zero, add_zero] at hrange
  exact hout hrange

omit h in
lemma facesOf_frame
    (hnone : ∀ third ∈ list, ∀ minus, inPlane (patch i) third (ghostPlane (patch i) third minus) (fun _ => 0) index = false) :
    facesOf patch periodic slots list current i index = current i index := by
  induction list generalizing current with
  | nil => rfl
  | cons first rest ih =>
    obtain ⟨hfirst, hrest⟩ := forall_mem_cons.mp hnone
    exact (ih hrest).trans (receivePlanes_frame hfirst)

lemma facesOf_received (hslots : Delivers shape periodic patch value (fun _ => False) slots)
    (haxis : axis ∈ list) (hnodup : list.Nodup)
    (hplane : component index axis = ghostPlane (patch i) axis minus)
    (hreal : periodic axis = true ∨ 0 ≤ component (patch i).begin axis + component index axis ∧
      component (patch i).begin axis + component index axis < component shape axis)
    (hothers : ∀ other, other ≠ axis → RealOn shape periodic (patch i) (fun _ => False) index other) :
    facesOf patch periodic slots list current i index = value (wrap shape (addIndex (patch i).begin index)) := by
  induction list generalizing current with
  | nil => exact absurd haxis not_mem_nil
  | cons first rest ih =>
    rw [nodup_cons] at hnodup
    rcases mem_cons.mp haxis with rfl | hrest
    · have hreceived := (hslots.received h current (h.haloNeighbors axis) (fun _ => le_refl 0)
        (fun _ hfalse => hfalse.elim) hplane hreal hothers).2
      have hpos := h.cells_pos i axis
      have hout : ¬ (0 ≤ component index axis ∧ component index axis < component (patch i).cells axis) := by
        unfold ghostPlane at hplane
        split_ifs at hplane <;> omega
      have hframe : ∀ third ∈ rest, ∀ minus,
          inPlane (patch i) third (ghostPlane (patch i) third minus) (fun _ => 0) index = false := by
        intro third hthird minus'
        apply inPlane_face _ hout
        rintro rfl
        exact hnodup.1 hthird
      change facesOf patch periodic slots rest _ i index = _
      rw [facesOf_frame hframe]
      exact hreceived
    · exact ih hrest hnodup.2

lemma Delivers.faces (hslots : Delivers shape periodic patch value (fun _ => False) slots) (axis : Axis) :
    Delivers shape periodic patch value (· = axis) (exchangeFaces patch periodic slots) := by
  intro i index hreal
  have hothers : ∀ other, other ≠ axis → RealOn shape periodic (patch i) (fun _ => False) index other :=
    fun other hother => (hreal other).imp_right fun hghost => absurd hghost.1 hother
  rcases hreal axis with hinside | ⟨-, minus, hplane, hbox⟩
  · refine (facesOf_frame fun third _ minus => ?_).trans (hslots i index fun other => ?_)
    · rw [eq_false_iff]
      intro hin
      have hghost := (inPlane_iff.mp hin).1
      have hinterior : 0 ≤ component index third ∧ component index third < component (patch i).cells third := by
        by_cases hthird : third = axis
        · rw [hthird]
          exact hinside
        · exact (hothers third hthird).resolve_right fun hghost => hghost.1
      unfold ghostPlane at hghost
      split_ifs at hghost <;> omega
    · by_cases hother : other = axis
      · rw [hother]
        exact .inl hinside
      · exact hothers other hother
  · exact facesOf_received h hslots (mem_axes axis) axes_nodup hplane hbox hothers

omit h in
lemma exchangeFaces_edge {other : Axis} (hne : axis ≠ other)
    (haxis : ¬ (0 ≤ component index axis ∧ component index axis < component (patch i).cells axis))
    (hother : ¬ (0 ≤ component index other ∧ component index other < component (patch i).cells other)) :
    exchangeFaces patch periodic slots i index = slots i index := by
  refine facesOf_frame fun third _ minus => ?_
  by_cases hthird : axis = third
  · exact inPlane_face (hthird ▸ hne.symm) hother _
  · exact inPlane_face hthird haxis _

variable {active : Axis → Bool}

lemma Delivers.extensionRest {prior : Axis → Bool}
    (hslots : Delivers shape periodic patch value (fun other => prior other = true) slots) :
    Delivers shape periodic patch value (fun other => prior other = true ∨ other ∈ list ∧ active other = true)
      (extensionLoop patch periodic active list prior false slots) := by
  induction list generalizing prior slots with
  | nil => exact hslots.mono fun other hother => hother.resolve_right fun hnil => not_mem_nil hnil.1
  | cons first rest ih =>
    rw [extensionLoop]
    by_cases hactive : active first = true
    · rw [if_neg (by rw [hactive]; exact Bool.false_ne_true)]
      simp only [false_eq_true, if_false]
      let reach (other : Axis) : ℤ := if prior other then 1 else 0
      have hreach : ∀ other, 0 ≤ reach other := fun other => by
        dsimp only [reach]
        split_ifs <;> decide
      have hext := hslots.extend h (h.extensionNeighbors first) hreach fun other hother => if_pos hother
      have hprior : Delivers shape periodic patch value (fun other => (prior other || decide (other = first)) = true)
          (receivePlanes patch (fun patch => neighbor patch periodic) first reach slots slots) :=
        hext.mono fun other hother => by simpa using hother
      have hrest := ih hprior
      refine hrest.mono fun other hother => ?_
      rw [mem_cons] at hother
      simp only [or_eq_true, decide_eq_true_eq]
      tauto
    · rw [if_pos (by rw [eq_false_of_not_eq_true hactive]; rfl)]
      refine (ih hslots).mono fun other hother => hother.imp_right fun hmem => ⟨?_, hmem.2⟩
      refine (mem_cons.mp hmem.1).resolve_left fun heq => hactive ?_
      rw [← heq]
      exact hmem.2

lemma Delivers.extensionFirst (hslots : ∀ axis, Delivers shape periodic patch value (· = axis) slots) :
    Delivers shape periodic patch value (fun other => other ∈ list ∧ active other = true)
      (extensionLoop patch periodic active list (fun _ => false) true slots) := by
  induction list with
  | nil => exact (hslots .x).mono fun other hother => absurd hother.1 not_mem_nil
  | cons first rest ih =>
    rw [extensionLoop]
    by_cases hactive : active first = true
    · rw [if_neg (by rw [hactive]; exact Bool.false_ne_true)]
      simp only [if_true]
      have hfirst : Delivers shape periodic patch value (fun other => (false || decide (other = first)) = true) slots :=
        (hslots first).mono fun other hother => by simpa using hother
      refine (Delivers.extensionRest h hfirst).mono fun other hother => ?_
      rw [mem_cons] at hother
      simp only [Bool.false_or, decide_eq_true_eq]
      tauto
    · rw [if_pos (by rw [eq_false_of_not_eq_true hactive]; rfl)]
      refine ih.mono fun other hother => ⟨(mem_cons.mp hother.1).resolve_left fun heq => hactive ?_, hother.2⟩
      rw [← heq]
      exact hother.2

omit h in
lemma countP_active_lt_two (hcount : axes.countP active < 2) : ∃ axis, ∀ other, active other = true → other = axis := by
  by_contra hnone
  push Not at hnone
  obtain ⟨second, hsecond, -⟩ := hnone .x
  obtain ⟨first, hfirst, hne⟩ := hnone second
  have hsub : [first, second].Subperm (axes.filter active) := by
    apply Nodup.subperm (by simpa using hne)
    intro other hother
    rw [mem_filter]
    refine ⟨mem_axes other, ?_⟩
    rcases mem_cons.mp hother with rfl | hother
    · exact hfirst
    · rw [mem_singleton.mp hother]
      exact hsecond
  rw [countP_eq_length_filter] at hcount
  have hle := hsub.length_le
  simp only [length_cons, length_nil] at hle
  omega

lemma Delivers.prolongation (hslots : Delivers shape periodic patch value (fun _ => False) slots) (mask : AxisMask) :
    Delivers shape periodic patch value (fun other => activeAxes mask grid periodic other = true)
      (extendProlongationFaceHalos mask grid patch periodic (exchangeFaces patch periodic slots)) := by
  have hfaces := hslots.faces h
  unfold extendProlongationFaceHalos
  simp only
  split_ifs with hcount
  · obtain ⟨axis, hone⟩ := countP_active_lt_two hcount
    exact (hfaces axis).mono hone
  · exact (Delivers.extensionFirst h hfaces).mono fun other hother => ⟨mem_axes other, hother⟩

end HundunFlow.Proofs
