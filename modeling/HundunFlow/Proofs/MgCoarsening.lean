import HundunFlow.MgWorkspace

/-!
# Coarsening a grid

The loop over the axes halves each wanted axis on its own: what it does to one component depends on
that component alone.
-/

namespace HundunFlow.Proofs

open Lib MgWorkspace List Option

variable (value : Int3) (grid : Grid) {minimumExtent : ℕ} {wanted : AxisMask} {list : List Axis}

variable (axis : Axis)

variable (selected : ℤ)

@[simp] lemma component_setComponent_same : component (setComponent value axis selected) axis = selected := by
  cases axis <;> rfl

lemma component_setComponent_of_ne {axis other : Axis} (h : axis ≠ other) :
    component (setComponent value axis selected) other = component value other := by
  cases axis <;> cases other <;> first | rfl | exact absurd rfl h

lemma int3_ext {left right : Int3} (h : ∀ axis, component left axis = component right axis) : left = right := by
  obtain ⟨x, y, z⟩ := left
  have hx := h .x
  have hy := h .y
  have hz := h .z
  simp only [component] at hx hy hz
  rw [hx, hy, hz]

lemma mask_ext {left right : AxisMask} (h : ∀ axis, left.has axis = right.has axis) : left = right := by
  obtain ⟨x, y, z⟩ := left
  have hx := h .x
  have hy := h .y
  have hz := h .z
  simp only [AxisMask.has] at hx hy hz
  rw [hx, hy, hz]

@[simp] lemma has_none : AxisMask.none.has axis = false := by
  cases axis <;> rfl

lemma has_add (mask : AxisMask) (axis other : Axis) :
    (mask.add axis).has other = (mask.has other || decide (axis = other)) := by
  cases axis <;> cases other <;> simp [AxisMask.add, AxisMask.has]

lemma mem_axes : axis ∈ axes := by
  cases axis <;> simp [axes]

lemma axes_nodup : axes.Nodup := by decide

lemma positive_iff : positive value = true ↔ ∀ axis, 0 < component value axis := by
  rw [positive, Bool.and_eq_true, Bool.and_eq_true, decide_eq_true_eq, decide_eq_true_eq, decide_eq_true_eq]
  constructor
  · intro h axis
    cases axis
    · exact h.1.1
    · exact h.1.2
    · exact h.2
  · intro h
    exact ⟨⟨h .x, h .y⟩, h .z⟩

abbrev AxisRange : Type := ℤ × ℤ × ℤ

def axisRange (grid : Grid) (axis : Axis) : AxisRange :=
  (component grid.shape axis, component grid.patch.begin axis, component grid.patch.cells axis)

def setRange (grid : Grid) (axis : Axis) (range : AxisRange) : Grid where
  shape := setComponent grid.shape axis range.1
  patch := { grid.patch with
    begin := setComponent grid.patch.begin axis range.2.1
    cells := setComponent grid.patch.cells axis range.2.2 }

def halved (minimumExtent : ℕ) (range : AxisRange) : Option (Option AxisRange) :=
  match asInt32 (range.2.1 + range.2.2) with
  | none => none
  | some end_ =>
    if range.1 ≤ minimumExtent then some none
    else
      match asInt32 (range.2.1 + 1), asInt32 (end_ + 1), asInt32 (range.1 + 1) with
      | some begin_, some end_, some extent =>
        if end_.tdiv 2 ≤ begin_.tdiv 2 then some none
        else some (some (extent.tdiv 2, begin_.tdiv 2, end_.tdiv 2 - begin_.tdiv 2))
      | _, _, _ => none

variable (range : AxisRange)

lemma coarsenAxis_eq (minimumExtent : ℕ) (next : Grid) : coarsenAxis grid axis minimumExtent next =
      (halved minimumExtent (axisRange grid axis)).map (Option.map (setRange next axis)) := by
  unfold coarsenAxis halved axisRange
  simp only
  cases asInt32 (component grid.patch.begin axis + component grid.patch.cells axis) with
  | none => rfl
  | some end_ =>
    simp only
    by_cases hextent : component grid.shape axis ≤ (minimumExtent : ℤ)
    · rw [if_pos hextent, if_pos hextent]
      rfl
    · rw [if_neg hextent, if_neg hextent]
      cases asInt32 (component grid.patch.begin axis + 1) with
      | none => rfl
      | some begin_ =>
        cases asInt32 (end_ + 1) with
        | none => rfl
        | some end_ =>
          cases asInt32 (component grid.shape axis + 1) with
          | none => rfl
          | some extent =>
            simp only
            split_ifs <;> rfl

@[simp] lemma axisRange_setRange_same : axisRange (setRange grid axis range) axis = range := by
  simp only [axisRange, setRange, component_setComponent_same]

lemma axisRange_setRange_of_ne {axis other : Axis} (h : axis ≠ other) :
    axisRange (setRange grid axis range) other = axisRange grid other := by
  simp only [axisRange, setRange, component_setComponent_of_ne _ _ h]

def Halves (grid : Grid) (minimumExtent : ℕ) (wanted : AxisMask) (axis : Axis) (range : AxisRange) : Prop :=
  wanted.has axis = true ∧ halved minimumExtent (axisRange grid axis) = some (some range)

lemma coarsenAxes_isSome (minimumExtent : ℕ) (wanted : AxisMask) (list : List Axis) (mask : AxisMask)
    (next : Grid) : (coarsenAxes grid minimumExtent wanted list mask next).isSome ↔
      ∀ axis ∈ list, wanted.has axis = true → (halved minimumExtent (axisRange grid axis)).isSome := by
  induction list generalizing mask next with
  | nil => simp [coarsenAxes]
  | cons axis rest ih =>
    rw [coarsenAxes, coarsenAxis_eq]
    by_cases hwanted : wanted.has axis = true
    · rw [if_pos hwanted]
      cases hhalved : halved minimumExtent (axisRange grid axis) with
      | none =>
        simp only [map_none, isSome_none, Bool.false_eq_true, false_iff]
        intro h
        have hsome := h axis (mem_cons_self) hwanted
        rw [hhalved] at hsome
        exact nomatch hsome
      | some range =>
        have hiff : (∀ other ∈ axis :: rest, wanted.has other = true →
            (halved minimumExtent (axisRange grid other)).isSome) ↔
            ∀ other ∈ rest, wanted.has other = true → (halved minimumExtent (axisRange grid other)).isSome := by
          rw [forall_mem_cons]
          apply and_iff_right
          intro _
          rw [hhalved]
          rfl
        rw [hiff]
        cases range with
        | none => exact ih mask next
        | some range => exact ih (mask.add axis) (setRange next axis range)
    · rw [if_neg hwanted, ih, forall_mem_cons]
      exact (and_iff_right fun h => absurd h hwanted).symm

lemma coarsenAxes_spec {grid : Grid} (hlist : list.Nodup) {mask mask' : AxisMask} {next next' : Grid}
    (h : coarsenAxes grid minimumExtent wanted list mask next = some (mask', next')) :
    (∀ axis ∈ list, ∀ range, Halves grid minimumExtent wanted axis range →
      mask'.has axis = true ∧ axisRange next' axis = range) ∧
    (∀ axis, (axis ∉ list ∨ ∀ range, ¬ Halves grid minimumExtent wanted axis range) →
      mask'.has axis = mask.has axis ∧ axisRange next' axis = axisRange next axis) := by
  induction list generalizing mask next with
  | nil =>
    rw [coarsenAxes, some.injEq, Prod.mk.injEq] at h
    obtain ⟨rfl, rfl⟩ := h
    exact ⟨nofun, fun axis _ => ⟨rfl, rfl⟩⟩
  | cons axis rest ih =>
    obtain ⟨hnew, hrest⟩ := nodup_cons.mp hlist
    rw [coarsenAxes, coarsenAxis_eq] at h
    have hskip : (∀ range, ¬ Halves grid minimumExtent wanted axis range) →
        coarsenAxes grid minimumExtent wanted rest mask next = some (mask', next') →
        (∀ other ∈ axis :: rest, ∀ range, Halves grid minimumExtent wanted other range →
          mask'.has other = true ∧ axisRange next' other = range) ∧
        (∀ other, (other ∉ axis :: rest ∨ ∀ range, ¬ Halves grid minimumExtent wanted other range) →
          mask'.has other = mask.has other ∧ axisRange next' other = axisRange next other) := by
      intro hnot hloop
      obtain ⟨hhalves, hothers⟩ := ih hrest hloop
      refine ⟨fun other hother range hrange => ?_, fun other hother => hothers other ?_⟩
      · rcases mem_cons.mp hother with rfl | hmem
        · exact absurd hrange (hnot range)
        · exact hhalves other hmem range hrange
      · exact hother.imp_left fun hnotMem hmem => hnotMem (mem_cons_of_mem _ hmem)
    by_cases hwanted : wanted.has axis = true
    · rw [if_pos hwanted] at h
      cases hhalved : halved minimumExtent (axisRange grid axis) with
      | none =>
        rw [hhalved] at h
        exact nomatch h
      | some range =>
        rw [hhalved] at h
        cases range with
        | none =>
          refine hskip (fun range hrange => ?_) h
          have heq := hrange.2
          rw [hhalved] at heq
          exact nomatch heq
        | some range =>
          obtain ⟨hhalves, hothers⟩ := ih hrest h
          have hsame := hothers axis (.inl hnew)
          rw [has_add, decide_eq_true rfl, Bool.or_true, axisRange_setRange_same] at hsame
          refine ⟨fun other hother range' hrange => ?_, fun other hother => ?_⟩
          · rcases mem_cons.mp hother with rfl | hmem
            · have heq := hrange.2
              rw [hhalved, some.injEq, some.injEq] at heq
              exact ⟨hsame.1, hsame.2.trans heq⟩
            · exact hhalves other hmem range' hrange
          · have hne : axis ≠ other := by
              rintro rfl
              cases hother with
              | inl hnotMem => exact hnotMem mem_cons_self
              | inr hnot => exact hnot range ⟨hwanted, hhalved⟩
            have hframe := hothers other (hother.imp_left fun hnotMem hmem => hnotMem (mem_cons_of_mem _ hmem))
            rw [has_add, decide_eq_false hne, Bool.or_false, axisRange_setRange_of_ne _ _ hne] at hframe
            exact hframe
    · rw [if_neg hwanted] at h
      exact hskip (fun range hrange => hwanted hrange.1) h

lemma coarsenAxes_process {grid : Grid} {mask mask' : AxisMask} {next next' : Grid}
    (h : coarsenAxes grid minimumExtent wanted list mask next = some (mask', next')) :
    next'.patch.processGrid = next.patch.processGrid ∧ next'.patch.processCoord = next.patch.processCoord := by
  induction list generalizing mask next with
  | nil =>
    rw [coarsenAxes, some.injEq, Prod.mk.injEq] at h
    rw [h.2]
    exact ⟨rfl, rfl⟩
  | cons axis rest ih =>
    rw [coarsenAxes, coarsenAxis_eq] at h
    split_ifs at h with hwanted
    · cases hhalved : halved minimumExtent (axisRange grid axis) with
      | none =>
        rw [hhalved] at h
        exact nomatch h
      | some range =>
        rw [hhalved] at h
        cases range with
        | none => exact ih h
        | some range =>
          obtain ⟨hgrid, hcoord⟩ := ih h
          exact ⟨hgrid, hcoord⟩
    · exact ih h

lemma grid_ext {left right : Grid} (h : ∀ axis, axisRange left axis = axisRange right axis)
    (hgrid : left.patch.processGrid = right.patch.processGrid)
    (hcoord : left.patch.processCoord = right.patch.processCoord) : left = right := by
  obtain ⟨shape, begin_, cells, processGrid, processCoord⟩ := left
  have hshape := int3_ext fun axis => congrArg Prod.fst (h axis)
  have hbegin := int3_ext fun axis => congrArg (fun range => range.2.1) (h axis)
  have hcells := int3_ext fun axis => congrArg (fun range => range.2.2) (h axis)
  simp only at hshape hbegin hcells hgrid hcoord
  rw [hshape, hbegin, hcells, hgrid, hcoord]

variable {p : LevelPlan} {s : LevelState} {actual : AxisMask}

def localMask (p : LevelPlan) (s : LevelState) : AxisMask := ((ballot p s).map Prod.fst).getD .none

/-- The grid of a rank when the axes in `actual` are coarsened. -/
def votedGrid (p : LevelPlan) (s : LevelState) (actual : AxisMask) : Grid :=
  ((coarsenAxes s.grid p.minimumExtent actual axes .none s.grid).map Prod.snd).getD s.grid

lemma localMask_has (h : (ballot p s).isSome) (axis : Axis) :
    (localMask p s).has axis = true ↔ ∃ range, Halves s.grid p.minimumExtent p.preferredMask axis range := by
  obtain ⟨⟨mask, next⟩, hballot⟩ := isSome_iff_exists.mp h
  obtain ⟨hhalves, hothers⟩ := coarsenAxes_spec axes_nodup hballot
  rw [localMask, hballot, map_some, getD_some]
  constructor
  · intro hmask
    by_contra hnot
    have hframe := (hothers axis (.inr fun range hrange => hnot ⟨range, hrange⟩)).1
    rw [hmask, has_none] at hframe
    exact nomatch hframe
  · rintro ⟨range, hrange⟩
    exact (hhalves axis (mem_axes axis) range hrange).1

lemma nextGrid_eq (h : (ballot p s).isSome) (hactual : ∀ axis, actual.has axis = true → (localMask p s).has axis = true) :
    ∃ next, ballot p s = some (localMask p s, next) ∧
      nextGrid p s (localMask p s) actual next = some (votedGrid p s actual) ∧
      coarsenAxes s.grid p.minimumExtent actual axes .none s.grid = some (actual, votedGrid p s actual) := by
  obtain ⟨⟨mask, next⟩, hballot⟩ := isSome_iff_exists.mp h
  have hmask : localMask p s = mask := by rw [localMask, hballot]; rfl
  have hpasses : (coarsenAxes s.grid p.minimumExtent actual axes .none s.grid).isSome := by
    rw [coarsenAxes_isSome]
    intro axis _ hwanted
    obtain ⟨range, hrange⟩ := (localMask_has h axis).mp (hactual axis hwanted)
    rw [hrange.2]
    rfl
  obtain ⟨⟨mask', next'⟩, hloop⟩ := isSome_iff_exists.mp hpasses
  have hvoted : votedGrid p s actual = next' := by rw [votedGrid, hloop]; rfl
  obtain ⟨hhalves, hothers⟩ := coarsenAxes_spec axes_nodup hloop
  have hmask' : mask' = actual := by
    apply mask_ext
    intro axis
    by_cases hwanted : actual.has axis = true
    · obtain ⟨range, hrange⟩ := (localMask_has h axis).mp (hactual axis hwanted)
      rw [(hhalves axis (mem_axes axis) range ⟨hwanted, hrange.2⟩).1, hwanted]
    · rw [(hothers axis (.inr fun range hrange => hwanted hrange.1)).1, has_none, Bool.eq_false_of_not_eq_true hwanted]
  refine ⟨next, by rw [hballot, hmask], ?_, by rw [hloop, hmask', hvoted]⟩
  rw [nextGrid, hmask, hvoted]
  by_cases hsame : actual = mask
  · rw [if_neg (not_not.mpr hsame)]
    congr 1
    obtain ⟨hhalves', hothers'⟩ := coarsenAxes_spec axes_nodup hballot
    obtain ⟨hgrid, hcoord⟩ := coarsenAxes_process hballot
    obtain ⟨hgrid', hcoord'⟩ := coarsenAxes_process hloop
    refine grid_ext (fun axis => ?_) (hgrid.trans hgrid'.symm) (hcoord.trans hcoord'.symm)
    by_cases hvote : (localMask p s).has axis = true
    · obtain ⟨range, hrange⟩ := (localMask_has h axis).mp hvote
      have hwanted : actual.has axis = true := by rwa [hsame, ← hmask]
      rw [(hhalves' axis (mem_axes axis) range hrange).2, (hhalves axis (mem_axes axis) range ⟨hwanted, hrange.2⟩).2]
    · have hunwanted : ¬ actual.has axis = true := by rwa [hsame, ← hmask]
      have hnone : ∀ range, ¬ Halves s.grid p.minimumExtent p.preferredMask axis range :=
        fun range hrange => hvote ((localMask_has h axis).mpr ⟨range, hrange⟩)
      rw [(hothers' axis (.inr hnone)).2, (hothers axis (.inr fun range hrange => hunwanted hrange.1)).2]
  · rw [if_pos hsame, hloop]
    rfl

end HundunFlow.Proofs
