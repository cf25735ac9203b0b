import HundunFlow.Proofs.IccgSymmetry

/-!
# Grounding

What has a strictly dominant row is grounded, part by part. The parts of all ranks together are the
parts of the global matrix.
-/

namespace HundunFlow.Proofs

section Trees

open Lib EBTopology MgWorkspace IccgMatrix List Function

variable {𝕜 : Type} [Field 𝕜] [LinearOrder 𝕜] {input : IccgInput 𝕜} {r : Int3 → Int3} {state : Grounding} {G : Int3 → Prop}

/-- The trees have the roots `r`, and the root of a cell is grounded when `G` holds of the cell. -/
structure Tracks (input : IccgInput 𝕜) (r : Int3 → Int3) (state : Grounding) (G : Int3 → Prop) : Prop where
  forest : Forest (cellSet input) state.parent r
  grounded : ∀ cell ∈ input.cells, state.grounded (r cell) = true ↔ G cell

omit [Field 𝕜] [LinearOrder 𝕜] in
lemma Tracks.same (h : Tracks input r state G) {c d : Int3} (hc : c ∈ input.cells) (hd : d ∈ input.cells) (hcd : r c = r d) :
    G c ↔ G d := by
  rw [← h.grounded c hc, ← h.grounded d hd, hcd]

lemma markRoots_spec {scan : RowScan} (hforest : Forest (cellSet input) scan.parent r)
    (hground : ∀ cell, scan.grounded cell = true ↔ cell ∈ input.cells ∧ Strict input cell) :
    ∃ state, input.cells.foldlM input.markRoot scan.toGrounding = some state ∧
      Tracks input r state fun cell => ∃ d ∈ input.cells, r d = r cell ∧ Strict input d := by
  have hmarked := foldlM_rule (f := input.markRoot) (l := input.cells) (s := scan.toGrounding)
    (I := fun seen state => Forest (cellSet input) state.parent r ∧ ∀ cell, state.grounded cell = true ↔
      (cell ∈ input.cells ∧ Strict input cell) ∨ ∃ d ∈ seen, Strict input d ∧ r d = cell)
    ⟨hforest, fun cell => by simp [hground]⟩ ?_
  · obtain ⟨state, hfold, hend, hmarks⟩ := hmarked
    refine ⟨state, hfold, hend, fun cell hcell => ?_⟩
    rw [hmarks]
    constructor
    · rintro (⟨hroot, hstrict⟩ | ⟨d, hd, hstrict, hcell⟩)
      · exact ⟨r cell, hroot, hend.root_root (mem_cellSet.mpr hcell), hstrict⟩
      · exact ⟨d, hd, hcell, hstrict⟩
    · rintro ⟨d, hd, hsame, hstrict⟩
      exact .inr ⟨d, hd, hstrict, hsame⟩
  · rintro seen cell state hsub hcell ⟨hstate, hmarks⟩
    have hlater : ∀ c, (∃ d ∈ seen, Strict input d ∧ r d = c) →
        ∃ d ∈ seen ++ [cell], Strict input d ∧ r d = c := by
      rintro c ⟨d, hd, h⟩
      exact ⟨d, mem_append_left _ hd, h⟩
    rw [IccgInput.markRoot]
    by_cases hon : state.grounded cell = true
    · obtain ⟨parent, hsearch, hforest'⟩ := root_forest hstate hcell
      simp only [hon, if_true, hsearch]
      refine ⟨_, rfl, hforest', fun c => ?_⟩
      simp only [update_apply]
      by_cases hc : c = r cell
      · rw [if_pos hc]
        refine iff_of_true rfl (.inr ?_)
        rcases (hmarks cell).mp hon with ⟨-, hstrict⟩ | ⟨d, hd, hstrict, rfl⟩
        · exact ⟨cell, by simp, hstrict, hc.symm⟩
        · -- a root that was marked is marked again
          rw [hc, hstate.root_root (mem_cellSet.mpr (hsub hd))]
          exact hlater _ ⟨d, hd, hstrict, rfl⟩
      · rw [if_neg hc, hmarks]
        refine or_congr_right ⟨hlater c, ?_⟩
        rintro ⟨d, hd, h⟩
        rcases mem_append.mp hd with hold | hnew
        · exact ⟨d, hold, h⟩
        · rw [mem_singleton.mp hnew] at h
          exact absurd h.2.symm hc
    · simp only [hon]
      refine ⟨_, rfl, hstate, fun c => ?_⟩
      rw [hmarks]
      refine or_congr_right ⟨hlater c, ?_⟩
      rintro ⟨d, hd, h⟩
      rcases mem_append.mp hd with hold | hnew
      · exact ⟨d, hold, h⟩
      · rw [mem_singleton.mp hnew] at h
        exact absurd ((hmarks cell).mpr (.inl ⟨hcell, h.1⟩)) hon

omit [Field 𝕜] [LinearOrder 𝕜] in
lemma ungrounded_spec {l : List Int3} (hl : ∀ cell ∈ l, cell ∈ input.cells) (h : Tracks input r state G) :
    ∃ missing state', input.ungrounded l state = some (missing, state') ∧ Tracks input r state' G ∧
      (missing = 0 ↔ ∀ cell ∈ l, G cell) := by
  induction l generalizing state with
  | nil => exact ⟨0, state, rfl, h, by simp⟩
  | cons cell l ih =>
    have hcell := hl cell mem_cons_self
    obtain ⟨parent, hsearch, hforest⟩ := root_forest h.forest hcell
    rw [IccgInput.ungrounded, hsearch]
    by_cases hon : state.grounded (r cell) = true
    · have hsearched : Tracks input r { state with parent := parent } G := ⟨hforest, h.grounded⟩
      obtain ⟨missing, state', hrest, htracks, hmissing⟩ := ih (fun c hc => hl c (mem_cons_of_mem cell hc)) hsearched
      simp only [hon, if_true, hrest]
      refine ⟨missing, state', rfl, htracks, hmissing.trans ?_⟩
      rw [forall_mem_cons, and_iff_right ((h.grounded cell hcell).mp hon)]
    · simp only [hon]
      refine ⟨1, _, rfl, ⟨hforest, h.grounded⟩, iff_of_false one_ne_zero fun hall => ?_⟩
      exact hon ((h.grounded cell hcell).mpr (hall cell mem_cons_self))

omit [LinearOrder 𝕜] in
lemma showGrounded_spec (h : Tracks input r state G) (scratch : Int3 → 𝕜) :
    ∃ shown : Grounding × (Int3 → 𝕜), input.cells.foldlM input.showGrounded (state, scratch) = some shown ∧ Tracks input r shown.1 G ∧
      ∀ cell ∈ input.cells, (G cell → shown.2 cell = 1) ∧ (¬ G cell → shown.2 cell = 0) := by
  refine foldlM_rule (I := fun seen (shown : Grounding × (Int3 → 𝕜)) => Tracks input r shown.1 G ∧
    ∀ cell ∈ seen, (G cell → shown.2 cell = 1) ∧ (¬ G cell → shown.2 cell = 0)) ⟨h, by simp⟩ ?_
  rintro seen cell ⟨current, field⟩ - hcell ⟨htracks, hseen⟩
  obtain ⟨parent, hsearch, hforest⟩ := root_forest htracks.forest hcell
  simp only [IccgInput.showGrounded, hsearch]
  refine ⟨_, rfl, ⟨hforest, htracks.grounded⟩, fun c hc => ?_⟩
  simp only [update_apply]
  by_cases heq : c = cell
  · subst heq
    rw [if_pos rfl]
    have hground := htracks.grounded c hcell
    exact ⟨fun hG => if_pos (hground.mpr hG), fun hG => if_neg fun hon => hG (hground.mp hon)⟩
  · rw [if_neg heq]
    rcases mem_append.mp hc with hold | hnew
    · exact hseen c hold
    · exact absurd (mem_singleton.mp hnew) heq

lemma seesGrounded_iff {scratch : Int3 → 𝕜} {cell : Int3} : input.seesGrounded scratch cell = true ↔
    ∃ f, 0 < (input.rows cell).neighbour f ∧ scratch (addIndex cell (directionDelta f)) = 1 := by
  simp [IccgInput.seesGrounded, any_eq_true]

lemma groundCells_spec (h : Tracks input r state G) (scratch : Int3 → 𝕜) :
    ∃ next : Grounding × ℕ, input.cells.foldlM (input.groundCell scratch) (state, 0) = some next ∧
      Tracks input r next.1 (fun cell => G cell ∨ ∃ d ∈ input.cells, r d = r cell ∧ input.seesGrounded scratch d = true) ∧
      (next.2 = 0 ↔ ∀ d ∈ input.cells, input.seesGrounded scratch d = true → G d) := by
  refine foldlM_rule (I := fun seen (next : Grounding × ℕ) =>
    Tracks input r next.1 (fun cell => G cell ∨ ∃ d ∈ seen, r d = r cell ∧ input.seesGrounded scratch d = true) ∧
      (next.2 = 0 ↔ ∀ d ∈ seen, input.seesGrounded scratch d = true → G d)) ?_ ?_
  · exact ⟨⟨h.forest, fun cell hcell => by simp [h.grounded cell hcell]⟩, by simp⟩
  · rintro seen cell ⟨current, changed⟩ hsub hcell ⟨htracks, hchanged⟩
    obtain ⟨parent, hsearch, hforest⟩ := root_forest htracks.forest hcell
    have hown := htracks.grounded cell hcell
    -- the parts when nothing is marked for this cell
    have hkeep : (input.seesGrounded scratch cell = true → current.grounded (r cell) = true) → ∀ c ∈ input.cells,
        (current.grounded (r c) = true ↔
          G c ∨ ∃ d ∈ seen ++ [cell], r d = r c ∧ input.seesGrounded scratch d = true) := by
      intro hsees c hc
      constructor
      · intro hon
        rcases (htracks.grounded c hc).mp hon with hG | ⟨d, hd, h⟩
        · exact .inl hG
        · exact .inr ⟨d, mem_append_left _ hd, h⟩
      · rintro (hG | ⟨d, hd, hsame, hd'⟩)
        · exact (htracks.grounded c hc).mpr (.inl hG)
        · rcases mem_append.mp hd with hold | hnew
          · exact (htracks.grounded c hc).mpr (.inr ⟨d, hold, hsame, hd'⟩)
          · rw [mem_singleton.mp hnew] at hsame hd'
            rw [← hsame]
            exact hsees hd'
    simp only [IccgInput.groundCell, hsearch]
    by_cases hon : current.grounded (r cell) = true
    · simp only [hon, if_true]
      refine ⟨_, rfl, ⟨hforest, hkeep fun _ => hon⟩, ?_⟩
      rw [hchanged, forall_mem_append, forall_mem_singleton]
      refine ⟨fun hall => ⟨hall, fun _ => ?_⟩, And.left⟩
      rcases hown.mp hon with hG | ⟨d, hd, hsame, hsees⟩
      · exact hG
      · exact (h.same (hsub hd) hcell hsame).mp (hall d hd hsees)
    · simp only [hon]
      by_cases hsees : input.seesGrounded scratch cell = true
      · simp only [hsees, if_true]
        refine ⟨_, rfl, ⟨hforest, fun c hc => ?_⟩, ?_⟩
        · simp only [update_apply]
          by_cases hsame : r c = r cell
          · rw [if_pos hsame]
            exact iff_of_true rfl (.inr ⟨cell, by simp, hsame.symm, hsees⟩)
          · rw [if_neg hsame, htracks.grounded c hc]
            refine or_congr_right ⟨fun ⟨d, hd, h⟩ => ⟨d, mem_append_left _ hd, h⟩, ?_⟩
            rintro ⟨d, hd, h⟩
            rcases mem_append.mp hd with hold | hnew
            · exact ⟨d, hold, h⟩
            · rw [mem_singleton.mp hnew] at h
              exact absurd h.1.symm hsame
        · refine iff_of_false one_ne_zero fun hall => ?_
          exact hon (hown.mpr (.inl (hall cell (by simp) hsees)))
      · simp only [hsees]
        refine ⟨_, rfl, ⟨hforest, hkeep fun h => absurd h hsees⟩, ?_⟩
        rw [hchanged, forall_mem_append, forall_mem_singleton]
        exact ⟨fun hall => ⟨hall, fun h => absurd h hsees⟩, And.left⟩

end Trees

open Lib EBTopology MgWorkspace IccgMatrix

section Parts

variable {𝕜 : Type} [Field 𝕜] [LinearOrder 𝕜] {n : ℕ}

def CoupledInPatch (patch : Fin n → MeshPatch) (rows : Int3 → ColdPressureRow 𝕜) (c d : Int3) : Prop :=
  ∃ i f, Contains (patch i) c ∧ Contains (patch i) d ∧ 0 < (rows c).neighbour f ∧ d = addIndex c (directionDelta f)

def SamePart (patch : Fin n → MeshPatch) (rows : Int3 → ColdPressureRow 𝕜) : Int3 → Int3 → Prop :=
  Relation.EqvGen (CoupledInPatch patch rows)

/-- The cells whose part is reached in `k` steps from a part with a strictly dominant row. -/
def reached (patch : Fin n → MeshPatch) (globalCells : Int3) (rows : Int3 → ColdPressureRow 𝕜) : ℕ → Int3 → Prop
  | 0, cell => ∃ d, SamePart patch rows d cell ∧ StrictRow rows d
  | k + 1, cell => reached patch globalCells rows k cell ∨
      ∃ d, SamePart patch rows d cell ∧ ∃ f, 0 < (rows d).neighbour f ∧ reached patch globalCells rows k (besideCell globalCells d f)

variable {globalCells : Int3} {periodic : Axis → Bool} {rows : Int3 → ColdPressureRow 𝕜} {input : Fin n → IccgInput 𝕜}
  (job : IccgJob globalCells periodic rows input)

include job

lemma IccgJob.samePart_contains {c d : Int3} (h : SamePart (fun i => (input i).patch) rows c d) (i : Fin n) :
    Contains (input i).patch c ↔ Contains (input i).patch d := by
  have hagree := eq_of_eqvGen (f := fun c => Contains (input i).patch c) (fun a b hab => ?_) h
  · exact iff_of_eq hagree
  · obtain ⟨j, f, ha, hb, -, -⟩ := hab
    refine propext ⟨fun hi => ?_, fun hi => ?_⟩
    · rwa [job.partition.unique (show a ∈ {cell | Contains (input i).patch cell} from hi) ha]
    · rwa [job.partition.unique (show b ∈ {cell | Contains (input i).patch cell} from hi) hb]

lemma IccgJob.joined_iff (hequal : OppositesEqual globalCells periodic rows) {i : Fin n} {c d : Int3} (hc : c ∈ (input i).cells) :
    Relation.EqvGen (Joined (input i)) c d ↔
      SamePart (fun i => (input i).patch) rows (addIndex (input i).patch.begin c) (addIndex (input i).patch.begin d) := by
  constructor
  · intro h
    clear hc
    induction h with
    | rel a b hab =>
      obtain ⟨ha, f, hf, rfl⟩ := hab
      have hb := joins_mem ha hf
      simp only [IccgInput.joins, Bool.and_eq_true, decide_eq_true_eq] at hf
      have hpos := hf.1.1.1.2
      rw [job.rows_eq] at hpos
      exact .rel _ _ ⟨i, f, mem_cells.mp ha, mem_cells.mp hb, hpos, (addIndex_assoc ..).symm⟩
    | refl => exact .refl _
    | symm _ _ _ ih => exact ih.symm _ _
    | trans _ _ _ _ _ ih₁ ih₂ => exact ih₁.trans _ _ _ ih₂
  · intro h
    have hlocal : ∀ g e, SamePart (fun i => (input i).patch) rows g e → Contains (input i).patch g →
        Relation.EqvGen (Joined (input i)) (subIndex g (input i).patch.begin) (subIndex e (input i).patch.begin) := by
      intro g e hge
      induction hge with
      | rel g e hstep =>
        intro hg
        obtain ⟨j, f, hgj, hej, hpos, rfl⟩ := hstep
        obtain rfl := job.partition.unique (show g ∈ {cell | Contains (input i).patch cell} from hg) hgj
        have hedge : ∀ {a : Int3} {f : Fin 6}, f.val % 2 = 1 → Contains (input i).patch a → 0 < (rows a).neighbour f →
            Contains (input i).patch (addIndex a (directionDelta f)) → Joined (input i) (subIndex a (input i).patch.begin)
              (subIndex (addIndex a (directionDelta f)) (input i).patch.begin) := by
          intro a f hupper ha hpos hb
          have hmem : subIndex a (input i).patch.begin ∈ (input i).cells := by rwa [mem_cells, addIndex_subIndex]
          have hbeside : addIndex (subIndex a (input i).patch.begin) (directionDelta f) =
              subIndex (addIndex a (directionDelta f)) (input i).patch.begin := by
            apply int3_ext
            intro axis
            simp only [component_addIndex, component_subIndex]
            omega
          refine ⟨hmem, f, ?_, hbeside.symm⟩
          have hmem' : subIndex (addIndex a (directionDelta f)) (input i).patch.begin ∈ (input i).cells := by
            rwa [mem_cells, addIndex_subIndex]
          obtain ⟨⟨-, hx⟩, ⟨-, hy⟩, -, hz⟩ := mem_boxIndices_iff.mp hmem'
          simp only [IccgInput.joins, Bool.and_eq_true, decide_eq_true_eq, hbeside, job.rows_eq, addIndex_subIndex]
          exact ⟨⟨⟨⟨hupper, hpos⟩, hx⟩, hy⟩, hz⟩
        rcases upper_or_opposite f with hupper | hupper
        · exact .rel _ _ (hedge hupper hg hpos hej)
        · -- the scan joins the two from the other side
          have hbox := job.inBox hg
          have hinside := job.inBox hej
          have hopp := hequal g hbox f (.inr hinside)
          have hback := besideCell_back (f := f) hbox
          rw [besideCell_of_inBox hinside] at hopp hback
          rw [← hopp] at hpos
          have hreturn : addIndex (addIndex g (directionDelta f)) (directionDelta (oppositeFace f)) = g := by
            apply int3_ext
            intro axis
            rw [component_addIndex, component_addIndex, component_directionDelta_oppositeFace, add_neg_cancel_right]
          have hjoined := hedge hupper hej hpos (by rwa [hreturn])
          rw [hreturn] at hjoined
          exact .symm _ _ (.rel _ _ hjoined)
      | refl => exact fun _ => .refl _
      | symm a b hab ih => exact fun hb => (ih ((job.samePart_contains hab i).mpr hb)).symm _ _
      | trans a b c hab hbc ih₁ ih₂ => exact fun ha => (ih₁ ha).trans _ _ _ (ih₂ ((job.samePart_contains hab i).mp ha))
    have hgen := hlocal _ _ h (mem_cells.mp hc)
    rwa [subIndex_addIndex, subIndex_addIndex] at hgen

lemma IccgJob.part_iff (hequal : OppositesEqual globalCells periodic rows) {i : Fin n} {r : Int3 → Int3}
    (hroots : SameRoot (cellSet (input i)) r (Joined (input i))) {P : Int3 → Prop} {cell : Int3} (hcell : cell ∈ (input i).cells) :
    (∃ d ∈ (input i).cells, r d = r cell ∧ P (addIndex (input i).patch.begin d)) ↔
      ∃ d, SamePart (fun i => (input i).patch) rows d (addIndex (input i).patch.begin cell) ∧ P d := by
  constructor
  · rintro ⟨d, hd, hsame, hP⟩
    have hgen := (hroots d (mem_cellSet.mpr hd) cell (mem_cellSet.mpr hcell)).mp hsame
    exact ⟨_, (job.joined_iff hequal hd).mp hgen, hP⟩
  · rintro ⟨d, hpart, hP⟩
    have hin := (job.samePart_contains hpart i).mpr (mem_cells.mp hcell)
    have hmem : subIndex d (input i).patch.begin ∈ (input i).cells := by rwa [mem_cells, addIndex_subIndex]
    refine ⟨_, hmem, ?_, by rwa [addIndex_subIndex]⟩
    apply (hroots _ (mem_cellSet.mpr hmem) cell (mem_cellSet.mpr hcell)).mpr
    rw [job.joined_iff hequal hmem, addIndex_subIndex]
    exact hpart

end Parts

lemma rankMax_eq_zero_iff {n : ℕ} (hn : 0 < n) (v : Fin n → ℕ) : rankMax hn v = 0 ↔ ∀ i, v i = 0 := by
  constructor
  · intro h i
    have hle := le_rankMax hn v i
    omega
  · intro h
    have : Nonempty (Fin n) := ⟨⟨0, hn⟩⟩
    exact Nat.le_zero.mp (Finset.sup'_le _ _ fun i _ => (h i).le)

variable {𝕜 : Type} [Field 𝕜] [LinearOrder 𝕜] {n : ℕ} (hn : 0 < n) {globalCells : Int3} {periodic : Axis → Bool}
  {rows : Int3 → ColdPressureRow 𝕜} {input : Fin n → IccgInput 𝕜} {exchange : (Fin n → Int3 → 𝕜) → Fin n → Status × (Int3 → 𝕜)}

/-- The end of the loop on all ranks: a report that certifies the matrix under `P`, and a failure otherwise. -/
def Settled (outcome : Stage (Status × IccgMatrixAdmissionReport) IccgMatrixAdmissionReport) (P : Prop) : Prop :=
  (P → ∃ report : IccgMatrixAdmissionReport, report.spd = true ∧ outcome = .ok report) ∧
    (¬ P → ∃ e, Uncertified e ∧ outcome = .failed e)

/-- The state of all ranks after `k` exchanges. -/
def SpreadTo (input : Fin n → IccgInput 𝕜) (globalCells : Int3) (rows : Int3 → ColdPressureRow 𝕜) (r : Fin n → Int3 → Int3) (k : ℕ)
    (state : Fin n → Grounding) : Prop :=
  ∀ i, Tracks (input i) (r i) (state i) fun cell =>
    reached (fun i => (input i).patch) globalCells rows k (addIndex (input i).patch.begin cell)

/-- Every cell is reached in `k` steps. -/
def AllReached (patch : Fin n → MeshPatch) (globalCells : Int3) (rows : Int3 → ColdPressureRow 𝕜) (k : ℕ) : Prop :=
  ∀ cell, InBox globalCells cell → reached patch globalCells rows k cell

variable {patch : Fin n → MeshPatch} {cell : Int3} {k : ℕ} {P : Int3 → Prop} {state : Fin n → Grounding}

lemma reached_mono {m : ℕ} (h : k ≤ m) (hcell : reached patch globalCells rows k cell) :
    reached patch globalCells rows m cell := by
  induction h with
  | refl => exact hcell
  | step _ ih => exact .inl ih

lemma reached_samePart {c d : Int3} (hpart : SamePart patch rows c d)
    (h : reached patch globalCells rows k c) : reached patch globalCells rows k d := by
  induction k with
  | zero =>
    obtain ⟨e, he, hstrict⟩ := h
    exact ⟨e, he.trans _ _ _ hpart, hstrict⟩
  | succ k ih =>
    rcases h with h | ⟨e, he, h⟩
    · exact .inl (ih h)
    · exact .inr ⟨e, he.trans _ _ _ hpart, h⟩

variable (job : IccgJob globalCells periodic rows input)

include job

omit [Field 𝕜] [LinearOrder 𝕜] in
lemma IccgJob.forall_cells_iff :
    (∀ i, ∀ cell ∈ (input i).cells, P (addIndex (input i).patch.begin cell)) ↔ ∀ cell, InBox globalCells cell → P cell := by
  constructor
  · intro h cell hcell
    obtain ⟨i, hi⟩ := job.exists_owner hcell
    have hmem : subIndex cell (input i).patch.begin ∈ (input i).cells := by rwa [mem_cells, addIndex_subIndex]
    have hown := h i _ hmem
    rwa [addIndex_subIndex] at hown
  · intro h i cell hcell
    exact h _ (job.inBox (mem_cells.mp hcell))

omit [Field 𝕜] [LinearOrder 𝕜] in
lemma IccgJob.rankMax_missing (signal : Fin n → ℕ)
    (h : ∀ i, signal i = 0 ↔ ∀ cell ∈ (input i).cells, P (addIndex (input i).patch.begin cell)) :
    rankMax hn signal = 0 ↔ ∀ cell, InBox globalCells cell → P cell := by
  rw [rankMax_eq_zero_iff, ← job.forall_cells_iff]
  exact forall_congr' h

lemma IccgJob.reached_stops (hclosed : ∀ d, InBox globalCells d → ∀ f, 0 < (rows d).neighbour f →
      reached (fun i => (input i).patch) globalCells rows k (besideCell globalCells d f) →
      reached (fun i => (input i).patch) globalCells rows k d) {m : ℕ} (hcell : InBox globalCells cell)
    (h : reached (fun i => (input i).patch) globalCells rows m cell) :
    reached (fun i => (input i).patch) globalCells rows k cell := by
  induction m generalizing cell with
  | zero => exact reached_mono (Nat.zero_le k) h
  | succ m ih =>
    rcases h with h | ⟨d, hpart, f, hpos, h⟩
    · exact ih hcell h
    · obtain ⟨i, hi⟩ := job.exists_owner hcell
      have hd := job.inBox ((job.samePart_contains hpart i).mpr hi)
      exact reached_samePart hpart (hclosed d hd f hpos (ih (besideCell_inBox hd) h))

variable (hexchange : CopiesFaces globalCells periodic (fun i => (input i).patch) exchange)
  (hfine : ∀ cell, InBox globalCells cell → GlobalRowFine globalCells periodic rows cell)
  (hequal : OppositesEqual globalCells periodic rows) {r : Fin n → Int3 → Int3}
  (hroots : ∀ i, SameRoot (cellSet (input i)) (r i) (Joined (input i)))

include hexchange hfine

lemma IccgJob.seesGrounded_iff {G : Int3 → Prop} {fields : Fin n → Int3 → 𝕜}
    (hfields : ∀ j, ∀ cell ∈ (input j).cells, (G (addIndex (input j).patch.begin cell) → fields j cell = 1) ∧
      (¬ G (addIndex (input j).patch.begin cell) → fields j cell = 0)) {i : Fin n} (hcell : cell ∈ (input i).cells) :
    (input i).seesGrounded (exchange fields i).2 cell = true ↔
      ∃ f, 0 < (rows (addIndex (input i).patch.begin cell)).neighbour f ∧
        G (besideCell globalCells (addIndex (input i).patch.begin cell) f) := by
  classical
  rw [Proofs.seesGrounded_iff]
  apply exists_congr
  intro f
  rw [job.rows_eq]
  refine and_congr_right fun hpos => ?_
  have hbox := job.inBox (mem_cells.mp hcell)
  have hshared : SharesFace globalCells periodic (addIndex (input i).patch.begin cell) f := by
    by_contra hnot
    rw [(hfine _ hbox).outer f hnot] at hpos
    exact lt_irrefl _ hpos
  have hvalue : ∀ j, ∀ cell ∈ (input j).cells,
      fields j cell = (fun c => if G c then (1 : 𝕜) else 0) (addIndex (input j).patch.begin cell) := by
    intro j c hc
    by_cases hG : G (addIndex (input j).patch.begin c)
    · simp only [hG, if_true, (hfields j c hc).1 hG]
    · simp only [hG, if_false, (hfields j c hc).2 hG]
  rw [job.shown hexchange (fun c => if G c then (1 : 𝕜) else 0) hvalue hcell hshared]
  constructor
  · intro h
    by_contra hnot
    rw [if_neg hnot] at h
    exact zero_ne_one h
  · intro h
    exact if_pos h

include hequal hroots

lemma IccgJob.spread_step (h : SpreadTo input globalCells rows r k state)
    (scratch : Fin n → Int3 → 𝕜) : ∃ (shown : Fin n → Grounding × (Int3 → 𝕜)) (next : Fin n → Grounding × ℕ)
      (missing : Fin n → ℕ) (state' : Fin n → Grounding),
      (∀ i, (input i).cells.foldlM (input i).showGrounded (state i, (input i).clearGhosts (scratch i)) = some (shown i)) ∧
      (∀ i, (input i).cells.foldlM ((input i).groundCell (exchange (fun i => (shown i).2) i).2) ((shown i).1, 0) = some (next i)) ∧
      (∀ i, (input i).ungrounded (input i).cells (next i).1 = some (missing i, state' i)) ∧
      SpreadTo input globalCells rows r (k + 1) state' ∧
      (rankMax hn missing = 0 ↔ AllReached (fun i => (input i).patch) globalCells rows (k + 1)) ∧
      (rankMax hn (fun i => (next i).2) = 0 → ∀ d, InBox globalCells d → ∀ f, 0 < (rows d).neighbour f →
        reached (fun i => (input i).patch) globalCells rows k (besideCell globalCells d f) →
        reached (fun i => (input i).patch) globalCells rows k d) := by
  have hshow := fun i => showGrounded_spec (h i) ((input i).clearGhosts (scratch i))
  choose shown hshown htracks hfields using hshow
  have hground := fun i => groundCells_spec (htracks i) (exchange (fun i => (shown i).2) i).2
  choose next hnext hgrounded hchanged using hground
  have hsees : ∀ i, ∀ cell ∈ (input i).cells, ((input i).seesGrounded (exchange (fun i => (shown i).2) i).2 cell = true ↔ _) :=
    fun i cell hcell => job.seesGrounded_iff hexchange hfine
      (G := reached (fun i => (input i).patch) globalCells rows k) hfields hcell
  have hspread : ∀ i, Tracks (input i) (r i) (next i).1 fun cell =>
      reached (fun i => (input i).patch) globalCells rows (k + 1) (addIndex (input i).patch.begin cell) := by
    intro i
    refine ⟨(hgrounded i).forest, fun cell hcell => ((hgrounded i).grounded cell hcell).trans (or_congr_right ?_)⟩
    rw [← job.part_iff hequal (hroots i) (P := fun d => ∃ f, 0 < (rows d).neighbour f ∧
      reached (fun i => (input i).patch) globalCells rows k (besideCell globalCells d f)) hcell]
    refine exists_congr fun d => and_congr_right fun hd => and_congr_right fun _ => hsees i d hd
  have hmissing := fun i => ungrounded_spec (fun cell h => h) (hspread i)
  choose missing state' hfree hfinal hsignal using hmissing
  refine ⟨shown, next, missing, state', hshown, hnext, hfree, hfinal, job.rankMax_missing hn missing hsignal, ?_⟩
  intro hzero d hd f hpos hbeside
  have hclosed := (job.rankMax_missing hn (P := fun d => (∃ f, 0 < (rows d).neighbour f ∧
    reached (fun i => (input i).patch) globalCells rows k (besideCell globalCells d f)) →
      reached (fun i => (input i).patch) globalCells rows k d) (fun i => (next i).2) ?_).mp hzero
  · exact hclosed d hd ⟨f, hpos, hbeside⟩
  · intro i
    refine (hchanged i).trans (forall_congr' fun cell => forall_congr' fun hcell => ?_)
    rw [hsees i cell hcell]

lemma IccgJob.groundingLoop_spec (remaining exchanges : ℕ) {globalMissing : ℕ} (scratch : Fin n → Int3 → 𝕜)
    (hleft : 0 < remaining) (hsum : exchanges + remaining = maxU32)
    (h : SpreadTo input globalCells rows r exchanges state)
    (hmissing : globalMissing = 0 ↔ AllReached (fun i => (input i).patch) globalCells rows exchanges) :
    ∃ t outcome, (admissionNetwork hn exchange).Run
        (fun i => (input i).groundingLoop remaining exchanges globalMissing (state i) (scratch i)) t (fun _ => outcome) ∧
      Settled outcome (∃ k, exchanges ≤ k ∧ k < maxU32 ∧ AllReached (fun i => (input i).patch) globalCells rows k) := by
  induction remaining generalizing exchanges globalMissing state scratch with
  | zero => omega
  | succ remaining ih =>
    simp only [IccgInput.groundingLoop]
    by_cases hdone : globalMissing = 0
    · simp only [hdone, if_true]
      refine ⟨[], .ok ⟨exchanges, true⟩, .done _, fun _ => ⟨_, rfl, rfl⟩, fun hnot => ?_⟩
      exact absurd ⟨exchanges, le_refl _, by omega, hmissing.mp hdone⟩ hnot
    · simp only [hdone, if_false]
      obtain ⟨shown, next, missing, state', hshown, hnext, hfree, hspread, hall, hclosed⟩ :=
        job.spread_step hn hexchange hfine hequal hroots h scratch
      simp only [hshown]
      have hexch := run_exchanged hn hexchange.succeeds ⟨exchanges, false⟩ fun i => (shown i).2
      have hnotyet : ¬ AllReached (fun i => (input i).patch) globalCells rows exchanges := fun hnow => hdone (hmissing.mpr hnow)
      have hmaxima := run_checkedMax hn exchange ⟨exchanges + 1, false⟩
        (fun i => [missing i, (next i).2]) 2 fun _ => rfl
      have hrest : ∃ t outcome, (admissionNetwork hn exchange).Run (fun i =>
          if rankMax hn missing ≠ 0 ∧ rankMax hn (fun i => (next i).2) = 0 then
            .done (.failed (IccgMatrix.invalid 17872, ⟨exchanges + 1, false⟩))
          else if exchanges + 1 = maxU32 then .done (.failed (IccgMatrix.invalid 17872, ⟨exchanges + 1, false⟩))
          else (input i).groundingLoop remaining (exchanges + 1) (rankMax hn missing) (state' i)
            (exchange (fun i => (shown i).2) i).2) t (fun _ => outcome) ∧
          Settled outcome (∃ k, exchanges ≤ k ∧ k < maxU32 ∧ AllReached (fun i => (input i).patch) globalCells rows k) := by
        by_cases hstuck : rankMax hn missing ≠ 0 ∧ rankMax hn (fun i => (next i).2) = 0
        · simp only [if_pos hstuck]
          refine ⟨[], _, .done _, fun hP => ?_, fun _ => ⟨_, ⟨rfl, rfl⟩, rfl⟩⟩
          obtain ⟨k, -, -, hk⟩ := hP
          exact absurd (fun cell hcell => job.reached_stops (hclosed hstuck.2) hcell (hk cell hcell)) hnotyet
        · simp only [if_neg hstuck]
          by_cases hlast : exchanges + 1 = maxU32
          · simp only [hlast, if_true]
            refine ⟨[], _, .done _, fun hP => ?_, fun _ => ⟨_, ⟨rfl, rfl⟩, rfl⟩⟩
            obtain ⟨k, hle, hlt, hk⟩ := hP
            obtain rfl : k = exchanges := by omega
            exact absurd hk hnotyet
          · simp only [hlast, if_false]
            obtain ⟨t, outcome, hrun, hsettled⟩ := ih (exchanges + 1) _ (by omega) (by omega) hspread hall
            refine ⟨t, outcome, hrun, ?_⟩
            have hsame : (∃ k, exchanges + 1 ≤ k ∧ k < maxU32 ∧ AllReached (fun i => (input i).patch) globalCells rows k) ↔
                ∃ k, exchanges ≤ k ∧ k < maxU32 ∧ AllReached (fun i => (input i).patch) globalCells rows k := by
              constructor
              · rintro ⟨k, hle, h⟩
                exact ⟨k, by omega, h⟩
              · rintro ⟨k, hle, hlt, hk⟩
                refine ⟨k, ?_, hlt, hk⟩
                rcases hle.eq_or_lt with rfl | hlt'
                · exact absurd hk hnotyet
                · exact hlt'
            rwa [hsame] at hsettled
      obtain ⟨t, outcome, hrun, hsettled⟩ := hrest
      refine ⟨[.exchange, .consensus] ++ ([.checkedMax 2] ++ t), outcome, hexch.andThen_ok ?_, hsettled⟩
      simp only [hnext, hfree]
      exact hmaxima.andThen_ok hrun

end HundunFlow.Proofs
