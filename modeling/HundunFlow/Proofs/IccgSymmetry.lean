import HundunFlow.Proofs.IccgFaces

/-!
# The check of opposite coefficients

The ranks meet in the same collectives.
-/

namespace HundunFlow.Proofs

open Lib EBTopology MgWorkspace IccgMatrix List

section Collectives

variable {𝕜 : Type} [Zero 𝕜] {n : ℕ} (hn : 0 < n) {exchange : (Fin n → Int3 → 𝕜) → Fin n → Status × (Int3 → 𝕜)}

def Uncertified (e : Status × IccgMatrixAdmissionReport) : Prop := e.1.isOk = false ∧ e.2.spd = false

lemma together_consensus {report : IccgMatrixAdmissionReport} (hreport : report.spd = false) (s : Fin n → Status) :
    Network.Together (admissionNetwork hn exchange) (fun i => IccgMatrix.consensus report (s i))
      (∀ i, (s i).isOk = true) Uncertified fun _ => () := by
  have hrun : (admissionNetwork hn exchange).Run (fun i => IccgMatrix.consensus report (s i)) [.consensus]
      fun _ => if (agreed s).1.isOk then .ok () else .failed ((agreed s).1, report) :=
    .call _ _ _ _ _ (fun _ => rfl) (.done _)
  refine ⟨_, _, hrun, fun hok => ?_, fun hnot => ?_⟩
  · rw [if_pos (agreed_isOk_iff.mpr hok)]
  · have hbad : ¬ (agreed s).1.isOk = true := fun h => hnot (agreed_isOk_iff.mp h)
    exact ⟨((agreed s).1, report), ⟨Bool.not_eq_true _ ▸ hbad, hreport⟩, by rw [if_neg hbad]⟩

lemma run_checkedMax (exchange : (Fin n → Int3 → 𝕜) → Fin n → Status × (Int3 → 𝕜)) (report : IccgMatrixAdmissionReport)
    (values : Fin n → List ℕ) (count : ℕ)
    (hcount : ∀ i, (values i).length = count) :
    (admissionNetwork hn exchange).Run (fun i => checkedMax report (values i)) [.checkedMax count]
      fun _ => .ok ((range count).map fun k => rankMax hn fun j => (values j).getD k 0) := by
  refine .call _ _ _ _ _ (fun i => by simp [admissionNetwork, AdmissionRequest.signature, hcount i]) ?_
  simp only [admissionNetwork, hcount]
  exact .done _

lemma run_exchanged (hsucceeds : ∀ fields i, (exchange fields i).1.isOk = true) (report : IccgMatrixAdmissionReport)
    (fields : Fin n → Int3 → 𝕜) :
    (admissionNetwork hn exchange).Run (fun i => exchanged report (fields i)) [.exchange, .consensus]
      fun i => .ok (exchange fields i).2 := by
  refine .call _ _ _ _ _ (fun _ => rfl) ?_
  have hagreed : (agreed fun j => (exchange fields j).1).1.isOk = true := agreed_isOk_iff.mpr (hsucceeds fields)
  have hrun : (admissionNetwork hn exchange).Run (fun i => IccgMatrix.consensus report (exchange fields i).1) [.consensus]
      fun _ => .ok () := by
    refine .call _ _ _ _ _ (fun _ => rfl) ?_
    simp only [admissionNetwork, AdmissionRequest.status, hagreed, if_true]
    exact .done _
  exact Network.Run.andThen_ok hrun (.done _)

end Collectives

lemma foldl_update {α β : Type} [DecidableEq α] (value : α → β) (l : List α) (start : α → β) (a : α) :
    l.foldl (fun s b => Function.update s b (value b)) start a = if a ∈ l then value a else start a := by
  induction l generalizing start with
  | nil => simp
  | cons b l ih =>
    rw [foldl_cons, ih, Function.update_apply]
    by_cases hl : a ∈ l
    · rw [if_pos hl, if_pos (mem_cons_of_mem b hl)]
    · rw [if_neg hl]
      by_cases hb : a = b
      · rw [if_pos hb, if_pos (by rw [hb]; exact mem_cons_self), hb]
      · rw [if_neg hb, if_neg (by simp [hb, hl])]

lemma addIndex_directionDelta_cases (cell : Int3) (f : Fin 6) :
    ((addIndex cell (directionDelta f)).x = cell.x + -1 ∨ (addIndex cell (directionDelta f)).x = cell.x + 1) ∧
        (addIndex cell (directionDelta f)).y = cell.y ∧ (addIndex cell (directionDelta f)).z = cell.z ∨
      (addIndex cell (directionDelta f)).x = cell.x ∧ ((addIndex cell (directionDelta f)).y = cell.y + -1 ∨
        (addIndex cell (directionDelta f)).y = cell.y + 1) ∧ (addIndex cell (directionDelta f)).z = cell.z ∨
      (addIndex cell (directionDelta f)).x = cell.x ∧ (addIndex cell (directionDelta f)).y = cell.y ∧
        ((addIndex cell (directionDelta f)).z = cell.z + -1 ∨ (addIndex cell (directionDelta f)).z = cell.z + 1) := by
  fin_cases f <;> simp [addIndex, directionDelta]

lemma mem_boxIndices_iff {count index : Int3} : index ∈ boxIndices count ↔ InBox count index := by
  rw [mem_boxIndices, inBox_iff_axes]

lemma faceGhost_of_face {𝕜 : Type} {input : IccgInput 𝕜} {cell : Int3} {f : Fin 6} (hcell : cell ∈ input.cells)
    (hout : addIndex cell (directionDelta f) ∉ input.cells) : input.faceGhost (addIndex cell (directionDelta f)) = true := by
  obtain ⟨hx, hy, hz⟩ := mem_boxIndices_iff.mp hcell
  have hnot : ¬ InBox input.patch.cells (addIndex cell (directionDelta f)) := fun h => hout (mem_boxIndices_iff.mpr h)
  have hcases := addIndex_directionDelta_cases cell f
  generalize addIndex cell (directionDelta f) = d at hnot hcases
  unfold InBox at hnot
  simp only [IccgInput.faceGhost, Bool.and_eq_true, decide_eq_true_eq]
  refine ⟨by omega, ?_⟩
  rcases hcases with ⟨h, hdy, hdz⟩ | ⟨hdx, h, hdz⟩ | ⟨hdx, hdy, h⟩
  · rw [if_pos (by omega), if_neg (by omega), if_neg (by omega)]
  · rw [if_neg (by omega), if_pos (by omega), if_neg (by omega)]
  · rw [if_neg (by omega), if_neg (by omega), if_pos (by omega)]

variable {𝕜 : Type} [Field 𝕜] [LinearOrder 𝕜] {n : ℕ} (hn : 0 < n) {globalCells : Int3} {periodic : Axis → Bool}
  {rows : Int3 → ColdPressureRow 𝕜} {input : Fin n → IccgInput 𝕜} {exchange : (Fin n → Int3 → 𝕜) → Fin n → Status × (Int3 → 𝕜)}

def AxisEqual (globalCells : Int3) (periodic : Axis → Bool) (rows : Int3 → ColdPressureRow 𝕜) (axis : Axis) : Prop :=
  ∀ cell, InBox globalCells cell → SharesFace globalCells periodic cell (upperFace axis) →
    (rows (besideCell globalCells cell (upperFace axis))).neighbour (lowerFace axis) = (rows cell).neighbour (upperFace axis)

omit [LinearOrder 𝕜] [Field 𝕜] in
lemma oppositesEqual_iff : OppositesEqual globalCells periodic rows ↔ ∀ axis, AxisEqual globalCells periodic rows axis := by
  constructor
  · intro h axis cell hcell hshared
    have hequal := h cell hcell _ hshared
    rwa [oppositeFace_upperFace] at hequal
  · intro h cell hcell f hshared
    rcases face_cases f with hlower | hupper
    · -- the lower face of a cell is the upper one of the cell beside it
      have hopp : oppositeFace f = upperFace (faceAxis f) := by
        rw [hlower, ← oppositeFace_upperFace, oppositeFace_oppositeFace, faceAxis_oppositeFace, faceAxis_upperFace]
      have hback := h (faceAxis f) _ (besideCell_inBox (f := f) hcell) (hopp ▸ sharesFace_back hcell hshared)
      rw [← hopp, besideCell_back hcell, ← hlower] at hback
      exact hback.symm
    · have hequal := h (faceAxis f) cell hcell (hupper ▸ hshared)
      rwa [← hupper, ← oppositeFace_upperFace, ← hupper] at hequal

def axisField (input : IccgInput 𝕜) (axis : Axis) (scratch : Int3 → 𝕜) : Int3 → 𝕜 :=
  input.cells.foldl (fun scratch cell => Function.update scratch cell ((input.rows cell).neighbour (lowerFace axis)))
    (input.clearGhosts scratch)

variable (job : IccgJob globalCells periodic rows input)
  (hexchange : CopiesFaces globalCells periodic (fun i => (input i).patch) exchange)
  (hfine : ∀ cell, InBox globalCells cell → GlobalRowFine globalCells periodic rows cell)

include job hexchange hfine

lemma axisField_shown (axis : Axis) (scratch : Fin n → Int3 → 𝕜) {i : Fin n} {cell : Int3} (hcell : cell ∈ (input i).cells) :
    ((input i).rows cell).neighbour (upperFace axis) =
        (exchange (fun i => axisField (input i) axis (scratch i)) i).2 (addIndex cell (directionDelta (upperFace axis))) ↔
      (SharesFace globalCells periodic (addIndex (input i).patch.begin cell) (upperFace axis) →
        (rows (besideCell globalCells (addIndex (input i).patch.begin cell) (upperFace axis))).neighbour (lowerFace axis) =
          (rows (addIndex (input i).patch.begin cell)).neighbour (upperFace axis)) := by
  rw [job.rows_eq]
  by_cases hshared : SharesFace globalCells periodic (addIndex (input i).patch.begin cell) (upperFace axis)
  · have hfields : ∀ j, ∀ cell ∈ (input j).cells, axisField (input j) axis (scratch j) cell =
        (fun c => (rows c).neighbour (lowerFace axis)) (addIndex (input j).patch.begin cell) := by
      intro j c hc
      rw [axisField, foldl_update, if_pos hc, job.rows_eq]
    rw [job.shown hexchange (fun c => (rows c).neighbour (lowerFace axis)) hfields hcell hshared, forall_prop_of_true hshared]
    exact eq_comm
  · -- outside the box both sides are zero
    have hzero : axisField (input i) axis (scratch i) (addIndex cell (directionDelta (upperFace axis))) = 0 := by
      have hout : addIndex cell (directionDelta (upperFace axis)) ∉ (input i).cells := by
        intro hmem
        have hbeside := job.inBox (mem_cells.mp hmem)
        rw [← addIndex_assoc] at hbeside
        exact hshared (.inr hbeside)
      rw [axisField, foldl_update, if_neg hout, IccgInput.clearGhosts, if_pos (faceGhost_of_face hcell hout)]
    rw [exchange_exterior hexchange _ hcell hshared, hzero,
      (hfine _ (job.inBox (mem_cells.mp hcell))).outer _ hshared]
    exact iff_of_true rfl fun h => absurd h hshared

omit [LinearOrder 𝕜] in
omit [Field 𝕜] in
omit job hexchange hfine in
lemma reports_foldl {α : Type} {l : List α} {bad : α → Prop} [DecidablePred bad] (detail : UInt32) :
    Reports (l.foldl (fun status a => if bad a then IccgMatrix.invalid detail else status) {}) (∀ a ∈ l, ¬ bad a) := by
  refine foldl_rule (I := fun seen status => Reports status (∀ a ∈ seen, ¬ bad a)) ?_ fun seen a status _ h => ?_
  · exact ⟨fun _ => rfl, fun hnot => absurd (by simp) hnot⟩
  · have hchecked : Reports (if bad a then IccgMatrix.invalid detail else status) ((∀ b ∈ seen, ¬ bad b) ∧ ¬ bad a) :=
      h.check detail
    refine hchecked.congr ?_
    simp only [forall_mem_append, forall_mem_singleton]

lemma together_checkAxis (axis : Axis) (scratch : Fin n → Int3 → 𝕜) :
    Network.Together (admissionNetwork hn exchange) (fun i => (input i).checkAxis axis {} (scratch i))
      (AxisEqual globalCells periodic rows axis) Uncertified
      fun i => ({}, (exchange (fun i => axisField (input i) axis (scratch i)) i).2) := by
  have hexch := run_exchanged hn hexchange.succeeds {} fun i => axisField (input i) axis (scratch i)
  have hreports : ∀ i, Reports ((input i).compareFaces axis (exchange (fun i => axisField (input i) axis (scratch i)) i).2 {})
      (∀ cell ∈ (input i).cells, ¬ ((input i).rows cell).neighbour (upperFace axis) ≠
        (exchange (fun i => axisField (input i) axis (scratch i)) i).2 (addIndex cell (directionDelta (upperFace axis)))) :=
    fun i => reports_foldl 17871
  have hequal : (∀ i, ((input i).compareFaces axis (exchange (fun i => axisField (input i) axis (scratch i)) i).2 {}).isOk = true) ↔
      AxisEqual globalCells periodic rows axis := by
    simp only [(hreports _).isOk_iff, not_not]
    constructor
    · intro h cell hcell
      obtain ⟨i, hi⟩ := job.exists_owner hcell
      have hmem : subIndex cell (input i).patch.begin ∈ (input i).cells := by rwa [mem_cells, addIndex_subIndex]
      have hown := (axisField_shown job hexchange hfine axis scratch hmem).mp (h i _ hmem)
      rwa [addIndex_subIndex] at hown
    · intro h i cell hcell
      exact (axisField_shown job hexchange hfine axis scratch hcell).mpr (h _ (job.inBox (mem_cells.mp hcell)))
  refine hexch.andThen_together ?_
  refine Network.Together.congr (Network.Together.andThen (together_consensus hn rfl _) fun hok => ?_)
    ((and_iff_left trivial).trans hequal)
  have hclear : ∀ i, (input i).compareFaces axis (exchange (fun i => axisField (input i) axis (scratch i)) i).2 {} = {} :=
    fun i => (hreports i).1 ((hreports i).isOk_iff.mp (hok i))
  simp only [hclear]
  exact Network.Together.done

lemma together_checkSymmetry (l : List Axis) (scratch : Fin n → Int3 → 𝕜) : ∃ scratch' : Fin n → Int3 → 𝕜,
    Network.Together (admissionNetwork hn exchange) (fun i => (input i).checkSymmetry l ({}, scratch i))
      (∀ axis ∈ l, AxisEqual globalCells periodic rows axis) Uncertified fun i => ({}, scratch' i) := by
  induction l generalizing scratch with
  | nil => exact ⟨scratch, Network.Together.congr Network.Together.done (by simp)⟩
  | cons axis l ih =>
    obtain ⟨scratch', hrest⟩ := ih fun i => (exchange (fun i => axisField (input i) axis (scratch i)) i).2
    refine ⟨scratch', ?_⟩
    have hchain := Network.Together.andThen (together_checkAxis hn job hexchange hfine axis scratch)
      (f := fun i state => (input i).checkSymmetry l state) fun _ => hrest
    exact hchain.congr (by simp)

end HundunFlow.Proofs
