import HundunFlow.Proofs.IccgSpreading

/-!
# Admission certifies the matrix

The stages of the admission put together: all ranks end alike, with a certificate exactly when the
matrix is admissible and grounding spreads over it in time.
-/

namespace HundunFlow.Proofs

open Lib EBTopology MgWorkspace IccgMatrix Matrix Finset

section Stages

variable {𝕜 : Type} [Field 𝕜] {n : ℕ} (hn : 0 < n) {globalCells : Int3} {periodic : Axis → Bool}
  {rows : Int3 → ColdPressureRow 𝕜} {input : Fin n → IccgInput 𝕜} {exchange : (Fin n → Int3 → 𝕜) → Fin n → Status × (Int3 → 𝕜)}

lemma together_settled {α : Type} {p : Fin n → Admission 𝕜 α} {f : Fin n → α → Admission 𝕜 IccgMatrixAdmissionReport} {ok P : Prop}
    {a : Fin n → α} (hp : Network.Together (admissionNetwork hn exchange) p ok Uncertified a)
    (hf : ok → ∃ t outcome, (admissionNetwork hn exchange).Run (fun i => f i (a i)) t (fun _ => outcome) ∧ Settled outcome P) :
    ∃ t outcome, (admissionNetwork hn exchange).Run (fun i => (p i).andThen (f i)) t (fun _ => outcome) ∧
      Settled outcome (ok ∧ P) := by
  obtain ⟨t, r, hrun, hok, hbad⟩ := hp
  by_cases h : ok
  · obtain ⟨u, outcome, hrest, hsettled⟩ := hf h
    rw [hok h] at hrun
    refine ⟨t ++ u, outcome, hrun.andThen_ok hrest, ?_⟩
    rwa [and_iff_right h]
  · obtain ⟨e, he, hr⟩ := hbad h
    rw [hr] at hrun
    exact ⟨t ++ [], .failed e, hrun.andThen_failed, fun hP => absurd hP.1 h, fun _ => ⟨e, he, rfl⟩⟩

variable (job : IccgJob globalCells periodic rows input)
  (hexchange : CopiesFaces globalCells periodic (fun i => (input i).patch) exchange)

include job hexchange

variable [LinearOrder 𝕜]

lemma IccgJob.ground_spec (hfine : ∀ cell, InBox globalCells cell → GlobalRowFine globalCells periodic rows cell)
    (hequal : OppositesEqual globalCells periodic rows) {scan : Fin n → RowScan}
    (hscan : ∀ i, CellsScanned (input i) (input i).cells (scan i)) (scratch : Fin n → Int3 → 𝕜) :
    ∃ t outcome, (admissionNetwork hn exchange).Run (fun i => (input i).ground (scan i).toGrounding (scratch i)) t (fun _ => outcome) ∧
      Settled outcome (∃ k < maxU32, AllReached (fun i => (input i).patch) globalCells rows k) := by
  have hforests := fun i => (hscan i).forest
  choose r hforest hclasses using hforests
  have hroots : ∀ i, SameRoot (cellSet (input i)) (r i) (Joined (input i)) := by
    intro i
    have hjoined : (fun c d => c ∈ (input i).cells ∧ Joined (input i) c d) = Joined (input i) := by
      funext c d
      exact propext (and_iff_right_of_imp And.left)
    exact hjoined ▸ hclasses i
  have hmarked := fun i => markRoots_spec (hforest i) (hscan i).grounded
  choose marked hmark htracks using hmarked
  have hspread : ∀ i, Tracks (input i) (r i) (marked i) fun cell =>
      reached (fun i => (input i).patch) globalCells rows 0 (addIndex (input i).patch.begin cell) := by
    intro i
    refine ⟨(htracks i).forest, fun cell hcell => ((htracks i).grounded cell hcell).trans ?_⟩
    simp only [job.strict_iff]
    exact job.part_iff hequal (hroots i) (P := StrictRow rows) hcell
  have hmissing := fun i => ungrounded_spec (fun cell h => h) (hspread i)
  choose missing state hfree hstate hsignal using hmissing
  have hall := job.rankMax_missing hn missing hsignal
  have hmaxima := run_checkedMax hn exchange {} (fun i => [missing i]) 1 fun _ => rfl
  obtain ⟨t, outcome, hrun, hsettled⟩ := job.groundingLoop_spec hn hexchange hfine hequal hroots maxU32 0 scratch (by decide) (Nat.zero_add _) hstate hall
  refine ⟨[.checkedMax 1] ++ t, outcome, ?_, ?_⟩
  · simp only [IccgInput.ground, hmark, hfree]
    exact hmaxima.andThen_ok hrun
  · have hsame : (∃ k, 0 ≤ k ∧ k < maxU32 ∧ AllReached (fun i => (input i).patch) globalCells rows k) ↔
        ∃ k < maxU32, AllReached (fun i => (input i).patch) globalCells rows k :=
      exists_congr fun k => and_iff_right (Nat.zero_le k)
    rwa [hsame] at hsettled

lemma IccgJob.admit_spec : ∃ t outcome, (admissionNetwork hn exchange).Run (fun i => (input i).admitIccgMatrix) t (fun _ => outcome) ∧
    Settled outcome ((∀ i, (input i).storageStatus.isOk = true) ∧
      (∀ cell, InBox globalCells cell → GlobalRowFine globalCells periodic rows cell) ∧ OppositesEqual globalCells periodic rows ∧
      ∃ k < maxU32, AllReached (fun i => (input i).patch) globalCells rows k) := by
  refine together_settled hn (together_consensus hn rfl fun i => (input i).storageStatus) fun hstorage => ?_
  have hclear : ∀ i, (input i).storageStatus = {} := by
    intro i
    have hi := hstorage i
    unfold IccgInput.storageStatus at hi ⊢
    split_ifs at hi ⊢ with hbad
    · exact nomatch hi
    · rfl
  have hscans := fun i => scanRows_spec (input i)
  choose scan hscan hscanned using hscans
  simp only [hclear, hscan]
  have hrows : (∀ i, (scan i).status.isOk = true) ↔
      ∀ cell, InBox globalCells cell → GlobalRowFine globalCells periodic rows cell := by
    rw [← job.rows_fine_iff]
    exact forall_congr' fun i => (hscanned i).status.isOk_iff
  refine together_settled hn ((together_consensus hn rfl fun i => (scan i).status).congr hrows) fun hfine => ?_
  have hstatus : ∀ i, (scan i).status = {} := fun i => (hscanned i).status.1 (job.rows_fine_iff.mpr hfine i)
  simp only [hstatus]
  obtain ⟨scratch, hsymmetry⟩ := together_checkSymmetry hn job hexchange hfine axes fun i => (input i).scratch
  have haxes : (∀ axis ∈ axes, AxisEqual globalCells periodic rows axis) ↔ OppositesEqual globalCells periodic rows := by
    rw [oppositesEqual_iff]
    refine ⟨fun h axis => h axis ?_, fun h axis _ => h axis⟩
    cases axis <;> decide
  exact together_settled hn (hsymmetry.congr haxes) fun hequal => job.ground_spec hn hexchange hfine hequal hscanned scratch

end Stages

section Components

variable {𝕜 : Type} [Field 𝕜] [LinearOrder 𝕜] {n : ℕ} {globalCells : Int3} {periodic : Axis → Bool}
  {rows : Int3 → ColdPressureRow 𝕜} {input : Fin n → IccgInput 𝕜} (job : IccgJob globalCells periodic rows input)

def boxCells (globalCells : Int3) : Finset Int3 := (boxIndices globalCells).toFinset

lemma mem_boxCells {cell : Int3} : cell ∈ boxCells globalCells ↔ InBox globalCells cell := by
  rw [boxCells, List.mem_toFinset, mem_boxIndices_iff]

include job

lemma IccgJob.samePart_connected {c d : Int3} (h : SamePart (fun i => (input i).patch) rows c d) :
    Relation.EqvGen (RowsCoupled globalCells rows) c d := by
  refine h.mono fun a b hab => ?_
  obtain ⟨i, f, ha, hb, hpos, rfl⟩ := hab
  exact ⟨job.inBox ha, f, hpos, (besideCell_of_inBox (job.inBox hb)).symm⟩

lemma IccgJob.component_of_reached {k : ℕ} {cell : Int3} (hcell : InBox globalCells cell)
    (h : reached (fun i => (input i).patch) globalCells rows k cell) :
    ∃ d, InBox globalCells d ∧ StrictRow rows d ∧ Relation.EqvGen (RowsCoupled globalCells rows) d cell := by
  obtain ⟨i, hi⟩ := job.exists_owner hcell
  induction k generalizing cell i with
  | zero =>
    obtain ⟨d, hpart, hstrict⟩ := h
    exact ⟨d, job.inBox ((job.samePart_contains hpart i).mpr hi), hstrict, job.samePart_connected hpart⟩
  | succ k ih =>
    rcases h with h | ⟨d, hpart, f, hpos, h⟩
    · exact ih hcell h i hi
    · have hd := job.inBox ((job.samePart_contains hpart i).mpr hi)
      obtain ⟨j, hj⟩ := job.exists_owner (besideCell_inBox (f := f) hd)
      obtain ⟨s, hs, hstrict, hconn⟩ := ih (besideCell_inBox hd) h j hj
      refine ⟨s, hs, hstrict, (hconn.trans _ _ _ ?_).trans _ _ _ (job.samePart_connected hpart)⟩
      exact .symm _ _ (.rel _ _ ⟨hd, f, hpos, rfl⟩)

variable (hadmissible : MatrixAdmissible globalCells periodic rows)

include hadmissible

omit job

lemma MatrixAdmissible.coupled_back {c d : Int3} (h : RowsCoupled globalCells rows c d) : RowsCoupled globalCells rows d c := by
  obtain ⟨hc, f, hpos, rfl⟩ := h
  have hshared : SharesFace globalCells periodic c f := by
    by_contra hnot
    rw [(hadmissible.fine c hc).outer f hnot] at hpos
    exact lt_irrefl _ hpos
  refine ⟨besideCell_inBox hc, oppositeFace f, ?_, (besideCell_back hc).symm⟩
  rwa [hadmissible.symmetric c hc f hshared]

lemma MatrixAdmissible.exists_newly_reached {patch : Fin n → MeshPatch} {k : ℕ} (hmissing : ¬ AllReached patch globalCells rows k) :
    ∃ cell, InBox globalCells cell ∧ reached patch globalCells rows (k + 1) cell ∧
      ¬ reached patch globalCells rows k cell := by
  by_contra hnone
  push Not at hnone
  have hclosed : ∀ a b, RowsCoupled globalCells rows a b → reached patch globalCells rows k b →
      reached patch globalCells rows k a := by
    rintro a b ⟨ha, f, hpos, rfl⟩ hb
    exact hnone a ha (.inr ⟨a, .refl a, f, hpos, hb⟩)
  apply hmissing
  intro cell hcell
  obtain ⟨d, hd, hstrict, hconn⟩ := hadmissible.components cell hcell
  have hsame := eq_of_eqvGen (f := fun c => reached patch globalCells rows k c) (fun a b hab => ?_) hconn
  · exact hsame.mp (reached_mono (Nat.zero_le k) ⟨d, .refl d, hstrict⟩)
  · exact propext ⟨hclosed b a (hadmissible.coupled_back hab), hclosed a b hab⟩

lemma MatrixAdmissible.allReached_of_card (patch : Fin n → MeshPatch) :
    AllReached patch globalCells rows ((boxCells globalCells).card - 1) := by
  classical
  have hgrows : ∀ k, AllReached patch globalCells rows k ∨
      k + 1 ≤ ((boxCells globalCells).filter (reached patch globalCells rows k)).card := by
    intro k
    induction k with
    | zero =>
      by_cases hall : AllReached patch globalCells rows 0
      · exact .inl hall
      · obtain ⟨cell, hcell, -⟩ : ∃ cell, InBox globalCells cell ∧ ¬ reached patch globalCells rows 0 cell := by
          unfold AllReached at hall
          push Not at hall
          exact hall
        obtain ⟨d, hd, hstrict, -⟩ := hadmissible.components cell hcell
        refine .inr (card_pos.mpr ⟨d, mem_filter.mpr ⟨mem_boxCells.mpr hd, d, .refl d, hstrict⟩⟩)
    | succ k ih =>
      rcases ih with hall | hcard
      · exact .inl fun cell hcell => .inl (hall cell hcell)
      · by_cases hall : AllReached patch globalCells rows k
        · exact .inl fun cell hcell => .inl (hall cell hcell)
        · obtain ⟨cell, hcell, hnew, hold⟩ := hadmissible.exists_newly_reached hall
          have hstrict : (boxCells globalCells).filter (reached patch globalCells rows k) ⊂
              (boxCells globalCells).filter (reached patch globalCells rows (k + 1)) := by
            rw [ssubset_iff_of_subset]
            · exact ⟨cell, mem_filter.mpr ⟨mem_boxCells.mpr hcell, hnew⟩, fun hmem => hold (mem_filter.mp hmem).2⟩
            · intro c hc
              obtain ⟨hc, hreached⟩ := mem_filter.mp hc
              exact mem_filter.mpr ⟨hc, .inl hreached⟩
          have hlt := card_lt_card hstrict
          exact .inr (by omega)
  rcases hgrows ((boxCells globalCells).card - 1) with hall | hcard
  · exact hall
  · have hfull := eq_of_subset_of_card_le (filter_subset
      (reached patch globalCells rows ((boxCells globalCells).card - 1)) (boxCells globalCells)) (by omega)
    intro cell hcell
    have hmem := mem_boxCells.mpr hcell
    rw [← hfull] at hmem
    exact (mem_filter.mp hmem).2

end Components

section Matrix

variable {𝕜 : Type} [Field 𝕜] {globalCells : Int3} {periodic : Axis → Bool} {rows : Int3 → ColdPressureRow 𝕜}

def boxBeside (globalCells : Int3) (cell : boxCells globalCells) (f : Fin 6) : boxCells globalCells :=
  ⟨besideCell globalCells cell f, mem_boxCells.mpr (besideCell_inBox (mem_boxCells.mp cell.2))⟩

/-- The global matrix: the diagonal entries, less the coefficients of the faces between two cells. -/
def boxMatrix (globalCells : Int3) (rows : Int3 → ColdPressureRow 𝕜) : Matrix (boxCells globalCells) (boxCells globalCells) 𝕜 :=
  weighted (fun cell => (rows cell).diagonal) (faceWeight (boxBeside globalCells) fun cell f => (rows cell).neighbour f)

variable [LinearOrder 𝕜] (hadmissible : MatrixAdmissible globalCells periodic rows)

include hadmissible

lemma MatrixAdmissible.weight_symm (v w : boxCells globalCells) :
    faceWeight (boxBeside globalCells) (fun cell f => (rows cell).neighbour f) v w =
      faceWeight (boxBeside globalCells) (fun cell f => (rows cell).neighbour f) w v := by
  refine faceWeight_symm (Function.Involutive.toPerm oppositeFace oppositeFace_oppositeFace) ?_ oppositeFace_oppositeFace ?_ v w
  · intro cell f
    exact Subtype.ext (besideCell_back (mem_boxCells.mp cell.2))
  · intro cell f
    have hcell := mem_boxCells.mp cell.2
    by_cases hshared : SharesFace globalCells periodic cell f
    · exact hadmissible.symmetric cell hcell f hshared
    · -- outside the box both coefficients are zero
      have hnot : ¬ SharesFace globalCells periodic (besideCell globalCells cell f) (oppositeFace f) := by
        intro hback
        have hagain := sharesFace_back (besideCell_inBox hcell) hback
        rw [besideCell_back hcell, oppositeFace_oppositeFace] at hagain
        exact hshared hagain
      exact ((hadmissible.fine _ (besideCell_inBox hcell)).outer _ hnot).trans ((hadmissible.fine cell hcell).outer f hshared).symm

variable [IsStrictOrderedRing 𝕜]

lemma MatrixAdmissible.connected {c d : Int3} (h : Relation.EqvGen (RowsCoupled globalCells rows) c d) :
    (InBox globalCells c ↔ InBox globalCells d) ∧ ∀ hc hd,
      Connected (faceWeight (boxBeside globalCells) fun cell f => (rows cell).neighbour f) ⟨c, hc⟩ ⟨d, hd⟩ := by
  induction h with
  | rel a b hab =>
    have hb := (hadmissible.coupled_back hab).1
    obtain ⟨ha, f, hpos, rfl⟩ := hab
    refine ⟨iff_of_true ha hb, fun hc hd => .rel _ _ ?_⟩
    have hnonneg : ∀ (v : boxCells globalCells) f, 0 ≤ (rows v).neighbour f := fun v f =>
      (hadmissible.fine v (mem_boxCells.mp v.2)).neighbour f
    exact faceWeight_pos (boxBeside globalCells) hnonneg (v := ⟨a, hc⟩) hpos
  | refl a => exact ⟨Iff.rfl, fun _ _ => .refl _⟩
  | symm a b _ ih => exact ⟨ih.1.symm, fun hc hd => (ih.2 hd hc).symm _ _⟩
  | trans a b c _ _ ih₁ ih₂ =>
    refine ⟨ih₁.1.trans ih₂.1, fun ha hc => ?_⟩
    have hb := mem_boxCells.mpr (ih₁.1.mp (mem_boxCells.mp ha))
    exact (ih₁.2 ha hb).trans _ _ _ (ih₂.2 hb hc)

lemma MatrixAdmissible.positiveDefinite : (boxMatrix globalCells rows).IsSymm ∧
    ∀ x ≠ 0, 0 < x ⬝ᵥ (boxMatrix globalCells rows *ᵥ x) := by
  have hnonneg : ∀ (v : boxCells globalCells) f, 0 ≤ (rows v).neighbour f := fun v f =>
    (hadmissible.fine v (mem_boxCells.mp v.2)).neighbour f
  refine ⟨weighted_isSymm hadmissible.weight_symm, fun x hx => ?_⟩
  refine weighted_pos hadmissible.weight_symm (faceWeight_nonneg hnonneg) ?_ ?_ hx
  · intro v
    rw [sum_faceWeight]
    exact (hadmissible.fine v (mem_boxCells.mp v.2)).weak
  · intro v
    obtain ⟨d, hd, hstrict, hconn⟩ := hadmissible.components v (mem_boxCells.mp v.2)
    refine ⟨⟨d, mem_boxCells.mpr hd⟩, (hadmissible.connected hconn).2 _ _, ?_⟩
    rw [sum_faceWeight]
    exact hstrict

end Matrix

variable {𝕜 : Type} [Field 𝕜] [LinearOrder 𝕜] [IsStrictOrderedRing 𝕜] {n : ℕ} (hn : 0 < n) {globalCells : Int3} {periodic : Axis → Bool}
  {rows : Int3 → ColdPressureRow 𝕜} {input : Fin n → IccgInput 𝕜} {exchange : (Fin n → Int3 → 𝕜) → Fin n → Status × (Int3 → 𝕜)}

/-- A rank has room for its rows and for the two arrays of the workspace. -/
structure Stored (input : IccgInput 𝕜) : Prop where
  fits : input.patch.cells.x.toNat * input.patch.cells.y.toNat * input.patch.cells.z.toNat < 2 ^ 64
  rowCount : input.rowCount = input.patch.cells.x.toNat * input.patch.cells.y.toNat * input.patch.cells.z.toNat
  parentSize : input.parentSize = input.patch.cells.x.toNat * input.patch.cells.y.toNat * input.patch.cells.z.toNat
  groundedSize : input.groundedSize = input.patch.cells.x.toNat * input.patch.cells.y.toNat * input.patch.cells.z.toNat
  workspace : input.workspace = true

/-- The admission has reported a matrix that is symmetric and positive definite. -/
def Certified (outcome : Stage (Status × IccgMatrixAdmissionReport) IccgMatrixAdmissionReport) : Prop :=
  ∃ report : IccgMatrixAdmissionReport, report.spd = true ∧ outcome = .ok report

lemma Settled.certified_iff {outcome : Stage (Status × IccgMatrixAdmissionReport) IccgMatrixAdmissionReport} {P : Prop}
    (h : Settled outcome P) : Certified outcome ↔ P := by
  constructor
  · rintro ⟨report, -, rfl⟩
    by_contra hnot
    obtain ⟨e, -, hfailed⟩ := h.2 hnot
    cases hfailed
  · exact h.1

omit [Field 𝕜] [LinearOrder 𝕜] [IsStrictOrderedRing 𝕜] in
lemma IccgJob.storageStatus_of_stored (job : IccgJob globalCells periodic rows input) {i : Fin n} (h : Stored (input i)) :
    (input i).storageStatus.isOk = true := by
  have hcount : (input i).count = (input i).patch.cells.x.toNat * (input i).patch.cells.y.toNat * (input i).patch.cells.z.toNat :=
    Nat.mod_eq_of_lt h.fits
  have hx : 0 < (input i).patch.cells.x := job.nonempty i .x
  have hy : 0 < (input i).patch.cells.y := job.nonempty i .y
  have hz : 0 < (input i).patch.cells.z := job.nonempty i .z
  have hcorners : ∀ axis, 0 ≤ component (input i).patch.begin axis ∧
      component (input i).patch.begin axis + component (input i).patch.cells axis ≤ component globalCells axis := by
    have hfirst : Contains (input i).patch (input i).patch.begin := by
      rw [contains_iff_axes]
      intro axis
      have hpos := job.nonempty i axis
      exact ⟨le_refl _, by rw [patchEnd]; omega⟩
    have hlast : Contains (input i).patch (ofComponents fun axis => patchEnd (input i).patch axis - 1) := by
      rw [contains_iff_axes]
      intro axis
      have hpos := job.nonempty i axis
      rw [component_ofComponents, patchEnd]
      omega
    intro axis
    have hlow := inBox_iff_axes.mp (job.inBox hfirst) axis
    have hhigh := inBox_iff_axes.mp (job.inBox hlast) axis
    rw [component_ofComponents, patchEnd] at hhigh
    omega
  have hok : (input i).storageStatus = {} := by
    refine if_neg ?_
    rintro (h' | h' | h' | h' | h' | h' | h' | ⟨axis, -, h'⟩)
    · omega
    · omega
    · omega
    · exact h' (h.rowCount.trans hcount.symm)
    · exact h' (h.parentSize.trans hcount.symm)
    · exact h' (h.groundedSize.trans hcount.symm)
    · exact absurd h.workspace (by simp [h'])
    · have haxis := hcorners axis
      have hpos := job.nonempty i axis
      rw [job.globalCells_eq] at h'
      omega
  rw [hok]
  rfl

/-- All ranks end with the same status and the same report. When the storage fits, they certify the
matrix exactly when it is admissible and grounding spreads over it before the counter of exchanges is
full, which it always does in a box of no more cells than the counter holds. A certified matrix is
symmetric and positive definite. -/
theorem iccg_matrix_admission (job : IccgJob globalCells periodic rows input)
    (hexchange : CopiesFaces globalCells periodic (fun i => (input i).patch) exchange) :
    ∃ t outcome, (admissionNetwork hn exchange).Run (fun i => (input i).admitIccgMatrix) t (fun _ => outcome) ∧
      (Certified outcome ∨ ∃ e, Uncertified e ∧ outcome = .failed e) ∧
      ((∀ i, Stored (input i)) →
        (Certified outcome ↔ MatrixAdmissible globalCells periodic rows ∧
          ∃ k < maxU32, AllReached (fun i => (input i).patch) globalCells rows k) ∧
        ((boxCells globalCells).card ≤ maxU32 → (Certified outcome ↔ MatrixAdmissible globalCells periodic rows))) ∧
      (Certified outcome → (boxMatrix globalCells rows).IsSymm ∧ ∀ x ≠ 0, 0 < x ⬝ᵥ (boxMatrix globalCells rows *ᵥ x)) := by
  obtain ⟨t, outcome, hrun, hsettled⟩ := job.admit_spec hn hexchange
  have hcertified := hsettled.certified_iff
  have hadmissible : Certified outcome → MatrixAdmissible globalCells periodic rows := by
    intro h
    obtain ⟨-, hfine, hequal, k, -, hall⟩ := hcertified.mp h
    exact ⟨hfine, hequal, fun cell hcell => job.component_of_reached hcell (hall cell hcell)⟩
  have hiff : (∀ i, Stored (input i)) → (Certified outcome ↔ MatrixAdmissible globalCells periodic rows ∧
      ∃ k < maxU32, AllReached (fun i => (input i).patch) globalCells rows k) := by
    intro hstored
    refine ⟨fun h => ⟨hadmissible h, (hcertified.mp h).2.2.2⟩, fun ⟨h, hreached⟩ => ?_⟩
    exact hcertified.mpr ⟨fun i => job.storageStatus_of_stored (hstored i), h.fine, h.symmetric, hreached⟩
  refine ⟨t, outcome, hrun, ?_, fun hstored => ⟨hiff hstored, fun hcard => ?_⟩, fun h => (hadmissible h).positiveDefinite⟩
  · by_cases h : Certified outcome
    · exact .inl h
    · exact .inr (hsettled.2 fun hP => h (hcertified.mpr hP))
  · refine ⟨hadmissible, fun h => (hiff hstored).mpr ⟨h, (boxCells globalCells).card - 1, ?_, h.allReached_of_card _⟩⟩
    have hpositive : 0 < maxU32 := by decide
    omega

end HundunFlow.Proofs
