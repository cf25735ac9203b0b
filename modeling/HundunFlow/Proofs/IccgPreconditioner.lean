import HundunFlow.Proofs.IccgSweeps
import HundunFlow.Proofs.IccgSnake

/-!
# The preconditioner of a block

Where `prepare` gets along, every pivot is positive, and the block applies the inverse of a symmetric
positive definite matrix, in place or not.
-/

namespace HundunFlow.Proofs

section Pivots

open Lib EBTopology MgWorkspace IccgMatrix ColdPressureIccg List Function

variable {𝕜 : Type} [Field 𝕜]

lemma sum_faces (g : Fin 6 → 𝕜) : ∑ f, g f = ∑ axis, g (lowerFace axis) + ∑ axis, g (upperFace axis) := by
  rw [sum_axes, sum_axes, Fin.sum_univ_six]
  simp only [lowerFace, upperFace]
  ring

variable (m : ColdPressureIccg 𝕜)

section Recurrence

def pivotAt (inverse : ℕ → 𝕜) (c : Int3) : 𝕜 := m.pivot inverse c (rowIndex m.cells c)

variable (inverse : ℕ → 𝕜)

lemma pivotAt_eq {c : Int3} (hc : InBox m.cells c) :
    pivotAt m inverse c = (m.rows (rowIndex m.cells c)).diagonal - ∑ axis, if 0 < component c axis then
      lowerCoefficient m c axis * lowerCoefficient m c axis * inverse (rowIndex m.cells (below c axis)) else 0 := by
  rw [pivotAt, pivot, foldl_axes_sub]
  congr 1
  refine Finset.sum_congr rfl fun axis _ => ?_
  split
  · rename_i hpos
    have hindex := rowIndex_above ((below_inBox_iff hc axis).mpr hpos) axis
    rw [above_below] at hindex
    have hlast : rowIndex m.cells c - stride m.cells axis = rowIndex m.cells (below c axis) := by
      rw [hindex, Nat.add_sub_cancel]
    rw [hlast]
    rfl
  · rfl

lemma pivotAt_update {c d : Int3} (hd : InBox m.cells d) (hle : rowIndex m.cells d ≤ rowIndex m.cells c) (v : 𝕜) :
    pivotAt m (Function.update inverse (rowIndex m.cells c) v) d = pivotAt m inverse d := by
  rw [pivotAt_eq m _ hd, pivotAt_eq m _ hd]
  congr 1
  refine Finset.sum_congr rfl fun axis _ => ?_
  split
  · rename_i hpos
    have hbelow := (below_inBox_iff hd axis).mpr hpos
    have hindex := rowIndex_above hbelow axis
    rw [above_below] at hindex
    have hstride := stride_pos hd axis
    rw [update_of_ne (by omega)]
  · rfl

variable [LinearOrder 𝕜]

def Factored (inverse : ℕ → 𝕜) (l : List Int3) : Prop :=
  ∀ c ∈ l, 0 < pivotAt m inverse c ∧ inverse (rowIndex m.cells c) = (pivotAt m inverse c)⁻¹

lemma factorize_cases {before after : List Int3} (hsplit : boxIndices m.cells = before ++ after) {inverse : ℕ → 𝕜}
    (hbefore : Factored m inverse before) :
    (∃ inverse', m.factorize (after.map fun c => (c, rowIndex m.cells c)) inverse = ({}, inverse') ∧
      Factored m inverse' (boxIndices m.cells)) ∨
    ∃ inverse' b c a, m.factorize (after.map fun c => (c, rowIndex m.cells c)) inverse = (⟨.numericalFailure, 17868⟩, inverse') ∧
      boxIndices m.cells = b ++ c :: a ∧ Factored m inverse' b ∧ pivotAt m inverse' c ≤ 0 := by
  induction after generalizing before inverse with
  | nil =>
    rw [append_nil] at hsplit
    exact .inl ⟨inverse, rfl, hsplit ▸ hbefore⟩
  | cons c after ih =>
    rw [map_cons, factorize]
    by_cases hpivot : pivotAt m inverse c ≤ 0
    · exact .inr ⟨inverse, before, c, after, if_pos hpivot, hsplit, hbefore, hpivot⟩
    · have hbox : ∀ d ∈ before ++ c :: after, InBox m.cells d := fun d hd => mem_boxIndices_iff.mp (hsplit ▸ hd)
      have hc : InBox m.cells c := hbox c (by simp)
      rw [if_neg (by exact hpivot)]
      refine @ih (before ++ [c]) (by rw [hsplit, append_assoc, singleton_append]) _ fun d hd => ?_
      rw [one_div]
      rcases mem_append.mp hd with hd | hd
      · have hlt : rowIndex m.cells d < rowIndex m.cells c := by
          have hsorted := pairwise_map.mp ((map_rowIndex m.cells).symm ▸ pairwise_lt_range)
          rw [hsplit] at hsorted
          exact (pairwise_append.mp hsorted).2.2 d hd c mem_cons_self
        rw [pivotAt_update m inverse (hbox d (mem_append_left _ hd)) hlt.le, update_of_ne hlt.ne]
        exact hbefore d hd
      · obtain rfl := mem_singleton.mp hd
        rw [pivotAt_update m inverse hc le_rfl, update_self]
        exact ⟨not_le.mp hpivot, rfl⟩

end Recurrence

variable [LinearOrder 𝕜] {globalCells : Int3} {periodic : Axis → Bool} {rows : Int3 → ColdPressureRow 𝕜}
  {start : Int3}

/-- The rows of the block are those of a box in the matrix. -/
structure BlockOf (globalCells : Int3) (rows : Int3 → ColdPressureRow 𝕜) (start : Int3) : Prop where
  inside : ∀ c, InBox m.cells c → InBox globalCells (addIndex start c)
  rows_eq : ∀ c, InBox m.cells c → m.rows (rowIndex m.cells c) = rows (addIndex start c)

def upperCoefficient (c : Int3) (axis : Axis) : 𝕜 := (m.rows (rowIndex m.cells c)).neighbour (upperFace axis)

def BelowFine (inverse : ℕ → 𝕜) (c : Int3) : Prop := ∀ axis, 0 < component c axis →
  0 < pivotAt m inverse (below c axis) ∧ inverse (rowIndex m.cells (below c axis)) = (pivotAt m inverse (below c axis))⁻¹ ∧
    ∑ other, upperCoefficient m (below c axis) other ≤ pivotAt m inverse (below c axis)

lemma addIndex_above (start c : Int3) (axis : Axis) :
    addIndex start (above c axis) = addIndex (addIndex start c) (directionDelta (upperFace axis)) := (addIndex_assoc _ _ _).symm

lemma addIndex_below (start c : Int3) (axis : Axis) :
    addIndex start (below c axis) = addIndex (addIndex start c) (directionDelta (lowerFace axis)) := (addIndex_assoc _ _ _).symm

variable {m} (hblock : BlockOf m globalCells rows start) (hadmissible : MatrixAdmissible globalCells periodic rows)
  {inverse : ℕ → 𝕜} {c : Int3}

include hblock hadmissible

lemma BlockOf.symmetric (hc : InBox m.cells c) {axis : Axis} (hpos : 0 < component c axis) :
    lowerCoefficient m c axis = upperCoefficient m (below c axis) axis := by
  have hbelow := (below_inBox_iff hc axis).mpr hpos
  have hbeside : addIndex (addIndex start (below c axis)) (directionDelta (upperFace axis)) = addIndex start c := by
    rw [← addIndex_above, above_below]
  have hinside : InBox globalCells (addIndex (addIndex start (below c axis)) (directionDelta (upperFace axis))) := by
    rw [hbeside]
    exact hblock.inside c hc
  have hequal := hadmissible.symmetric _ (hblock.inside _ hbelow) (upperFace axis) (.inr hinside)
  rw [besideCell_of_inBox hinside, hbeside, oppositeFace_upperFace] at hequal
  rw [lowerCoefficient, upperCoefficient, hblock.rows_eq c hc, hblock.rows_eq _ hbelow]
  exact hequal

lemma BlockOf.coefficients (hc : InBox m.cells c) : (∀ axis, 0 ≤ lowerCoefficient m c axis) ∧ (∀ axis, 0 ≤ upperCoefficient m c axis) ∧
    ∑ axis, lowerCoefficient m c axis + ∑ axis, upperCoefficient m c axis ≤ (m.rows (rowIndex m.cells c)).diagonal := by
  have hfine := hadmissible.fine _ (hblock.inside c hc)
  have hweak := hfine.weak
  rw [sum_faces, ← hblock.rows_eq c hc] at hweak
  have hrow := hfine.neighbour
  rw [← hblock.rows_eq c hc] at hrow
  exact ⟨fun axis => hrow _, fun axis => hrow _, hweak⟩

variable [IsStrictOrderedRing 𝕜]

lemma BlockOf.taken_le (hc : InBox m.cells c) (hbelow : BelowFine m inverse c) (axis : Axis) :
    (if 0 < component c axis then
      lowerCoefficient m c axis * lowerCoefficient m c axis * inverse (rowIndex m.cells (below c axis)) else 0) ≤
      lowerCoefficient m c axis := by
  obtain ⟨hlower, -⟩ := hblock.coefficients hadmissible hc
  split
  · rename_i hpos
    obtain ⟨hpivot, hinverse, hupper⟩ := hbelow axis hpos
    obtain ⟨-, hnonneg, -⟩ := hblock.coefficients hadmissible ((below_inBox_iff hc axis).mpr hpos)
    have hone : upperCoefficient m (below c axis) axis ≤ pivotAt m inverse (below c axis) :=
      (Finset.single_le_sum (fun other _ => hnonneg other) (Finset.mem_univ axis)).trans hupper
    rw [← hblock.symmetric hadmissible hc hpos] at hone
    rw [hinverse, ← div_eq_mul_inv, div_le_iff₀ hpivot]
    exact mul_le_mul_of_nonneg_left hone (hlower axis)
  · exact hlower axis

lemma BlockOf.upper_le (hc : InBox m.cells c) (hbelow : BelowFine m inverse c) :
    ∑ axis, upperCoefficient m c axis ≤ pivotAt m inverse c ∧
      (pivotAt m inverse c = ∑ axis, upperCoefficient m c axis → ¬ StrictRow rows (addIndex start c) ∧
        ∀ axis, 0 < lowerCoefficient m c axis → 0 < component c axis ∧
          pivotAt m inverse (below c axis) = lowerCoefficient m c axis) := by
  have htaken := hblock.taken_le hadmissible hc hbelow
  obtain ⟨hlower, hupper, hweak⟩ := hblock.coefficients hadmissible hc
  have hsum := Finset.sum_le_sum fun axis (_ : axis ∈ Finset.univ) => htaken axis
  rw [pivotAt_eq m inverse hc]
  refine ⟨by linarith, fun htight => ⟨?_, fun axis hpos => ?_⟩⟩
  · rw [StrictRow, ← hblock.rows_eq c hc, sum_faces, not_lt]
    change (m.rows (rowIndex m.cells c)).diagonal ≤ ∑ axis, lowerCoefficient m c axis + ∑ axis, upperCoefficient m c axis
    linarith
  · have hequal := (Finset.sum_eq_sum_iff_of_le fun axis _ => htaken axis).mp (by linarith) axis (Finset.mem_univ axis)
    split at hequal
    · rename_i hcomp
      obtain ⟨hpivot, hinverse, -⟩ := hbelow axis hcomp
      refine ⟨hcomp, ?_⟩
      rw [hinverse, mul_assoc, mul_eq_left₀ hpos.ne', mul_inv_eq_one₀ hpivot.ne'] at hequal
      exact hequal.symm
    · exact absurd hequal.symm hpos.ne'

lemma BlockOf.belowFine {before after : List Int3} (hsplit : boxIndices m.cells = before ++ c :: after)
    (hbefore : Factored m inverse before) (k : ℕ) {d : Int3} (hd : InBox m.cells d) (hk : rowIndex m.cells d = k)
    (hle : rowIndex m.cells d ≤ rowIndex m.cells c) : BelowFine m inverse d := by
  induction k using Nat.strong_induction_on generalizing d with
  | _ k ih =>
    intro axis hpos
    have hbelow := (below_inBox_iff hd axis).mpr hpos
    have hindex := rowIndex_above hbelow axis
    rw [above_below] at hindex
    have hstride := stride_pos hd axis
    obtain ⟨hpivot, hinverse⟩ := hbefore _ (mem_before hsplit hbelow (by omega))
    have hfine := ih _ (by omega) hbelow rfl (by omega)
    exact ⟨hpivot, hinverse, (hblock.upper_le hadmissible hbelow hfine).1⟩

lemma BlockOf.pivot_pos {before after : List Int3} (hsplit : boxIndices m.cells = before ++ c :: after)
    (hbefore : Factored m inverse before) : 0 < pivotAt m inverse c := by
  have hc : InBox m.cells c := mem_boxIndices_iff.mp (by rw [hsplit]; simp)
  have hfine : ∀ {d}, InBox m.cells d → rowIndex m.cells d ≤ rowIndex m.cells c → BelowFine m inverse d :=
    fun hd hle => hblock.belowFine hadmissible hsplit hbefore _ hd rfl hle
  have hbound : ∀ {d}, InBox m.cells d → rowIndex m.cells d ≤ rowIndex m.cells c → _ :=
    fun hd hle => hblock.upper_le hadmissible hd (hfine hd hle)
  by_contra hnot
  obtain ⟨-, hupper, -⟩ := hblock.coefficients hadmissible hc
  have hnone : ∑ axis, upperCoefficient m c axis = 0 :=
    le_antisymm ((hbound hc le_rfl).1.trans (not_lt.mp hnot)) (Finset.sum_nonneg fun axis _ => hupper axis)
  -- what the vanishing pivot is coupled to, going down
  let Under : Int3 → Prop := Relation.ReflTransGen (fun s t => ∃ axis, 0 < lowerCoefficient m s axis ∧ t = below s axis) c
  have hunder : ∀ t, Under t → InBox m.cells t ∧ rowIndex m.cells t ≤ rowIndex m.cells c ∧
      pivotAt m inverse t = ∑ axis, upperCoefficient m t axis ∧
      ∀ axis, 0 < upperCoefficient m t axis → Under (above t axis) := by
    intro t ht
    induction ht with
    | refl =>
      refine ⟨hc, le_rfl, le_antisymm ((not_lt.mp hnot).trans hnone.ge) (hbound hc le_rfl).1, fun axis hpos => ?_⟩
      exact absurd ((Finset.sum_eq_zero_iff_of_nonneg fun other _ => hupper other).mp hnone axis (Finset.mem_univ _)) hpos.ne'
    | @tail s t hs hstep ih =>
      obtain ⟨axis, hpos, rfl⟩ := hstep
      obtain ⟨hbox, hle, htight, -⟩ := ih
      obtain ⟨hcomp, hpivot⟩ := ((hbound hbox hle).2 htight).2 axis hpos
      have hbelow := (below_inBox_iff hbox axis).mpr hcomp
      have hindex := rowIndex_above hbelow axis
      rw [above_below] at hindex
      have hbelow_le : rowIndex m.cells (below s axis) ≤ rowIndex m.cells c := by omega
      obtain ⟨-, hnonneg, -⟩ := hblock.coefficients hadmissible hbelow
      rw [hblock.symmetric hadmissible hbox hcomp] at hpivot
      have hsum := (hbound hbelow hbelow_le).1
      have hsplitSum := Finset.add_sum_erase Finset.univ (fun other => upperCoefficient m (below s axis) other) (Finset.mem_univ axis)
      have hothers : ∑ other ∈ Finset.univ.erase axis, upperCoefficient m (below s axis) other = 0 :=
        le_antisymm (by linarith) (Finset.sum_nonneg fun other _ => hnonneg other)
      refine ⟨hbelow, hbelow_le, by linarith, fun other hother => ?_⟩
      by_cases heq : other = axis
      · rw [heq, above_below]
        exact hs
      · have hzero := (Finset.sum_eq_zero_iff_of_nonneg fun other _ => hnonneg other).mp hothers other
          (Finset.mem_erase.mpr ⟨heq, Finset.mem_univ _⟩)
        exact absurd hzero hother.ne'
  have hclosed : ∀ a b, RowsCoupled globalCells rows a b → (∃ t, Under t ∧ a = addIndex start t) →
      ∃ t, Under t ∧ b = addIndex start t := by
    rintro a b ⟨-, f, hpos, rfl⟩ ⟨t, ht, rfl⟩
    obtain ⟨hbox, hle, htight, hup⟩ := hunder t ht
    rw [← hblock.rows_eq t hbox] at hpos
    rcases face_cases f with hf | hf
    · rw [hf] at hpos ⊢
      have hnext : Under (below t (faceAxis f)) := ht.tail ⟨_, hpos, rfl⟩
      refine ⟨_, hnext, ?_⟩
      rw [addIndex_below, besideCell_of_inBox]
      rw [← addIndex_below]
      exact hblock.inside _ (hunder _ hnext).1
    · rw [hf] at hpos ⊢
      have hnext := hup _ hpos
      refine ⟨_, hnext, ?_⟩
      rw [addIndex_above, besideCell_of_inBox]
      rw [← addIndex_above]
      exact hblock.inside _ (hunder _ hnext).1
  obtain ⟨d, -, hstrict, hconn⟩ := hadmissible.components _ (hblock.inside c hc)
  have hsame := eq_of_eqvGen (f := fun a => ∃ t, Under t ∧ a = addIndex start t)
    (fun a b hab => propext ⟨hclosed a b hab, hclosed b a (hadmissible.coupled_back hab)⟩) hconn
  obtain ⟨t, ht, rfl⟩ := hsame.mpr ⟨c, .refl, rfl⟩
  obtain ⟨hbox, hle, htight, -⟩ := hunder t ht
  exact ((hbound hbox hle).2 htight).1 hstrict

end Pivots

open Lib EBTopology MgWorkspace IccgMatrix ColdPressureIccg Matrix

variable {𝕜 : Type} [Field 𝕜] [LinearOrder 𝕜]

structure WholeBlock (m : ColdPressureIccg 𝕜) : Prop where
  nonempty : ∀ axis, 0 < component m.cells axis
  rowCount : m.rowCount = m.cells.x.toNat * m.cells.y.toNat * m.cells.z.toNat % 2 ^ 64

/-- The sweeps apply the inverse of the preconditioner, which is symmetric and positive definite. -/
structure SpdPreconditioner (p : ColdPressureIccg 𝕜) : Prop where
  pivots : ∀ c : boxCells p.cells, 0 < pivotAt p p.inverse c ∧ (inverseAt p c)⁻¹ = pivotAt p p.inverse c
  unit : IsUnit (preconditioner p)
  symmetric : (preconditioner p).IsSymm ∧ (preconditioner p)⁻¹.IsSymm
  positive : ∀ x ≠ 0, 0 < x ⬝ᵥ ((preconditioner p)⁻¹ *ᵥ x)
  applies : ∀ (ι : Type) [DecidableEq ι] (inputView outputView : FieldView) (input output : ι) (memory : ι → Int3 → 𝕜),
    validCellView inputView p.cells 0 1 0 = true → validCellView outputView p.cells 0 1 0 = true →
    ∃ z, p.apply inputView outputView input output memory = ({}, Function.update memory output z) ∧
      (∀ c, ¬ InBox p.cells c → z c = memory output c) ∧
      (fun c : boxCells p.cells => z c) = (preconditioner p)⁻¹ *ᵥ fun c => memory input c

lemma prepare_eq {m : ColdPressureIccg 𝕜} (h : WholeBlock m) : m.prepare =
    ((m.factorize m.numbered m.inverse).1,
      { m with
        inverse := (m.factorize m.numbered m.inverse).2
        prepared := (m.factorize m.numbered m.inverse).1.isOk }) := by
  have hx := h.nonempty .x
  have hy := h.nonempty .y
  have hz := h.nonempty .z
  simp only [component] at hx hy hz
  rw [prepare, if_neg]
  rintro (hbad | hbad | hbad | hbad)
  · omega
  · omega
  · omega
  · exact hbad h.rowCount

lemma wholeBlock_of_prepare {m p : ColdPressureIccg 𝕜} (h : m.prepare = ({}, p)) : WholeBlock m := by
  unfold prepare at h
  split at h
  · cases congrArg (fun r => r.1.code) h
  · rename_i hgood
    push Not at hgood
    obtain ⟨hx, hy, hz, hcount⟩ := hgood
    exact ⟨fun axis => by cases axis <;> assumption, hcount⟩

lemma factorize_block (m : ColdPressureIccg 𝕜) :
    (∃ inverse, m.factorize m.numbered m.inverse = ({}, inverse) ∧ Factored m inverse (boxIndices m.cells)) ∨
    ∃ inverse b c a, m.factorize m.numbered m.inverse = (⟨.numericalFailure, 17868⟩, inverse) ∧
      boxIndices m.cells = b ++ c :: a ∧ Factored m inverse b ∧ pivotAt m inverse c ≤ 0 := by
  rw [numbered_eq]
  exact factorize_cases m (List.nil_append _).symm fun c hc => absurd hc List.not_mem_nil

variable [IsStrictOrderedRing 𝕜]

lemma Factored.spd {p : ColdPressureIccg 𝕜} (hprepared : p.prepared = true) (h : Factored p p.inverse (boxIndices p.cells)) :
    SpdPreconditioner p := by
  have hcell : ∀ c : boxCells p.cells, 0 < pivotAt p p.inverse c ∧ inverseAt p c = (pivotAt p p.inverse c)⁻¹ :=
    fun c => h c (mem_boxIndices_iff.mpr (mem_boxCells.mp c.2))
  have hne : ∀ c, inverseAt p c ≠ 0 := fun c => by
    rw [(hcell c).2]
    exact inv_ne_zero (hcell c).1.ne'
  have hpos : ∀ c, 0 < (inverseAt p c)⁻¹ := fun c => by
    rw [(hcell c).2, inv_inv]
    exact (hcell c).1
  have hunit : IsUnit (preconditioner p) := by
    refine mulVec_surjective_iff_isUnit.mp fun x => ?_
    obtain ⟨z, -, -, hz⟩ := sweeps_solve p hne () () fun _ c => if hc : c ∈ boxCells p.cells then x ⟨c, hc⟩ else 0
    refine ⟨_, hz.trans (funext fun c => ?_)⟩
    exact dif_pos c.2
  refine ⟨fun c => ⟨(hcell c).1, by rw [(hcell c).2, inv_inv]⟩, hunit, ⟨factoredProduct_isSymm, ?_⟩, ?_, ?_⟩
  · rw [IsSymm, transpose_nonsing_inv]
    exact congrArg _ factoredProduct_isSymm
  · exact fun x hx => factoredProduct_inv_pos hunit hpos hx
  · intro ι _ inputView outputView input output memory hinput houtput
    obtain ⟨z, hz, hout, hsolves⟩ := sweeps_solve p hne input output memory
    refine ⟨z, ?_, hout, eq_inv_mulVec hunit hsolves⟩
    rw [apply, if_neg (by rw [hprepared, hinput, houtput]; simp), hz]

/-- Where `prepare` succeeds, `apply` is the inverse of a symmetric positive definite matrix, and on blocks of an admissible
matrix it always succeeds. -/
theorem iccg_preconditioner (m : ColdPressureIccg 𝕜) :
    (∀ p, m.prepare = ({}, p) → p.rows = m.rows ∧ p.cells = m.cells ∧ SpdPreconditioner p) ∧
    ∀ (globalCells : Int3) (periodic : Axis → Bool) (rows : Int3 → ColdPressureRow 𝕜) (start : Int3),
      MatrixAdmissible globalCells periodic rows → BlockOf m globalCells rows start → WholeBlock m → m.prepare.1 = {} := by
  refine ⟨fun p hp => ?_, fun globalCells periodic rows start hadmissible hblock hwhole => ?_⟩
  · have heq := prepare_eq (wholeBlock_of_prepare hp)
    rw [hp, Prod.mk.injEq] at heq
    obtain ⟨hstatus, rfl⟩ := heq
    refine ⟨rfl, rfl, ?_⟩
    rcases factorize_block m with ⟨inverse, hloop, hfactored⟩ | ⟨inverse, b, c, a, hloop, -⟩
    · simp only [hloop]
      exact Factored.spd rfl hfactored
    · rw [hloop] at hstatus
      cases congrArg Status.code hstatus
  · rw [prepare_eq hwhole]
    rcases factorize_block m with ⟨inverse, hloop, -⟩ | ⟨inverse, b, c, a, -, hsplit, hfactored, hpivot⟩
    · rw [hloop]
    · exact absurd hpivot (not_le.mpr (hblock.pivot_pos hadmissible hsplit hfactored))

/-- The block of all rows of a small matrix. -/
def snakeBlock : ColdPressureIccg ℚ where
  rows := fun i => snakeRows 2 ⟨(i % 4 : ℕ), (i / 4 : ℕ), 0⟩
  rowCount := 8
  cells := snakeCells 2
  inverse := fun _ => 0
  prepared := false

theorem iccg_preconditioner_snake : snakeBlock.prepare.1 = {} ∧ SpdPreconditioner snakeBlock.prepare.2 := by
  have hblock : BlockOf snakeBlock (snakeCells 2) (snakeRows 2) ⟨0, 0, 0⟩ := by
    have hzero : ∀ c, addIndex ⟨0, 0, 0⟩ c = c := fun c => by simp only [addIndex, zero_add]
    refine ⟨fun c hc => (hzero c).symm ▸ hc, fun c hc => ?_⟩
    rw [hzero]
    obtain ⟨⟨hx, hx'⟩, ⟨hy, hy'⟩, hz, hz'⟩ := hc
    obtain ⟨x, y, z⟩ := c
    change x < 4 at hx'
    change y < 2 at hy'
    change z < 1 at hz'
    obtain rfl : z = 0 := by dsimp only at hz; omega
    have hindex : rowIndex snakeBlock.cells ⟨x, y, 0⟩ = x.toNat + 4 * (y.toNat + 2 * 0) := rfl
    rw [hindex]
    change snakeRows 2 _ = _
    congr 1
    rw [Int3.mk.injEq]
    dsimp only at hx hy
    omega
  have hwhole : WholeBlock snakeBlock := ⟨fun axis => by cases axis <;> decide, by decide⟩
  have hstatus := (iccg_preconditioner snakeBlock).2 _ _ _ _ (snake_admissible (by decide)) hblock hwhole
  exact ⟨hstatus, ((iccg_preconditioner snakeBlock).1 _ (Prod.ext hstatus rfl)).2.2⟩

end HundunFlow.Proofs
