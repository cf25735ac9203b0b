import HundunFlow.IccgFactor
import HundunFlow.Lib.FactoredProduct
import HundunFlow.Proofs.IccgAdmission
import HundunFlow.Proofs.LegacyFrames

/-!
# The sweeps of the preconditioner

The loops run through the cells in the order of the rows, so that the forward sweep finds the values
below a cell done and the backward sweep those above it.
-/

namespace HundunFlow.Proofs

open Lib EBTopology MgWorkspace IccgMatrix ColdPressureIccg List Function

section Order

variable {cells c d : Int3}

def rowIndex (cells c : Int3) : ℕ := c.x.toNat + cells.x.toNat * (c.y.toNat + cells.y.toNat * c.z.toNat)

lemma flatMap_range (a b : ℕ) : (range b).flatMap (fun y => (range a).map fun x => x + a * y) = range (a * b) := by
  induction b with
  | zero => rfl
  | succ b ih =>
    rw [range_succ, flatMap_append, ih, flatMap_singleton, Nat.mul_succ, range_add]
    congr 1
    exact map_congr_left fun x _ => Nat.add_comm _ _

lemma map_rowIndex (cells : Int3) :
    (boxIndices cells).map (rowIndex cells) = range (cells.x.toNat * cells.y.toNat * cells.z.toNat) := by
  have hplane : ∀ z : ℕ, ((range cells.y.toNat).flatMap fun y : ℕ => (range cells.x.toNat).map fun x : ℕ =>
      x + cells.x.toNat * (y + cells.y.toNat * z)) =
      (range (cells.x.toNat * cells.y.toNat)).map fun k => k + cells.x.toNat * cells.y.toNat * z := by
    intro z
    rw [← flatMap_range, map_flatMap]
    simp only [map_map, comp_def]
    congr 1
    funext y
    exact map_congr_left fun x _ => by ring
  rw [← flatMap_range (cells.x.toNat * cells.y.toNat) cells.z.toNat, boxIndices]
  simp only [map_flatMap, map_map, comp_def, rowIndex, Int.toNat_natCast]
  congr 1
  funext z
  exact hplane z

lemma numbered_eq {𝕜 : Type} (m : ColdPressureIccg 𝕜) :
    m.numbered = (boxIndices m.cells).map fun c => (c, rowIndex m.cells c) := by
  refine ext_getElem (by rw [numbered, length_zipIdx, length_map]) fun k hk hk' => ?_
  have hlength : k < (boxIndices m.cells).length := by rwa [length_map] at hk'
  have hmap : k < ((boxIndices m.cells).map (rowIndex m.cells)).length := by rwa [length_map]
  have hindex : ((boxIndices m.cells).map (rowIndex m.cells))[k] = k := by simp only [map_rowIndex, getElem_range]
  rw [getElem_map] at hindex
  simp only [numbered, getElem_zipIdx, getElem_map, hindex, Nat.zero_add]

lemma rowIndex_above (hc : InBox cells c) (axis : Axis) : rowIndex cells (above c axis) = rowIndex cells c + stride cells axis := by
  obtain ⟨⟨hx, -⟩, ⟨hy, -⟩, hz, -⟩ := hc
  have hsucc : ∀ k : ℤ, 0 ≤ k → (k + 1).toNat = k.toNat + 1 := fun k hk => by omega
  cases axis
  · simp only [rowIndex, above, addIndex, directionDelta, upperFace, stride, add_zero, hsucc _ hx]
    ring
  · simp only [rowIndex, above, addIndex, directionDelta, upperFace, stride, add_zero, hsucc _ hy]
    ring
  · simp only [rowIndex, above, addIndex, directionDelta, upperFace, stride, add_zero, hsucc _ hz]
    ring

lemma above_below (c : Int3) (axis : Axis) : above (below c axis) axis = c := by
  cases axis <;> simp [above, below, addIndex, directionDelta, upperFace, lowerFace]

lemma below_above (c : Int3) (axis : Axis) : below (above c axis) axis = c := by
  cases axis <;> simp [above, below, addIndex, directionDelta, upperFace, lowerFace]

lemma below_inBox_iff (hc : InBox cells c) (axis : Axis) : InBox cells (below c axis) ↔ 0 < component c axis := by
  obtain ⟨⟨hx, hx'⟩, ⟨hy, hy'⟩, hz, hz'⟩ := hc
  cases axis <;> simp only [InBox, below, addIndex, directionDelta, lowerFace, component] <;> omega

lemma above_inBox_iff (hc : InBox cells c) (axis : Axis) :
    InBox cells (above c axis) ↔ component c axis + 1 < component cells axis := by
  obtain ⟨⟨hx, hx'⟩, ⟨hy, hy'⟩, hz, hz'⟩ := hc
  cases axis <;> simp only [InBox, above, addIndex, directionDelta, upperFace, component] <;> omega

lemma stride_pos (hc : InBox cells c) (axis : Axis) : 0 < stride cells axis := by
  obtain ⟨⟨hx, hx'⟩, ⟨hy, hy'⟩, -⟩ := hc
  have hx₀ : 0 < cells.x.toNat := by omega
  have hy₀ : 0 < cells.y.toNat := by omega
  cases axis
  · exact Nat.one_pos
  · exact hx₀
  · exact Nat.mul_pos hx₀ hy₀

lemma mem_before {before after : List Int3} (h : boxIndices cells = before ++ c :: after) (hd : InBox cells d)
    (hlt : rowIndex cells d < rowIndex cells c) : d ∈ before := by
  have hrange := map_rowIndex cells
  rw [h, map_append, map_cons] at hrange
  have hsorted : ((before.map (rowIndex cells)) ++ rowIndex cells c :: after.map (rowIndex cells)).Pairwise (· < ·) := by
    rw [hrange]
    exact pairwise_lt_range
  have hmem : d ∈ before ++ c :: after := h ▸ mem_boxIndices_iff.mpr hd
  rcases mem_append.mp hmem with hbefore | hbehind
  · exact hbefore
  · rcases mem_cons.mp hbehind with rfl | hafter
    · exact absurd hlt (lt_irrefl _)
    · have hgt := rel_of_pairwise_cons (pairwise_append.mp hsorted).2.1 (mem_map_of_mem hafter)
      exact absurd hlt (lt_asymm hgt)

lemma mem_after {before after : List Int3} (h : boxIndices cells = before ++ c :: after) (hd : InBox cells d)
    (hlt : rowIndex cells c < rowIndex cells d) : d ∈ after := by
  have hmem : d ∈ before ++ c :: after := h ▸ mem_boxIndices_iff.mpr hd
  rcases mem_append.mp hmem with hbefore | hbehind
  · obtain ⟨first, second, rfl⟩ := append_of_mem hbefore
    rw [append_assoc, cons_append] at h
    have hc : c ∈ first := mem_before h (mem_boxIndices_iff.mp (by rw [h]; simp)) hlt
    have hnodup := boxIndices_nodup cells
    rw [h] at hnodup
    exact absurd rfl ((nodup_append.mp hnodup).2.2 c hc c (by simp))
  · rcases mem_cons.mp hbehind with rfl | hafter
    · exact absurd hlt (lt_irrefl _)
    · exact hafter

end Order

instance : Fintype Axis := ⟨{.x, .y, .z}, fun axis => by cases axis <;> decide⟩

lemma sum_axes {M : Type} [AddCommMonoid M] (g : Axis → M) : ∑ axis, g axis = g .x + (g .y + g .z) := by
  have huniv : (Finset.univ : Finset Axis) = {.x, .y, .z} := rfl
  rw [huniv, Finset.sum_insert (by decide), Finset.sum_insert (by decide), Finset.sum_singleton]

section Sums

variable {𝕜 : Type} [Field 𝕜]

variable (p : Axis → Prop)

variable (g : Axis → 𝕜)

lemma foldl_axes_add [DecidablePred p] (start : 𝕜) :
    axes.foldl (fun value axis => if p axis then value + g axis else value) start =
      start + ∑ axis, if p axis then g axis else 0 := by
  have hstep : ∀ (value : 𝕜) axis, (if p axis then value + g axis else value) = value + if p axis then g axis else 0 := by
    intro value axis
    split
    · rfl
    · rw [add_zero]
  simp only [hstep, axes, foldl_cons, foldl_nil, sum_axes]
  ring

lemma foldl_axes_sub [DecidablePred p] (start : 𝕜) :
    axes.foldl (fun value axis => if p axis then value - g axis else value) start =
      start - ∑ axis, if p axis then g axis else 0 := by
  have hstep : ∀ (value : 𝕜) axis, (if p axis then value - g axis else value) = value + if p axis then -g axis else 0 := by
    intro value axis
    split
    · exact sub_eq_add_neg _ _
    · rw [add_zero]
  have hneg : ∀ axis, (if p axis then -g axis else 0) = -if p axis then g axis else 0 := fun axis => by
    rw [apply_ite Neg.neg, neg_zero]
  simp only [hstep, axes, foldl_cons, foldl_nil, sum_axes, hneg]
  ring

end Sums

section Stores

variable {𝕜 ι : Type} [DecidableEq ι]

lemma foldl_store {value : (Int3 → 𝕜) → Int3 → 𝕜} {memory : ι → Int3 → 𝕜} {output : ι}
    (step : (ι → Int3 → 𝕜) → Int3 → ι → Int3 → 𝕜)
    (hstep : ∀ f c, step (Function.update memory output f) c = Function.update memory output (Function.update f c (value f c)))
    (l : List Int3) : l.foldl step memory = Function.update memory output (inPlace value l (memory output)) := by
  have hfold : ∀ f, l.foldl step (Function.update memory output f) = Function.update memory output (inPlace value l f) := by
    induction l with
    | nil => exact fun f => rfl
    | cons c l ih => exact fun f => by rw [foldl_cons, hstep, ih, inPlace]
  rw [← hfold, update_eq_self]

lemma storeAt_update (memory : ι → Int3 → 𝕜) (output : ι) (f : Int3 → 𝕜) (c : Int3) (v : 𝕜) :
    storeAt (Function.update memory output f) output c v = Function.update memory output (Function.update f c v) := by
  rw [storeAt, update_self, update_idem]

end Stores

section Sweeps

variable {𝕜 ι : Type} [Field 𝕜] [DecidableEq ι] (m : ColdPressureIccg 𝕜)

def lowerCoefficient (c : Int3) (axis : Axis) : 𝕜 := (m.rows (rowIndex m.cells c)).neighbour (lowerFace axis)

lemma forward_sweep (input output : ι) (memory : ι → Int3 → 𝕜) :
    ∃ y, m.numbered.foldl (m.forward input output) memory = Function.update memory output y ∧
      (∀ c, ¬ InBox m.cells c → y c = memory output c) ∧
      ∀ c, InBox m.cells c → y c = (memory input c +
        ∑ axis, if 0 < component c axis then lowerCoefficient m c axis * y (below c axis) else 0) *
          m.inverse (rowIndex m.cells c) := by
  set value : (Int3 → 𝕜) → Int3 → 𝕜 := fun f c => ((if input = output then f c else memory input c) +
    ∑ axis, if 0 < component c axis then lowerCoefficient m c axis * f (below c axis) else 0) *
      m.inverse (rowIndex m.cells c) with hvalue
  refine ⟨inPlace value (boxIndices m.cells) (memory output), ?_, fun c hc => ?_, fun c hc => ?_⟩
  · have hstep : ∀ f c, m.forward input output (Function.update memory output f) (c, rowIndex m.cells c) =
        Function.update memory output (Function.update f c (value f c)) := by
      intro f c
      have hinput : Function.update memory output f input c = if input = output then f c else memory input c := by
        rw [update_apply]
        split <;> rfl
      rw [forward, storeAt_update, foldl_axes_add, hinput, update_self]
      rfl
    rw [numbered_eq, foldl_map]
    exact foldl_store (fun memory c => m.forward input output memory (c, rowIndex m.cells c)) hstep (boxIndices m.cells)
  · exact inPlace_of_notMem (fun hmem => hc (mem_boxIndices_iff.mp hmem)) _
  · obtain ⟨before, after, hsplit⟩ := append_of_mem (mem_boxIndices_iff.mpr hc)
    have hnodup := boxIndices_nodup m.cells
    rw [hsplit] at hnodup
    have hat := inPlace_at (v := value) hnodup (memory output)
    rw [← hsplit] at hat
    have hself : c ∉ before := fun hmem => (nodup_append.mp hnodup).2.2 c hmem c (by simp) rfl
    rw [hat, hvalue]
    dsimp only
    rw [if_neg hself]
    have hsource : (if input = output then memory output c else memory input c) = memory input c := by
      split
      · rename_i heq
        rw [heq]
      · rfl
    rw [hsource]
    congr 2
    refine Finset.sum_congr rfl fun axis _ => ?_
    split
    · rename_i hpos
      have hbelow := (below_inBox_iff hc axis).mpr hpos
      have hindex := rowIndex_above hbelow axis
      rw [above_below] at hindex
      rw [if_pos (mem_before hsplit hbelow (by have := stride_pos hc axis; omega))]
    · rfl

lemma backward_sweep (output : ι) (memory : ι → Int3 → 𝕜) :
    ∃ z, m.numbered.reverse.foldl (m.backward output) memory = Function.update memory output z ∧
      (∀ c, ¬ InBox m.cells c → z c = memory output c) ∧
      ∀ c, InBox m.cells c → z c = memory output c +
        (∑ axis, if component c axis + 1 < component m.cells axis then
          lowerCoefficient m (above c axis) axis * z (above c axis) else 0) * m.inverse (rowIndex m.cells c) := by
  set value : (Int3 → 𝕜) → Int3 → 𝕜 := fun f c => f c + (∑ axis, if component c axis + 1 < component m.cells axis then
    (m.rows (rowIndex m.cells c + stride m.cells axis)).neighbour (lowerFace axis) * f (above c axis) else 0) *
      m.inverse (rowIndex m.cells c) with hvalue
  refine ⟨inPlace value (boxIndices m.cells).reverse (memory output), ?_, fun c hc => ?_, fun c hc => ?_⟩
  · have hstep : ∀ f c, m.backward output (Function.update memory output f) (c, rowIndex m.cells c) =
        Function.update memory output (Function.update f c (value f c)) := by
      intro f c
      rw [backward, storeAt_update, foldl_axes_add, update_self, zero_add]
    rw [numbered_eq, ← map_reverse, foldl_map]
    exact foldl_store (fun memory c => m.backward output memory (c, rowIndex m.cells c)) hstep (boxIndices m.cells).reverse
  · exact inPlace_of_notMem (fun hmem => hc (mem_boxIndices_iff.mp (mem_reverse.mp hmem))) _
  · obtain ⟨before, after, hsplit⟩ := append_of_mem (mem_boxIndices_iff.mpr hc)
    have hreverse : (boxIndices m.cells).reverse = after.reverse ++ c :: before.reverse := by
      rw [hsplit, reverse_append, reverse_cons, append_assoc, singleton_append]
    have hnodup := nodup_reverse.mpr (boxIndices_nodup m.cells)
    rw [hreverse] at hnodup
    have hat := inPlace_at (v := value) hnodup (memory output)
    rw [← hreverse] at hat
    have hself : c ∉ after.reverse := fun hmem => (nodup_append.mp hnodup).2.2 c hmem c (by simp) rfl
    rw [hat, hvalue]
    dsimp only
    rw [if_neg hself]
    congr 2
    refine Finset.sum_congr rfl fun axis _ => ?_
    split
    · rename_i hfits
      have habove := (above_inBox_iff hc axis).mpr hfits
      have hindex := rowIndex_above hc axis
      have hmem := mem_after hsplit habove (by have := stride_pos hc axis; omega)
      rw [if_pos (mem_reverse.mpr hmem), lowerCoefficient, hindex]
    · rfl

end Sweeps

open Matrix

variable {𝕜 : Type} [Field 𝕜] (m : ColdPressureIccg 𝕜)

def inverseAt (c : boxCells m.cells) : 𝕜 := m.inverse (rowIndex m.cells c)

def lowerFactor : Matrix (boxCells m.cells) (boxCells m.cells) 𝕜 :=
  diagonal (fun c => (inverseAt m c)⁻¹) -
    of fun c d : boxCells m.cells => ∑ axis, if above d axis = c then lowerCoefficient m c axis else 0

lemma lowerFactor_mulVec (y : Int3 → 𝕜) (c : boxCells m.cells) :
    (lowerFactor m *ᵥ fun d => y d) c = (inverseAt m c)⁻¹ * y c -
      ∑ axis, if 0 < component c axis then lowerCoefficient m c axis * y (below c axis) else 0 := by
  rw [lowerFactor, sub_mulVec, Pi.sub_apply, mulVec_diagonal, mulVec, dotProduct]
  simp only [of_apply, Finset.sum_mul]
  rw [Finset.sum_comm]
  congr 1
  refine Finset.sum_congr rfl fun axis _ => ?_
  have hc := mem_boxCells.mp c.2
  by_cases hpos : 0 < component c axis
  · have hbelow := mem_boxCells.mpr ((below_inBox_iff hc axis).mpr hpos)
    rw [if_pos hpos, Finset.sum_eq_single ⟨below c axis, hbelow⟩]
    · rw [if_pos (above_below _ _)]
    · intro d _ hne
      rw [if_neg, zero_mul]
      intro heq
      exact hne (Subtype.ext ((below_above d axis).symm.trans (congrArg (below · axis) heq)))
    · exact fun h => absurd (Finset.mem_univ _) h
  · rw [if_neg hpos]
    refine Finset.sum_eq_zero fun d _ => ?_
    rw [if_neg, zero_mul]
    intro heq
    apply hpos
    rw [← below_inBox_iff hc, ← heq, below_above]
    exact mem_boxCells.mp d.2

lemma lowerFactor_transpose_mulVec (z : Int3 → 𝕜) (c : boxCells m.cells) :
    ((lowerFactor m)ᵀ *ᵥ fun d => z d) c = (inverseAt m c)⁻¹ * z c -
      ∑ axis, if component c axis + 1 < component m.cells axis then
        lowerCoefficient m (above c axis) axis * z (above c axis) else 0 := by
  rw [lowerFactor, transpose_sub, diagonal_transpose, sub_mulVec, Pi.sub_apply, mulVec_diagonal, mulVec, dotProduct]
  simp only [transpose_apply, of_apply, Finset.sum_mul]
  rw [Finset.sum_comm]
  congr 1
  refine Finset.sum_congr rfl fun axis _ => ?_
  have hc := mem_boxCells.mp c.2
  by_cases hfits : component c axis + 1 < component m.cells axis
  · have habove := mem_boxCells.mpr ((above_inBox_iff hc axis).mpr hfits)
    rw [if_pos hfits, Finset.sum_eq_single ⟨above c axis, habove⟩]
    · rw [if_pos rfl]
    · intro d _ hne
      rw [if_neg, zero_mul]
      exact fun heq => hne (Subtype.ext heq.symm)
    · exact fun h => absurd (Finset.mem_univ _) h
  · rw [if_neg hfits]
    refine Finset.sum_eq_zero fun d _ => ?_
    rw [if_neg, zero_mul]
    intro heq
    apply hfits
    rw [← above_inBox_iff hc, heq]
    exact mem_boxCells.mp d.2

def preconditioner : Matrix (boxCells m.cells) (boxCells m.cells) 𝕜 :=
  factoredProduct (lowerFactor m) fun c => (inverseAt m c)⁻¹

variable {ι : Type} [DecidableEq ι]

lemma sweeps_solve (hinverse : ∀ c, inverseAt m c ≠ 0) (input output : ι) (memory : ι → Int3 → 𝕜) :
    ∃ z, m.numbered.reverse.foldl (m.backward output) (m.numbered.foldl (m.forward input output) memory) =
        Function.update memory output z ∧ (∀ c, ¬ InBox m.cells c → z c = memory output c) ∧
      preconditioner m *ᵥ (fun c => z c) = fun c : boxCells m.cells => memory input c := by
  obtain ⟨y, hforward, hyout, hy⟩ := forward_sweep m input output memory
  obtain ⟨z, hback, hzout, hz⟩ := backward_sweep m output (Function.update memory output y)
  simp only [update_self] at hzout hz
  refine ⟨z, ?_, fun c hc => (hzout c hc).trans (hyout c hc), ?_⟩
  · rw [hforward, hback, update_idem]
  · have hne : ∀ c : boxCells m.cells, m.inverse (rowIndex m.cells c) ≠ 0 := hinverse
    refine factoredProduct_solves (fun c => inv_ne_zero (hinverse c)) (y := fun c => y c) ?_ fun c => ?_
    · funext c
      rw [lowerFactor_mulVec, hy c (mem_boxCells.mp c.2), inverseAt]
      rw [mul_comm, mul_assoc, mul_inv_cancel₀ (hne c), mul_one, add_sub_cancel_right]
    · rw [lowerFactor_transpose_mulVec, hz c (mem_boxCells.mp c.2), inverseAt]
      rw [mul_add, mul_comm _ (_ * _), mul_assoc, mul_inv_cancel₀ (hne c), mul_one, add_sub_cancel_right]

end HundunFlow.Proofs
