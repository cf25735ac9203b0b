import HundunFlow.EBTopology
import HundunFlow.Proofs.MgCoarsening

/-!
# One exchange of planes

Both neighbours store what a rank sends, cell by cell, as long as the loops of the ranks run over the
same box.
-/

namespace HundunFlow.Proofs

open Lib EBTopology MgWorkspace List

@[simp] lemma component_addIndex (left right : Int3) (axis : Axis) :
    component (addIndex left right) axis = component left axis + component right axis := by
  cases axis <;> rfl

@[simp] lemma component_subIndex (left right : Int3) (axis : Axis) :
    component (subIndex left right) axis = component left axis - component right axis := by
  cases axis <;> rfl

@[simp] lemma component_haloIndex (cell : Int3) (axis : Axis) :
    component (haloIndex cell) axis = component cell axis + kRegionHalo := by
  cases axis <;> rfl

lemma component_setComponent (value : Int3) (axis other : Axis) (selected : ℤ) :
    component (setComponent value axis selected) other = if axis = other then selected else component value other := by
  split_ifs with h
  · rw [← h, component_setComponent_same]
  · exact component_setComponent_of_ne value selected h

lemma component_onPlane (axis other : Axis) (index : Int3) (plane : ℤ) :
    component (onPlane axis index plane) other =
      if axis = other then plane else component (exchangeBegin axis) other + component index other := by
  rw [onPlane, component_setComponent]
  cases other <;> rfl

lemma mem_boxIndices {count index : Int3} :
    index ∈ boxIndices count ↔ ∀ axis, 0 ≤ component index axis ∧ component index axis < component count axis := by
  simp only [boxIndices, mem_flatMap, mem_map, mem_range]
  constructor
  · rintro ⟨z, hz, y, hy, x, hx, rfl⟩ axis
    cases axis <;> simp only [component] <;> omega
  · intro h
    have hx := h .x
    have hy := h .y
    have hz := h .z
    simp only [component] at hx hy hz
    refine ⟨index.z.toNat, by omega, index.y.toNat, by omega, index.x.toNat, by omega, ?_⟩
    apply int3_ext
    intro axis
    cases axis <;> simp only [component] <;> omega

lemma addIndex_subIndex (cell begin_ : Int3) : addIndex begin_ (subIndex cell begin_) = cell := by
  apply int3_ext
  intro axis
  rw [component_addIndex, component_subIndex]
  ring

lemma subIndex_addIndex (cell begin_ : Int3) : subIndex (addIndex begin_ cell) begin_ = cell := by
  apply int3_ext
  intro axis
  rw [component_subIndex, component_addIndex]
  ring

lemma boxIndices_nodup (count : Int3) : (boxIndices count).Nodup := by
  unfold boxIndices
  rw [nodup_flatMap]
  constructor
  · intro z _
    rw [nodup_flatMap]
    constructor
    · intro y _
      apply nodup_range.map
      intro x x' h
      simpa using h
    · apply nodup_range.imp
      intro y y' hne
      rw [Function.onFun, disjoint_left]
      intro index hindex hindex'
      obtain ⟨x, -, rfl⟩ := mem_map.mp hindex
      obtain ⟨x', -, h⟩ := mem_map.mp hindex'
      simp only [Int3.mk.injEq] at h
      omega
  · apply nodup_range.imp
    intro z z' hne
    rw [Function.onFun, disjoint_left]
    intro index hindex hindex'
    obtain ⟨y, -, hy⟩ := mem_flatMap.mp hindex
    obtain ⟨x, -, rfl⟩ := mem_map.mp hy
    obtain ⟨y', -, hy'⟩ := mem_flatMap.mp hindex'
    obtain ⟨x', -, h⟩ := mem_map.mp hy'
    simp only [Int3.mk.injEq] at h
    omega

variable {halo : Region} {stores : List (Int3 × ℕ)} {index : Int3}

abbrev storeAll (stores : List (Int3 × ℕ)) (halo : Region) : Region :=
  stores.foldl (fun halo store => setHalo halo store.1 store.2) halo

lemma storeAll_of_not_mem (h : ∀ store ∈ stores, store.1 ≠ index) : storeAll stores halo index = halo index := by
  induction stores generalizing halo with
  | nil => rfl
  | cons store rest ih =>
    obtain ⟨hfirst, hrest⟩ := forall_mem_cons.mp h
    rw [storeAll, foldl_cons]
    exact (ih hrest).trans (if_neg hfirst.symm)

lemma storeAll_of_mem {value : ℕ} (hmem : ∃ store ∈ stores, store.1 = index)
    (h : ∀ store ∈ stores, store.1 = index → store.2 = value) : storeAll stores halo index = value := by
  induction stores generalizing halo with
  | nil =>
    obtain ⟨store, hstore, -⟩ := hmem
    exact absurd hstore (not_mem_nil)
  | cons store rest ih =>
    obtain ⟨hfirst, hrest⟩ := forall_mem_cons.mp h
    rw [storeAll, foldl_cons]
    by_cases hlater : ∃ store ∈ rest, store.1 = index
    · exact ih hlater hrest
    · -- the first store is the only one
      push Not at hlater
      obtain ⟨found, hfound, hindex⟩ := hmem
      obtain rfl : found = store := (mem_cons.mp hfound).resolve_right fun hin => hlater found hin hindex
      have hkeep := @storeAll_of_not_mem (setHalo halo found.1 found.2) rest index hlater
      exact hkeep.trans ((if_pos hindex.symm).trans (hfirst hindex))

lemma mem_planeStores {lower upper : Option ℕ} {lowerTarget upperTarget : Int3 → Int3} {indices : List Int3}
    {receiveLower receiveUpper : List ℕ} (fromLower fromUpper : Int3 → ℕ)
    (hlower : lower.isSome → receiveLower = indices.map fromLower)
    (hupper : upper.isSome → receiveUpper = indices.map fromUpper) (store : Int3 × ℕ) :
    store ∈ planeStores lower upper lowerTarget upperTarget indices receiveLower receiveUpper ↔
      (lower.isSome ∧ ∃ index ∈ indices, store = (lowerTarget index, fromLower index)) ∨
        (upper.isSome ∧ ∃ index ∈ indices, store = (upperTarget index, fromUpper index)) := by
  induction indices generalizing receiveLower receiveUpper with
  | nil => simp [planeStores]
  | cons index rest ih =>
    have hrest := @ih receiveLower.tail receiveUpper.tail
      (fun h => by rw [hlower h]; rfl) (fun h => by rw [hupper h]; rfl)
    rw [planeStores, mem_append, mem_append, hrest]
    have hfirst : store ∈ (if lower.isSome then [(lowerTarget index, receiveLower.headD 0)] else []) ↔
        lower.isSome ∧ store = (lowerTarget index, fromLower index) := by
      by_cases h : lower.isSome
      · rw [if_pos h, hlower h]
        simp [h]
      · rw [if_neg h]
        simp [h]
    have hsecond : store ∈ (if upper.isSome then [(upperTarget index, receiveUpper.headD 0)] else []) ↔
        upper.isSome ∧ store = (upperTarget index, fromUpper index) := by
      by_cases h : upper.isSome
      · rw [if_pos h, hupper h]
        simp [h]
      · rw [if_neg h]
        simp [h]
    rw [hfirst, hsecond]
    simp only [mem_cons, exists_eq_or_imp, and_or_left]
    exact or_or_or_comm

end HundunFlow.Proofs
