import HundunFlow.CartesianKernel
import HundunFlow.Proofs.FluxLayout

/-!
# Boxes that tile a patch own every face once

A box owns the upper faces of its cells, and the lower faces too where it touches the low boundary
of the patch.
-/

namespace HundunFlow.Proofs

open Lib List Function

variable (extents : Int3) {box : KernelBox} {cells : Int3} (axis : CartesianAxis) {boxes : List KernelBox}

lemma mem_loopIndices {first last i : Int3} : i ∈ loopIndices first last ↔
    (first.x ≤ i.x ∧ i.x < last.x) ∧ (first.y ≤ i.y ∧ i.y < last.y) ∧ (first.z ≤ i.z ∧ i.z < last.z) := by
  rcases i with ⟨x, y, z⟩
  simp only [loopIndices, mem_map, mem_faceIndices, Int3.mk.injEq]
  constructor
  · rintro ⟨i, ⟨hx, hy, hz⟩, rfl, rfl, rfl⟩
    omega
  · rintro ⟨hx, hy, hz⟩
    exact ⟨⟨x - first.x, y - first.y, z - first.z⟩, by dsimp only; omega, by dsimp only; omega,
      by dsimp only; omega, by dsimp only; omega⟩

lemma faceIndices_nodup : (faceIndices extents).Nodup := by
  unfold faceIndices
  refine nodup_flatMap.mpr ⟨fun z _ => nodup_flatMap.mpr ⟨fun y _ => ?_, ?_⟩, ?_⟩
  · refine nodup_range.map fun x x' h => ?_
    simpa using h
  · refine nodup_range.imp fun {y y'} hne => ?_
    rw [onFun, disjoint_left]
    intro i hi hi'
    obtain ⟨x, -, rfl⟩ := mem_map.mp hi
    obtain ⟨x', -, h⟩ := mem_map.mp hi'
    simp only [Int3.mk.injEq, Nat.cast_inj] at h
    exact hne h.2.1.symm
  · refine nodup_range.imp fun {z z'} hne => ?_
    rw [onFun, disjoint_left]
    intro i hi hi'
    obtain ⟨y, -, hi⟩ := mem_flatMap.mp hi
    obtain ⟨y', -, hi'⟩ := mem_flatMap.mp hi'
    obtain ⟨x, -, rfl⟩ := mem_map.mp hi
    obtain ⟨x', -, h⟩ := mem_map.mp hi'
    simp only [Int3.mk.injEq, Nat.cast_inj] at h
    exact hne h.2.2.symm

lemma length_faceIndices : (faceIndices extents).length = extents.x.toNat * extents.y.toNat * extents.z.toNat := by
  simp only [faceIndices, length_flatMap, length_map, length_range, map_const', sum_replicate,
    nsmul_eq_mul, Nat.cast_id]
  ring

lemma loopIndices_nodup (first last : Int3) : (loopIndices first last).Nodup := by
  refine (faceIndices_nodup _).map fun i i' h => ?_
  rcases i with ⟨x, y, z⟩
  rcases i' with ⟨x', y', z'⟩
  simp only [Int3.mk.injEq] at h ⊢
  omega

lemma length_loopIndices (first last : Int3) : (loopIndices first last).length =
    (last.x - first.x).toNat * (last.y - first.y).toNat * (last.z - first.z).toNat := by
  rw [loopIndices, length_map, length_faceIndices]

lemma validKernelBox_iff : validKernelBox box cells = true ↔
    (0 < box.cells.x ∧ 0 < box.cells.y ∧ 0 < box.cells.z) ∧
      (0 ≤ box.begin.x ∧ 0 ≤ box.begin.y ∧ 0 ≤ box.begin.z) ∧
        (0 < cells.x ∧ 0 < cells.y ∧ 0 < cells.z) ∧ box.begin.x + box.cells.x ≤ cells.x ∧
          box.begin.y + box.cells.y ≤ cells.y ∧ box.begin.z + box.cells.z ≤ cells.z := by
  simp only [validKernelBox, validCells]
  grind

def patchBox (cells : Int3) : KernelBox := ⟨{}, cells⟩

lemma validKernelBox_patchBox (h : validCells cells = true) : validKernelBox (patchBox cells) cells = true := by
  rw [validCells_iff] at h
  rw [validKernelBox_iff]
  simp only [patchBox]
  omega

lemma mem_kernelCells {c : Int3} : c ∈ kernelCells box ↔
    (box.begin.x ≤ c.x ∧ c.x < box.begin.x + box.cells.x) ∧
      (box.begin.y ≤ c.y ∧ c.y < box.begin.y + box.cells.y) ∧
        (box.begin.z ≤ c.z ∧ c.z < box.begin.z + box.cells.z) := mem_loopIndices

def faceOwner (axis : CartesianAxis) (face : Int3) : Int3 :=
  if axisIndex axis face = 0 then face else setAxis axis face (axisIndex axis face - 1)

lemma mem_axisFaces (hbox : validKernelBox box cells = true) (axis : CartesianAxis)
    (face : Int3) : face ∈ axisFaces axis box ↔ faceOwner axis face ∈ kernelCells box := by
  obtain ⟨hcells, hbegin, -⟩ := validKernelBox_iff.mp hbox
  rw [axisFaces, mem_loopIndices, mem_kernelCells]
  cases axis with
  | x =>
    simp only [axisIndex, setAxis, faceOwner]
    by_cases hface : face.x = 0 <;> by_cases hlow : box.begin.x = 0 <;> simp only [hface, hlow, if_true, if_false] <;> omega
  | y =>
    simp only [axisIndex, setAxis, faceOwner]
    by_cases hface : face.y = 0 <;> by_cases hlow : box.begin.y = 0 <;> simp only [hface, hlow, if_true, if_false] <;> omega
  | z =>
    simp only [axisIndex, setAxis, faceOwner]
    by_cases hface : face.z = 0 <;> by_cases hlow : box.begin.z = 0 <;> simp only [hface, hlow, if_true, if_false] <;> omega

def boxFaces (box : KernelBox) : List (CartesianAxis × Int3) :=
  (axisFaces .x box).map (CartesianAxis.x, ·) ++ (axisFaces .y box).map (CartesianAxis.y, ·) ++
    (axisFaces .z box).map (CartesianAxis.z, ·)

lemma mem_boxFaces {p : CartesianAxis × Int3} : p ∈ boxFaces box ↔ p.2 ∈ axisFaces p.1 box := by
  rcases p with ⟨axis, face⟩
  cases axis <;> simp [boxFaces]

lemma map_axis_nodup (box : KernelBox) : ((axisFaces axis box).map (axis, ·)).Nodup :=
  (loopIndices_nodup _ _).map fun _ _ h => (Prod.mk.inj h).2

lemma boxFaces_nodup (box : KernelBox) : (boxFaces box).Nodup := by
  refine ((map_axis_nodup .x box).append (map_axis_nodup .y box) ?_).append (map_axis_nodup .z box) ?_
  · rw [disjoint_left]
    simp
  · rw [disjoint_left]
    rintro ⟨axis, face⟩ h h'
    obtain ⟨face', -, heq⟩ := mem_map.mp h'
    obtain rfl : CartesianAxis.z = axis := (Prod.mk.inj heq).1
    simp at h

def patchFaces (cells : Int3) : List (CartesianAxis × Int3) :=
  (faceIndices { cells with x := cells.x + 1 }).map (CartesianAxis.x, ·) ++
    (faceIndices { cells with y := cells.y + 1 }).map (CartesianAxis.y, ·) ++
      (faceIndices { cells with z := cells.z + 1 }).map (CartesianAxis.z, ·)

lemma axisFaces_patchBox (cells : Int3) : axisFaces axis (patchBox cells) =
    faceIndices (setAxis axis cells (axisIndex axis cells + 1)) := by
  have hmap : ∀ e : Int3, loopIndices {} e = faceIndices e := by
    intro e
    simp only [loopIndices, sub_zero, zero_add, map_id']
  rw [← hmap]
  cases axis <;> simp [axisFaces, patchBox, axisIndex, setAxis]

lemma boxFaces_patchBox (cells : Int3) : boxFaces (patchBox cells) = patchFaces cells := by
  simp only [boxFaces, axisFaces_patchBox]
  rfl

/-- Boxes that partition the cells of a patch, in the order in which they run. -/
structure Tiles (cells : Int3) (boxes : List KernelBox) : Prop where
  positive : validCells cells = true
  valid : ∀ box ∈ boxes, validKernelBox box cells = true
  disjoint : boxes.Pairwise fun box box' => List.Disjoint (kernelCells box) (kernelCells box')
  cover : ∀ c ∈ kernelCells (patchBox cells), ∃ box ∈ boxes, c ∈ kernelCells box

lemma Tiles.subset (h : Tiles cells boxes) (hbox : box ∈ boxes)
    {c : Int3} (hc : c ∈ kernelCells box) : c ∈ kernelCells (patchBox cells) := by
  obtain ⟨-, hbegin, -, hend⟩ := validKernelBox_iff.mp (h.valid box hbox)
  rw [mem_kernelCells] at hc ⊢
  simp only [patchBox]
  omega

lemma Tiles.cells_perm (h : Tiles cells boxes) :
    (boxes.flatMap kernelCells).Perm (kernelCells (patchBox cells)) := by
  refine (perm_ext_iff_of_nodup ?_ (loopIndices_nodup _ _)).mpr fun c => ?_
  · exact nodup_flatMap.mpr ⟨fun box _ => loopIndices_nodup _ _, h.disjoint⟩
  · rw [mem_flatMap]
    exact ⟨fun ⟨box, hbox, hc⟩ => h.subset hbox hc, h.cover c⟩

lemma Tiles.faces_perm (h : Tiles cells boxes) : (boxes.flatMap boxFaces).Perm (patchFaces cells) := by
  rw [← boxFaces_patchBox]
  refine (perm_ext_iff_of_nodup ?_ (boxFaces_nodup _)).mpr fun p => ?_
  · refine nodup_flatMap.mpr ⟨fun box _ => boxFaces_nodup box, h.disjoint.imp_of_mem ?_⟩
    intro box box' hbox hbox' hdisj
    rw [onFun, disjoint_left]
    intro p hp hp'
    rw [mem_boxFaces, mem_axisFaces (h.valid box hbox)] at hp
    rw [mem_boxFaces, mem_axisFaces (h.valid box' hbox')] at hp'
    exact hdisj hp hp'
  · rw [mem_flatMap, mem_boxFaces, mem_axisFaces (validKernelBox_patchBox h.positive)]
    constructor
    · rintro ⟨box, hbox, hp⟩
      rw [mem_boxFaces, mem_axisFaces (h.valid box hbox)] at hp
      exact h.subset hbox hp
    · intro hp
      obtain ⟨box, hbox, hc⟩ := h.cover _ hp
      refine ⟨box, hbox, ?_⟩
      rwa [mem_boxFaces, mem_axisFaces (h.valid box hbox)]

lemma length_boxFaces (hbox : validKernelBox box cells = true) : (boxFaces box).length =
      (box.cells.x.toNat + if box.begin.x = 0 then 1 else 0) * box.cells.y.toNat * box.cells.z.toNat +
        box.cells.x.toNat * (box.cells.y.toNat + if box.begin.y = 0 then 1 else 0) * box.cells.z.toNat +
          box.cells.x.toNat * box.cells.y.toNat * (box.cells.z.toNat + if box.begin.z = 0 then 1 else 0) := by
  obtain ⟨hcells, hbegin, -⟩ := validKernelBox_iff.mp hbox
  have hplain : ∀ b c : ℤ, (b + c - b).toNat = c.toNat := fun b c => by rw [add_sub_cancel_left]
  have hfirst : ∀ b c : ℤ, 0 ≤ b → 0 < c →
      (b + c + 1 - if b = 0 then 0 else b + 1).toNat = c.toNat + if b = 0 then 1 else 0 := by
    intro b c hb hc
    split_ifs <;> omega
  have hx : axisFaces .x box = loopIndices { box.begin with x := if box.begin.x = 0 then 0 else box.begin.x + 1 }
      ⟨box.begin.x + box.cells.x + 1, box.begin.y + box.cells.y, box.begin.z + box.cells.z⟩ := rfl
  have hy : axisFaces .y box = loopIndices { box.begin with y := if box.begin.y = 0 then 0 else box.begin.y + 1 }
      ⟨box.begin.x + box.cells.x, box.begin.y + box.cells.y + 1, box.begin.z + box.cells.z⟩ := rfl
  have hz : axisFaces .z box = loopIndices { box.begin with z := if box.begin.z = 0 then 0 else box.begin.z + 1 }
      ⟨box.begin.x + box.cells.x, box.begin.y + box.cells.y, box.begin.z + box.cells.z + 1⟩ := rfl
  simp only [boxFaces, length_append, length_map, hx, hy, hz, length_loopIndices, hplain]
  rw [hfirst _ _ hbegin.1 hcells.1, hfirst _ _ hbegin.2.1 hcells.2.1, hfirst _ _ hbegin.2.2 hcells.2.2]

lemma checkedMultiply_of_le {left right : ℕ} (h : left * right ≤ maxU64) :
    checkedMultiply left right = some (left * right) := by
  have hfits : ¬ (left ≠ 0 ∧ maxU64 / left < right) := by
    rintro ⟨hleft, hlt⟩
    have := (Nat.div_lt_iff_lt_mul (Nat.pos_of_ne_zero hleft)).mp hlt
    rw [mul_comm] at this
    omega
  rw [checkedMultiply, if_neg (by simpa using hfits)]

lemma checkedAdd_of_le {left right : ℕ} (h : left + right ≤ maxU64) : checkedAdd left right = some (left + right) :=
  if_neg (by omega)

lemma checkedAdd_le {left right sum : ℕ} (hleft : left ≤ maxU64) (h : checkedAdd left right = some sum) :
    sum = left + right ∧ sum ≤ maxU64 := by
  obtain ⟨rfl, hle⟩ := checkedAdd_spec h
  exact ⟨rfl, hle hleft⟩

lemma checkedFaceCount_iff (hbox : validKernelBox box cells = true) {count : ℕ} :
    checkedFaceCount box = some count ↔ count = (boxFaces box).length ∧ count ≤ maxU64 := by
  rw [length_boxFaces hbox]
  obtain ⟨hcells, -⟩ := validKernelBox_iff.mp hbox
  have hx : 0 < box.cells.x.toNat := by omega
  have hy : 0 < box.cells.y.toNat := by omega
  have hz : 0 < box.cells.z.toNat := by omega
  unfold checkedFaceCount
  simp only [Option.bind_eq_bind, Option.bind_eq_some_iff]
  generalize box.cells.x.toNat = cx at *
  generalize box.cells.y.toNat = cy at *
  generalize box.cells.z.toNat = cz at *
  generalize (if box.begin.x = 0 then 1 else 0) = bx
  generalize (if box.begin.y = 0 then 1 else 0) = bY
  generalize (if box.begin.z = 0 then 1 else 0) = bz
  constructor
  · rintro ⟨xy, hxy, xs, hxs, yx, hyx, ys, hys, zx, hzx, zs, hzs, xys, hxys, hsum⟩
    obtain ⟨rfl, -⟩ := checkedMultiply_spec hxy
    obtain ⟨rfl, hxsle⟩ := checkedMultiply_spec hxs
    obtain ⟨rfl, -⟩ := checkedMultiply_spec hyx
    obtain ⟨rfl, -⟩ := checkedMultiply_spec hys
    obtain ⟨rfl, -⟩ := checkedMultiply_spec hzx
    obtain ⟨rfl, -⟩ := checkedMultiply_spec hzs
    obtain ⟨rfl, hxysle⟩ := checkedAdd_le hxsle hxys
    exact checkedAdd_le hxysle hsum
  · rintro ⟨rfl, hle⟩
    have hxs : (cx + bx) * cy * cz ≤ maxU64 := by omega
    have hys : cx * (cy + bY) * cz ≤ maxU64 := by omega
    have hzs : cx * cy * (cz + bz) ≤ maxU64 := by omega
    refine ⟨_, checkedMultiply_of_le ((Nat.le_mul_of_pos_right _ hz).trans hxs), _, checkedMultiply_of_le hxs,
      _, checkedMultiply_of_le ((Nat.le_mul_of_pos_right _ hz).trans hys), _, checkedMultiply_of_le hys,
      _, checkedMultiply_of_le ((Nat.le_mul_of_pos_right _ (by omega)).trans hzs), _, checkedMultiply_of_le hzs,
      _, checkedAdd_of_le (by omega), checkedAdd_of_le hle⟩

lemma boxCellCount_le (hbox : validKernelBox box cells = true) :
    0 < (kernelCells box).length ∧ (kernelCells box).length ≤ (boxFaces box).length := by
  obtain ⟨hcells, -⟩ := validKernelBox_iff.mp hbox
  rw [length_boxFaces hbox, kernelCells, length_loopIndices]
  simp only [add_sub_cancel_left]
  refine ⟨Nat.mul_pos (Nat.mul_pos (by omega) (by omega)) (by omega), ?_⟩
  refine le_trans ?_ (le_trans (Nat.le_add_right _ _) (Nat.le_add_right _ _))
  exact Nat.mul_le_mul_right _ (Nat.mul_le_mul_right _ (Nat.le_add_right _ _))

lemma boxCellCount_eq (h : (kernelCells box).length ≤ maxU64) (hbox : validCells box.cells = true) :
    boxCellCount box = (kernelCells box).length := by
  rw [kernelCells, length_loopIndices] at h ⊢
  simp only [add_sub_cancel_left] at h ⊢
  rw [validCells_iff] at hbox
  have hy : 0 < box.cells.y.toNat := by omega
  have hz : 0 < box.cells.z.toNat := by omega
  have hxy : ¬ maxU64 / box.cells.y.toNat < box.cells.x.toNat := by
    rw [not_lt, Nat.le_div_iff_mul_le hy]
    exact (Nat.le_mul_of_pos_right _ hz).trans h
  have hxyz : ¬ maxU64 / box.cells.z.toNat < box.cells.x.toNat * box.cells.y.toNat := by
    rwa [not_lt, Nat.le_div_iff_mul_le hz]
  rw [boxCellCount, if_neg (by simp [validCells_iff, hbox])]
  simp only [hxy, hxyz, decide_false, Bool.or_self, Bool.false_eq_true, if_false]

end HundunFlow.Proofs
