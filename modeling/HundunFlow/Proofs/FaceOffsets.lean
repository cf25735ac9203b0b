import HundunFlow.FaceStorageWords
import HundunFlow.Proofs.FluxLayout

/-!
# Every face has its own place

The slabs of the three axes follow each other in a replica and the replicas follow each other in the
payload, so a face of a replica is found at one offset only.
-/

namespace HundunFlow.Proofs

open Lib

section Rel

variable {α β γ δ : Type} {r : α → β → Prop} {s : γ → δ → Prop}

lemma rel_bind {a : Option α} {b : Option β} {f : α → Option γ} {g : β → Option δ} (h : Option.Rel r a b)
    (hfg : ∀ x y, r x y → Option.Rel s (f x) (g y)) : Option.Rel s (a.bind f) (b.bind g) := by
  cases h with
  | some hxy => exact hfg _ _ hxy
  | none => exact Option.Rel.none

lemma rel_map {a : Option α} {b : Option β} {f : α → γ} {g : β → δ} (h : Option.Rel r a b)
    (hfg : ∀ x y, r x y → s (f x) (g y)) : Option.Rel s (a.map f) (b.map g) := by
  cases h with
  | some hxy => exact Option.Rel.some (hfg _ _ hxy)
  | none => exact Option.Rel.none

lemma rel_guard {p q : Prop} [Decidable p] [Decidable q] (hpq : p ↔ q) {f : Unit → Option γ} {g : Unit → Option δ}
    (hfg : p → Option.Rel s (f ()) (g ())) :
    Option.Rel s ((guard p : Option Unit).bind f) ((guard q : Option Unit).bind g) := by
  by_cases hp : p
  · simpa [guard, hp, hpq.mp hp] using hfg hp
  · have hq : ¬q := mt hpq.mpr hp
    simp only [guard, hp, hq, if_false]
    exact Option.Rel.none

end Rel

def Denotes (word : UInt64) (n : ℕ) : Prop := word.toNat = n

lemma toNat_maxU64 : (UInt64.ofNat maxU64).toNat = maxU64 := by decide

lemma Denotes.le {word : UInt64} {n : ℕ} (h : Denotes word n) : n ≤ maxU64 := by
  have hlt := word.toNat_lt
  unfold Denotes at h
  unfold maxU64
  omega

lemma denotes_ofNat {n : ℕ} (h : n ≤ maxU64) : Denotes (UInt64.ofNat n) n := by
  have hsize : UInt64.size = maxU64 + 1 := by decide
  exact UInt64.toNat_ofNat_of_lt' (by omega)

lemma denotes_ofInt {v : ℤ} (h : 0 ≤ v) (hlt : v < 2 ^ 64) : Denotes (UInt64.ofInt v) v.toNat := by
  have hv : UInt64.ofInt v = UInt64.ofNat v.toNat := by
    rw [UInt64.ofInt, Int.emod_eq_of_lt h hlt]
  rw [hv]
  exact denotes_ofNat (by unfold maxU64; omega)

lemma checkedAdd_word {a b : UInt64} {m n : ℕ} (ha : Denotes a m) (hb : Denotes b n) :
    Option.Rel Denotes (checkedAddWord a b) (checkedAdd m n) := by
  have hle := ha.le
  unfold Denotes at ha hb
  have hsub : (UInt64.ofNat maxU64 - a).toNat = maxU64 - m := by
    rw [UInt64.toNat_sub_of_le _ _ (by rw [UInt64.le_iff_toNat_le, toNat_maxU64, ha]; exact hle), toNat_maxU64, ha]
  unfold checkedAddWord checkedAdd
  by_cases hover : maxU64 - m < n
  · rw [if_pos hover, if_pos (by rwa [UInt64.lt_iff_toNat_lt, hsub, hb])]
    exact Option.Rel.none
  · rw [if_neg hover, if_neg (by rwa [UInt64.lt_iff_toNat_lt, hsub, hb])]
    refine Option.Rel.some ?_
    unfold maxU64 at hle hover
    rw [Denotes, UInt64.toNat_add, ha, hb, Nat.mod_eq_of_lt (by omega)]

lemma checkedMultiply_word {a b : UInt64} {m n : ℕ} (ha : Denotes a m) (hb : Denotes b n) :
    Option.Rel Denotes (checkedMultiplyWord a b) (checkedMultiply m n) := by
  unfold Denotes at ha hb
  have hzero : a ≠ 0 ↔ m ≠ 0 := by rw [← ha, ne_eq, ne_eq, ← UInt64.toNat_inj]; rfl
  have hdiv : (UInt64.ofNat maxU64 / a < b) ↔ maxU64 / m < n := by
    rw [UInt64.lt_iff_toNat_lt, UInt64.toNat_div, toNat_maxU64, ha, hb]
  unfold checkedMultiplyWord checkedMultiply
  by_cases hover : m ≠ 0 ∧ maxU64 / m < n
  · have hword : a ≠ 0 ∧ UInt64.ofNat maxU64 / a < b := ⟨hzero.mpr hover.1, hdiv.mpr hover.2⟩
    rw [if_pos (by simpa using hword), if_pos (by simpa using hover)]
    exact Option.Rel.none
  · have hword : ¬(a ≠ 0 ∧ UInt64.ofNat maxU64 / a < b) := fun h => hover ⟨hzero.mp h.1, hdiv.mp h.2⟩
    rw [if_neg (by simpa using hword), if_neg (by simpa using hover)]
    refine Option.Rel.some ?_
    have hprod : m * n ≤ maxU64 := by
      by_cases hm : m = 0
      · simp [hm]
      · have hle : n ≤ maxU64 / m := not_lt.mp fun hlt => hover ⟨hm, hlt⟩
        rw [mul_comm]
        exact (Nat.le_div_iff_mul_le (Nat.pos_of_ne_zero hm)).mp hle
    unfold maxU64 at hprod
    rw [Denotes, UInt64.toNat_mul, ha, hb, Nat.mod_eq_of_lt (by omega)]

lemma toNat_and_line (word : UInt64) : (word &&& ~~~(8 - 1)).toNat = word.toNat / 8 * 8 := by
  have hmask : (~~~(8 - 1) : UInt64).toBitVec = (BitVec.allOnes 64 >>> 3) <<< 3 := by decide
  have hbits : (word &&& ~~~(8 - 1)).toBitVec = (word.toBitVec >>> 3) <<< 3 := by
    rw [UInt64.toBitVec_and, hmask]
    apply BitVec.eq_of_getLsbD_eq
    intro i hi
    simp only [BitVec.getLsbD_and, BitVec.getLsbD_shiftLeft, BitVec.getLsbD_ushiftRight, BitVec.getLsbD_allOnes]
    by_cases hlow : i < 3
    · simp [hlow]
    · simp [hlow, hi, show 3 + (i - 3) = i by omega]
  have hlt := word.toNat_lt
  calc (word &&& ~~~(8 - 1)).toNat = ((word.toBitVec >>> 3) <<< 3).toNat := by rw [← hbits]; rfl
    _ = word.toNat / 8 * 8 := by
      rw [BitVec.toNat_shiftLeft, BitVec.toNat_ushiftRight, Nat.shiftLeft_eq, Nat.shiftRight_eq_div_pow]
      change word.toNat / 2 ^ 3 * 2 ^ 3 % 2 ^ 64 = _
      omega

lemma checkedAlign_word {a : UInt64} {m : ℕ} (ha : Denotes a m) : Option.Rel Denotes (alignWord a) (checkedAlign m) := by
  have hline : (UInt64.ofNat kDoublesPerCacheLine) = 8 := rfl
  unfold alignWord checkedAlignWord checkedAlign
  rw [hline, if_neg (by decide)]
  refine rel_map (checkedAdd_word ha (show Denotes (8 - 1) (kDoublesPerCacheLine - 1) from rfl)) fun x n hx => ?_
  rw [Denotes, toNat_and_line, hx]
  rfl

/-- A value of the type `std::int32_t`. -/
def OfInt32 (value : ℤ) : Prop := -maxI32 - 1 ≤ value ∧ value ≤ maxI32
  deriving Decidable

lemma successorI32_eq {v : ℤ} (h : OfInt32 v) (hmax : v ≠ maxI32) : successorI32 v = v + 1 := by
  obtain ⟨hlow, hhigh⟩ := h
  unfold maxI32 at *
  exact Int.bmod_eq_of_le (by omega) (by omega)

lemma extent_denotes {v : ℤ} (hpos : 0 < v) (hle : v ≤ maxI32) : Denotes (UInt64.ofInt v) v.toNat := by
  unfold maxI32 at hle
  exact denotes_ofInt hpos.le (by omega)

def ExtentsFit (extents : Int3) : Prop := extents.x ≤ maxI32 ∧ extents.y ≤ maxI32 ∧ extents.z ≤ maxI32

lemma axisLayoutWords_exact {extents : Int3} (h : ExtentsFit extents) {cursor : UInt64} {n : ℕ} (hn : Denotes cursor n) :
    Option.Rel (fun words exact => words.1.exact = exact.1 ∧ Denotes words.2 exact.2)
      (axisLayoutWords extents cursor) (axisLayout extents n) := by
  obtain ⟨hx, hy, hz⟩ := h
  unfold axisLayoutWords axisLayout
  simp only [Option.bind_eq_bind]
  refine rel_guard Iff.rfl fun hcells => ?_
  simp only [validCells, Bool.and_eq_true, decide_eq_true_eq] at hcells
  obtain ⟨⟨hx0, hy0⟩, hz0⟩ := hcells
  refine rel_bind (checkedAlign_word (extent_denotes hx0 hx)) fun strideY sY hsY => ?_
  refine rel_bind (checkedMultiply_word hsY (extent_denotes hy0 hy)) fun strideZ sZ hsZ => ?_
  refine rel_bind (checkedAlign_word hn) fun offset o ho => ?_
  refine rel_bind (checkedMultiply_word hsZ (extent_denotes hz0 hz)) fun block b hb => ?_
  refine rel_bind (checkedAdd_word ho hb) fun next m hm => ?_
  refine Option.Rel.some ⟨?_, hm⟩
  rw [AxisWords.exact, hsY, hsZ, ho]

lemma faceStorageLayoutWords_exact {cells : Int3} (hx : OfInt32 cells.x) (hy : OfInt32 cells.y) (hz : OfInt32 cells.z)
    {word : UInt64} {replicas : ℕ} (hrep : Denotes word replicas) :
    Option.Rel (fun words layout => words.exact = layout)
      (faceStorageLayoutWords cells word) (faceStorageLayout cells replicas) := by
  have hzero : word ≠ 0 ↔ replicas ≠ 0 := by rw [← hrep, ne_eq, ne_eq, ← UInt64.toNat_inj]; rfl
  unfold faceStorageLayoutWords faceStorageLayout
  simp only [Option.bind_eq_bind]
  refine rel_guard (by rw [hzero]) fun hguard => ?_
  obtain ⟨-, -, hxmax, hymax, hzmax⟩ := hguard
  rw [successorI32_eq hx hxmax, successorI32_eq hy hymax, successorI32_eq hz hzmax]
  have hx' : cells.x + 1 ≤ maxI32 := by have := hx.2; omega
  have hy' : cells.y + 1 ≤ maxI32 := by have := hy.2; omega
  have hz' : cells.z + 1 ≤ maxI32 := by have := hz.2; omega
  refine rel_bind (axisLayoutWords_exact (show ExtentsFit { cells with x := cells.x + 1 } from ⟨hx', hy.2, hz.2⟩) (show Denotes 0 0 from rfl)) ?_
  rintro ⟨x, cx⟩ ⟨x', cx'⟩ ⟨hax, hcx⟩
  refine rel_bind (axisLayoutWords_exact (show ExtentsFit { cells with y := cells.y + 1 } from ⟨hx.2, hy', hz.2⟩) hcx) ?_
  rintro ⟨y, cy⟩ ⟨y', cy'⟩ ⟨hay, hcy⟩
  refine rel_bind (axisLayoutWords_exact (show ExtentsFit { cells with z := cells.z + 1 } from ⟨hx.2, hy.2, hz'⟩) hcy) ?_
  rintro ⟨z, cz⟩ ⟨z', cz'⟩ ⟨haz, hcz⟩
  refine rel_bind (checkedAlign_word hcz) fun stride s hs => ?_
  refine rel_bind (checkedMultiply_word hs hrep) fun doubles d hd => ?_
  refine rel_bind (checkedMultiply_word hd (show Denotes 8 8 from rfl)) fun bytes b hb => ?_
  have hbytes : bytes ≠ 0 ↔ b ≠ 0 := by rw [← hb, ne_eq, ne_eq, ← UInt64.toNat_inj]; rfl
  refine rel_guard hbytes fun _ => Option.Rel.some ?_
  simp only at hax hay haz
  rw [FaceStorageWords.exact, hax, hay, haz, hs, hd, hb]

/-- One more face than cells along the own axis. -/
def faceExtents (cells : Int3) : CartesianAxis → Int3
  | .x => { cells with x := cells.x + 1 }
  | .y => { cells with y := cells.y + 1 }
  | .z => { cells with z := cells.z + 1 }

/-- The place of a face within the slab of its axis. -/
def slabOffset (layout : AxisLayout) (i : Int3) : ℕ :=
  i.x.toNat + i.y.toNat * layout.strideY + i.z.toNat * layout.strideZ

/-- The place of a face in the payload, in doubles. -/
def faceOffset (layout : FaceStorageLayout) (replica : ℕ) (axis : CartesianAxis) (i : Int3) : ℕ :=
  replica * layout.replicaStride + (layout.axis axis).offset + slabOffset (layout.axis axis) i

lemma AxisPlaced.slabOffset_inj {layout : AxisLayout} {cursor next : ℕ} (h : AxisPlaced layout cursor next) {i j : Int3}
    (hi : i ∈ faceIndices layout.extents) (hj : j ∈ faceIndices layout.extents)
    (hij : slabOffset layout i = slabOffset layout j) : i = j := by
  obtain ⟨⟨hx, hx'⟩, ⟨hy, hy'⟩, hz, hz'⟩ := (mem_faceIndices _ _).mp hi
  obtain ⟨⟨kx, kx'⟩, ⟨ky, ky'⟩, kz, kz'⟩ := (mem_faceIndices _ _).mp hj
  have hrow : ∀ k : Int3, 0 ≤ k.x → k.x < layout.extents.x → k.x.toNat < layout.strideY :=
    fun k h0 hlt => lt_of_lt_of_le (by omega) h.row
  have hplane : ∀ k : Int3, 0 ≤ k.x → k.x < layout.extents.x → 0 ≤ k.y → k.y < layout.extents.y →
      k.x.toNat + k.y.toNat * layout.strideY < layout.strideZ := fun k h0 hlt h0' hlt' =>
    (strided_lt (hrow k h0 hlt) (show k.y.toNat < layout.extents.y.toNat by omega)).trans_le h.plane
  obtain ⟨hlow, hZ⟩ := strided_inj (hplane i hx hx' hy hy') (hplane j kx kx' ky ky') hij
  obtain ⟨hX, hY⟩ := strided_inj (hrow i hx hx') (hrow j kx kx') hlow
  rcases i with ⟨ix, iy, iz⟩
  rcases j with ⟨jx, jy, jz⟩
  simp only at hx hy hz kx ky kz hX hY hZ
  simp only [Int3.mk.injEq]
  omega

structure SlabsPlaced (layout : FaceStorageLayout) (cells : Int3) (replicas : ℕ) : Prop where
  extents : ∀ axis, (layout.axis axis).extents = faceExtents cells axis
  x : AxisPlaced layout.x 0 layout.y.offset
  y : AxisPlaced layout.y layout.y.offset layout.z.offset
  z : AxisPlaced layout.z layout.z.offset layout.replicaStride
  line : ∀ axis, kDoublesPerCacheLine ∣ (layout.axis axis).offset ∧ kDoublesPerCacheLine ∣ (layout.axis axis).strideY
  strideLine : kDoublesPerCacheLine ∣ layout.replicaStride
  doubles : layout.doubles = layout.replicaStride * replicas
  bytes : layout.bytes = 8 * layout.doubles
  fits : layout.bytes ≤ maxU64

lemma checkedAlign_dvd {a c : ℕ} (h : checkedAlign a = some c) : kDoublesPerCacheLine ∣ c := by
  obtain ⟨candidate, -, rfl⟩ := Option.map_eq_some_iff.mp h
  exact Nat.dvd_mul_left _ _

lemma axisLayout_line {extents : Int3} {cursor next : ℕ} {layout : AxisLayout}
    (h : axisLayout extents cursor = some (layout, next)) :
    (kDoublesPerCacheLine ∣ layout.offset ∧ kDoublesPerCacheLine ∣ layout.strideY) ∧
      cursor ≤ layout.offset ∧ AxisPlaced layout layout.offset next := by
  obtain ⟨hplaced, -, -⟩ := axisLayout_placed h
  refine ⟨?_, hplaced.start, ⟨hplaced.row, hplaced.plane, le_rfl, hplaced.stop⟩⟩
  unfold axisLayout at h
  simp only [Option.bind_eq_bind, guard_iff, Option.bind_eq_some_iff, Option.pure_def,
    Option.some.injEq, Prod.mk.injEq] at h
  obtain ⟨-, -, strideY, hY, strideZ, -, offset, hoffset, -, -, -, -, rfl, -⟩ := h
  exact ⟨checkedAlign_dvd hoffset, checkedAlign_dvd hY⟩

lemma AxisPlaced.stop_le {layout : AxisLayout} {cursor next next' : ℕ} (h : AxisPlaced layout cursor next)
    (hle : next ≤ next') : AxisPlaced layout cursor next' :=
  ⟨h.row, h.plane, h.start, h.stop.trans hle⟩

lemma slabsPlaced {cells : Int3} {replicas : ℕ} {layout : FaceStorageLayout}
    (h : faceStorageLayout cells replicas = some layout) : SlabsPlaced layout cells replicas := by
  obtain ⟨-, hex, hey, hez⟩ := faceStorageLayout_placed h
  unfold faceStorageLayout at h
  simp only [Option.bind_eq_bind, guard_iff, Option.bind_eq_some_iff, Option.pure_def,
    Option.some.injEq] at h
  obtain ⟨-, -, ⟨x, cx⟩, hx, ⟨y, cy⟩, hy, ⟨z, cz⟩, hz, stride, hstride, doubles, hdoubles, bytes, hbytes,
    -, -, rfl⟩ := h
  obtain ⟨hlx, -, hpx⟩ := axisLayout_line hx
  obtain ⟨hly, hcy, hpy⟩ := axisLayout_line hy
  obtain ⟨hlz, hcz, hpz⟩ := axisLayout_line hz
  obtain ⟨heq, hfit⟩ := checkedMultiply_spec hbytes
  refine ⟨?_, (hpx.weaken).stop_le hcy, hpy.stop_le hcz, hpz.stop_le (checkedAlign_some hstride), ?_,
    checkedAlign_dvd hstride, checkedMultiply_some hdoubles, by rw [heq, mul_comm], by rw [heq]; exact hfit⟩
  · rintro (_ | _ | _)
    exacts [hex, hey, hez]
  · rintro (_ | _ | _)
    exacts [hlx, hly, hlz]

section Placed

variable {layout : FaceStorageLayout} {cells : Int3} {replicas : ℕ}

def slabEnd (layout : FaceStorageLayout) : CartesianAxis → ℕ
  | .x => layout.y.offset
  | .y => layout.z.offset
  | .z => layout.replicaStride

lemma SlabsPlaced.axis (h : SlabsPlaced layout cells replicas) (axis : CartesianAxis) :
    AxisPlaced (layout.axis axis) 0 (slabEnd layout axis) := by
  cases axis with
  | x => exact h.x
  | y => exact h.y.weaken
  | z => exact h.z.weaken

lemma SlabsPlaced.slabEnd_le (h : SlabsPlaced layout cells replicas) (axis : CartesianAxis) :
    slabEnd layout axis ≤ layout.replicaStride := by
  cases axis with
  | x => exact h.y.le.trans h.z.le
  | y => exact h.z.le
  | z => exact le_rfl

lemma SlabsPlaced.within (h : SlabsPlaced layout cells replicas) {axis : CartesianAxis} {i : Int3}
    (hi : i ∈ faceIndices (faceExtents cells axis)) :
    (layout.axis axis).offset + slabOffset (layout.axis axis) i < slabEnd layout axis := by
  rw [← h.extents axis] at hi
  exact (Nat.add_lt_add_left ((h.axis axis).face_lt hi) _).trans_le (h.axis axis).stop

lemma SlabsPlaced.axis_inj (h : SlabsPlaced layout cells replicas) {axis axis' : CartesianAxis} {p : ℕ}
    (hlow : (layout.axis axis).offset ≤ p) (hhigh : p < slabEnd layout axis)
    (hlow' : (layout.axis axis').offset ≤ p) (hhigh' : p < slabEnd layout axis') : axis = axis' := by
  have hxy := h.y.le
  have hx := h.x.start
  cases axis <;> cases axis' <;> simp only [FaceStorageLayout.axis, slabEnd] at * <;> first | rfl | omega

lemma SlabsPlaced.faceOffset_lt (h : SlabsPlaced layout cells replicas) {replica : ℕ} (hreplica : replica < replicas)
    {axis : CartesianAxis} {i : Int3} (hi : i ∈ faceIndices (faceExtents cells axis)) :
    faceOffset layout replica axis i < layout.doubles := by
  have hwithin := (h.within hi).trans_le (h.slabEnd_le axis)
  rw [faceOffset, h.doubles, Nat.add_assoc, Nat.add_comm]
  exact strided_lt hwithin hreplica

lemma SlabsPlaced.faceOffset_inj (h : SlabsPlaced layout cells replicas) {replica replica' : ℕ}
    {axis axis' : CartesianAxis} {i j : Int3} (hi : i ∈ faceIndices (faceExtents cells axis))
    (hj : j ∈ faceIndices (faceExtents cells axis'))
    (hij : faceOffset layout replica axis i = faceOffset layout replica' axis' j) :
    replica = replica' ∧ axis = axis' ∧ i = j := by
  have hwi := h.within hi
  have hwj := h.within hj
  rw [faceOffset, faceOffset, Nat.add_assoc, Nat.add_assoc, Nat.add_comm, Nat.add_comm (replica' * _)] at hij
  obtain ⟨hslab, rfl⟩ := strided_inj (hwi.trans_le (h.slabEnd_le axis)) (hwj.trans_le (h.slabEnd_le axis')) hij
  obtain rfl : axis = axis' := h.axis_inj (Nat.le_add_right _ _) hwi (by rw [hslab]; exact Nat.le_add_right _ _)
    (by rw [hslab]; exact hwj)
  rw [← h.extents axis] at hi hj
  exact ⟨rfl, rfl, (h.axis axis).slabOffset_inj hi hj (Nat.add_left_cancel hslab)⟩

lemma ofNat_slabOffset {words : AxisWords} {i : Int3} (hi : 0 ≤ i.x ∧ 0 ≤ i.y ∧ 0 ≤ i.z) :
    (words.subscript i).toUInt64 = UInt64.ofNat (slabOffset words.exact i) := by
  obtain ⟨hx, hy, hz⟩ := hi
  have hcast : ∀ v : ℤ, 0 ≤ v → (Int64.ofInt v).toUInt64 = UInt64.ofNat v.toNat := by
    intro v hv
    obtain ⟨n, rfl⟩ := Int.eq_ofNat_of_zero_le hv
    rw [Int.toNat_natCast, ← Int64.toUInt64_ofNat']
    rfl
  rw [AxisWords.subscript, Int64.toUInt64_add, Int64.toUInt64_add, Int64.toUInt64_mul, Int64.toUInt64_mul,
    hcast _ hx, hcast _ hy, hcast _ hz, UInt64.toUInt64_toInt64, UInt64.toUInt64_toInt64, slabOffset, AxisWords.exact]
  simp only [UInt64.ofNat_add, UInt64.ofNat_mul, UInt64.ofNat_toNat]

lemma SlabsPlaced.address_eq {words : FaceStorageWords} (hwords : words.exact = layout)
    (h : SlabsPlaced layout cells replicas) {data : UInt64} (hdata : data.toNat + layout.bytes ≤ 2 ^ 64) {replica : ℕ}
    (hreplica : replica < replicas) {axis : CartesianAxis} {i : Int3} (hi : i ∈ faceIndices (faceExtents cells axis)) :
    (words.address data (UInt64.ofNat replica) axis i).toNat = data.toNat + 8 * faceOffset layout replica axis i ∧
      ((words.axis axis).subscript i).toInt = slabOffset (layout.axis axis) i := by
  have haxis : (words.axis axis).exact = layout.axis axis := by
    rw [← hwords]
    cases axis <;> rfl
  have hstride : words.replicaStride.toNat = layout.replicaStride := by rw [← hwords]; rfl
  have hoffset : (words.axis axis).offset.toNat = (layout.axis axis).offset := by rw [← haxis]; rfl
  have hlt := h.faceOffset_lt hreplica hi
  have hbytes := h.bytes
  obtain ⟨⟨hx, -⟩, ⟨hy, -⟩, hz, -⟩ := (mem_faceIndices _ _).mp hi
  have hsub := @ofNat_slabOffset (words.axis axis) i ⟨hx, hy, hz⟩
  rw [haxis] at hsub
  have hfits := h.fits
  have hmax : maxU64 = 2 ^ 64 - 1 := rfl
  constructor
  · have hword : words.address data (UInt64.ofNat replica) axis i =
        UInt64.ofNat (data.toNat + 8 * faceOffset layout replica axis i) := by
      rw [FaceStorageWords.address, hsub, faceOffset]
      simp only [UInt64.ofNat_add, UInt64.ofNat_mul, ← hstride, ← hoffset, UInt64.ofNat_toNat]
      have height : (8 : UInt64) = UInt64.ofNat 8 := rfl
      rw [height, UInt64.mul_add, UInt64.mul_add, UInt64.add_assoc, UInt64.add_assoc, UInt64.add_assoc]
    rw [hword]
    exact UInt64.toNat_ofNat_of_lt' (by rw [UInt64.size]; omega)
  · have hslab : slabOffset (layout.axis axis) i < layout.doubles := by
      unfold faceOffset at hlt
      omega
    have hint : (words.axis axis).subscript i = Int64.ofNat (slabOffset (layout.axis axis) i) := by
      rw [← Int64.toInt64_toUInt64 ((words.axis axis).subscript i), hsub]
      rfl
    rw [hint, Int64.toInt_ofNat_of_lt (by omega)]

end Placed

/-- Each face of each replica has an offset of its own inside the payload, and slabs and rows begin at
cache lines. -/
structure FacesDisjoint (cells : Int3) (replicas : ℕ) (layout : FaceStorageLayout) : Prop where
  bounds : ∀ replica < replicas, ∀ axis, ∀ i ∈ faceIndices (faceExtents cells axis),
    faceOffset layout replica axis i < layout.doubles
  injective : ∀ replica < replicas, ∀ replica' < replicas, ∀ axis axis', ∀ i ∈ faceIndices (faceExtents cells axis),
    ∀ j ∈ faceIndices (faceExtents cells axis'), faceOffset layout replica axis i = faceOffset layout replica' axis' j →
      replica = replica' ∧ axis = axis' ∧ i = j
  aligned : ∀ replica axis,
    kDoublesPerCacheLine ∣ replica * layout.replicaStride + (layout.axis axis).offset ∧
      kDoublesPerCacheLine ∣ (layout.axis axis).strideY
  bytes : layout.bytes = 8 * layout.doubles ∧ layout.bytes ≤ maxU64

lemma SlabsPlaced.facesDisjoint {layout : FaceStorageLayout} {cells : Int3} {replicas : ℕ}
    (h : SlabsPlaced layout cells replicas) : FacesDisjoint cells replicas layout where
  bounds _ hreplica _ _ hi := h.faceOffset_lt hreplica hi
  injective _ _ _ _ _ _ _ hi _ hj hij := h.faceOffset_inj hi hj hij
  aligned replica axis :=
    ⟨Nat.dvd_add (Dvd.dvd.mul_left h.strideLine replica) (h.line axis).1, (h.line axis).2⟩
  bytes := ⟨h.bytes, h.fits⟩

/-- A view covers the faces of the replica along each axis, each at its own offset. -/
def CoversReplica (storage : FaceFluxStorage) (cells : Int3) (ref replica : ℕ) (flux : FaceFluxView) : Prop :=
  ∀ axis, (flux.face axis).extents = faceExtents cells axis ∧ (flux.face axis).axis = axis ∧
    ∃ base, (flux.face axis).base = some base ∧ ∀ i : Int3,
      (flux.face axis).at base i = ⟨.storage ref, faceOffset storage.layout replica axis i⟩

lemma viewImpl_covers {storage : FaceFluxStorage} {cells : Int3}
    (hextents : ∀ axis, (storage.layout.axis axis).extents = faceExtents cells axis)
    {ref replica revision : ℕ} {flux : FaceFluxView} (h : storage.viewImpl ref replica revision = .ok flux) :
    replica < storage.replicas ∧ CoversReplica storage cells ref replica flux := by
  unfold FaceFluxStorage.viewImpl at h
  split at h
  · exact nomatch h
  · rename_i hadm
    simp only [Bool.or_eq_true, Bool.not_eq_true', decide_eq_true_eq, not_or, not_le] at hadm
    obtain rfl := Except.ok.inj h
    refine ⟨hadm.1.1.1.2, fun axis => ?_⟩
    have hplace : ∀ i : Int3, (storage.axisView ref replica axis (storage.layout.axis axis)).at
        ⟨.storage ref, replica * storage.layout.replicaStride + (storage.layout.axis axis).offset⟩ i =
          ⟨.storage ref, faceOffset storage.layout replica axis i⟩ := by
      intro i
      simp only [FaceFieldView.at, FaceFluxStorage.axisView, faceOffset, slabOffset]
      congr 1
      omega
    cases axis with
    | x => exact ⟨hextents .x, rfl, _, rfl, hplace⟩
    | y => exact ⟨hextents .y, rfl, _, rfl, hplace⟩
    | z => exact ⟨hextents .z, rfl, _, rfl, hplace⟩

/-- The views a storage hands out: to the owner of a workspace or a reader, and to the writer of a final
storage. -/
inductive HandedOut (storage : FaceFluxStorage) (ref replica revision : ℕ) : FaceFluxView → Prop where
  | viewed {flux : FaceFluxView} (h : storage.viewImpl ref replica revision = .ok flux) :
      HandedOut storage ref replica revision flux
  | workspace {flux : FaceFluxView} (h : storage.workspaceView ref replica revision = .ok flux) :
      HandedOut storage ref replica revision flux
  | pending {F : Type} (w : FluxWorld F) (hw : w.storages ref = storage) (view writerIdentity attemptIdentity : ℕ)
      {pending : PendingFaceFluxView}
      (h : w.pendingView ref view replica revision writerIdentity attemptIdentity = .ok pending) :
      HandedOut storage ref replica revision { x := pending.x, y := pending.y, z := pending.z, revision := pending.revision }

lemma HandedOut.viewImpl {storage : FaceFluxStorage} {ref replica revision : ℕ} {flux : FaceFluxView}
    (h : HandedOut storage ref replica revision flux) :
    ∃ raw, storage.viewImpl ref replica revision = .ok raw ∧ ∀ axis, flux.face axis = raw.face axis := by
  cases h with
  | viewed h => exact ⟨flux, h, fun _ => rfl⟩
  | workspace h =>
    unfold FaceFluxStorage.workspaceView at h
    split at h
    · exact nomatch h
    · exact ⟨flux, h, fun _ => rfl⟩
  | pending w hw view writerIdentity attemptIdentity h =>
    unfold FluxWorld.pendingView at h
    rw [hw] at h
    split at h
    · exact nomatch h
    · rename_i raw hraw
      split at h
      · exact nomatch h
      · obtain rfl := Except.ok.inj h
        exact ⟨raw, hraw, by rintro (_ | _ | _) <;> rfl⟩

lemma HandedOut.covers {storage : FaceFluxStorage} {cells : Int3}
    (hextents : ∀ axis, (storage.layout.axis axis).extents = faceExtents cells axis) {ref replica revision : ℕ}
    {flux : FaceFluxView} (h : HandedOut storage ref replica revision flux) :
    CoversReplica storage cells ref replica flux := by
  obtain ⟨raw, hraw, hface⟩ := h.viewImpl
  intro axis
  rw [hface axis]
  exact (viewImpl_covers hextents hraw).2 axis

lemma allocateImpl_ok {cells : Int3} {replicas next next' : ℕ} {finalStorage memory : Bool} {out storage : FaceFluxStorage}
    (h : FaceFluxStorage.allocateImpl cells replicas finalStorage next memory out = (storage, next', {})) :
    faceStorageLayout cells replicas = some storage.layout ∧ storage.replicas = replicas ∧ storage.data = true ∧
      storage.identity ≠ 0 ∧ storage.revisionDomain ≠ 0 := by
  unfold FaceFluxStorage.allocateImpl at h
  split at h
  · simp at h
  · split at h
    · simp at h
    · rename_i layout hlayout
      split at h
      · simp at h
      · simp only at h
        split at h
        · simp at h
        · rename_i hidentity
          simp only [Bool.or_eq_true, decide_eq_true_eq, not_or] at hidentity
          split at h
          · simp at h
          · simp only [Prod.mk.injEq] at h
            obtain ⟨rfl, -, -⟩ := h
            exact ⟨hlayout, rfl, rfl, hidentity⟩

/-- In an allocated storage the offset of a face determines its replica, its axis and its index, the
machine computes every size, offset and address of the layout exactly, and a view covers the faces of
its replica. -/
theorem allocated_faces_disjoint {cells : Int3} (hx : OfInt32 cells.x) (hy : OfInt32 cells.y) (hz : OfInt32 cells.z)
    {replicas : ℕ} (hreplicas : replicas ≤ maxU64) {next next' : ℕ} {finalStorage memory : Bool}
    {out storage : FaceFluxStorage}
    (h : FaceFluxStorage.allocateImpl cells replicas finalStorage next memory out = (storage, next', {})) :
    FacesDisjoint cells replicas storage.layout ∧
    (∃ words, faceStorageLayoutWords cells (UInt64.ofNat replicas) = some words ∧ words.exact = storage.layout ∧
      ∀ data : UInt64, data.toNat + storage.layout.bytes ≤ 2 ^ 64 → ∀ replica < replicas, ∀ axis,
        ∀ i ∈ faceIndices (faceExtents cells axis),
          (words.address data (UInt64.ofNat replica) axis i).toNat =
              data.toNat + 8 * faceOffset storage.layout replica axis i ∧
            ((words.axis axis).subscript i).toInt = slabOffset (storage.layout.axis axis) i) ∧
    (∀ ref replica revision, (∃ flux, storage.viewImpl ref replica revision = .ok flux) ↔
      replica < replicas ∧ revision ≠ 0) ∧
    ∀ ref replica revision flux, HandedOut storage ref replica revision flux →
      CoversReplica storage cells ref replica flux := by
  obtain ⟨hlayout, hcount, hdata, hidentity, hdomain⟩ := allocateImpl_ok h
  have hplaced := slabsPlaced hlayout
  have hwords := faceStorageLayoutWords_exact hx hy hz (denotes_ofNat hreplicas)
  rw [hlayout] at hwords
  refine ⟨hplaced.facesDisjoint, ?_, fun ref replica revision => ?_, fun ref replica revision flux hflux =>
    hflux.covers hplaced.extents⟩
  · generalize faceStorageLayoutWords cells (UInt64.ofNat replicas) = answer at hwords
    cases hwords with
    | some hexact => exact ⟨_, rfl, hexact, fun data hfit replica hreplica axis i hi =>
        hplaced.address_eq hexact hfit hreplica hi⟩
  · unfold FaceFluxStorage.viewImpl
    by_cases hok : replica < replicas ∧ revision ≠ 0
    · refine iff_of_true ?_ hok
      rw [if_neg (by simp [hdata, hcount, hidentity, hdomain, hok])]
      exact ⟨_, rfl⟩
    · refine iff_of_false ?_ hok
      rw [if_pos (by simp only [hdata, hcount, Bool.or_eq_true, decide_eq_true_eq]; omega)]
      rintro ⟨flux, hflux⟩
      exact nomatch hflux

/-- Three replicas of a patch of two by three by four cells. -/
theorem allocated_faces_disjoint_sample :
    ∃ storage : FaceFluxStorage,
      FaceFluxStorage.allocateFinal ⟨2, 3, 4⟩ 1 true {} = (storage, 3, {}) ∧ FacesDisjoint ⟨2, 3, 4⟩ 3 storage.layout :=
  have h : FaceFluxStorage.allocateImpl ⟨2, 3, 4⟩ 3 true 1 true {} =
      ((FaceFluxStorage.allocateImpl ⟨2, 3, 4⟩ 3 true 1 true {}).1, 3, {}) := by decide +kernel
  ⟨_, h, (allocated_faces_disjoint (by decide) (by decide) (by decide) (by decide) h).1⟩

end HundunFlow.Proofs
