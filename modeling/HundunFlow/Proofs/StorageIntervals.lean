import HundunFlow.StorageInterval
import HundunFlow.Proofs.FaceOffsets
import Mathlib.Order.CompletePartialOrder

/-!
# Disjoint intervals hold disjoint elements

An accepted view has its elements between those of two corners of its ghosted box, and neither the
checks nor the subscripts of `unchecked` wrap around.
-/

namespace HundunFlow

/-- An element of the ghosted box. -/
def FieldViewWords.Ghosted (view : FieldViewWords) (i : Int3) (c : ℕ) : Prop :=
  (-view.ghosts.x.toInt ≤ i.x ∧ i.x < view.interior.x.toInt + view.ghosts.x.toInt) ∧
    (-view.ghosts.y.toInt ≤ i.y ∧ i.y < view.interior.y.toInt + view.ghosts.y.toInt) ∧
    (-view.ghosts.z.toInt ≤ i.z ∧ i.z < view.interior.z.toInt + view.ghosts.z.toInt) ∧ c < view.components.toNat

def FaceViewWords.InExtents (view : FaceViewWords) (i : Int3) : Prop :=
  (0 ≤ i.x ∧ i.x < view.extents.x.toInt) ∧ (0 ≤ i.y ∧ i.y < view.extents.y.toInt) ∧
    0 ≤ i.z ∧ i.z < view.extents.z.toInt

def elementBytes (base : UInt64) (subscripts : Set Int64) : Set ℕ :=
  {b | ∃ s ∈ subscripts, (elementAddress base s).toNat ≤ b ∧ b < (elementAddress base s).toNat + 8}

def FieldViewWords.bytes (view : FieldViewWords) : Set ℕ :=
  elementBytes view.base {s | ∃ i c, view.Ghosted i c ∧ s = view.subscript i c}

def FaceViewWords.bytes (view : FaceViewWords) : Set ℕ :=
  elementBytes view.base {s | ∃ i, view.InExtents i ∧ s = view.subscript i}

/-- The faces as cells of one component without ghosts. -/
def FaceViewWords.asCells (view : FaceViewWords) : FieldViewWords :=
  ⟨view.base, view.extents, {}, 1, view.strideY, view.strideZ, view.strideZ * sizeWord view.extents.z⟩

/-- The subscript of an element as a number. -/
def FieldViewWords.offset (view : FieldViewWords) (i : Int3) (c : ℕ) : ℤ :=
  i.x + i.y * view.strideY.toNat + i.z * view.strideZ.toNat + c * view.componentStride.toNat

def FieldViewWords.firstCorner (view : FieldViewWords) : Int3 :=
  ⟨-view.ghosts.x.toInt, -view.ghosts.y.toInt, -view.ghosts.z.toInt⟩

def FieldViewWords.lastCorner (view : FieldViewWords) : Int3 :=
  ⟨view.interior.x.toInt + view.ghosts.x.toInt - 1, view.interior.y.toInt + view.ghosts.y.toInt - 1,
    view.interior.z.toInt + view.ghosts.z.toInt - 1⟩

/-- The strides hold the padded box, and no size, subscript or address overflows. -/
structure FieldViewWords.Consistent (view : FieldViewWords) : Prop where
  extents : 0 < view.interior.x.toInt ∧ 0 < view.interior.y.toInt ∧ 0 < view.interior.z.toInt
  ghosts : 0 ≤ view.ghosts.x.toInt ∧ 0 ≤ view.ghosts.y.toInt ∧ 0 ≤ view.ghosts.z.toInt
  components : 0 < view.components.toNat
  row : view.interior.x.toInt + 2 * view.ghosts.x.toInt ≤ view.strideY.toNat
  plane : view.strideY.toNat * (view.interior.y.toInt + 2 * view.ghosts.y.toInt) ≤ view.strideZ.toNat
  component : view.strideZ.toNat * (view.interior.z.toInt + 2 * view.ghosts.z.toInt) ≤ view.componentStride.toNat
  span : view.componentStride.toNat * view.components.toNat < 2 ^ 64
  strides : view.strideY.toNat < 2 ^ 63 ∧ view.strideZ.toNat < 2 ^ 63
  subscripts : -2 ^ 63 < view.offset view.firstCorner 0 ∧
    view.offset view.lastCorner (view.components.toNat - 1) < 2 ^ 63
  addresses : 0 ≤ view.base.toNat + 8 * view.offset view.firstCorner 0 ∧
    view.base.toNat + 8 * (view.offset view.lastCorner (view.components.toNat - 1) + 1) < 2 ^ 64

/-- No step of the subscript overflows, and the address is that of the element. -/
structure FieldViewWords.Exact (view : FieldViewWords) (i : Int3) (c : ℕ) : Prop where
  steps : ∀ p ∈ [i.y * view.strideY.toNat, i.x + i.y * view.strideY.toNat, i.z * view.strideZ.toNat,
    i.x + i.y * view.strideY.toNat + i.z * view.strideZ.toNat, c * view.componentStride.toNat, view.offset i c],
    -2 ^ 63 ≤ p ∧ p < 2 ^ 63
  subscript : (view.subscript i c).toInt = view.offset i c
  address : ((elementAddress view.base (view.subscript i c)).toNat : ℤ) = view.base.toNat + 8 * view.offset i c

/-- The smallest interval of addresses with the given bytes. -/
structure FieldStorageInterval.Smallest (interval : FieldStorageInterval) (bytes : Set ℕ) : Prop where
  within : bytes ⊆ Set.Ico interval.begin.toNat interval.stop.toNat
  first : interval.begin.toNat ∈ bytes
  last : interval.stop.toNat - 1 ∈ bytes

namespace Proofs

open FieldViewWords

variable {view : FaceViewWords} {interval : FieldStorageInterval}

lemma addWord_spec {a b c : UInt64} (h : checkedAddWord a b = some c) : c.toNat = a.toNat + b.toNat := by
  have hrel := checkedAdd_word (rfl : Denotes a _) (rfl : Denotes b _)
  rw [h] at hrel
  generalize hsum : checkedAdd a.toNat b.toNat = sum at hrel
  cases hrel with
  | some hc => exact hc.trans (checkedAdd_spec hsum).1

lemma multiplyWord_spec {a b c : UInt64} (h : checkedMultiplyWord a b = some c) : c.toNat = a.toNat * b.toNat := by
  have hrel := checkedMultiply_word (rfl : Denotes a _) (rfl : Denotes b _)
  rw [h] at hrel
  generalize hproduct : checkedMultiply a.toNat b.toNat = product at hrel
  cases hrel with
  | some hc => exact hc.trans (checkedMultiply_spec hproduct).1

lemma sizeWord_toNat {value : Int32} (h : 0 ≤ value) : ((sizeWord value).toNat : ℤ) = value.toInt := by
  have hint : 0 ≤ value.toInt := Int32.le_iff_toInt_le.mp h
  have hnonneg : 0 ≤ value.toInt64 := by
    rw [Int64.le_iff_toInt_le, Int32.toInt_toInt64]
    exact hint
  rw [sizeWord, Int64.toNat_toUInt64_of_le hnonneg, Int64.toNatClampNeg, Int32.toInt_toInt64]
  exact Int.toNat_of_nonneg hint

lemma strideWord (stride : UInt64) : stride.toInt64 = Int64.ofInt stride.toNat := by
  have hword := UInt64.toInt64_ofNat' (n := stride.toNat)
  rw [UInt64.ofNat_toNat] at hword
  rw [hword, Int64.ofInt_eq_ofNat]

lemma subscript_eq (view : FieldViewWords) (i : Int3) (c : ℕ) :
    view.subscript i c = Int64.ofInt (view.offset i c) := by
  simp only [FieldViewWords.subscript, offset, strideWord, Int64.ofInt_add, Int64.ofInt_mul,
    Int64.ofInt_eq_ofNat]

lemma elementAddress_toNat {base : UInt64} {offset : ℤ} (hlow : 0 ≤ base.toNat + 8 * offset)
    (hhigh : base.toNat + 8 * offset < 2 ^ 64) :
    ((elementAddress base (Int64.ofInt offset)).toNat : ℤ) = base.toNat + 8 * offset := by
  have hword : (Int64.ofInt offset).toUInt64.toNat = (offset % 2 ^ 64).toNat := rfl
  have height : (8 : UInt64).toNat = 8 := rfl
  have hbase := base.toNat_lt
  rw [elementAddress, UInt64.toNat_add, UInt64.toNat_mul, hword, height]
  omega

section Consistent

variable {view : FieldViewWords} (h : view.Consistent)

include h

variable {i : Int3} {c : ℕ}

lemma Consistent.corners : view.Ghosted view.firstCorner 0 ∧
    view.Ghosted view.lastCorner (view.components.toNat - 1) := by
  have hextents := h.extents
  have hghosts := h.ghosts
  have hcomponents := h.components
  simp only [Ghosted, firstCorner, lastCorner]
  omega

omit h in
lemma Consistent.summands (hi : view.Ghosted i c) :
    (-view.ghosts.x.toInt ≤ i.x ∧ i.x ≤ view.interior.x.toInt + view.ghosts.x.toInt - 1) ∧
    (-view.ghosts.y.toInt * view.strideY.toNat ≤ i.y * view.strideY.toNat ∧ i.y * view.strideY.toNat ≤
      (view.interior.y.toInt + view.ghosts.y.toInt - 1) * view.strideY.toNat) ∧
    (-view.ghosts.z.toInt * view.strideZ.toNat ≤ i.z * view.strideZ.toNat ∧ i.z * view.strideZ.toNat ≤
      (view.interior.z.toInt + view.ghosts.z.toInt - 1) * view.strideZ.toNat) ∧
    (0 ≤ (c : ℤ) * view.componentStride.toNat ∧
      (c : ℤ) * view.componentStride.toNat ≤ ((view.components.toNat - 1 : ℕ) : ℤ) * view.componentStride.toNat) := by
  obtain ⟨hx, hy, hz, hc⟩ := hi
  refine ⟨by omega, ⟨?_, ?_⟩, ⟨?_, ?_⟩, by positivity, ?_⟩ <;>
    exact mul_le_mul_of_nonneg_right (by omega) (Int.natCast_nonneg _)

lemma Consistent.exact (hi : view.Ghosted i c) : view.Exact i c := by
  have hsubscripts := h.subscripts
  have haddresses := h.addresses
  obtain ⟨hx, hy, hz, hc⟩ := summands hi
  obtain ⟨hx₀, hy₀, hz₀, -⟩ := summands (i := {}) (c := 0) (by
    have hextents := h.extents
    have hghosts := h.ghosts
    simp only [Ghosted]
    exact ⟨by omega, by omega, by omega, h.components⟩)
  simp only [offset, firstCorner, lastCorner, Nat.cast_zero, zero_mul]
    at hsubscripts haddresses hy₀ hz₀
  refine ⟨?_, ?_, ?_⟩
  · simp only [List.forall_mem_cons, offset]
    refine ⟨?_, ?_, ?_, ?_, ?_, ?_, nofun⟩ <;> constructor <;> linarith
  · rw [subscript_eq]
    apply Int64.toInt_ofInt_of_le <;> simp only [offset] <;> linarith
  · rw [subscript_eq]
    apply elementAddress_toNat <;> simp only [offset] <;> linarith

omit h in
lemma Consistent.offset_mem (hi : view.Ghosted i c) : view.offset view.firstCorner 0 ≤ view.offset i c ∧
      view.offset i c ≤ view.offset view.lastCorner (view.components.toNat - 1) := by
  obtain ⟨hx, hy, hz, hc⟩ := summands hi
  simp only [offset, firstCorner, lastCorner, Nat.cast_zero, zero_mul]
  constructor <;> linarith

lemma Consistent.smallest {interval : FieldStorageInterval}
    (hbegin : (interval.begin.toNat : ℤ) = view.base.toNat + 8 * view.offset view.firstCorner 0)
    (hstop : (interval.stop.toNat : ℤ) =
      view.base.toNat + 8 * (view.offset view.lastCorner (view.components.toNat - 1) + 1)) :
    interval.Smallest view.bytes := by
  obtain ⟨hfirst, hlast⟩ := corners h
  have hfirstAt := (exact h hfirst).address
  have hlastAt := (exact h hlast).address
  refine ⟨?_, ⟨_, ⟨_, _, hfirst, rfl⟩, by omega⟩, ⟨_, ⟨_, _, hlast, rfl⟩, by omega⟩⟩
  rintro b ⟨s, ⟨i, c, hi, rfl⟩, hb⟩
  have haddress := (exact h hi).address
  have hmem := offset_mem hi
  rw [Set.mem_Ico]
  omega

end Consistent

section Accepted

variable {α : Type} {a b : UInt64} {f : UInt64 → Option α} {out : α}

variable {interval : FieldStorageInterval}

lemma addWord_bind (h : (checkedAddWord a b).bind f = some out) :
    ∃ c, c.toNat = a.toNat + b.toNat ∧ f c = some out := by
  obtain ⟨c, hc, h⟩ := Option.bind_eq_some_iff.mp h
  exact ⟨c, addWord_spec hc, h⟩

lemma multiplyWord_bind (h : (checkedMultiplyWord a b).bind f = some out) :
    ∃ c, c.toNat = a.toNat * b.toNat ∧ f c = some out := by
  obtain ⟨c, hc, h⟩ := Option.bind_eq_some_iff.mp h
  exact ⟨c, multiplyWord_spec hc, h⟩

lemma guard_bind {p : Prop} [Decidable p] {f : Unit → Option α} (h : (guard p : Option Unit).bind f = some out) :
    p ∧ f () = some out := by
  obtain ⟨_, hp, h⟩ := Option.bind_eq_some_iff.mp h
  exact ⟨guard_iff.mp hp, h⟩

lemma predWord (word : UInt64) (h : 0 < word.toNat) : ((word - 1).toNat : ℤ) = word.toNat - 1 := by
  have hone : 1 ≤ word := UInt64.le_iff_toNat_le.mpr h
  rw [UInt64.toNat_sub_of_le _ _ hone]
  exact Nat.cast_pred h

lemma intervalAt_spec {base before endOffset : UInt64} (h : intervalAt base before endOffset = some interval) :
    (interval.begin.toNat : ℤ) = base.toNat - 8 * before.toNat ∧
      (interval.stop.toNat : ℤ) = base.toNat + 8 * endOffset.toNat := by
  obtain ⟨beforeBytes, hbefore, h⟩ := multiplyWord_bind h
  obtain ⟨endBytes, hend, h⟩ := multiplyWord_bind h
  obtain ⟨⟨hlow, hhigh⟩, h⟩ := guard_bind h
  obtain ⟨-, h⟩ := guard_bind h
  obtain rfl := Option.some.inj h
  have height : (8 : UInt64).toNat = 8 := rfl
  rw [height] at hbefore hend
  have hbase := base.toNat_lt
  have hroom : base ≤ UInt64.ofNat maxU64 := by
    rw [UInt64.le_iff_toNat_le, toNat_maxU64, maxU64]
    omega
  have hlow' := UInt64.le_iff_toNat_le.mp hlow
  rw [UInt64.le_iff_toNat_le, UInt64.toNat_sub_of_le _ _ hroom, toNat_maxU64, maxU64] at hhigh
  dsimp only
  rw [UInt64.toNat_sub_of_le _ _ hlow, UInt64.toNat_add]
  omega

lemma fieldStorageIntervalWords_spec {view : FieldViewWords} (h : fieldStorageIntervalWords view = some interval) :
    view.Consistent ∧ (interval.begin.toNat : ℤ) = view.base.toNat + 8 * view.offset view.firstCorner 0 ∧
      (interval.stop.toNat : ℤ) =
        view.base.toNat + 8 * (view.offset view.lastCorner (view.components.toNat - 1) + 1) := by
  obtain ⟨⟨-, hnx, hny, hnz, hgx, hgy, hgz, hcomponents, -⟩, h⟩ := guard_bind h
  obtain ⟨twiceX, htwiceX, h⟩ := multiplyWord_bind h
  obtain ⟨paddedX, hpaddedX, h⟩ := addWord_bind h
  obtain ⟨twiceY, htwiceY, h⟩ := multiplyWord_bind h
  obtain ⟨paddedY, hpaddedY, h⟩ := addWord_bind h
  obtain ⟨twiceZ, htwiceZ, h⟩ := multiplyWord_bind h
  obtain ⟨paddedZ, hpaddedZ, h⟩ := addWord_bind h
  obtain ⟨hrow, h⟩ := guard_bind h
  obtain ⟨minimumZ, hminimumZ, h⟩ := multiplyWord_bind h
  obtain ⟨hplane, h⟩ := guard_bind h
  obtain ⟨minimumC, hminimumC, h⟩ := multiplyWord_bind h
  obtain ⟨hcomponent, h⟩ := guard_bind h
  obtain ⟨span, hspan, h⟩ := multiplyWord_bind h
  obtain ⟨beforeY, hbeforeY, h⟩ := multiplyWord_bind h
  obtain ⟨beforeZ, hbeforeZ, h⟩ := multiplyWord_bind h
  obtain ⟨beforeXY, hbeforeXY, h⟩ := addWord_bind h
  obtain ⟨before, hbefore, h⟩ := addWord_bind h
  obtain ⟨lastX, hlastX, h⟩ := addWord_bind h
  obtain ⟨lastYIndex, hlastYIndex, h⟩ := addWord_bind h
  obtain ⟨lastZIndex, hlastZIndex, h⟩ := addWord_bind h
  obtain ⟨-, h⟩ := guard_bind h
  obtain ⟨lastY, hlastY, h⟩ := multiplyWord_bind h
  obtain ⟨lastZ, hlastZ, h⟩ := multiplyWord_bind h
  obtain ⟨lastC, hlastC, h⟩ := multiplyWord_bind h
  obtain ⟨lastXY, hlastXY, h⟩ := addWord_bind h
  obtain ⟨lastXYZ, hlastXYZ, h⟩ := addWord_bind h
  obtain ⟨maximum, hmaximum, h⟩ := addWord_bind h
  obtain ⟨endOffset, hend, h⟩ := addWord_bind h
  obtain ⟨⟨hstrideY, hstrideZ, -, hbeforeMax, hmax, -⟩, h⟩ := guard_bind h
  obtain ⟨hbegin, hstop⟩ := intervalAt_spec h
  have hpos := Int32.lt_iff_toInt_lt.mp hnx
  have hpos' := Int32.lt_iff_toInt_lt.mp hny
  have hpos'' := Int32.lt_iff_toInt_lt.mp hnz
  rw [Int32.toInt_zero] at hpos hpos' hpos''
  have hx := sizeWord_toNat (Int32.le_of_lt hnx)
  have hy := sizeWord_toNat (Int32.le_of_lt hny)
  have hz := sizeWord_toNat (Int32.le_of_lt hnz)
  have hghostX := sizeWord_toNat hgx
  have hghostY := sizeWord_toNat hgy
  have hghostZ := sizeWord_toNat hgz
  have hcount : 0 < view.components.toNat := by
    rw [Nat.pos_iff_ne_zero, ne_eq, ← UInt8.toNat_zero, UInt8.toNat_inj]
    exact hcomponents
  have hpredX := predWord lastX (by omega)
  have hpredY := predWord lastYIndex (by omega)
  have hpredZ := predWord lastZIndex (by omega)
  have hpredC := predWord view.components.toUInt64 hcount
  have hfirst : view.offset view.firstCorner 0 = -(before.toNat : ℤ) := by
    simp only [offset, firstCorner, hbefore, hbeforeXY, hbeforeY, hbeforeZ, Nat.cast_add,
      Nat.cast_mul, hghostX, hghostY, hghostZ]
    ring
  have hlast : view.offset view.lastCorner (view.components.toNat - 1) = maximum.toNat := by
    simp only [offset, lastCorner, hmaximum, hlastXYZ, hlastXY, hlastC, hlastY, hlastZ,
      Nat.cast_add, Nat.cast_mul, hpredX, hpredY, hpredZ, hpredC, hlastX, hlastYIndex, hlastZIndex, hx, hy, hz, hghostX,
      hghostY, hghostZ, Nat.cast_pred hcount, UInt8.toNat_toUInt64]
  have htwo : (2 : UInt64).toNat = 2 := rfl
  have hone : (1 : UInt64).toNat = 1 := rfl
  have hptrdiff : ptrdiffMax.toNat = 2 ^ 63 - 1 := rfl
  simp only [UInt64.le_iff_toNat_le, hptrdiff, htwo, hone, hpaddedX, hpaddedY, hpaddedZ, htwiceX, htwiceY, htwiceZ,
    hminimumZ, hminimumC] at hrow hplane hcomponent hstrideY hstrideZ hbeforeMax hmax hend
  have hstopLt := interval.stop.toNat_lt
  have hspanLt := span.toNat_lt
  rw [hspan] at hspanLt
  refine ⟨⟨⟨hpos, hpos', hpos''⟩, ⟨by omega, by omega, by omega⟩, hcount, by omega, ?_, ?_, hspanLt, by omega, ?_, ?_⟩,
    ?_, ?_⟩
  · rw [← hy, ← hghostY]
    zify at hplane
    linarith
  · rw [← hz, ← hghostZ]
    zify at hcomponent
    linarith
  · rw [hfirst, hlast]
    omega
  · rw [hfirst, hlast]
    omega
  · rw [hfirst]
    omega
  · rw [hlast]
    omega

lemma faceStorageIntervalWords_spec {view : FaceViewWords} (h : faceStorageIntervalWords view = some interval) :
    view.asCells.Consistent ∧
      (interval.begin.toNat : ℤ) = view.base.toNat + 8 * view.asCells.offset view.asCells.firstCorner 0 ∧
      (interval.stop.toNat : ℤ) =
        view.base.toNat + 8 * (view.asCells.offset view.asCells.lastCorner (view.asCells.components.toNat - 1) + 1) := by
  obtain ⟨⟨-, hnx, hny, hnz, -⟩, h⟩ := guard_bind h
  obtain ⟨hrow, h⟩ := guard_bind h
  obtain ⟨minimumZ, hminimumZ, h⟩ := multiplyWord_bind h
  obtain ⟨hplane, h⟩ := guard_bind h
  obtain ⟨span, hspan, h⟩ := Option.bind_eq_some_iff.mp h
  obtain ⟨lastY, hlastY, h⟩ := multiplyWord_bind h
  obtain ⟨lastZ, hlastZ, h⟩ := multiplyWord_bind h
  obtain ⟨lastXY, hlastXY, h⟩ := addWord_bind h
  obtain ⟨maximum, hmaximum, h⟩ := addWord_bind h
  obtain ⟨endOffset, hend, h⟩ := addWord_bind h
  obtain ⟨⟨hstrideY, hstrideZ, hmax, -⟩, h⟩ := guard_bind h
  obtain ⟨hbegin, hstop⟩ := intervalAt_spec h
  have hpos := Int32.lt_iff_toInt_lt.mp hnx
  have hpos' := Int32.lt_iff_toInt_lt.mp hny
  have hpos'' := Int32.lt_iff_toInt_lt.mp hnz
  rw [Int32.toInt_zero] at hpos hpos' hpos''
  have hx := sizeWord_toNat (Int32.le_of_lt hnx)
  have hy := sizeWord_toNat (Int32.le_of_lt hny)
  have hz := sizeWord_toNat (Int32.le_of_lt hnz)
  have hpredX := predWord (sizeWord view.extents.x) (by omega)
  have hpredY := predWord (sizeWord view.extents.y) (by omega)
  have hpredZ := predWord (sizeWord view.extents.z) (by omega)
  have hghost : (0 : Int32).toInt = 0 := rfl
  have hfirst : view.asCells.offset view.asCells.firstCorner 0 = 0 := by
    simp [offset, firstCorner, FaceViewWords.asCells, hghost]
  have hlast : view.asCells.offset view.asCells.lastCorner (view.asCells.components.toNat - 1) = maximum.toNat := by
    simp only [offset, lastCorner, FaceViewWords.asCells, hghost, hmaximum, hlastXY, hlastY,
      hlastZ, Nat.cast_add, Nat.cast_mul, hpredX, hpredY, hpredZ, hx, hy, hz, add_zero, UInt8.toNat_one, Nat.sub_self, Nat.cast_zero, zero_mul]
  have hword : (view.strideZ * sizeWord view.extents.z).toNat = view.strideZ.toNat * (sizeWord view.extents.z).toNat := by
    rw [← multiplyWord_spec hspan]
    unfold checkedMultiplyWord at hspan
    split_ifs at hspan
    rw [Option.some.inj hspan]
  have hone : (1 : UInt64).toNat = 1 := rfl
  have hzero : (0 : UInt64).toNat = 0 := rfl
  have hptrdiff : ptrdiffMax.toNat = 2 ^ 63 - 1 := rfl
  simp only [UInt64.le_iff_toNat_le, hptrdiff, hone, hzero, hminimumZ] at hrow hplane hstrideY hstrideZ hmax hend hbegin
  have hstopLt := interval.stop.toNat_lt
  refine ⟨⟨⟨hpos, hpos', hpos''⟩, ⟨le_rfl, le_rfl, le_rfl⟩, Nat.one_pos, ?_, ?_, ?_, ?_, ?_, ?_, ?_⟩,
    ?_, ?_⟩
  · simp only [FaceViewWords.asCells, hghost]
    omega
  · simp only [FaceViewWords.asCells, hghost, ← hy, mul_zero, add_zero]
    exact_mod_cast hplane
  · simp only [FaceViewWords.asCells, hghost, ← hz, mul_zero, add_zero, hword]
    exact_mod_cast le_rfl
  · have hlt := (view.strideZ * sizeWord view.extents.z).toNat_lt
    simpa [FaceViewWords.asCells] using hlt
  · simp only [FaceViewWords.asCells]
    omega
  · exact ⟨by rw [hfirst]; decide, by rw [hlast]; omega⟩
  · rw [hfirst, hlast]
    simp only [FaceViewWords.asCells]
    omega
  · rw [hfirst, hbegin]
    omega
  · rw [hlast, hstop]
    omega

end Accepted

lemma asCells_ghosted {i : Int3} {c : ℕ} : view.asCells.Ghosted i c ↔ view.InExtents i ∧ c = 0 := by
  have hghost : (0 : Int32).toInt = 0 := rfl
  simp [Ghosted, FaceViewWords.InExtents, FaceViewWords.asCells, hghost, and_assoc]

lemma asCells_bytes (view : FaceViewWords) : view.asCells.bytes = view.bytes := by
  have hsubscript : ∀ i, view.asCells.subscript i 0 = view.subscript i := fun i => by
    simp [FieldViewWords.subscript, FaceViewWords.subscript, FaceViewWords.asCells]
  unfold bytes FaceViewWords.bytes
  congr 1
  ext s
  simp only [Set.mem_ofPred_eq, asCells_ghosted]
  constructor
  · rintro ⟨i, _, ⟨hi, rfl⟩, rfl⟩
    exact ⟨i, hi, hsubscript i⟩
  · rintro ⟨i, hi, rfl⟩
    exact ⟨i, 0, ⟨hi, rfl⟩, (hsubscript i).symm⟩

lemma fieldInterval_spec {view : FieldViewWords}
    (h : fieldStorageIntervalWords view = some interval) : view.Consistent ∧ interval.Smallest view.bytes :=
  have hspec := fieldStorageIntervalWords_spec h
  ⟨hspec.1, Consistent.smallest hspec.1 hspec.2.1 hspec.2.2⟩

lemma faceInterval_spec
    (h : faceStorageIntervalWords view = some interval) : view.asCells.Consistent ∧ interval.Smallest view.bytes := by
  have hspec := faceStorageIntervalWords_spec h
  rw [← asCells_bytes]
  exact ⟨hspec.1, Consistent.smallest hspec.1 hspec.2.1 hspec.2.2⟩

lemma intervalsOverlap_false {left right : Option FieldStorageInterval} {p p' : Prop} {bytes bytes' : Set ℕ}
    (hleft : ∀ interval, left = some interval → p ∧ interval.Smallest bytes)
    (hright : ∀ interval, right = some interval → p' ∧ interval.Smallest bytes')
    (h : intervalsOverlap left right = false) : p ∧ p' ∧ Disjoint bytes bytes' := by
  cases left with
  | none => exact nomatch h
  | some left =>
    cases right with
    | none => exact nomatch h
    | some right =>
      obtain ⟨hp, hleft⟩ := hleft left rfl
      obtain ⟨hp', hright⟩ := hright right rfl
      simp only [intervalsOverlap, storageIntervalsOverlap, Bool.and_eq_false_iff, decide_eq_false_iff_not,
        UInt64.lt_iff_toNat_lt, not_lt] at h
      refine ⟨hp, hp', Set.disjoint_left.mpr fun b hb hb' => ?_⟩
      have hmem := hleft.within hb
      have hmem' := hright.within hb'
      rw [Set.mem_Ico] at hmem hmem'
      omega

/-- The interval of an accepted view is the smallest with the bytes of its elements, whose subscripts and
addresses do not wrap around, and two views are found disjoint only if both are accepted and have no byte in
common. -/
theorem storage_intervals_exact : (∀ view interval, fieldStorageIntervalWords view = some interval →
      view.Consistent ∧ interval.Smallest view.bytes ∧ ∀ i c, view.Ghosted i c → view.Exact i c) ∧
    (∀ view interval, faceStorageIntervalWords view = some interval →
      view.asCells.Consistent ∧ interval.Smallest view.bytes ∧ ∀ i, view.InExtents i → view.asCells.Exact i 0) ∧
    (∀ left right, fieldViewsOverlapWords left right = false →
      left.Consistent ∧ right.Consistent ∧ Disjoint left.bytes right.bytes) ∧
    (∀ cell face, cellFaceViewsOverlapWords cell face = false →
      cell.Consistent ∧ face.asCells.Consistent ∧ Disjoint cell.bytes face.bytes) ∧
    ∀ left right, faceViewsOverlapWords left right = false →
      left.asCells.Consistent ∧ right.asCells.Consistent ∧ Disjoint left.bytes right.bytes := by
  refine ⟨fun view interval h => ?_, fun view interval h => ?_, fun left right h => ?_, fun cell face h => ?_,
    fun left right h => ?_⟩
  · obtain ⟨hconsistent, hsmallest⟩ := fieldInterval_spec h
    exact ⟨hconsistent, hsmallest, fun i c hi => Consistent.exact hconsistent hi⟩
  · obtain ⟨hconsistent, hsmallest⟩ := faceInterval_spec h
    exact ⟨hconsistent, hsmallest, fun i hi => Consistent.exact hconsistent (asCells_ghosted.mpr ⟨hi, rfl⟩)⟩
  · exact intervalsOverlap_false (fun _ => fieldInterval_spec) (fun _ => fieldInterval_spec) h
  · exact intervalsOverlap_false (fun _ => fieldInterval_spec) (fun _ => faceInterval_spec) h
  · exact intervalsOverlap_false (fun _ => faceInterval_spec) (fun _ => faceInterval_spec) h

example : fieldStorageIntervalWords ⟨4096, ⟨2, 2, 2⟩, ⟨1, 1, 0⟩, 2, 4, 16, 64⟩ = some ⟨4056, 4824⟩ := by decide

end Proofs

end HundunFlow
