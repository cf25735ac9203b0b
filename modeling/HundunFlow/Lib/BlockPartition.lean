import Mathlib.Data.Int.ConditionallyCompleteOrder
import Mathlib.Tactic.Linarith
import Mathlib.Tactic.Ring

/-!
# Splitting an interval into nearly equal blocks

`n` cells are cut into `p` consecutive blocks; the first `n % p` blocks hold one cell more
than the others. `blockOwner` inverts the cut by a division formula. The second part is the
usual flat numbering of a three-dimensional box, first axis fastest.
-/

namespace HundunFlow.Lib

/-- First cell of block `c`. -/
def blockBegin (n p c : ℤ) : ℤ := c * (n / p) + min c (n % p)

/-- Number of cells of block `c`. -/
def blockCount (n p c : ℤ) : ℤ := n / p + if c < n % p then 1 else 0

/-- The block that holds cell `i`. -/
def blockOwner (n p i : ℤ) : ℤ :=
  if i < (n / p + 1) * (n % p) then i / (n / p + 1)
  else n % p + (i - (n / p + 1) * (n % p)) / (n / p)

section Block

variable {n p : ℤ}

@[simp] lemma blockBegin_zero (hp : 0 < p) : blockBegin n p 0 = 0 := by
  have := Int.emod_nonneg n hp.ne'
  simp [blockBegin, this]

lemma blockBegin_succ (c : ℤ) : blockBegin n p (c + 1) = blockBegin n p c + blockCount n p c := by
  unfold blockBegin blockCount
  by_cases h : c < n % p
  · rw [min_eq_left (by omega), min_eq_left (by omega), if_pos h]
    ring
  · rw [min_eq_right (by omega), min_eq_right (by omega), if_neg h]
    ring

lemma blockBegin_top (hp : 0 < p) : blockBegin n p p = n := by
  have hlt := Int.emod_lt_of_pos n hp
  have hdiv := Int.mul_ediv_add_emod n p
  rw [blockBegin, min_eq_right hlt.le]
  linarith

lemma one_le_quotient (hp : 0 < p) (hpn : p ≤ n) : 1 ≤ n / p := by
  rw [Int.le_ediv_iff_mul_le hp]
  linarith

lemma blockCount_pos (hp : 0 < p) (hpn : p ≤ n) (c : ℤ) : 0 < blockCount n p c := by
  have hq := one_le_quotient hp hpn
  unfold blockCount
  split <;> omega

lemma blockBegin_strictMono (hp : 0 < p) (hpn : p ≤ n) : StrictMono (blockBegin n p) :=
  strictMono_int_of_lt_succ fun c => by
    have := blockCount_pos hp hpn c
    rw [blockBegin_succ]
    omega

lemma blockBegin_nonneg (hp : 0 < p) (hpn : p ≤ n) {c : ℤ} (hc : 0 ≤ c) : 0 ≤ blockBegin n p c := by
  have h := (blockBegin_strictMono hp hpn).monotone hc
  rwa [blockBegin_zero hp] at h

lemma blockEnd_le (hp : 0 < p) (hpn : p ≤ n) {c : ℤ} (hc : c < p) : blockBegin n p c + blockCount n p c ≤ n := by
  have h := (blockBegin_strictMono hp hpn).monotone (show c + 1 ≤ p by omega)
  rwa [blockBegin_top hp, blockBegin_succ] at h

lemma block_unique (hp : 0 < p) (hpn : p ≤ n) {c d i : ℤ} (hc : blockBegin n p c ≤ i)
    (hc' : i < blockBegin n p c + blockCount n p c) (hd : blockBegin n p d ≤ i)
    (hd' : i < blockBegin n p d + blockCount n p d) : c = d := by
  have hmono := blockBegin_strictMono hp hpn
  rw [← blockBegin_succ] at hc' hd'
  have h1 : c < d + 1 := hmono.lt_iff_lt.mp (by omega)
  have h2 : d < c + 1 := hmono.lt_iff_lt.mp (by omega)
  omega

lemma blockOwner_range (hp : 0 < p) (hpn : p ≤ n) {i : ℤ} (hi : 0 ≤ i) (hin : i < n) :
    0 ≤ blockOwner n p i ∧ blockOwner n p i < p := by
  have hq := one_le_quotient hp hpn
  have hr := Int.emod_nonneg n hp.ne'
  have hrp := Int.emod_lt_of_pos n hp
  have hdiv := Int.mul_ediv_add_emod n p
  unfold blockOwner
  split
  case isTrue h =>
    constructor
    · exact Int.ediv_nonneg hi (by omega)
    · have : i / (n / p + 1) < n % p := by
        rw [Int.ediv_lt_iff_lt_mul (by omega)]
        linarith
      omega
  case isFalse h =>
    have hnum : 0 ≤ i - (n / p + 1) * (n % p) := by omega
    have hquo : 0 ≤ (i - (n / p + 1) * (n % p)) / (n / p) := Int.ediv_nonneg hnum (by omega)
    have hlt : (i - (n / p + 1) * (n % p)) / (n / p) < p - n % p := by
      rw [Int.ediv_lt_iff_lt_mul (by omega)]
      nlinarith
    constructor <;> omega

/-- The division formula finds the block a cell lies in. -/
theorem blockOwner_mem (hp : 0 < p) (hpn : p ≤ n) (i : ℤ) : blockBegin n p (blockOwner n p i) ≤ i ∧
      i < blockBegin n p (blockOwner n p i) + blockCount n p (blockOwner n p i) := by
  have hq := one_le_quotient hp hpn
  have hr := Int.emod_nonneg n hp.ne'
  unfold blockOwner
  split
  case isTrue h =>
    -- the long blocks: `i / (q + 1)` is below the remainder, so `min` is the block number
    have hlt : i / (n / p + 1) < n % p := by
      rw [Int.ediv_lt_iff_lt_mul (by omega)]
      linarith
    have hdm := Int.mul_ediv_add_emod i (n / p + 1)
    have hm := Int.emod_nonneg i (show n / p + 1 ≠ 0 by omega)
    have hm' := Int.emod_lt_of_pos i (show 0 < n / p + 1 by omega)
    rw [blockBegin, blockCount, min_eq_left hlt.le, if_pos hlt]
    constructor <;> nlinarith
  case isFalse h =>
    have hnum : 0 ≤ i - (n / p + 1) * (n % p) := by omega
    have hquo : 0 ≤ (i - (n / p + 1) * (n % p)) / (n / p) := Int.ediv_nonneg hnum (by omega)
    have hdm := Int.mul_ediv_add_emod (i - (n / p + 1) * (n % p)) (n / p)
    have hm := Int.emod_nonneg (i - (n / p + 1) * (n % p)) (show n / p ≠ 0 by omega)
    have hm' := Int.emod_lt_of_pos (i - (n / p + 1) * (n % p)) (show 0 < n / p by omega)
    rw [blockBegin, blockCount, min_eq_right (by omega), if_neg (by omega)]
    constructor <;> nlinarith

theorem blockOwner_eq (hp : 0 < p) (hpn : p ≤ n) {c i : ℤ} (hc : blockBegin n p c ≤ i)
    (hc' : i < blockBegin n p c + blockCount n p c) : blockOwner n p i = c :=
  block_unique hp hpn (blockOwner_mem hp hpn i).1 (blockOwner_mem hp hpn i).2 hc hc'

end Block

/-! ### Flat numbering of a box -/

/-- The number of the point `(x, y, z)` in a box with `nx` points along the first axis and
`ny` along the second. -/
def flatIndex (nx ny x y z : ℤ) : ℤ := x + nx * (y + ny * z)

variable {nx ny nz x y z : ℤ}

lemma flatIndex_emod (hx : 0 ≤ x) (hx' : x < nx) : flatIndex nx ny x y z % nx = x := by
  rw [flatIndex, Int.add_mul_emod_self_left, Int.emod_eq_of_lt hx hx']

lemma flatIndex_ediv (hx : 0 ≤ x) (hx' : x < nx) : flatIndex nx ny x y z / nx = y + ny * z := by
  rw [flatIndex, Int.add_mul_ediv_left _ _ (by omega), Int.ediv_eq_zero_of_lt hx hx', zero_add]

lemma flatIndex_second (hx : 0 ≤ x) (hx' : x < nx) (hy : 0 ≤ y) (hy' : y < ny) :
    flatIndex nx ny x y z / nx % ny = y := by
  rw [flatIndex_ediv hx hx', Int.add_mul_emod_self_left, Int.emod_eq_of_lt hy hy']

lemma flatIndex_third (hx : 0 ≤ x) (hx' : x < nx) (hy : 0 ≤ y) (hy' : y < ny) :
    flatIndex nx ny x y z / nx / ny = z := by
  rw [flatIndex_ediv hx hx', Int.add_mul_ediv_left _ _ (by omega), Int.ediv_eq_zero_of_lt hy hy',
    zero_add]

lemma flatIndex_nonneg (hx : 0 ≤ x) (hx' : x < nx) (hy : 0 ≤ y) (hy' : y < ny) (hz : 0 ≤ z) :
    0 ≤ flatIndex nx ny x y z := by
  have h1 : 0 ≤ ny * z := mul_nonneg (by omega) hz
  have h2 : 0 ≤ nx * (y + ny * z) := mul_nonneg (by omega) (by omega)
  unfold flatIndex
  omega

lemma flatIndex_lt (hx' : x < nx) (hx : 0 ≤ x) (hy' : y < ny) (hy : 0 ≤ y) (hz : z < nz) :
    flatIndex nx ny x y z < nx * ny * nz := by
  have h1 : y + ny * z < ny * nz := by
    have : ny * z ≤ ny * (nz - 1) := mul_le_mul_of_nonneg_left (by omega) (by omega)
    nlinarith
  have h2 : nx * (y + ny * z) ≤ nx * (ny * nz - 1) := mul_le_mul_of_nonneg_left (by omega) (by omega)
  unfold flatIndex
  nlinarith

lemma flatIndex_digits (k : ℤ) : flatIndex nx ny (k % nx) (k / nx % ny) (k / nx / ny) = k := by
  have h1 := Int.mul_ediv_add_emod k nx
  have h2 := Int.mul_ediv_add_emod (k / nx) ny
  have h3 : k / nx % ny + ny * (k / nx / ny) = k / nx := by linarith
  rw [flatIndex, h3]
  linarith

lemma flatIndex_inj {x' y' z' : ℤ} (hx : 0 ≤ x) (hx' : x < nx) (hy : 0 ≤ y) (hy' : y < ny)
    (kx : 0 ≤ x') (kx' : x' < nx) (ky : 0 ≤ y') (ky' : y' < ny)
    (h : flatIndex nx ny x y z = flatIndex nx ny x' y' z') : x = x' ∧ y = y' ∧ z = z' := by
  refine ⟨?_, ?_, ?_⟩
  · have hfirst : flatIndex nx ny x y z % nx = x := flatIndex_emod hx hx'
    rw [← hfirst, h, flatIndex_emod kx kx']
  · rw [← flatIndex_second (z := z) hx hx' hy hy', h, flatIndex_second kx kx' ky ky']
  · rw [← flatIndex_third (z := z) hx hx' hy hy', h, flatIndex_third kx kx' ky ky']

end HundunFlow.Lib
