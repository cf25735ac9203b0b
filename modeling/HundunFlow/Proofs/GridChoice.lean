import HundunFlow.Lib.Folding
import HundunFlow.Lib.WideWords
import HundunFlow.MeshDecomposition
import Mathlib.Data.Prod.Lex

/-!
# The chosen process grid

The two words of a surface are the exact number, so a candidate replaces the best one when its key is
smaller: the surface, the largest patch, the grid itself.
-/

namespace HundunFlow.Proofs

open Lib List

section Surface

def surfaceValue (cost : WideCost) : ℕ := wide cost.high cost.low

lemma surfaceValue_wideMultiply {left right : UInt64} (h : right.toNat < 2 ^ 32) :
    surfaceValue (wideMultiply left right) = left.toNat * right.toNat := wide_mul h rfl rfl rfl

lemma surfaceValue_add {left term : WideCost} (h : surfaceValue left + surfaceValue term < 2 ^ 127) :
    surfaceValue (left.add term) = surfaceValue left + surfaceValue term := by
  have hsum := carry_add left.low term.low
  have hlow := left.low.toNat_lt
  have hlow' := term.low.toNat_lt
  simp only [surfaceValue, wide] at h
  obtain ⟨carry, hcarry⟩ : ∃ carry : UInt64, carry = if left.low + term.low < left.low then 1 else 0 := ⟨_, rfl⟩
  have hcarryValue : (if left.low + term.low < left.low then 2 ^ 64 else 0) = carry.toNat * 2 ^ 64 := by
    by_cases hwrap : left.low + term.low < left.low
    · rw [hcarry, if_pos hwrap, if_pos hwrap]
      rfl
    · rw [hcarry, if_neg hwrap, if_neg hwrap]
      rfl
  have hcarryLe : carry.toNat ≤ 1 := by
    by_cases hwrap : left.low + term.low < left.low
    · rw [hcarry, if_pos hwrap]
      exact le_refl 1
    · rw [hcarry, if_neg hwrap]
      exact Nat.zero_le 1
  have hincrement : (term.high + carry).toNat = term.high.toNat + carry.toNat := by
    rw [UInt64.toNat_add]
    exact Nat.mod_eq_of_lt (by omega)
  have hroom : ¬ (term.high + carry < term.high ∨ UInt64.ofNat maxU64 - left.high < term.high + carry) := by
    have hle : left.high ≤ UInt64.ofNat maxU64 := UInt64.le_iff_toNat_le.mpr (Nat.le_of_lt_succ left.high.toNat_lt)
    have hmax : (UInt64.ofNat maxU64 - left.high).toNat = 2 ^ 64 - 1 - left.high.toNat := UInt64.toNat_sub_of_le _ _ hle
    simp only [UInt64.lt_iff_toNat_lt, hincrement, hmax]
    omega
  have hhigh : (left.high + (term.high + carry)).toNat = left.high.toNat + (term.high.toNat + carry.toNat) := by
    rw [UInt64.toNat_add, hincrement]
    exact Nat.mod_eq_of_lt (by omega)
  simp only [WideCost.add, ← hcarry, Bool.or_eq_true, decide_eq_true_eq, if_neg hroom, surfaceValue, wide, hhigh]
  rw [hcarryValue] at hsum
  omega

lemma less_iff {left right : WideCost} : left.less right = true ↔ surfaceValue left < surfaceValue right := by
  simp only [WideCost.less, surfaceValue, wide_lt_iff, Bool.or_eq_true, Bool.and_eq_true, decide_eq_true_eq]

def InRange (v : ℤ) : Prop := 0 < v ∧ v ≤ maxI32

lemma asU64_toNat {v : ℤ} (h : InRange v) : (asU64 v).toNat = v.toNat := by
  obtain ⟨hpos, hmax⟩ := h
  rw [maxI32] at hmax
  exact Nat.mod_eq_of_lt (by omega)

lemma product_lt {a b : ℤ} (ha : InRange a) (hb : InRange b) : a.toNat * b.toNat < 2 ^ 62 := by
  obtain ⟨-, ha⟩ := ha
  obtain ⟨-, hb⟩ := hb
  rw [maxI32] at ha hb
  calc a.toNat * b.toNat < 2 ^ 31 * 2 ^ 31 := Nat.mul_lt_mul'' (by omega) (by omega)
    _ = 2 ^ 62 := by norm_num

lemma surfaceValue_axis {a b p : ℤ} (ha : InRange a) (hb : InRange b) (hp : InRange p) :
    surfaceValue (wideMultiply (asU64 a * asU64 b) (asU64 p - 1)) = a.toNat * b.toNat * (p.toNat - 1) ∧
      a.toNat * b.toNat * (p.toNat - 1) < 2 ^ 94 := by
  have harea := product_lt ha hb
  have hfew : p.toNat - 1 < 2 ^ 31 := by
    have hmax := hp.2
    rw [maxI32] at hmax
    omega
  have hpart : (asU64 p - 1).toNat = p.toNat - 1 := by
    have hone : (1 : UInt64) ≤ asU64 p := by
      rw [UInt64.le_iff_toNat_le, asU64_toNat hp]
      have hpos := hp.1
      change 1 ≤ p.toNat
      omega
    rw [UInt64.toNat_sub_of_le _ _ hone, asU64_toNat hp]
    rfl
  have hwide : (asU64 a * asU64 b).toNat = a.toNat * b.toNat := by
    rw [UInt64.toNat_mul, asU64_toNat ha, asU64_toNat hb]
    exact Nat.mod_eq_of_lt (by omega)
  constructor
  · rw [surfaceValue_wideMultiply (by omega), hwide, hpart]
  · calc a.toNat * b.toNat * (p.toNat - 1) < 2 ^ 62 * 2 ^ 31 := Nat.mul_lt_mul'' harea hfew
      _ < 2 ^ 94 := by norm_num

/-- The faces between the patches of a grid. -/
def surfaceOf (cells grid : Int3) : ℕ :=
  cells.y.toNat * cells.z.toNat * (grid.x.toNat - 1) + cells.x.toNat * cells.z.toNat * (grid.y.toNat - 1) +
    cells.x.toNat * cells.y.toNat * (grid.z.toNat - 1)

structure BoxInRange (box : Int3) : Prop where
  x : InRange box.x
  y : InRange box.y
  z : InRange box.z

lemma surfaceValue_interfaceSurface {cells grid : Int3} (hcells : BoxInRange cells) (hgrid : BoxInRange grid) :
    surfaceValue (interfaceSurface cells grid) = surfaceOf cells grid := by
  obtain ⟨hx, hx'⟩ := surfaceValue_axis hcells.y hcells.z hgrid.x
  obtain ⟨hy, hy'⟩ := surfaceValue_axis hcells.x hcells.z hgrid.y
  obtain ⟨hz, hz'⟩ := surfaceValue_axis hcells.x hcells.y hgrid.z
  have hzero : surfaceValue {} = 0 := rfl
  simp only [interfaceSurface]
  rw [surfaceValue_add, surfaceValue_add, surfaceValue_add, hzero, hx, hy, hz, zero_add, surfaceOf]
  · rw [hzero, hx]
    omega
  · rw [surfaceValue_add, hzero, hx, hy]
    · omega
    · rw [hzero, hx]
      omega
  · rw [surfaceValue_add, surfaceValue_add, hzero, hx, hy, hz]
    · omega
    · rw [hzero, hx]
      omega
    · rw [surfaceValue_add, hzero, hx, hy]
      · omega
      · rw [hzero, hx]
        omega

end Surface

section LargestPatch

def longestBlock (extent parts : ℤ) : ℤ := extent / parts + if extent % parts ≠ 0 then 1 else 0

def largestPatch (cells grid : Int3) : ℕ :=
  (longestBlock cells.x grid.x).toNat * (longestBlock cells.y grid.y).toNat * (longestBlock cells.z grid.z).toNat

lemma longestBlock_inRange {extent parts : ℤ} (h : InRange extent) (hparts : InRange parts) :
    InRange (longestBlock extent parts) := by
  obtain ⟨hpos, hmax⟩ := h
  obtain ⟨hparts, -⟩ := hparts
  have hdiv := Int.mul_ediv_add_emod extent parts
  have hrest := Int.emod_nonneg extent hparts.ne'
  have hquot : 0 ≤ extent / parts := Int.ediv_nonneg hpos.le hparts.le
  have hle : extent / parts ≤ parts * (extent / parts) := le_mul_of_one_le_left hquot hparts
  have hzero : extent / parts = 0 → extent % parts ≠ 0 := by
    intro hzero
    rw [hzero, mul_zero] at hdiv
    omega
  unfold InRange longestBlock
  split_ifs with hrem <;> omega

lemma maximumPatchCells_toNat {cells grid : Int3} (hcells : BoxInRange cells) (hgrid : BoxInRange grid) :
    0 < largestPatch cells grid ∧
      (maximumPatchCells cells grid).toNat = if largestPatch cells grid < 2 ^ 64 then largestPatch cells grid else 0 := by
  have hx := longestBlock_inRange hcells.x hgrid.x
  have hy := longestBlock_inRange hcells.y hgrid.y
  have hz := longestBlock_inRange hcells.z hgrid.z
  have hxpos : 0 < (longestBlock cells.x grid.x).toNat := Int.pos_iff_toNat_pos.mp hx.1
  have hypos : 0 < (longestBlock cells.y grid.y).toNat := Int.pos_iff_toNat_pos.mp hy.1
  have hzpos : 0 < (longestBlock cells.z grid.z).toNat := Int.pos_iff_toNat_pos.mp hz.1
  have hvalid : (!validCells cells || !validCells grid) = false := by
    simp only [Bool.or_eq_false_iff, Bool.not_eq_false', validCells_iff]
    exact ⟨⟨hcells.x.1, hcells.y.1, hcells.z.1⟩, hgrid.x.1, hgrid.y.1, hgrid.z.1⟩
  have harea := product_lt hx hy
  have hxy : (asU64 (longestBlock cells.x grid.x) * asU64 (longestBlock cells.y grid.y)).toNat =
      (longestBlock cells.x grid.x).toNat * (longestBlock cells.y grid.y).toNat := by
    rw [UInt64.toNat_mul, asU64_toNat hx, asU64_toNat hy]
    exact Nat.mod_eq_of_lt (by omega)
  have hmax : (UInt64.ofNat maxU64).toNat = 2 ^ 64 - 1 := rfl
  have hplane : ¬ asU64 (longestBlock cells.x grid.x) > UInt64.ofNat maxU64 / asU64 (longestBlock cells.y grid.y) := by
    rw [gt_iff_lt, UInt64.lt_iff_toNat_lt, UInt64.toNat_div, hmax, asU64_toNat hx, asU64_toNat hy, Nat.div_lt_iff_lt_mul hypos]
    omega
  have hvolume : asU64 (longestBlock cells.x grid.x) * asU64 (longestBlock cells.y grid.y) >
      UInt64.ofNat maxU64 / asU64 (longestBlock cells.z grid.z) ↔ ¬ largestPatch cells grid < 2 ^ 64 := by
    rw [gt_iff_lt, UInt64.lt_iff_toNat_lt, UInt64.toNat_div, hmax, hxy, asU64_toNat hz, Nat.div_lt_iff_lt_mul hzpos, largestPatch]
    omega
  refine ⟨Nat.mul_pos (Nat.mul_pos hxpos hypos) hzpos, ?_⟩
  unfold maximumPatchCells
  rw [if_neg (by rw [hvalid]; decide)]
  have hblock : ∀ extent parts : ℤ, (extent / parts + if extent % parts ≠ 0 then 1 else 0) = longestBlock extent parts :=
    fun _ _ => rfl
  simp only [hblock, Bool.or_eq_true, decide_eq_true_eq, hplane, false_or, hvolume]
  by_cases hfits : largestPatch cells grid < 2 ^ 64
  · rw [if_neg (not_not.mpr hfits), if_pos hfits, UInt64.toNat_mul, hxy, asU64_toNat hz]
    exact Nat.mod_eq_of_lt hfits
  · rw [if_pos hfits, if_neg hfits]
    rfl

end LargestPatch

section Best

variable {cells : Int3} {ranks : ℤ}

/-- What is least for the chosen grid. -/
def gridKey (cells grid : Int3) : ℕ ×ₗ ℕ ×ₗ ℤ ×ₗ ℤ ×ₗ ℤ :=
  toLex (surfaceOf cells grid, toLex (largestPatch cells grid, toLex (grid.x, toLex (grid.y, grid.z))))

/-- The grids of the ranks that fit into the box and have a largest patch of 64 bits. -/
structure GridAdmitted (cells : Int3) (ranks : ℤ) (grid : Int3) : Prop extends GridFits cells ranks grid where
  patch_fits : largestPatch cells grid < 2 ^ 64

lemma GridFits.inRange {grid : Int3} (h : GridFits cells ranks grid) (hcells : BoxInRange cells) : BoxInRange grid :=
  ⟨⟨h.pos_x, h.le_x.trans hcells.x.2⟩, ⟨h.pos_y, h.le_y.trans hcells.y.2⟩, ⟨h.pos_z, h.le_z.trans hcells.z.2⟩⟩

def choiceOf (cells grid : Int3) : GridChoice := ⟨grid, interfaceSurface cells grid, maximumPatchCells cells grid, true⟩

lemma lexicographicallyLess_iff {left right : Int3} : lexicographicallyLess left right = true ↔
    toLex (left.x, toLex (left.y, left.z)) < toLex (right.x, toLex (right.y, right.z)) := by
  simp only [lexicographicallyLess, Prod.Lex.toLex_lt_toLex, Bool.or_eq_true, Bool.and_eq_true, decide_eq_true_eq]

lemma maximumPatchCells_of_admitted (hcells : BoxInRange cells) {grid : Int3} (h : GridAdmitted cells ranks grid) :
    (maximumPatchCells cells grid).toNat = largestPatch cells grid := by
  rw [(maximumPatchCells_toNat hcells (GridFits.inRange h.toGridFits hcells)).2, if_pos h.patch_fits]

lemma replaces_iff (hcells : BoxInRange cells) {best candidate : Int3} (hbest : GridAdmitted cells ranks best)
    (hcand : GridAdmitted cells ranks candidate) :
    ((interfaceSurface cells candidate).less (interfaceSurface cells best) ||
        (!(interfaceSurface cells best).less (interfaceSurface cells candidate) &&
          maximumPatchCells cells candidate < maximumPatchCells cells best) ||
        (!(interfaceSurface cells candidate).less (interfaceSurface cells best) &&
          !(interfaceSurface cells best).less (interfaceSurface cells candidate) &&
          maximumPatchCells cells candidate = maximumPatchCells cells best && lexicographicallyLess candidate best)) = true ↔
      gridKey cells candidate < gridKey cells best := by
  have hsurface := surfaceValue_interfaceSurface hcells (GridFits.inRange hbest.toGridFits hcells)
  have hsurface' := surfaceValue_interfaceSurface hcells (GridFits.inRange hcand.toGridFits hcells)
  have hpatch := maximumPatchCells_of_admitted hcells hbest
  have hpatch' := maximumPatchCells_of_admitted hcells hcand
  have hkey : gridKey cells candidate < gridKey cells best ↔ surfaceOf cells candidate < surfaceOf cells best ∨
      surfaceOf cells candidate = surfaceOf cells best ∧ (largestPatch cells candidate < largestPatch cells best ∨
        largestPatch cells candidate = largestPatch cells best ∧ lexicographicallyLess candidate best = true) := by
    rw [gridKey, gridKey, Prod.Lex.toLex_lt_toLex, Prod.Lex.toLex_lt_toLex, lexicographicallyLess_iff]
  rw [hkey]
  simp only [Bool.or_eq_true, Bool.and_eq_true, Bool.not_eq_true', decide_eq_true_eq, less_iff, ← Bool.not_eq_true,
    UInt64.lt_iff_toNat_lt, ← UInt64.toNat_inj, hsurface, hsurface', hpatch, hpatch']
  constructor
  · rintro ((h | ⟨h, h'⟩) | ⟨⟨⟨h, h'⟩, heq⟩, hless⟩)
    · exact .inl h
    · rcases Nat.lt_or_ge (surfaceOf cells candidate) (surfaceOf cells best) with hlt | hge
      · exact .inl hlt
      · exact .inr ⟨by omega, .inl h'⟩
    · exact .inr ⟨by omega, .inr ⟨heq, hless⟩⟩
  · rintro (h | ⟨heq, h | ⟨h, hless⟩⟩)
    · exact .inl (.inl h)
    · exact .inl (.inr ⟨by omega, h⟩)
    · exact .inr ⟨⟨⟨by omega, by omega⟩, h⟩, hless⟩

/-- The grids with the product of the number of ranks. -/
structure GridOf (ranks : ℤ) (grid : Int3) : Prop where
  pos_x : 0 < grid.x
  pos_y : 0 < grid.y
  pos_z : 0 < grid.z
  product : grid.x * grid.y * grid.z = ranks

lemma considerGrid_eq (hcells : BoxInRange cells) {best : GridChoice} {candidate : Int3} (hcand : GridOf ranks candidate)
    (hbest : best.valid = true → best = choiceOf cells best.grid ∧ GridAdmitted cells ranks best.grid) :
    (¬ GridAdmitted cells ranks candidate → considerGrid cells best candidate = best) ∧
      (GridAdmitted cells ranks candidate → considerGrid cells best candidate =
        if best.valid = true → gridKey cells candidate < gridKey cells best.grid then choiceOf cells candidate else best) := by
  unfold considerGrid
  by_cases hlarge : (candidate.x > cells.x || candidate.y > cells.y || candidate.z > cells.z) = true
  · rw [if_pos hlarge]
    simp only [Bool.or_eq_true, decide_eq_true_eq] at hlarge
    refine ⟨fun _ => rfl, fun h => ?_⟩
    have hx := h.le_x
    have hy := h.le_y
    have hz := h.le_z
    omega
  · rw [if_neg hlarge]
    simp only [Bool.or_eq_true, decide_eq_true_eq, not_or, not_lt] at hlarge
    have hfits : GridFits cells ranks candidate :=
      ⟨hcand.pos_x, hcand.pos_y, hcand.pos_z, hlarge.1.1, hlarge.1.2, hlarge.2, hcand.product⟩
    obtain ⟨hpositive, hmaximum⟩ := maximumPatchCells_toNat hcells (GridFits.inRange hfits hcells)
    have hzero : maximumPatchCells cells candidate = 0 ↔ ¬ GridAdmitted cells ranks candidate := by
      rw [← UInt64.toNat_inj, hmaximum]
      constructor
      · intro h hadm
        rw [if_pos hadm.patch_fits] at h
        exact hpositive.ne' h
      · intro h
        rw [if_neg fun hlt => h ⟨hfits, hlt⟩]
        rfl
    dsimp only
    constructor
    · intro h
      rw [if_pos (hzero.mpr h)]
    · intro h
      rw [if_neg fun h0 => hzero.mp h0 h]
      by_cases hvalid : best.valid = true
      · obtain ⟨hchoice, hadm⟩ := hbest hvalid
        have hiff := replaces_iff hcells hadm h
        rw [hchoice]
        simp only [choiceOf, Bool.not_true, Bool.false_or, forall_const]
        exact if_congr hiff rfl rfl
      · rw [if_pos (by simp [hvalid]), if_pos fun h => absurd h hvalid]
        rfl

lemma foldl_considerGrid (hcells : BoxInRange cells) {l : List Int3} (hl : ∀ g ∈ l, GridOf ranks g) :
    ((l.foldl (considerGrid cells) {}).valid = true → l.foldl (considerGrid cells) {} = choiceOf cells (l.foldl (considerGrid cells) {}).grid ∧
        GridAdmitted cells ranks (l.foldl (considerGrid cells) {}).grid) ∧
      ∀ g ∈ l, GridAdmitted cells ranks g → (l.foldl (considerGrid cells) {}).valid = true ∧
        gridKey cells (l.foldl (considerGrid cells) {}).grid ≤ gridKey cells g := by
  refine foldl_rule (I := fun seen best => (best.valid = true → best = choiceOf cells best.grid ∧ GridAdmitted cells ranks best.grid) ∧
    ∀ g ∈ seen, GridAdmitted cells ranks g → best.valid = true ∧ gridKey cells best.grid ≤ gridKey cells g) ?_ ?_
  · exact ⟨nofun, fun g hg => absurd hg not_mem_nil⟩
  · rintro seen candidate best hmem ⟨hbest, hleast⟩
    obtain ⟨hskip, htake⟩ := considerGrid_eq hcells (hl candidate hmem) hbest
    by_cases hadm : GridAdmitted cells ranks candidate
    · rw [htake hadm]
      split_ifs with hsmaller
      · refine ⟨fun _ => ⟨rfl, hadm⟩, fun g hg hgadm => ⟨rfl, ?_⟩⟩
        rcases mem_append.mp hg with hseen | hlast
        · obtain ⟨hvalid, hle⟩ := hleast g hseen hgadm
          exact (hsmaller hvalid).le.trans hle
        · obtain rfl := mem_singleton.mp hlast
          exact le_refl _
      · obtain ⟨hvalid, hnot⟩ := Classical.not_imp.mp hsmaller
        refine ⟨hbest, fun g hg hgadm => ?_⟩
        rcases mem_append.mp hg with hseen | hlast
        · exact hleast g hseen hgadm
        · obtain rfl := mem_singleton.mp hlast
          exact ⟨hvalid, not_lt.mp hnot⟩
    · rw [hskip hadm]
      refine ⟨hbest, fun g hg hgadm => ?_⟩
      rcases mem_append.mp hg with hseen | hlast
      · exact hleast g hseen hgadm
      · obtain rfl := mem_singleton.mp hlast
        exact absurd hgadm hadm

end Best

section Triples

variable {ranks : ℤ}

lemma mem_countingLoop_of_forall {first v : ℤ} {count : ℕ} {go : ℤ → Bool} (hle : first ≤ v) (hlt : v < first + count)
    (hgo : ∀ w, first ≤ w → w ≤ v → go w = true) : v ∈ countingLoop first count go := by
  obtain ⟨k, rfl⟩ := Int.le.dest hle
  have hk : k + 1 ≤ count := by omega
  obtain ⟨rest, rfl⟩ := Nat.exists_eq_add_of_le hk
  have hpassed : ∀ w ∈ (range (k + 1)).map fun i : ℕ => first + (i : ℤ), go w = true := by
    intro w hw
    obtain ⟨i, hi, rfl⟩ := mem_map.mp hw
    have hi := mem_range.mp hi
    exact hgo _ (by omega) (by omega)
  rw [countingLoop, range_add, map_append, takeWhile_append_of_pos hpassed]
  exact mem_append_left _ (mem_map.mpr ⟨k, mem_range.mpr (Nat.lt_succ_self k), rfl⟩)

lemma mem_factorTriples {a b c : ℤ} (ha : 0 < a) (hab : a ≤ b) (hbc : b ≤ c) (hproduct : a * b * c = ranks) :
    (a, b, c) ∈ factorTriples ranks := by
  have hb : 0 < b := ha.trans_le hab
  have hc : 0 < c := hb.trans_le hbc
  have hleft : ranks / a = b * c := by
    rw [← hproduct, mul_assoc]
    exact Int.mul_ediv_cancel_left _ ha.ne'
  have hlast : b * c / b = c := Int.mul_ediv_cancel_left _ hb.ne'
  have hranks : a ≤ ranks := by
    calc a ≤ a * (b * c) := le_mul_of_one_le_right ha.le (Int.add_one_le_of_lt (mul_pos hb hc))
      _ = ranks := by rw [← mul_assoc, hproduct]
  have houter : a ∈ countingLoop 1 ranks.toNat fun a => a ≤ ranks / a / a := by
    refine mem_countingLoop_of_forall ha (by omega) fun w hw hwa => ?_
    have hw : 0 < w := hw
    have hcube : w * w * w ≤ ranks := by
      calc w * w * w ≤ a * b * c := by
            gcongr
            · exact hwa.trans hab
            · exact (hwa.trans hab).trans hbc
        _ = ranks := hproduct
    rw [decide_eq_true_eq, Int.le_ediv_iff_mul_le hw, Int.le_ediv_iff_mul_le hw]
    exact hcube
  have hinner : b ∈ countingLoop a (b * c).toNat fun b' => b' ≤ b * c / b' := by
    refine mem_countingLoop_of_forall hab ?_ fun w hw hwb => ?_
    · have hle : b ≤ b * c := le_mul_of_one_le_right hb.le hc
      omega
    · have hw : 0 < w := ha.trans_le hw
      rw [decide_eq_true_eq, Int.le_ediv_iff_mul_le hw]
      exact mul_le_mul hwb (hwb.trans hbc) hw.le hb.le
  refine mem_flatMap.mpr ⟨a, houter, ?_⟩
  have hdvd : ¬ ranks % a ≠ 0 := not_not.mpr (Int.emod_eq_zero_of_dvd ⟨b * c, by rw [← mul_assoc, hproduct]⟩)
  have hdvd' : ¬ b * c % b ≠ 0 := not_not.mpr (Int.emod_eq_zero_of_dvd ⟨c, rfl⟩)
  rw [if_neg hdvd]
  simp only [hleft]
  refine mem_flatMap.mpr ⟨b, hinner, ?_⟩
  rw [if_neg hdvd', hlast, if_neg (not_lt.mpr hbc)]
  exact mem_singleton_self _

/-- The candidates of `choose_grid`, in the order in which they are examined. -/
def examined (ranks : ℤ) : List Int3 := (factorTriples ranks).flatMap fun t => gridPermutations t.1 t.2.1 t.2.2

lemma chooseGrid_eq_foldl (cells : Int3) : chooseGrid cells ranks = (examined ranks).foldl (considerGrid cells) {} := by
  rw [chooseGrid, examined, foldl_flatMap]

lemma mem_examined {grid : Int3} : grid ∈ examined ranks ↔ GridOf ranks grid := by
  constructor
  · intro h
    obtain ⟨⟨a, b, c⟩, ht, hg⟩ := mem_flatMap.mp h
    obtain ⟨ha, hb, hc, hproduct⟩ := factorTriples_product ht
    obtain ⟨⟨hx, hy, hz⟩, hgrid⟩ := gridPermutations_product ⟨ha, hb, hc⟩ hg
    exact ⟨hx, hy, hz, hgrid.trans hproduct⟩
  · rintro ⟨hx, hy, hz, hproduct⟩
    obtain ⟨x, y, z⟩ := grid
    simp only at hx hy hz hproduct
    have hmem : ∀ a b c : ℤ, 0 < a → a ≤ b → b ≤ c → a * b * c = ranks → ⟨x, y, z⟩ ∈ gridPermutations a b c →
        (⟨x, y, z⟩ : Int3) ∈ examined ranks := fun a b c ha hab hbc habc hperm =>
      mem_flatMap.mpr ⟨(a, b, c), mem_factorTriples ha hab hbc habc, hperm⟩
    rcases le_total x y with hxy | hxy <;> rcases le_total y z with hyz | hyz <;> rcases le_total x z with hxz | hxz
    · exact hmem x y z hx hxy hyz hproduct (by simp [gridPermutations])
    · exact hmem x y z hx hxy hyz hproduct (by simp [gridPermutations])
    · exact hmem x z y hx hxz hyz (by rw [← hproduct]; ring) (by simp [gridPermutations])
    · exact hmem z x y hz hxz hxy (by rw [← hproduct]; ring) (by simp [gridPermutations])
    · exact hmem y x z hy hxy hxz (by rw [← hproduct]; ring) (by simp [gridPermutations])
    · exact hmem y z x hy hyz hxz (by rw [← hproduct]; ring) (by simp [gridPermutations])
    · exact hmem z y x hz hyz hxy (by rw [← hproduct]; ring) (by simp [gridPermutations])
    · exact hmem z y x hz hyz hxy (by rw [← hproduct]; ring) (by simp [gridPermutations])

end Triples

/-- The grids of a number of ranks are examined, there is a choice when one of them is admitted, and the
choice has the least key. -/
theorem choose_grid_optimal {cells : Int3} (hcells : BoxInRange cells) (ranks : ℤ) :
    chooseGrid cells ranks = (examined ranks).foldl (considerGrid cells) {} ∧
    (∀ grid, grid ∈ examined ranks ↔ GridOf ranks grid) ∧
    ((chooseGrid cells ranks).valid = true ↔ ∃ grid, GridAdmitted cells ranks grid) ∧
    ((chooseGrid cells ranks).valid = true →
      GridAdmitted cells ranks (chooseGrid cells ranks).grid ∧
      surfaceValue (chooseGrid cells ranks).surface = surfaceOf cells (chooseGrid cells ranks).grid ∧
      (chooseGrid cells ranks).maximumPatch.toNat = largestPatch cells (chooseGrid cells ranks).grid ∧
      ∀ grid, GridAdmitted cells ranks grid → gridKey cells (chooseGrid cells ranks).grid ≤ gridKey cells grid) := by
  obtain ⟨hchoice, hleast⟩ := foldl_considerGrid hcells fun g hg => mem_examined.mp hg
  rw [← chooseGrid_eq_foldl] at hchoice hleast
  have hexamined : ∀ grid, GridAdmitted cells ranks grid → grid ∈ examined ranks := fun grid h =>
    mem_examined.mpr ⟨h.pos_x, h.pos_y, h.pos_z, h.product⟩
  refine ⟨chooseGrid_eq_foldl cells, fun grid => mem_examined, ⟨fun h => ⟨_, (hchoice h).2⟩, ?_⟩, fun h => ?_⟩
  · rintro ⟨grid, hgrid⟩
    exact (hleast grid (hexamined grid hgrid) hgrid).1
  · obtain ⟨heq, hadmitted⟩ := hchoice h
    refine ⟨hadmitted, ?_, ?_, fun grid hgrid => (hleast grid (hexamined grid hgrid) hgrid).2⟩
    · rw [congrArg GridChoice.surface heq]
      exact surfaceValue_interfaceSurface hcells (GridFits.inRange hadmitted.toGridFits hcells)
    · rw [congrArg GridChoice.maximumPatch heq]
      exact maximumPatchCells_of_admitted hcells hadmitted

theorem choose_grid_optimal_twelve :
    (chooseGrid ⟨4, 3, 2⟩ 12).valid = true ∧ GridAdmitted ⟨4, 3, 2⟩ 12 (chooseGrid ⟨4, 3, 2⟩ 12).grid := by
  have hcells : BoxInRange ⟨4, 3, 2⟩ := ⟨⟨by decide, by decide⟩, ⟨by decide, by decide⟩, by decide, by decide⟩
  have hgrid : GridAdmitted ⟨4, 3, 2⟩ 12 ⟨2, 3, 2⟩ :=
    ⟨⟨by decide, by decide, by decide, by decide, by decide, by decide, by decide⟩, by decide⟩
  have hvalid := (choose_grid_optimal hcells 12).2.2.1.mpr ⟨_, hgrid⟩
  exact ⟨hvalid, ((choose_grid_optimal hcells 12).2.2.2 hvalid).1⟩

end HundunFlow.Proofs
