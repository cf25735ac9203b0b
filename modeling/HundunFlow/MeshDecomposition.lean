import HundunFlow.Status
import HundunFlow.Lib.BlockPartition
import Mathlib.Data.List.TakeWhile

/-!
# Partition of the global box

`choose_grid` picks the process grid, `split_axis` cuts every axis, and `make_mesh_patch`
returns the part of one rank. Extents and coordinates are C++ `int`s and are integers
here; the surface cost is the two-word arithmetic of the source.
-/

namespace HundunFlow

open Lib

structure Int3 where
  x : ℤ := 0
  y : ℤ := 0
  z : ℤ := 0
  deriving DecidableEq

structure MeshPatch where
  begin : Int3 := {}
  cells : Int3 := {}
  processGrid : Int3 := {}
  processCoord : Int3 := {}
  deriving DecidableEq

def kDecompositionInput : UInt32 := 201
def kDecompositionRanks : UInt32 := 202

def validCells (cells : Int3) : Bool := 0 < cells.x && 0 < cells.y && 0 < cells.z

variable {ranks : ℤ} {cells : Int3}

@[simp] lemma validCells_iff (cells : Int3) :
    validCells cells = true ↔ 0 < cells.x ∧ 0 < cells.y ∧ 0 < cells.z := by
  simp [validCells, and_assoc]

structure WideCost where
  high : UInt64 := 0
  low : UInt64 := 0
  deriving DecidableEq

structure GridChoice where
  grid : Int3 := {}
  surface : WideCost := ⟨UInt64.ofNat maxU64, UInt64.ofNat maxU64⟩
  maximumPatch : UInt64 := UInt64.ofNat maxU64
  valid : Bool := false
  deriving DecidableEq

def lexicographicallyLess (left right : Int3) : Bool :=
  left.x < right.x || (left.x = right.x && (left.y < right.y || (left.y = right.y && left.z < right.z)))

def WideCost.less (left right : WideCost) : Bool :=
  left.high < right.high || (left.high = right.high && left.low < right.low)

def wideMultiply (left right : UInt64) : WideCost :=
  let lowProduct := (left &&& 0xffffffff) * right
  let highProduct := (left >>> 32) * right
  let shiftedHigh := highProduct <<< 32
  let low := lowProduct + shiftedHigh
  let carry : UInt64 := if low < lowProduct then 1 else 0
  ⟨(highProduct >>> 32) + carry, low⟩

/-- The high word saturates instead of wrapping. -/
def WideCost.add (left term : WideCost) : WideCost :=
  let low := left.low + term.low
  let carry : UInt64 := if low < left.low then 1 else 0
  let highIncrement := term.high + carry
  let high := if highIncrement < term.high || UInt64.ofNat maxU64 - left.high < highIncrement then
    UInt64.ofNat maxU64 else left.high + highIncrement
  ⟨high, low⟩

/-- `static_cast<std::uint64_t>` of a positive `int`. -/
def asU64 (v : ℤ) : UInt64 := UInt64.ofNat v.toNat

def interfaceSurface (cells grid : Int3) : WideCost :=
  let x := asU64 cells.x
  let y := asU64 cells.y
  let z := asU64 cells.z
  let result : WideCost := {}
  let result := result.add (wideMultiply (y * z) (asU64 grid.x - 1))
  let result := result.add (wideMultiply (x * z) (asU64 grid.y - 1))
  result.add (wideMultiply (x * y) (asU64 grid.z - 1))

/-- Cells of the largest patch, or zero when the product does not fit 64 bits. -/
def maximumPatchCells (globalCells processGrid : Int3) : UInt64 :=
  if !validCells globalCells || !validCells processGrid then 0
  else
    let extent (n p : ℤ) : UInt64 := asU64 (n / p + if n % p ≠ 0 then 1 else 0)
    let x := extent globalCells.x processGrid.x
    let y := extent globalCells.y processGrid.y
    let z := extent globalCells.z processGrid.z
    if x > UInt64.ofNat maxU64 / y || x * y > UInt64.ofNat maxU64 / z then 0 else x * y * z

def considerGrid (cells : Int3) (best : GridChoice) (candidate : Int3) : GridChoice :=
  if candidate.x > cells.x || candidate.y > cells.y || candidate.z > cells.z then best
  else
    let surface := interfaceSurface cells candidate
    let maximum := maximumPatchCells cells candidate
    if maximum = 0 then best
    else if !best.valid || surface.less best.surface ||
        (!best.surface.less surface && maximum < best.maximumPatch) ||
        (!surface.less best.surface && !best.surface.less surface && maximum = best.maximumPatch &&
          lexicographicallyLess candidate best.grid) then
      ⟨candidate, surface, maximum, true⟩
    else best

/-- The values of a counting loop `for (v = first; go v; ++v)` that runs at most `count` times. -/
def countingLoop (first : ℤ) (count : ℕ) (go : ℤ → Bool) : List ℤ :=
  ((List.range count).map fun k : ℕ => first + (k : ℤ)).takeWhile go

/-- The axis permutations of one factor triple, in the order they are tried. -/
def gridPermutations (a b c : ℤ) : List Int3 :=
  [⟨a, b, c⟩, ⟨a, c, b⟩, ⟨b, a, c⟩, ⟨b, c, a⟩, ⟨c, a, b⟩, ⟨c, b, a⟩]

/-- The factor triples `a ≤ b ≤ c` of `ranks`. A value of either loop is at most `ranks`,
which bounds the number of turns. -/
def factorTriples (ranks : ℤ) : List (ℤ × ℤ × ℤ) :=
  (countingLoop 1 ranks.toNat fun a => a ≤ ranks / a / a).flatMap fun a =>
    if ranks % a ≠ 0 then []
    else
      let remaining := ranks / a
      (countingLoop a remaining.toNat fun b => b ≤ remaining / b).flatMap fun b =>
        if remaining % b ≠ 0 then []
        else
          let c := remaining / b
          if b > c then [] else [(a, b, c)]

def chooseGrid (cells : Int3) (ranks : ℤ) : GridChoice :=
  (factorTriples ranks).foldl
    (fun best t => (gridPermutations t.1 t.2.1 t.2.2).foldl (considerGrid cells) best) {}

/-- `begin` and `count` of one axis. -/
def splitAxis (global partitions coordinate : ℤ) : ℤ × ℤ :=
  let quotient := global / partitions
  let remainder := global % partitions
  let count := quotient + if coordinate < remainder then 1 else 0
  let wideBegin := coordinate * quotient + min coordinate remainder
  (wideBegin, count)

def gridPatch (rank : ℤ) (globalCells grid : Int3) : MeshPatch :=
  let yzRank := rank / grid.x
  let coord : Int3 := ⟨rank % grid.x, yzRank % grid.y, yzRank / grid.y⟩
  let x := splitAxis globalCells.x grid.x coord.x
  let y := splitAxis globalCells.y grid.y coord.y
  let z := splitAxis globalCells.z grid.z coord.z
  { begin := ⟨x.1, y.1, z.1⟩, cells := ⟨x.2, y.2, z.2⟩, processGrid := grid, processCoord := coord }

def makeMeshPatch (rank rankCount : ℤ) (globalCells : Int3) : Except Status MeshPatch :=
  if rankCount ≤ 0 || rank < 0 || rank ≥ rankCount || !validCells globalCells then
    .error ⟨.invalidPlan, kDecompositionInput⟩
  else
    let choice := chooseGrid globalCells rankCount
    if !choice.valid then .error ⟨.invalidPlan, kDecompositionRanks⟩
    else .ok (gridPatch rank globalCells choice.grid)

/-- A process grid of `ranks` ranks that no axis of the box is too short for. -/
structure GridFits (cells : Int3) (ranks : ℤ) (grid : Int3) : Prop where
  pos_x : 0 < grid.x
  pos_y : 0 < grid.y
  pos_z : 0 < grid.z
  le_x : grid.x ≤ cells.x
  le_y : grid.y ≤ cells.y
  le_z : grid.z ≤ cells.z
  product : grid.x * grid.y * grid.z = ranks

lemma mem_countingLoop {first v : ℤ} {count : ℕ} {go : ℤ → Bool}
    (h : v ∈ countingLoop first count go) : first ≤ v ∧ go v = true := by
  unfold countingLoop at h
  refine ⟨?_, List.mem_takeWhile_imp h⟩
  obtain ⟨k, -, rfl⟩ := List.mem_map.mp ((List.takeWhile_sublist _).subset h)
  omega

lemma factorTriples_product {a b c : ℤ} (h : (a, b, c) ∈ factorTriples ranks) :
    0 < a ∧ 0 < b ∧ 0 < c ∧ a * b * c = ranks := by
  unfold factorTriples at h
  obtain ⟨a', ha, h⟩ := List.mem_flatMap.mp h
  by_cases hdiv : ranks % a' ≠ 0
  · simp [hdiv] at h
  rw [if_neg hdiv] at h
  obtain ⟨b', hb, h⟩ := List.mem_flatMap.mp h
  by_cases hdiv' : ranks / a' % b' ≠ 0
  · simp [hdiv'] at h
  rw [if_neg hdiv'] at h
  by_cases hbc : b' > ranks / a' / b'
  · simp [hbc] at h
  rw [if_neg hbc] at h
  obtain ⟨rfl, rfl, rfl⟩ : a = a' ∧ b = b' ∧ c = ranks / a' / b' := by simpa using h
  have hapos : 0 < a := by have := (mem_countingLoop ha).1; omega
  have hbpos : 0 < b := by have := (mem_countingLoop hb).1; omega
  have h1 := Int.mul_ediv_add_emod ranks a
  have h2 := Int.mul_ediv_add_emod (ranks / a) b
  rw [not_not.mp hdiv] at h1
  rw [not_not.mp hdiv'] at h2
  refine ⟨hapos, hbpos, by omega, ?_⟩
  rw [mul_assoc]
  linarith [congrArg (a * ·) h2]

lemma considerGrid_fits {candidate : Int3} {best : GridChoice}
    (hpos : 0 < candidate.x ∧ 0 < candidate.y ∧ 0 < candidate.z)
    (hprod : candidate.x * candidate.y * candidate.z = ranks)
    (hbest : best.valid = true → GridFits cells ranks best.grid) :
    (considerGrid cells best candidate).valid = true →
      GridFits cells ranks (considerGrid cells best candidate).grid := by
  unfold considerGrid
  by_cases hbig : (candidate.x > cells.x || candidate.y > cells.y || candidate.z > cells.z) = true
  · simpa only [hbig, if_true] using hbest
  · rw [if_neg hbig]
    simp only [Bool.or_eq_true, decide_eq_true_eq, not_or, not_lt] at hbig
    dsimp only
    split
    · exact hbest
    · split
      · exact fun _ => ⟨hpos.1, hpos.2.1, hpos.2.2, hbig.1.1, hbig.1.2, hbig.2, hprod⟩
      · exact hbest

lemma gridPermutations_product {a b c : ℤ} (hpos : 0 < a ∧ 0 < b ∧ 0 < c) {g : Int3}
    (hg : g ∈ gridPermutations a b c) : (0 < g.x ∧ 0 < g.y ∧ 0 < g.z) ∧ g.x * g.y * g.z = a * b * c := by
  simp only [gridPermutations, List.mem_cons, List.not_mem_nil, or_false] at hg
  rcases hg with rfl | rfl | rfl | rfl | rfl | rfl <;> exact ⟨by tauto, by ring⟩

/-- A valid choice splits the ranks exactly and leaves no patch empty. -/
theorem chooseGrid_fits (h : (chooseGrid cells ranks).valid = true) :
    GridFits cells ranks (chooseGrid cells ranks).grid := by
  have hinner : ∀ (l : List Int3) (best : GridChoice),
      (∀ g ∈ l, (0 < g.x ∧ 0 < g.y ∧ 0 < g.z) ∧ g.x * g.y * g.z = ranks) →
      (best.valid = true → GridFits cells ranks best.grid) →
      (l.foldl (considerGrid cells) best).valid = true →
        GridFits cells ranks (l.foldl (considerGrid cells) best).grid := by
    intro l
    induction l with
    | nil => exact fun best _ hb => hb
    | cons g l ih =>
      intro best hl hb
      have hg := hl g List.mem_cons_self
      exact ih _ (fun g' hg' => hl g' (List.mem_cons_of_mem _ hg')) (considerGrid_fits hg.1 hg.2 hb)
  have houter : ∀ (l : List (ℤ × ℤ × ℤ)) (best : GridChoice),
      (∀ t ∈ l, t ∈ factorTriples ranks) →
      (best.valid = true → GridFits cells ranks best.grid) →
      let f := fun (best : GridChoice) (t : ℤ × ℤ × ℤ) =>
        (gridPermutations t.1 t.2.1 t.2.2).foldl (considerGrid cells) best
      (l.foldl f best).valid = true → GridFits cells ranks (l.foldl f best).grid := by
    intro l
    induction l with
    | nil => exact fun best _ hb => hb
    | cons t l ih =>
      intro best hl hb
      obtain ⟨ha, hb', hc, hprod⟩ := factorTriples_product (hl t List.mem_cons_self)
      refine ih _ (fun t' ht' => hl t' (List.mem_cons_of_mem _ ht')) ?_
      refine hinner _ best (fun g hg => ?_) hb
      rw [← hprod]
      exact gridPermutations_product ⟨ha, hb', hc⟩ hg
  exact houter _ {} (fun _ ht => ht) (by simp) h

/-- What a successful partition hands out, for every rank at once. -/
structure PartitionOf (cells : Int3) (ranks : ℤ) (grid : Int3) : Prop extends GridFits cells ranks grid where
  cells_valid : validCells cells = true
  patch : ∀ rank, 0 ≤ rank → rank < ranks → makeMeshPatch rank ranks cells = .ok (gridPatch rank cells grid)

theorem makeMeshPatch_partition {rank : ℤ} {patch : MeshPatch} (h : makeMeshPatch rank ranks cells = .ok patch) :
    PartitionOf cells ranks (chooseGrid cells ranks).grid ∧ 0 ≤ rank ∧ rank < ranks := by
  unfold makeMeshPatch at h
  by_cases hin : (decide (ranks ≤ 0) || decide (rank < 0) || decide (rank ≥ ranks) ||
      !validCells cells) = true
  · simp [hin] at h
  rw [if_neg hin] at h
  simp only [Bool.or_eq_true, decide_eq_true_eq, Bool.not_eq_true', not_or, not_le, not_lt,
    Bool.not_eq_false] at hin
  by_cases hv : (chooseGrid cells ranks).valid = true
  · refine ⟨⟨chooseGrid_fits hv, hin.2, fun r hr hr' => ?_⟩, hin.1.1.2, by omega⟩
    have hr'' : ¬r ≥ ranks := by omega
    have hr0 : ¬r < 0 := by omega
    have hranks : ¬ranks ≤ 0 := by omega
    unfold makeMeshPatch
    simp [hr'', hr0, hranks, hin.2, hv]
  · simp [hv] at h

variable {cells grid : Int3} {ranks rank : ℤ} (hg : PartitionOf cells ranks grid)

def rankAt (grid coord : Int3) : ℤ := flatIndex grid.x grid.y coord.x coord.y coord.z

def InGrid (grid coord : Int3) : Prop :=
  (0 ≤ coord.x ∧ coord.x < grid.x) ∧ (0 ≤ coord.y ∧ coord.y < grid.y) ∧ 0 ≤ coord.z ∧ coord.z < grid.z

include hg in
lemma processCoord_inGrid (h0 : 0 ≤ rank) (h1 : rank < ranks) :
    InGrid grid (gridPatch rank cells grid).processCoord := by
  have hyz : 0 ≤ rank / grid.x := Int.ediv_nonneg h0 hg.pos_x.le
  refine ⟨⟨Int.emod_nonneg _ hg.pos_x.ne', Int.emod_lt_of_pos _ hg.pos_x⟩,
    ⟨Int.emod_nonneg _ hg.pos_y.ne', Int.emod_lt_of_pos _ hg.pos_y⟩,
    Int.ediv_nonneg hyz hg.pos_y.le, ?_⟩
  have hlt : rank / grid.x < grid.z * grid.y := by
    rw [Int.ediv_lt_iff_lt_mul hg.pos_x]
    linarith [hg.product]
  exact (Int.ediv_lt_iff_lt_mul hg.pos_y).mpr hlt

lemma rankAt_processCoord : rankAt grid (gridPatch rank cells grid).processCoord = rank :=
  flatIndex_digits rank

include hg in
lemma rankAt_range {c : Int3} (hc : InGrid grid c) : 0 ≤ rankAt grid c ∧ rankAt grid c < ranks := by
  obtain ⟨⟨hx, hx'⟩, ⟨hy, hy'⟩, hz, hz'⟩ := hc
  refine ⟨flatIndex_nonneg hx hx' hy hy' hz, ?_⟩
  rw [← hg.product]
  exact flatIndex_lt hx' hx hy' hy hz'

lemma processCoord_rankAt {c : Int3} (hc : InGrid grid c) :
    (gridPatch (rankAt grid c) cells grid).processCoord = c := by
  obtain ⟨⟨hx, hx'⟩, ⟨hy, hy'⟩, hz, hz'⟩ := hc
  unfold gridPatch rankAt
  simp only [flatIndex_emod hx hx', flatIndex_second hx hx' hy hy', flatIndex_third hx hx' hy hy']

end HundunFlow
