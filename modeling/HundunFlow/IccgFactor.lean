import HundunFlow.CartesianKernel
import HundunFlow.IccgMatrix

/-!
# The incomplete factorization of a block

`ColdPressureIccg` factorizes the rows of one rank without fill and solves with the factors in two sweeps
over a field. The arithmetic is that of an ordered field, in which every number is finite; the indices of
rows are not wrapped. The identity of the certificate is left out.
-/

namespace HundunFlow.IccgMatrix

open Lib EBTopology MgWorkspace

structure ColdPressureIccg (𝕜 : Type) where
  rows : ℕ → ColdPressureRow 𝕜
  rowCount : ℕ
  cells : Int3
  inverse : ℕ → 𝕜
  prepared : Bool

namespace ColdPressureIccg

variable {𝕜 : Type} (m : ColdPressureIccg 𝕜)

def numbered : List (Int3 × ℕ) := (boxIndices m.cells).zipIdx

def stride (cells : Int3) : Axis → ℕ
  | .x => 1
  | .y => cells.x.toNat
  | .z => cells.x.toNat * cells.y.toNat

def below (cell : Int3) (axis : Axis) : Int3 := addIndex cell (directionDelta (lowerFace axis))

def above (cell : Int3) (axis : Axis) : Int3 := addIndex cell (directionDelta (upperFace axis))

variable [Field 𝕜]

def pivot (inverse : ℕ → 𝕜) (cell : Int3) (i : ℕ) : 𝕜 :=
  axes.foldl (fun pivot axis =>
    let lower := (m.rows i).neighbour (lowerFace axis)
    if 0 < component cell axis then pivot - lower * lower * inverse (i - stride m.cells axis) else pivot) (m.rows i).diagonal

def factorize [LinearOrder 𝕜] : List (Int3 × ℕ) → (ℕ → 𝕜) → Status × (ℕ → 𝕜)
  | [], inverse => ({}, inverse)
  | (cell, i) :: rest, inverse =>
    let pivot := m.pivot inverse cell i
    if pivot ≤ 0 then (⟨.numericalFailure, 17868⟩, inverse)
    else factorize rest (Function.update inverse i (1 / pivot))

def prepare [LinearOrder 𝕜] : Status × ColdPressureIccg 𝕜 :=
  if m.cells.x ≤ 0 ∨ m.cells.y ≤ 0 ∨ m.cells.z ≤ 0 ∨
      m.rowCount ≠ m.cells.x.toNat * m.cells.y.toNat * m.cells.z.toNat % 2 ^ 64 then
    (invalid 17867, { m with prepared := false })
  else
    let result := m.factorize m.numbered m.inverse
    (result.1, { m with inverse := result.2, prepared := result.1.isOk })

section Apply

variable {ι : Type} [DecidableEq ι]

def storeAt (memory : ι → Int3 → 𝕜) (output : ι) (cell : Int3) (value : 𝕜) : ι → Int3 → 𝕜 :=
  Function.update memory output (Function.update (memory output) cell value)

def forward (input output : ι) (memory : ι → Int3 → 𝕜) (entry : Int3 × ℕ) : ι → Int3 → 𝕜 :=
  let value := axes.foldl (fun value axis =>
    if 0 < component entry.1 axis then
      value + (m.rows entry.2).neighbour (lowerFace axis) * memory output (below entry.1 axis)
    else value) (memory input entry.1)
  storeAt memory output entry.1 (value * m.inverse entry.2)

def backward (output : ι) (memory : ι → Int3 → 𝕜) (entry : Int3 × ℕ) : ι → Int3 → 𝕜 :=
  let value := axes.foldl (fun value axis =>
    if component entry.1 axis + 1 < component m.cells axis then
      value + (m.rows (entry.2 + stride m.cells axis)).neighbour (lowerFace axis) * memory output (above entry.1 axis)
    else value) 0
  storeAt memory output entry.1 (memory output entry.1 + value * m.inverse entry.2)

/-- `apply`. The fields of two views are the same when the output aliases the input. -/
def apply (inputView outputView : FieldView) (input output : ι) (memory : ι → Int3 → 𝕜) : Status × (ι → Int3 → 𝕜) :=
  if m.prepared = false ∨ validCellView inputView m.cells 0 1 0 = false ∨ validCellView outputView m.cells 0 1 0 = false then
    (invalid 17867, memory)
  else ({}, m.numbered.reverse.foldl (m.backward output) (m.numbered.foldl (m.forward input output) memory))

end Apply

end ColdPressureIccg

end HundunFlow.IccgMatrix
