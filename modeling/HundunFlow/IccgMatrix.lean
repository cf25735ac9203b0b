import HundunFlow.EBTopology

/-!
# Admission of the pressure matrix

Every rank checks its rows and collapses its part of the coupling graph by union-find. Opposite
coefficients are compared through the halo, and what has a strictly dominant row spreads over the
halo until nothing is missing. The arithmetic is that of an ordered field; the arrays over the cells of
a patch are kept by index triples. The right-hand side of a row is left out.
-/

namespace HundunFlow

open Lib

structure ColdPressureRow (𝕜 : Type) where
  neighbour : Fin 6 → 𝕜
  diagonal : 𝕜

structure IccgMatrixAdmissionReport where
  groundingExchanges : ℕ := 0
  spd : Bool := false
  deriving DecidableEq

namespace IccgMatrix

open EBTopology (boxIndices addIndex directionDelta inside)
open MgWorkspace (component axes)

def invalid (detail : UInt32) : Status := ⟨.invalidPlan, detail⟩

/-- `std::numeric_limits<std::uint32_t>::max()`. -/
def maxU32 : ℕ := 2 ^ 32 - 1

def faceAxis (f : Fin 6) : Axis := if f.val / 2 = 0 then .x else if f.val / 2 = 1 then .y else .z

def lowerFace : Axis → Fin 6
  | .x => 0
  | .y => 2
  | .z => 4

def upperFace : Axis → Fin 6
  | .x => 1
  | .y => 3
  | .z => 5

inductive AdmissionRequest (𝕜 : Type) where
  | consensus (status : Status)
  | checkedMax (values : List ℕ)
  | exchange (scratch : Int3 → 𝕜)

inductive AdmissionReply (𝕜 : Type) where
  | verdict (status : Status)
  | maxima (values : List ℕ)
  | refused (status : Status)
  | scratch (status : Status) (field : Int3 → 𝕜)

inductive AdmissionSignature where
  | consensus
  | checkedMax (count : ℕ)
  | exchange
  deriving DecidableEq

abbrev Admission (𝕜 α : Type) : Type :=
  Prog (AdmissionRequest 𝕜) (AdmissionReply 𝕜) (Stage (Status × IccgMatrixAdmissionReport) α)

section Collectives

variable {𝕜 : Type}

def consensus (report : IccgMatrixAdmissionReport) (status : Status) : Admission 𝕜 Unit :=
  .call (.consensus status) fun
    | .verdict status => .done (if status.isOk then .ok () else .failed (status, report))
    | _ => .done .fault

def checkedMax (report : IccgMatrixAdmissionReport) (values : List ℕ) : Admission 𝕜 (List ℕ) :=
  .call (.checkedMax values) fun
    | .maxima values => .done (.ok values)
    | .refused status => .done (.failed (status, report))
    | _ => .done .fault

def exchanged (report : IccgMatrixAdmissionReport) (scratch : Int3 → 𝕜) : Admission 𝕜 (Int3 → 𝕜) :=
  .call (.exchange scratch) fun
    | .scratch status field => (consensus report status).andThen fun _ => .done (.ok field)
    | _ => .done .fault

end Collectives

/-- `root`: the search halves the path. Without `fuel` the search has not ended. -/
def root : ℕ → (Int3 → Int3) → Int3 → Option (Int3 × (Int3 → Int3))
  | 0, _, _ => none
  | fuel + 1, parent, i =>
    if parent i = i then some (i, parent)
    else
      let parent := Function.update parent i (parent (parent i))
      root fuel parent (parent i)

/-- What a rank hands in. `workspace` says that the buffers and the view of the scratch field are valid. -/
structure IccgInput (𝕜 : Type) where
  rows : Int3 → ColdPressureRow 𝕜
  rowCount : ℕ
  patch : MeshPatch
  globalCells : Int3
  periodic : Axis → Bool
  parentSize : ℕ
  groundedSize : ℕ
  workspace : Bool
  scratch : Int3 → 𝕜

structure Grounding where
  parent : Int3 → Int3
  grounded : Int3 → Bool

structure RowScan extends Grounding where
  status : Status

namespace IccgInput

variable {𝕜 : Type} (input : IccgInput 𝕜)

def count : ℕ := input.patch.cells.x.toNat * input.patch.cells.y.toNat * input.patch.cells.z.toNat % 2 ^ 64

def cells : List Int3 := boxIndices input.patch.cells

def storageStatus : Status :=
  if input.patch.cells.x ≤ 0 ∨ input.patch.cells.y ≤ 0 ∨ input.patch.cells.z ≤ 0 ∨ input.rowCount ≠ input.count ∨
      input.parentSize ≠ input.count ∨ input.groundedSize ≠ input.count ∨ input.workspace = false ∨
      ∃ axis ∈ axes, component input.patch.begin axis < 0 ∨ component input.globalCells axis ≤ 0 ∨
        component input.globalCells axis < component input.patch.begin axis + component input.patch.cells axis then
    invalid 17869
  else {}

def fuel : ℕ := input.cells.length + 1

def outer (cell : Int3) (f : Fin 6) : Bool :=
  let coord := component (addIndex cell (directionDelta f)) (faceAxis f)
  !input.periodic (faceAxis f) && (coord + component input.patch.begin (faceAxis f) < 0 ||
    component input.globalCells (faceAxis f) ≤ coord + component input.patch.begin (faceAxis f))

variable [Field 𝕜] [LinearOrder 𝕜]

def joins (cell : Int3) (f : Fin 6) : Bool :=
  let nb := addIndex cell (directionDelta f)
  f.val % 2 = 1 && 0 < (input.rows cell).neighbour f && nb.x < input.patch.cells.x && nb.y < input.patch.cells.y &&
    nb.z < input.patch.cells.z

def scanFace (cell : Int3) (state : RowScan × 𝕜) (f : Fin 6) : Option (RowScan × 𝕜) :=
  let a := (input.rows cell).neighbour f
  let status := if 0 ≤ a then state.1.status else invalid 17869
  let status := if input.outer cell f ∧ a ≠ 0 then invalid 17869 else status
  let sum := state.2 + a
  if input.joins cell f then
    match root input.fuel state.1.parent cell with
    | none => none
    | some (above, parent) =>
      match root input.fuel parent (addIndex cell (directionDelta f)) with
      | none => none
      | some (below, parent) =>
        some ({ state.1 with status := status, parent := Function.update parent below above }, sum)
  else some ({ state.1 with status := status }, sum)

def scanCell (scan : RowScan) (cell : Int3) : Option RowScan :=
  let row := input.rows cell
  let status := if 0 < row.diagonal then scan.status else invalid 17869
  match (List.finRange 6).foldlM (input.scanFace cell) ({ scan with status := status }, 0) with
  | none => none
  | some (scan, sum) =>
    some { scan with
      status := if row.diagonal < sum then invalid 17870 else scan.status
      grounded := Function.update scan.grounded cell (sum < row.diagonal) }

def scanRows (status : Status) : Option RowScan :=
  input.cells.foldlM input.scanCell { parent := fun i => i, grounded := fun _ => false, status := status }

def faceGhost (cell : Int3) : Bool :=
  let n := input.patch.cells
  let out (coord extent : ℤ) : ℕ := if coord < 0 ∨ extent ≤ coord then 1 else 0
  cell.x ≤ n.x && -1 ≤ cell.x && cell.y ≤ n.y && -1 ≤ cell.y && cell.z ≤ n.z && -1 ≤ cell.z &&
    out cell.x n.x + out cell.y n.y + out cell.z n.z = 1

def clearGhosts (scratch : Int3 → 𝕜) : Int3 → 𝕜 := fun cell => if input.faceGhost cell then 0 else scratch cell

def compareFaces (axis : Axis) (scratch : Int3 → 𝕜) (status : Status) : Status :=
  input.cells.foldl (fun status cell =>
    if (input.rows cell).neighbour (upperFace axis) ≠ scratch (addIndex cell (directionDelta (upperFace axis))) then
      invalid 17871
    else status) status

def checkAxis (axis : Axis) (status : Status) (scratch : Int3 → 𝕜) : Admission 𝕜 (Status × (Int3 → 𝕜)) :=
  let scratch := input.cells.foldl
    (fun scratch cell => Function.update scratch cell ((input.rows cell).neighbour (lowerFace axis))) (input.clearGhosts scratch)
  (exchanged {} scratch).andThen fun scratch =>
    let status := input.compareFaces axis scratch status
    (consensus {} status).andThen fun _ => .done (.ok (status, scratch))

def checkSymmetry : List Axis → Status × (Int3 → 𝕜) → Admission 𝕜 (Status × (Int3 → 𝕜))
  | [], state => .done (.ok state)
  | axis :: rest, state => (input.checkAxis axis state.1 state.2).andThen fun state => checkSymmetry rest state

def markRoot (state : Grounding) (cell : Int3) : Option Grounding :=
  if state.grounded cell then
    match root input.fuel state.parent cell with
    | none => none
    | some (r, parent) => some { parent := parent, grounded := Function.update state.grounded r true }
  else some state

def ungrounded : List Int3 → Grounding → Option (ℕ × Grounding)
  | [], state => some (0, state)
  | cell :: rest, state =>
    match root input.fuel state.parent cell with
    | none => none
    | some (r, parent) =>
      if state.grounded r then ungrounded rest { state with parent := parent } else some (1, { state with parent := parent })

def showGrounded (state : Grounding × (Int3 → 𝕜)) (cell : Int3) : Option (Grounding × (Int3 → 𝕜)) :=
  match root input.fuel state.1.parent cell with
  | none => none
  | some (r, parent) =>
    some ({ state.1 with parent := parent }, Function.update state.2 cell (if state.1.grounded r then 1 else 0))

def seesGrounded (scratch : Int3 → 𝕜) (cell : Int3) : Bool :=
  (List.finRange 6).any fun f =>
    0 < (input.rows cell).neighbour f && scratch (addIndex cell (directionDelta f)) = 1

def groundCell (scratch : Int3 → 𝕜) (state : Grounding × ℕ) (cell : Int3) : Option (Grounding × ℕ) :=
  match root input.fuel state.1.parent cell with
  | none => none
  | some (r, parent) =>
    if state.1.grounded r then some ({ state.1 with parent := parent }, state.2)
    else if input.seesGrounded scratch cell then
      some ({ parent := parent, grounded := Function.update state.1.grounded r true }, 1)
    else some ({ state.1 with parent := parent }, state.2)

/-- The loop. `remaining` is what `grounding_exchanges` may still be raised by. -/
def groundingLoop : ℕ → ℕ → ℕ → Grounding → (Int3 → 𝕜) → Admission 𝕜 IccgMatrixAdmissionReport
  | 0, _, _, _, _ => .done .fault
  | remaining + 1, exchanges, globalMissing, state, scratch =>
    if globalMissing = 0 then .done (.ok ⟨exchanges, true⟩)
    else
      match input.cells.foldlM input.showGrounded (state, input.clearGhosts scratch) with
      | none => .done .fault
      | some (state, scratch) =>
        (exchanged ⟨exchanges, false⟩ scratch).andThen fun scratch =>
          let exchanges := exchanges + 1
          match input.cells.foldlM (input.groundCell scratch) (state, 0) with
          | none => .done .fault
          | some (state, changed) =>
            match input.ungrounded input.cells state with
            | none => .done .fault
            | some (missing, state) =>
              (checkedMax ⟨exchanges, false⟩ [missing, changed]).andThen fun
                | [globalMissing, globalChanged] =>
                  if globalMissing ≠ 0 ∧ globalChanged = 0 then .done (.failed (invalid 17872, ⟨exchanges, false⟩))
                  else if exchanges = maxU32 then .done (.failed (invalid 17872, ⟨exchanges, false⟩))
                  else groundingLoop remaining exchanges globalMissing state scratch
                | _ => .done .fault

def ground (state : Grounding) (scratch : Int3 → 𝕜) : Admission 𝕜 IccgMatrixAdmissionReport :=
  match input.cells.foldlM input.markRoot state with
  | none => .done .fault
  | some state =>
    match input.ungrounded input.cells state with
    | none => .done .fault
    | some (missing, state) =>
      (checkedMax {} [missing]).andThen fun
        | [globalMissing] => input.groundingLoop maxU32 0 globalMissing state scratch
        | _ => .done .fault

def admitIccgMatrix : Admission 𝕜 IccgMatrixAdmissionReport :=
  (consensus {} input.storageStatus).andThen fun _ =>
    match input.scanRows input.storageStatus with
    | none => .done .fault
    | some scan =>
      (consensus {} scan.status).andThen fun _ =>
        (input.checkSymmetry axes (scan.status, input.scratch)).andThen fun state =>
          input.ground scan.toGrounding state.2

end IccgInput

namespace AdmissionRequest

variable {𝕜 : Type}

def signature : AdmissionRequest 𝕜 → AdmissionSignature
  | .consensus _ => .consensus
  | .checkedMax values => .checkedMax values.length
  | .exchange _ => .exchange

def status : AdmissionRequest 𝕜 → Status
  | .consensus status => status
  | _ => {}

def signal (k : ℕ) : AdmissionRequest 𝕜 → ℕ
  | .checkedMax values => values.getD k 0
  | _ => 0

def field [Zero 𝕜] : AdmissionRequest 𝕜 → Int3 → 𝕜
  | .exchange scratch => scratch
  | _ => fun _ => 0

end AdmissionRequest

/-- Reductions without faults, and an exchange of the scratch fields of all ranks. -/
def admissionNetwork {𝕜 : Type} [Zero 𝕜] {n : ℕ} (hn : 0 < n)
    (exchange : (Fin n → Int3 → 𝕜) → Fin n → Status × (Int3 → 𝕜)) :
    Network (Fin n) (AdmissionRequest 𝕜) (AdmissionReply 𝕜) AdmissionSignature where
  sig := AdmissionRequest.signature
  reply q i :=
    match q i with
    | .consensus _ => .verdict (agreed fun j => (q j).status).1
    | .checkedMax values => .maxima ((List.range values.length).map fun k => rankMax hn fun j => (q j).signal k)
    | .exchange _ =>
      let moved := exchange (fun j => (q j).field) i
      .scratch moved.1 moved.2

end IccgMatrix

end HundunFlow
