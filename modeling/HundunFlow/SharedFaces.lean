import HundunFlow.CartesianKernel

/-!
# Shared faces

`shared_cell_faces` runs over a box in tiles and hands the six face values of every active cell to a
consumer. A face between two active cells of a tile is evaluated once and saved in between.
-/

namespace HundunFlow

/-- The entries `Saved` of the three caches, absent where they are not valid, with the state of the
consumer and the faces evaluated so far. -/
structure SharedFaces (V S : Type) where
  xFace : Option V := none
  yFaces : ℕ → Option V := fun _ => none
  zFaces : ℕ → Option V := fun _ => none
  consumer : S
  evaluated : List (CartesianAxis × Int3) := []

/-- `width`. -/
def kSharedWidth : ℕ := 8

def plusFace (axis : CartesianAxis) (c : Int3) : Int3 := setAxis axis c (axisIndex axis c + 1)

def forAxes {α : Type} (f : CartesianAxis → Except Status α) : Except Status (CartesianAxis → α) := do
  let x ← f .x
  let y ← f .y
  let z ← f .z
  return fun
    | .x => x
    | .y => y
    | .z => z

def activeCell (cells : Int3) (activity : List UInt8) (c : Int3) : Bool :=
  activity.isEmpty || activity.getD ((c.z * cells.y + c.y) * cells.x + c.x).toNat 0 ≠ 0

section Callbacks

variable {V S : Type} (active : Int3 → Bool) (faceValue : CartesianAxis → Int3 → Except Status V)
  (consume : Int3 → (CartesianAxis → V × V) → S → Status × S)

def facePair (c : Int3) (axis : CartesianAxis) : Option V → Except Status ((V × V) × List (CartesianAxis × Int3))
  | some lower => do
    let upper ← faceValue axis (plusFace axis c)
    return ((lower, upper), [(axis, plusFace axis c)])
  | none => do
    let lower ← faceValue axis c
    let upper ← faceValue axis (plusFace axis c)
    return ((lower, upper), [(axis, c), (axis, plusFace axis c)])

namespace SharedFaces

def saved (s : SharedFaces V S) (i j : ℕ) : CartesianAxis → Option V
  | .x => s.xFace
  | .y => s.yFaces i
  | .z => s.zFaces (j * kSharedWidth + i)

def save (s : SharedFaces V S) (i j : ℕ) (entry : CartesianAxis → Option V) : SharedFaces V S :=
  { s with
    xFace := entry .x
    yFaces := Function.update s.yFaces i (entry .y)
    zFaces := Function.update s.zFaces (j * kSharedWidth + i) (entry .z) }

/-- The body of the loops at the cell `c`, in column `i` and row `j` of its tile. -/
def visit (s : SharedFaces V S) (c : Int3) (i j : ℕ) : Except (Status × S) (SharedFaces V S) :=
  if !active c then .ok (s.save i j fun _ => none)
  else
    match forAxes fun axis => facePair faceValue c axis (s.saved i j axis) with
    | .error status => .error (status, s.consumer)
    | .ok pairs =>
      let (status, consumer) := consume c (fun axis => (pairs axis).1) s.consumer
      if !status.isOk then .error (status, consumer)
      else
        .ok { s.save i j fun axis => some (pairs axis).1.2 with
          consumer
          evaluated := s.evaluated ++ [CartesianAxis.x, .y, .z].flatMap fun axis => (pairs axis).2 }

/-- The loops over the cells of a tile from its first cell on, so many along each axis. -/
def row (first : Int3) (width : ℕ) (k : ℕ) (s : SharedFaces V S) (j : ℕ) : Except (Status × S) (SharedFaces V S) :=
  (List.range width).foldlM
    (fun s (i : ℕ) => s.visit active faceValue consume ⟨first.x + i, first.y + j, first.z + k⟩ i j) { s with xFace := none }

def plane (first : Int3) (width height : ℕ) (s : SharedFaces V S) (k : ℕ) : Except (Status × S) (SharedFaces V S) :=
  (List.range height).foldlM (row active faceValue consume first width k) { s with yFaces := fun _ => none }

def tile (first last : Int3) (s : SharedFaces V S) : Except (Status × S) (SharedFaces V S) :=
  (List.range (last.z - first.z).toNat).foldlM
    (plane active faceValue consume first (last.x - first.x).toNat (last.y - first.y).toNat)
    { s with zFaces := fun _ => none }

end SharedFaces

end Callbacks

def boxEnd (box : KernelBox) : Int3 :=
  ⟨box.begin.x + box.cells.x, box.begin.y + box.cells.y, box.begin.z + box.cells.z⟩

def tileBegin (box : KernelBox) (t : Int3) : Int3 :=
  ⟨box.begin.x + kSharedWidth * t.x, box.begin.y + kSharedWidth * t.y, box.begin.z + kSharedWidth * t.z⟩

/-- The tiles in the order of the three outer loops. -/
def tileNumbers (box : KernelBox) : List Int3 :=
  faceIndices ⟨(box.cells.x + 7) / kSharedWidth, (box.cells.y + 7) / kSharedWidth, (box.cells.z + 7) / kSharedWidth⟩

def tileEnd (box : KernelBox) (t : Int3) : Int3 :=
  ⟨min ((tileBegin box t).x + kSharedWidth) (boxEnd box).x, min ((tileBegin box t).y + kSharedWidth) (boxEnd box).y,
    min ((tileBegin box t).z + kSharedWidth) (boxEnd box).z⟩

/-- The status of the first evaluation or consumption that fails, or what the whole box leaves; with
either the state of the consumer. -/
def sharedCellFaces {V S : Type} (cells : Int3) (box : KernelBox) (activity : List UInt8)
    (faceValue : CartesianAxis → Int3 → Except Status V)
    (consume : Int3 → (CartesianAxis → V × V) → S → Status × S) (consumer : S) :
    Except (Status × S) (SharedFaces V S) :=
  (tileNumbers box).foldlM
    (fun s t => s.tile (activeCell cells activity) faceValue consume (tileBegin box t) (tileEnd box t)) { consumer }

end HundunFlow
