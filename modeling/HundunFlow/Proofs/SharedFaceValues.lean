import HundunFlow.SharedFaces
import HundunFlow.Lib.CountedLoop
import HundunFlow.Proofs.KernelTiling

/-!
# Shared faces are the plain faces

A valid entry is the value of the lower face of the cell that reads it, and it is valid exactly if
the neighbour on that side is an active cell of the tile.
-/

namespace HundunFlow

variable {V S : Type} (box : KernelBox) (active : Int3 → Bool) (faceValue : CartesianAxis → Int3 → Except Status V)
  (consume : Int3 → (CartesianAxis → V × V) → S → Status × S)

def tileNumber (c : Int3) : Int3 :=
  ⟨(c.x - box.begin.x) / 8, (c.y - box.begin.y) / 8, (c.z - box.begin.z) / 8⟩

def minusCell (axis : CartesianAxis) (c : Int3) : Int3 := setAxis axis c (axisIndex axis c - 1)

def JoinsBelow (t : Int3) (axis : CartesianAxis) (c : Int3) : Prop :=
  minusCell axis c ∈ kernelCells box ∧ tileNumber box (minusCell axis c) = t ∧ active (minusCell axis c) = true

instance (t : Int3) (axis : CartesianAxis) (c : Int3) : Decidable (JoinsBelow box active t axis c) :=
  inferInstanceAs (Decidable (_ ∧ _ ∧ _))

/-- The faces evaluated for a cell: its upper ones, and the lower ones that no active neighbour in its
tile has evaluated. -/
def cellFaces (c : Int3) : List (CartesianAxis × Int3) :=
  [CartesianAxis.x, .y, .z].flatMap fun axis =>
    if JoinsBelow box active (tileNumber box c) axis c then [(axis, plusFace axis c)] else [(axis, c), (axis, plusFace axis c)]

/-- A cell without the caches: six evaluations and one consumption. -/
def plainCell (s : S × List (CartesianAxis × Int3)) (c : Int3) : Except (Status × S) (S × List (CartesianAxis × Int3)) :=
  match forAxes fun axis => (do return (← faceValue axis c, ← faceValue axis (plusFace axis c))) with
  | .error status => .error (status, s.1)
  | .ok values =>
    let (status, consumer) := consume c values s.1
    if !status.isOk then .error (status, consumer) else .ok (consumer, s.2 ++ cellFaces box active c)

def plainVisit (s : S × List (CartesianAxis × Int3)) (c : Int3) : Except (Status × S) (S × List (CartesianAxis × Int3)) :=
  if active c then plainCell box active faceValue consume s c else pure s

/-- What a sweep with caches has in common with one without. -/
def SharedFaces.progress (s : SharedFaces V S) : S × List (CartesianAxis × Int3) := (s.consumer, s.evaluated)

def sweptCells : List Int3 := (tileNumbers box).flatMap fun t => loopIndices (tileBegin box t) (tileEnd box t)

namespace Proofs

open Lib List Function SharedFaces

def cached (t : Int3) (axis : CartesianAxis) (c : Int3) : Option V :=
  if JoinsBelow box active t axis c then (faceValue axis c).toOption else none

/-- The cell in column `i`, row `j` and layer `k` of a tile. -/
def tileCell (t : Int3) (k j i : ℕ) : Int3 :=
  ⟨(tileBegin box t).x + i, (tileBegin box t).y + j, (tileBegin box t).z + k⟩

structure Caches (t : Int3) (k j i : ℕ) (s : SharedFaces V S) : Prop where
  row : s.xFace = cached box active faceValue t .x (tileCell box t k j i)
  plane : ∀ i' < 8, s.yFaces i' = cached box active faceValue t .y (tileCell box t k (j + if i' < i then 1 else 0) i')
  tile : ∀ i' < 8, ∀ j', s.zFaces (j' * kSharedWidth + i') =
    cached box active faceValue t .z (tileCell box t (k + if j' < j ∨ j' = j ∧ i' < i then 1 else 0) j' i')

lemma forAxes_map {α β : Type} (f : CartesianAxis → Except Status α) (g : CartesianAxis → α → β) :
    forAxes (fun axis => (f axis).map (g axis)) = (forAxes f).map fun r axis => g axis (r axis) := by
  unfold forAxes
  dsimp only
  cases f .x with
  | error => rfl
  | ok x =>
    cases f .y with
    | error => rfl
    | ok y =>
      cases f .z with
      | error => rfl
      | ok z => exact congrArg Except.ok (funext fun axis => by cases axis <;> rfl)

lemma forAxes_ok {α : Type} {f : CartesianAxis → Except Status α} {r : CartesianAxis → α} (h : forAxes f = .ok r)
    (axis : CartesianAxis) : f axis = .ok (r axis) := by
  obtain ⟨x, hx, h⟩ := bind_ok h
  obtain ⟨y, hy, h⟩ := bind_ok h
  obtain ⟨z, hz, h⟩ := bind_ok h
  obtain rfl := Except.ok.inj h
  cases axis with
  | x => exact hx
  | y => exact hy
  | z => exact hz

section Visit

variable {box active faceValue consume}

/-- Behind a valid entry stands the lower face, and one that failed is evaluated again. -/
lemma facePair_entry (c : Int3) (axis : CartesianAxis) :
    facePair faceValue c axis (cached box active faceValue t axis c) =
      (do return (← faceValue axis c, ← faceValue axis (plusFace axis c)) : Except Status (V × V)).map fun values =>
        (values, if JoinsBelow box active t axis c then [(axis, plusFace axis c)] else [(axis, c), (axis, plusFace axis c)]) := by
  unfold cached
  by_cases hjoined : JoinsBelow box active t axis c
  · simp only [if_pos hjoined]
    cases hlower : faceValue axis c with
    | error status =>
      simp only [Except.toOption, facePair, hlower]
      rfl
    | ok lower =>
      simp only [Except.toOption, facePair]
      cases faceValue axis (plusFace axis c) <;> rfl
  · simp only [if_neg hjoined, facePair]
    cases faceValue axis c with
    | error status => rfl
    | ok lower => cases faceValue axis (plusFace axis c) <;> rfl

lemma Caches.saved_eq {k j i : ℕ} (hi : i < 8) {s : SharedFaces V S}
    (h : Caches box active faceValue t k j i s) (axis : CartesianAxis) :
    s.saved i j axis = cached box active faceValue t axis (tileCell box t k j i) := by
  cases axis with
  | x => exact h.row
  | y => simpa [saved] using h.plane i hi
  | z => simpa [saved] using h.tile i hi j

lemma minusCell_plusFace (axis : CartesianAxis) (c : Int3) : minusCell axis (plusFace axis c) = c := by
  cases axis <;> simp [minusCell, plusFace, setAxis, axisIndex]

lemma plusFace_tileCell (t : Int3) (k j i : ℕ) :
    plusFace .x (tileCell box t k j i) = tileCell box t k j (i + 1) ∧
      plusFace .y (tileCell box t k j i) = tileCell box t k (j + 1) i ∧
        plusFace .z (tileCell box t k j i) = tileCell box t (k + 1) j i := by
  simp only [plusFace, setAxis, axisIndex, tileCell, Nat.cast_add, Nat.cast_one, add_assoc, true_and]

lemma Caches.save {k j i : ℕ} {s : SharedFaces V S} (hi : i < 8)
    (h : Caches box active faceValue t k j i s) {saves : CartesianAxis → Option V}
    (hsaves : ∀ axis, saves axis = cached box active faceValue t axis (plusFace axis (tileCell box t k j i))) :
    Caches box active faceValue t k j (i + 1) (s.save i j saves) := by
  obtain ⟨hx, hy, hz⟩ := plusFace_tileCell t k j i
  refine ⟨?_, fun i' hi' => ?_, fun i' hi' j' => ?_⟩
  · rw [← hx, ← hsaves]
    rfl
  · by_cases heq : i' = i
    · subst heq
      simp only [SharedFaces.save, update_self, hsaves, hy, Nat.lt_succ_self, if_true]
    · have hlt : i' < i + 1 ↔ i' < i := by omega
      simp only [SharedFaces.save, update_of_ne heq, h.plane i' hi', hlt]
  · by_cases heq : j' = j ∧ i' = i
    · obtain ⟨rfl, rfl⟩ := heq
      simp only [SharedFaces.save, update_self, hsaves, hz, Nat.lt_succ_self, and_self, or_true, if_true]
    · have hne : j' * kSharedWidth + i' ≠ j * kSharedWidth + i := by
        unfold kSharedWidth
        omega
      have hlt : (j' < j ∨ j' = j ∧ i' < i + 1) ↔ (j' < j ∨ j' = j ∧ i' < i) := by omega
      simp only [SharedFaces.save, update_of_ne hne, h.tile i' hi' j', hlt]

lemma Caches.visit {k j i : ℕ} (hi : i < 8) {s : SharedFaces V S}
    (h : Caches box active faceValue t k j i s) {c : Int3} (hc : tileCell box t k j i = c)
    (hnext : ∀ axis, JoinsBelow box active t axis (plusFace axis c) ↔ active c = true) (ht : tileNumber box c = t) :
    (s.visit active faceValue consume c i j).map progress = plainVisit box active faceValue consume s.progress c ∧
      ∀ s', s.visit active faceValue consume c i j = .ok s' →
        Caches box active faceValue t k j (i + 1) s' := by
  have hsaved : ∀ axis, s.saved i j axis = cached box active faceValue t axis c := fun axis => by
    rw [h.saved_eq hi, hc]
  unfold SharedFaces.visit plainVisit
  by_cases hactive : active c = true
  · simp only [hactive, Bool.not_true, Bool.false_eq_true, if_false, if_true, hsaved, facePair_entry, forAxes_map,
      plainCell]
    cases hvalues : forAxes fun axis => (do return (← faceValue axis c, ← faceValue axis (plusFace axis c)) :
        Except Status (V × V)) with
    | error status => exact ⟨rfl, nofun⟩
    | ok values =>
      have hsaves : ∀ axis, some (values axis).2 = cached box active faceValue t axis (plusFace axis c) := by
        intro axis
        obtain ⟨lower, -, hupper⟩ := bind_ok (forAxes_ok hvalues axis)
        obtain ⟨upper, hupper, heq⟩ := bind_ok hupper
        rw [← Except.ok.inj heq, cached, if_pos ((hnext axis).mpr hactive), hupper]
        rfl
      have hcaches := h.save hi (hc ▸ hsaves)
      dsimp only [Except.map, progress]
      by_cases hok : (consume c values s.consumer).1.isOk = true
      · refine ⟨by simp [hok, cellFaces, ht], fun s' hs' => ?_⟩
        rw [if_neg (by simp [hok])] at hs'
        obtain rfl := Except.ok.inj hs'
        exact ⟨hcaches.row, hcaches.plane, hcaches.tile⟩
      · exact ⟨by simp [hok], fun s' hs' => by simp [hok] at hs'⟩
  · rw [Bool.not_eq_true] at hactive
    simp only [hactive, Bool.not_false, Bool.false_eq_true, if_false, if_true]
    refine ⟨rfl, fun s' hs' => ?_⟩
    obtain rfl := Except.ok.inj hs'
    refine h.save hi fun axis => ?_
    rw [hc, cached, if_neg (by rw [hnext, hactive]; decide)]

/-! ### The loops -/

lemma cached_none {axis : CartesianAxis} {c : Int3}
    (h : minusCell axis c ∈ kernelCells box → tileNumber box (minusCell axis c) ≠ t) :
    cached box active faceValue t axis c = none :=
  if_neg fun hjoined => h hjoined.1 hjoined.2.1

def tileSize (box : KernelBox) (t : Int3) : Int3 :=
  ⟨(tileEnd box t).x - (tileBegin box t).x, (tileEnd box t).y - (tileBegin box t).y,
    (tileEnd box t).z - (tileBegin box t).z⟩

lemma cached_outside {axis : CartesianAxis} {k j i : ℕ}
    (h : axis = .x ∧ i = 0 ∨ axis = .y ∧ j = 0 ∨ axis = .z ∧ k = 0 ∨ axis ≠ .x ∧ (tileSize box t).x.toNat ≤ i ∨
      axis = .z ∧ (tileSize box t).y.toNat ≤ j) :
    cached box active faceValue t axis (tileCell box t k j i) = none := by
  refine cached_none fun hbox htile => ?_
  rw [mem_kernelCells] at hbox
  have hx := congrArg Int3.x htile
  have hy := congrArg Int3.y htile
  have hz := congrArg Int3.z htile
  cases axis <;>
    simp [minusCell, setAxis, axisIndex, tileNumber, tileCell, tileBegin, tileSize, tileEnd, boxEnd, kSharedWidth]
      at h hbox hx hy hz <;> omega

lemma Caches.fresh (s : SharedFaces V S) : Caches box active faceValue t 0 0 0
    { s with xFace := none, yFaces := fun _ => none, zFaces := fun _ => none } :=
  ⟨(cached_outside (by simp)).symm, fun _ _ => (cached_outside (by simp)).symm,
    fun _ _ _ => (cached_outside (by simp)).symm⟩

lemma Caches.nextRow {k j : ℕ} {s : SharedFaces V S}
    (h : Caches box active faceValue t k j (tileSize box t).x.toNat s) :
    Caches box active faceValue t k (j + 1) 0 { s with xFace := none } := by
  refine ⟨(cached_outside (by simp)).symm, fun i' hi' => ?_, fun i' hi' j' => ?_⟩
  · rw [h.plane i' hi']
    by_cases hin : i' < (tileSize box t).x.toNat
    · simp [hin]
    · rw [cached_outside (by simp; omega), cached_outside (by simp; omega)]
  · rw [h.tile i' hi' j']
    by_cases hin : j' = j ∧ (tileSize box t).x.toNat ≤ i'
    · rw [cached_outside (by simp [hin]), cached_outside (by simp [hin])]
    · have hiff : (j' < j ∨ j' = j ∧ i' < (tileSize box t).x.toNat) ↔ (j' < j + 1 ∨ j' = j + 1 ∧ i' < 0) := by omega
      simp only [hiff]

lemma Caches.nextPlane {k : ℕ} {s : SharedFaces V S}
    (h : Caches box active faceValue t k (tileSize box t).y.toNat 0 s) :
    Caches box active faceValue t (k + 1) 0 0 { s with xFace := none, yFaces := fun _ => none } := by
  refine ⟨(cached_outside (by simp)).symm, fun _ _ => (cached_outside (by simp)).symm, fun i' hi' j' => ?_⟩
  rw [h.tile i' hi' j']
  by_cases hin : (tileSize box t).y.toNat ≤ j'
  · rw [cached_outside (by simp [hin]), cached_outside (by simp [hin])]
  · simp [not_le.mp hin]

/-- A sweep with caches does what the sweep without does, and leads from invariant to invariant. -/
def Sweeps (I I' : SharedFaces V S → Prop) (f : SharedFaces V S → Except (Status × S) (SharedFaces V S))
    (g : S × List (CartesianAxis × Int3) → Except (Status × S) (S × List (CartesianAxis × Int3))) : Prop :=
  ∀ s, I s → (f s).map progress = g s.progress ∧ ∀ s', f s = .ok s' → I' s'

lemma Sweeps.list {β : Type} {f : SharedFaces V S → β → Except (Status × S) (SharedFaces V S)}
    {g : S × List (CartesianAxis × Int3) → β → Except (Status × S) (S × List (CartesianAxis × Int3))} {l : List β}
    {I : ℕ → SharedFaces V S → Prop} {m : ℕ}
    (turn : ∀ i (hi : i < l.length), Sweeps (I (m + i)) (I (m + i + 1)) (fun s => f s l[i]) fun s => g s l[i]) :
    Sweeps (I m) (I (m + l.length)) (fun s => l.foldlM f s) fun s => l.foldlM g s := by
  induction l generalizing m with
  | nil => exact fun s hs => ⟨rfl, fun s' hs' => by cases hs'; exact hs⟩
  | cons b l ih =>
    intro s hs
    obtain ⟨hfirst, hnext⟩ := turn 0 (Nat.succ_pos _) s hs
    have hrest := @ih (m + 1) fun i hi => by
      have hturn := turn (i + 1) (Nat.succ_lt_succ hi)
      rwa [← Nat.add_assoc, Nat.add_right_comm] at hturn
    dsimp only [getElem_cons_zero] at hfirst hnext
    simp only [foldlM_cons]
    rw [← hfirst]
    cases hf : f s b with
    | error e => exact ⟨rfl, nofun⟩
    | ok s₁ =>
      rw [length_cons, Nat.add_comm l.length, ← Nat.add_assoc]
      exact hrest s₁ (hnext s₁ hf)

variable (box active faceValue consume t) in
lemma row_sweeps (ht : t ∈ tileNumbers box) {k j : ℕ} (hj : j < (tileSize box t).y.toNat) (hk : k < (tileSize box t).z.toNat) :
    Sweeps (fun s => Caches box active faceValue t k j 0 { s with xFace := none })
      (fun s => Caches box active faceValue t k (j + 1) 0 { s with xFace := none })
      (fun s => row active faceValue consume (tileBegin box t) (tileSize box t).x.toNat k s j)
      fun s => (range (tileSize box t).x.toNat).foldlM
        (fun s i => plainVisit box active faceValue consume s (tileCell box t k j i)) s := by
  intro s hs
  have hloop := @Sweeps.list V S ℕ
    (fun s i => s.visit active faceValue consume (tileCell box t k j i) i j)
    (fun s i => plainVisit box active faceValue consume s (tileCell box t k j i)) (range (tileSize box t).x.toNat)
    (fun i s => Caches box active faceValue t k j i s) 0 (fun i hi => by
      rw [length_range] at hi
      rw [getElem_range, zero_add]
      have hplace : tileCell box t k j i ∈ kernelCells box ∧ tileNumber box (tileCell box t k j i) = t := by
        rw [mem_kernelCells]
        rcases t with ⟨tx, ty, tz⟩
        obtain ⟨⟨hx, -⟩, ⟨hy, -⟩, hz, -⟩ := (mem_faceIndices _ _).mp ht
        dsimp only at hx hy hz
        simp [tileNumber, tileCell, tileBegin, tileSize, tileEnd, boxEnd, kSharedWidth] at hi hj hk ⊢
        omega
      have hwidth : i < 8 := by
        simp [tileSize, tileEnd, kSharedWidth] at hi
        omega
      refine fun s hs => hs.visit hwidth rfl (fun axis => ?_) hplace.2
      rw [JoinsBelow, minusCell_plusFace]
      exact ⟨fun h => h.2.2, fun h => ⟨hplace.1, hplace.2, h⟩⟩) _ hs
  rw [zero_add, length_range] at hloop
  exact ⟨hloop.1, fun s' hs' => (hloop.2 s' hs').nextRow⟩

lemma foldlM_flatMap {α β σ ε : Type} {f : σ → β → Except ε σ} {h : α → List β} (l : List α) (s : σ) :
    (l.flatMap h).foldlM f s = l.foldlM (fun s a => (h a).foldlM f s) s := by
  induction l generalizing s with
  | nil => rfl
  | cons a l ih =>
    rw [flatMap_cons, foldlM_append, foldlM_cons]
    exact bind_congr fun s => ih s

lemma foldlM_tile {σ ε : Type} {f : σ → Int3 → Except ε σ} (s : σ) :
    (loopIndices (tileBegin box t) (tileEnd box t)).foldlM f s =
      (range (tileSize box t).z.toNat).foldlM (fun s k => (range (tileSize box t).y.toNat).foldlM (fun s j =>
        (range (tileSize box t).x.toNat).foldlM (fun s i => f s (tileCell box t k j i)) s) s) s := by
  rw [loopIndices, faceIndices]
  simp only [foldlM_map, foldlM_flatMap]
  rfl

variable (box active faceValue consume) in
lemma tile_sweeps (ht : t ∈ tileNumbers box) : Sweeps (fun _ => True) (fun _ => True)
    (fun s => s.tile active faceValue consume (tileBegin box t) (tileEnd box t))
    fun s => (loopIndices (tileBegin box t) (tileEnd box t)).foldlM (plainVisit box active faceValue consume) s := by
  simp only [foldlM_tile]
  have hplane : ∀ k < (tileSize box t).z.toNat,
      Sweeps (fun s => Caches box active faceValue t k 0 0 { s with xFace := none, yFaces := fun _ => none })
        (fun s => Caches box active faceValue t (k + 1) 0 0 { s with xFace := none, yFaces := fun _ => none })
        (fun s => plane active faceValue consume (tileBegin box t) (tileSize box t).x.toNat (tileSize box t).y.toNat s k)
        fun s => (range (tileSize box t).y.toNat).foldlM (fun s j => (range (tileSize box t).x.toNat).foldlM
          (fun s i => plainVisit box active faceValue consume s (tileCell box t k j i)) s) s := by
    intro k hk s hs
    have hloop := Sweeps.list (l := range (tileSize box t).y.toNat) (m := 0)
      (I := fun j s => Caches box active faceValue t k j 0 { s with xFace := none }) (fun j hj => by
        rw [length_range] at hj
        rw [getElem_range, zero_add]
        exact row_sweeps box active faceValue consume t ht hj hk) { s with yFaces := fun _ => none } hs
    rw [zero_add, length_range] at hloop
    exact ⟨hloop.1, fun s' hs' => (hloop.2 s' hs').nextPlane⟩
  intro s _
  have hloop := Sweeps.list (l := range (tileSize box t).z.toNat) (m := 0)
    (I := fun k s => Caches box active faceValue t k 0 0 { s with xFace := none, yFaces := fun _ => none })
    (fun k hk => by
      rw [length_range] at hk
      rw [getElem_range, zero_add]
      exact hplane k hk) { s with zFaces := fun _ => none } (Caches.fresh s)
  exact ⟨hloop.1, fun _ _ => trivial⟩

end Visit

section Cells

variable {box active faceValue consume}

lemma mem_sweptCells {c : Int3} : c ∈ sweptCells box ↔ c ∈ kernelCells box := by
  simp only [sweptCells, tileNumbers, mem_flatMap, mem_faceIndices, mem_loopIndices, mem_kernelCells]
  constructor
  · rintro ⟨t, ht, h⟩
    simp only [tileBegin, tileEnd, boxEnd, kSharedWidth] at h
    omega
  · intro h
    refine ⟨tileNumber box c, ?_, ?_⟩ <;>
      simp only [tileNumber, tileBegin, tileEnd, boxEnd, kSharedWidth] <;> omega

lemma tileNumber_eq {t c : Int3} (h : c ∈ loopIndices (tileBegin box t) (tileEnd box t)) : tileNumber box c = t := by
  rcases t with ⟨tx, ty, tz⟩
  simp only [mem_loopIndices, tileBegin, tileEnd, boxEnd, kSharedWidth] at h
  simp only [tileNumber, Int3.mk.injEq]
  omega

lemma sweptCells_nodup : (sweptCells box).Nodup := by
  refine nodup_flatMap.mpr ⟨fun t _ => loopIndices_nodup _ _, (faceIndices_nodup _).imp fun {t t'} hne => ?_⟩
  exact disjoint_left.mpr fun c hc hc' => hne ((tileNumber_eq hc).symm.trans (tileNumber_eq hc'))

lemma plain_evaluated {l : List Int3} {s s' : S × List (CartesianAxis × Int3)}
    (h : l.foldlM (plainCell box active faceValue consume) s = .ok s') :
    s'.2 = s.2 ++ l.flatMap (cellFaces box active) := by
  induction l generalizing s with
  | nil =>
    obtain rfl := Except.ok.inj h
    simp
  | cons c l ih =>
    obtain ⟨s₁, hcell, hrest⟩ := bind_ok (by rwa [foldlM_cons] at h)
    have hfirst : s₁.2 = s.2 ++ cellFaces box active c := by
      unfold plainCell at hcell
      split at hcell
      · exact nomatch hcell
      · dsimp only at hcell
        split_ifs at hcell
        rw [← Except.ok.inj hcell]
    rw [ih hrest, hfirst, flatMap_cons, append_assoc]

lemma plusFace_ne (axis : CartesianAxis) (c : Int3) : plusFace axis c ≠ c := fun h => by
  rcases c with ⟨x, y, z⟩
  cases axis <;> simp [plusFace, setAxis, axisIndex] at h

variable {axis : CartesianAxis} {c : Int3} (hc : c ∈ kernelCells box) (hactive : active c = true)
  (htile : tileNumber box c = tileNumber box (plusFace axis c))

include hc hactive htile

lemma mem_cellFaces {d : Int3} (h : (axis, plusFace axis c) ∈ cellFaces box active d) : d = c := by
  obtain ⟨axis', -, h⟩ := mem_flatMap.mp h
  have hupper : plusFace axis c = plusFace axis d → d = c := fun heq => by
    rw [← minusCell_plusFace axis d, ← heq, minusCell_plusFace]
  split_ifs at h with hjoined
  · obtain ⟨rfl, heq⟩ := Prod.mk.inj (mem_singleton.mp h)
    exact hupper heq
  · rcases mem_cons.mp h with h | h
    · obtain ⟨rfl, rfl⟩ := Prod.mk.inj h
      refine absurd ?_ hjoined
      rw [JoinsBelow, minusCell_plusFace]
      exact ⟨hc, htile, hactive⟩
    · obtain ⟨rfl, heq⟩ := Prod.mk.inj (mem_singleton.mp h)
      exact hupper heq

lemma count_shared :
    count (axis, plusFace axis c) (((sweptCells box).filter active).flatMap (cellFaces box active)) = 1 := by
  have hmem : c ∈ (sweptCells box).filter active := mem_filter.mpr ⟨mem_sweptCells.mpr hc, hactive⟩
  obtain ⟨before, after, hsplit⟩ := append_of_mem hmem
  have hnodup : ((sweptCells box).filter active).Nodup := Nodup.filter _ sweptCells_nodup
  rw [hsplit, nodup_middle, nodup_cons, mem_append, not_or] at hnodup
  have hnone : ∀ l : List Int3, c ∉ l → count (axis, plusFace axis c) (l.flatMap (cellFaces box active)) = 0 := by
    intro l hl
    refine count_eq_zero.mpr fun h => ?_
    obtain ⟨d, hd, h⟩ := mem_flatMap.mp h
    exact hl (mem_cellFaces hc hactive htile h ▸ hd)
  rw [hsplit, flatMap_append, flatMap_cons, count_append, count_append, hnone _ hnodup.1.1, hnone _ hnodup.1.2]
  have hne := plusFace_ne axis c
  unfold cellFaces
  cases axis <;> simp only [flatMap_cons, flatMap_nil, append_nil, count_append] <;> split_ifs <;>
    simp [hne.symm]

end Cells

/-- The sweep with caches hands the same values to the consumer as a sweep over the active cells that
evaluates all six faces of each, and stops with the same status. -/
theorem shared_cell_faces_plain {V S : Type} (cells : Int3) (box : KernelBox) (activity : List UInt8)
    (faceValue : CartesianAxis → Int3 → Except Status V)
    (consume : Int3 → (CartesianAxis → V × V) → S → Status × S) (consumer : S) :
    (sharedCellFaces cells box activity faceValue consume consumer).map progress =
      ((sweptCells box).filter (activeCell cells activity)).foldlM
        (plainCell box (activeCell cells activity) faceValue consume) (consumer, []) ∧
    (sweptCells box).Nodup ∧ (∀ c, c ∈ sweptCells box ↔ c ∈ kernelCells box) ∧
    ∀ s, sharedCellFaces cells box activity faceValue consume consumer = .ok s → ∀ axis c, c ∈ kernelCells box →
      plusFace axis c ∈ kernelCells box → activeCell cells activity c = true →
      activeCell cells activity (plusFace axis c) = true → tileNumber box c = tileNumber box (plusFace axis c) →
      s.evaluated.count (axis, plusFace axis c) = 1 := by
  have hsweep := (Sweeps.list (l := tileNumbers box) (m := 0) (I := fun _ _ => True)
    (f := fun s t => s.tile (activeCell cells activity) faceValue consume (tileBegin box t) (tileEnd box t))
    (g := fun s t => (loopIndices (tileBegin box t) (tileEnd box t)).foldlM
      (plainVisit box (activeCell cells activity) faceValue consume) s)
    (fun i hi => tile_sweeps box (activeCell cells activity) faceValue consume (getElem_mem hi))
    ({ consumer } : SharedFaces V S) trivial).1
  have hplain : (sharedCellFaces cells box activity faceValue consume consumer).map progress =
      ((sweptCells box).filter (activeCell cells activity)).foldlM
        (plainCell box (activeCell cells activity) faceValue consume) (consumer, []) := by
    rw [foldlM_filter, sweptCells, foldlM_flatMap]
    exact hsweep
  refine ⟨hplain, sweptCells_nodup, fun _ => mem_sweptCells, fun s hs axis c hc _ hactive _ htile => ?_⟩
  rw [hs] at hplain
  have hevaluated := plain_evaluated hplain.symm
  rw [nil_append] at hevaluated
  change s.evaluated = _ at hevaluated
  rw [hevaluated]
  exact count_shared hc hactive htile

end Proofs

end HundunFlow
