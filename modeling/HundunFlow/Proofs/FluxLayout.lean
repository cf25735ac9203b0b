import HundunFlow.FluxRun

/-!
# Replicas of a final storage do not overlap

`face_storage_layout` places the three axis blocks one after the other within a replica, so
a view of a replica covers addresses of that replica only.
-/

namespace HundunFlow.Proofs

open Lib

/-- `p` is the address of a face of the view. -/
def Covers (flux : FaceFluxView) (p : Address) : Prop :=
  ∃ face ∈ flux.faces, ∃ base, face.base = some base ∧ ∃ i ∈ faceIndices face.extents, p = face.at base i

/-- `p` lies in replica `r` of the storage object `ref`. -/
def InReplica (storage : FaceFluxStorage) (ref r : ℕ) (p : Address) : Prop :=
  p.block = .storage ref ∧ p.offset / storage.layout.replicaStride = r

variable {layout : AxisLayout} {storage : FaceFluxStorage}

lemma checkedAdd_some {a b c : ℕ} (h : checkedAdd a b = some c) : c = a + b := by
  unfold checkedAdd at h
  split at h
  · exact nomatch h
  · simpa using h.symm

lemma checkedMultiply_some {a b c : ℕ} (h : checkedMultiply a b = some c) : c = a * b := by
  unfold checkedMultiply at h
  split at h
  · exact nomatch h
  · simpa using h.symm

lemma checkedAlign_some {a c : ℕ} (h : checkedAlign a = some c) : a ≤ c := by
  unfold checkedAlign at h
  obtain ⟨candidate, hadd, rfl⟩ := Option.map_eq_some_iff.mp h
  have hline : kDoublesPerCacheLine = 8 := rfl
  rw [checkedAdd_some hadd, hline]
  omega

lemma guard_iff {p : Prop} [Decidable p] {u : Unit} : (guard p : Option Unit) = some u ↔ p := by
  by_cases hp : p <;> simp [guard, hp]

structure AxisPlaced (layout : AxisLayout) (cursor next : ℕ) : Prop where
  row : layout.extents.x.toNat ≤ layout.strideY
  plane : layout.strideY * layout.extents.y.toNat ≤ layout.strideZ
  start : cursor ≤ layout.offset
  stop : layout.offset + layout.strideZ * layout.extents.z.toNat ≤ next

lemma axisLayout_placed {extents : Int3} {cursor next : ℕ} (h : axisLayout extents cursor = some (layout, next)) :
    AxisPlaced layout cursor next ∧ layout.extents = extents ∧ validCells extents = true := by
  unfold axisLayout at h
  simp only [Option.bind_eq_bind, guard_iff, Option.bind_eq_some_iff, Option.pure_def,
    Option.some.injEq, Prod.mk.injEq] at h
  obtain ⟨-, hcells, strideY, hY, strideZ, hZ, offset, hoffset, block, hblock, cursor', hcursor,
    rfl, rfl⟩ := h
  refine ⟨⟨checkedAlign_some hY, (checkedMultiply_some hZ).ge, checkedAlign_some hoffset, ?_⟩, rfl, hcells⟩
  rw [checkedAdd_some hcursor, checkedMultiply_some hblock]

structure LayoutPlaced (layout : FaceStorageLayout) : Prop where
  x : ∃ next, AxisPlaced layout.x 0 next ∧ next ≤ layout.replicaStride
  y : ∃ next, AxisPlaced layout.y 0 next ∧ next ≤ layout.replicaStride
  z : ∃ next, AxisPlaced layout.z 0 next ∧ next ≤ layout.replicaStride
  positive : 0 < layout.replicaStride

lemma AxisPlaced.weaken {cursor next : ℕ} (h : AxisPlaced layout cursor next) : AxisPlaced layout 0 next :=
  ⟨h.row, h.plane, Nat.zero_le _, h.stop⟩

lemma AxisPlaced.le {cursor next : ℕ} (h : AxisPlaced layout cursor next) : cursor ≤ next :=
  le_trans h.start (le_trans (Nat.le_add_right _ _) h.stop)

lemma faceStorageLayout_placed {cells : Int3} {replicas : ℕ} {layout : FaceStorageLayout}
    (h : faceStorageLayout cells replicas = some layout) :
    LayoutPlaced layout ∧ layout.x.extents = { cells with x := cells.x + 1 } ∧
      layout.y.extents = { cells with y := cells.y + 1 } ∧
      layout.z.extents = { cells with z := cells.z + 1 } := by
  unfold faceStorageLayout at h
  simp only [Option.bind_eq_bind, guard_iff, Option.bind_eq_some_iff, Option.pure_def,
    Option.some.injEq] at h
  obtain ⟨-, -, ⟨x, cx⟩, hx, ⟨y, cy⟩, hy, ⟨z, cz⟩, hz, stride, hstride, doubles, hdoubles, bytes, hbytes,
    -, hpos, rfl⟩ := h
  obtain ⟨hx, hxe, -⟩ := axisLayout_placed hx
  obtain ⟨hy, hye, -⟩ := axisLayout_placed hy
  obtain ⟨hz, hze, -⟩ := axisLayout_placed hz
  have hle := checkedAlign_some hstride
  refine ⟨⟨⟨cx, hx.weaken, ?_⟩, ⟨cy, hy.weaken, ?_⟩, ⟨cz, hz.weaken, ?_⟩, ?_⟩, hxe, hye, hze⟩
  · exact hy.le.trans (hz.le.trans hle)
  · exact hz.le.trans hle
  · exact hle
  · rw [checkedMultiply_some hbytes, checkedMultiply_some hdoubles] at hpos
    exact Nat.pos_of_ne_zero fun hzero => hpos (by rw [show stride = 0 from hzero]; simp)

lemma AxisPlaced.face_lt {cursor next : ℕ} (h : AxisPlaced layout cursor next) {i : Int3}
    (hi : i ∈ faceIndices layout.extents) : i.x.toNat + i.y.toNat * layout.strideY + i.z.toNat * layout.strideZ <
      layout.strideZ * layout.extents.z.toNat := by
  obtain ⟨⟨hx, hx'⟩, ⟨hy, hy'⟩, hz, hz'⟩ := (mem_faceIndices _ _).mp hi
  have hxlt : i.x.toNat < layout.strideY := lt_of_lt_of_le (by omega) h.row
  have hylt : i.y.toNat + 1 ≤ layout.extents.y.toNat := by omega
  have hzlt : i.z.toNat + 1 ≤ layout.extents.z.toNat := by omega
  have hrow : i.x.toNat + i.y.toNat * layout.strideY < layout.strideZ := by
    calc i.x.toNat + i.y.toNat * layout.strideY
        < layout.strideY + i.y.toNat * layout.strideY := Nat.add_lt_add_right hxlt _
      _ = layout.strideY * (i.y.toNat + 1) := by ring
      _ ≤ layout.strideY * layout.extents.y.toNat := Nat.mul_le_mul_left _ hylt
      _ ≤ layout.strideZ := h.plane
  calc i.x.toNat + i.y.toNat * layout.strideY + i.z.toNat * layout.strideZ
      < layout.strideZ + i.z.toNat * layout.strideZ := Nat.add_lt_add_right hrow _
    _ = layout.strideZ * (i.z.toNat + 1) := by ring
    _ ≤ layout.strideZ * layout.extents.z.toNat := Nat.mul_le_mul_left _ hzlt

lemma axisView_inReplica {ref r next : ℕ} {axis : CartesianAxis} (h : AxisPlaced layout 0 next)
    (hle : next ≤ storage.layout.replicaStride) {base : Address}
    (hbase : (storage.axisView ref r axis layout).base = some base) {i : Int3} (hi : i ∈ faceIndices layout.extents) :
    InReplica storage ref r ((storage.axisView ref r axis layout).at base i) := by
  obtain rfl : ⟨.storage ref, r * storage.layout.replicaStride + layout.offset⟩ = base :=
    Option.some.inj hbase
  have hface := h.face_lt hi
  have hstop := h.stop
  refine ⟨rfl, ?_⟩
  simp only [FaceFieldView.at, FaceFluxStorage.axisView]
  refine Nat.div_eq_of_lt_le ?_ ?_
  · omega
  · rw [Nat.succ_mul]
    omega

/-- A view covers addresses of its own replica only. -/
theorem viewImpl_inReplica {ref r revision : ℕ} {flux : FaceFluxView} (hlayout : LayoutPlaced storage.layout)
    (h : storage.viewImpl ref r revision = .ok flux) {p : Address} (hp : Covers flux p) : InReplica storage ref r p := by
  unfold FaceFluxStorage.viewImpl at h
  split at h
  · exact nomatch h
  · obtain rfl := Except.ok.inj h
    obtain ⟨face, hface, base, hbase, i, hi, rfl⟩ := hp
    simp only [FaceFluxView.faces, List.mem_cons, List.not_mem_nil, or_false] at hface
    obtain ⟨_, hx, hxle⟩ := hlayout.x
    obtain ⟨_, hy, hyle⟩ := hlayout.y
    obtain ⟨_, hz, hzle⟩ := hlayout.z
    rcases hface with rfl | rfl | rfl
    · exact axisView_inReplica hx hxle hbase hi
    · exact axisView_inReplica hy hyle hbase hi
    · exact axisView_inReplica hz hzle hbase hi

variable {F : Type}

variable (m : Memory Address F) {p : Address}

lemma copyFace_frame {input output : FaceFieldView} (hextents : input.extents = output.extents)
    (hp : ∀ base, output.base = some base → ∀ i ∈ faceIndices output.extents, p ≠ output.at base i) :
    copyFace m input output p = m p := by
  unfold copyFace
  cases input.base with
  | none => rfl
  | some source =>
    cases htarget : output.base with
    | none => rfl
    | some target =>
      dsimp only
      rw [hextents]
      exact storeLoop_frame m _ p fun i hi => (hp target htarget i hi).symm

/-- Same extents axis by axis. -/
def SameShape (source destination : FaceFluxView) : Prop :=
  source.x.extents = destination.x.extents ∧ source.y.extents = destination.y.extents ∧
    source.z.extents = destination.z.extents

lemma copyFlux_frame {source destination : FaceFluxView} (hshape : SameShape source destination)
    (hp : ¬ Covers destination p) : copyFlux m source destination p = m p := by
  have houtside : ∀ face ∈ destination.faces, ∀ base, face.base = some base →
      ∀ i ∈ faceIndices face.extents, p ≠ face.at base i :=
    fun face hface base hbase i hi heq => hp ⟨face, hface, base, hbase, i, hi, heq⟩
  unfold copyFlux
  rw [copyFace_frame _ hshape.2.2 (houtside _ (by simp [FaceFluxView.faces])),
    copyFace_frame _ hshape.2.1 (houtside _ (by simp [FaceFluxView.faces])),
    copyFace_frame _ hshape.1 (houtside _ (by simp [FaceFluxView.faces]))]

lemma storeFaces_frame {flux : FaceFluxView} (writes : List (FluxWorld.FaceWrite F))
    (hp : ¬ Covers flux p) : FluxWorld.storeFaces m flux writes p = m p := by
  induction writes generalizing m with
  | nil => rfl
  | cons write rest ih =>
    unfold FluxWorld.storeFaces
    dsimp only
    have hmem : write.view flux ∈ flux.faces := by
      unfold FluxWorld.FaceWrite.view FaceFluxView.faces
      cases write.axis <;> simp
    cases hbase : (write.view flux).base with
    | none => exact ih m
    | some base =>
      dsimp only
      split
      · rename_i hface
        rw [ih]
        refine Function.update_of_ne ?_ _ _
        rintro rfl
        exact hp ⟨_, hmem, base, hbase, write.face, hface, rfl⟩
      · exact ih m

end HundunFlow.Proofs
