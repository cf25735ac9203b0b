import HundunFlow.StateLayers

/-!
# Addresses in the arena

The cells of a field, ghosts and replicas included, are numbered without a gap in meaning: column,
row, plane, component and replica are digits of one number below the span of the field.
-/

namespace HundunFlow.Proofs

open Lib ArenaLayout List Option

/-- A component of a cell of a replica, ghost cells included. -/
structure InField (layout : ArenaFieldLayout) (replica component : ℕ) (index : Int3) : Prop where
  replica_lt : replica < layout.replicas
  component_lt : component < layout.components
  x : -layout.ghosts.x ≤ index.x ∧ index.x < layout.interior.x + layout.ghosts.x
  y : -layout.ghosts.y ≤ index.y ∧ index.y < layout.interior.y + layout.ghosts.y
  z : -layout.ghosts.z ≤ index.z ∧ index.z < layout.interior.z + layout.ghosts.z

/-- The offset of a cell in the memory of the owner. -/
def cellAddress (layout : ArenaFieldLayout) (replica component : ℕ) (index : Int3) : ℤ :=
  layout.replicaOffset replica + layout.cellOffset component index

section Field

variable {descriptor : FieldDescriptor} {request : ArenaFieldRequest} {ownerIndex cursor : ℕ} {field : ArenaFieldLayout}

structure DigitsOf (descriptor : FieldDescriptor) (request : ArenaFieldRequest) (field : ArenaFieldLayout)
    (replica component : ℕ) (index : Int3) (column row plane : ℕ) : Prop where
  column_eq : (column : ℤ) = index.x + aligned descriptor.ghostWidth.toNat
  row_eq : (row : ℤ) = index.y + descriptor.ghostWidth.toNat
  plane_eq : (plane : ℤ) = index.z + descriptor.ghostWidth.toNat
  column_lt : column < field.strideY
  row_lt : row < request.interior.y.toNat + descriptor.ghostWidth.toNat * 2
  plane_lt : plane < request.interior.z.toNat + descriptor.ghostWidth.toNat * 2

/-- The number of a cell in the range of its field. -/
def position (field : ArenaFieldLayout) (replica component column row plane : ℕ) : ℕ :=
  column + row * field.strideY + plane * field.strideZ + component * field.componentStride +
    replica * field.replicaStrideDoubles

variable (h : FieldPlaced descriptor request ownerIndex cursor field)

include h

variable {component replica : ℕ} {index : Int3}

lemma exists_digits (hcell : InField field replica component index) :
    ∃ column row plane, DigitsOf descriptor request field replica component index column row plane ∧
      cellAddress field replica component index =
        field.rawOffsetDoubles + position field replica component column row plane := by
  obtain ⟨-, -, hx, hy, hz⟩ := hcell
  obtain ⟨hxpos, hypos, hzpos⟩ := h.extents
  rw [h.ghosts, h.interior] at hx hy hz
  simp only at hx hy hz
  have hleading := le_aligned descriptor.ghostWidth.toNat
  have hrow := le_aligned (aligned descriptor.ghostWidth.toNat +
    (request.interior.x.toNat + descriptor.ghostWidth.toNat))
  rw [← h.strideY] at hrow
  refine ⟨(index.x + aligned descriptor.ghostWidth.toNat).toNat, (index.y + descriptor.ghostWidth.toNat).toNat,
    (index.z + descriptor.ghostWidth.toNat).toNat, ⟨?_, ?_, ?_, ?_, ?_, ?_⟩, ?_⟩
  · exact Int.toNat_of_nonneg (by omega)
  · exact Int.toNat_of_nonneg (by omega)
  · exact Int.toNat_of_nonneg (by omega)
  · omega
  · omega
  · omega
  · unfold cellAddress ArenaFieldLayout.replicaOffset ArenaFieldLayout.cellOffset position
    rw [h.offset]
    push_cast
    rw [Int.toNat_of_nonneg (by omega), Int.toNat_of_nonneg (by omega), Int.toNat_of_nonneg (by omega)]
    ring

lemma digits_lt {column row plane : ℕ} (hcell : InField field replica component index)
    (hdigits : DigitsOf descriptor request field replica component index column row plane) :
    column + row * field.strideY < field.strideZ ∧
      column + row * field.strideY + plane * field.strideZ < field.componentStride ∧
      column + row * field.strideY + plane * field.strideZ + component * field.componentStride <
        field.replicaStrideDoubles ∧
      position field replica component column row plane < field.spanDoubles := by
  have hrow : column + row * field.strideY < field.strideZ := by
    rw [h.strideZ]
    exact strided_lt hdigits.column_lt hdigits.row_lt
  have hplane : column + row * field.strideY + plane * field.strideZ < field.componentStride := by
    rw [h.componentStride]
    exact strided_lt hrow hdigits.plane_lt
  have hcomp : column + row * field.strideY + plane * field.strideZ + component * field.componentStride <
      field.replicaStrideDoubles := by
    rw [h.replicaStride]
    exact (strided_lt hplane hcell.component_lt).trans_le (le_aligned _)
  refine ⟨hrow, hplane, hcomp, ?_⟩
  rw [h.span]
  exact strided_lt hcomp hcell.replica_lt

lemma cellAddress_mem (hcell : InField field replica component index) :
    (field.rawOffsetDoubles : ℤ) ≤ cellAddress field replica component index ∧
      cellAddress field replica component index < field.rawOffsetDoubles + field.spanDoubles := by
  obtain ⟨column, row, plane, hdigits, haddress⟩ := exists_digits h hcell
  have hlt := (digits_lt h hcell hdigits).2.2.2
  rw [haddress]
  omega

lemma cellAddress_inj {replica' component' : ℕ} {index' : Int3} (hcell : InField field replica component index)
    (hcell' : InField field replica' component' index')
    (hsame : cellAddress field replica component index = cellAddress field replica' component' index') :
    replica = replica' ∧ component = component' ∧ index = index' := by
  obtain ⟨column, row, plane, hdigits, haddress⟩ := exists_digits h hcell
  obtain ⟨column', row', plane', hdigits', haddress'⟩ := exists_digits h hcell'
  obtain ⟨hrow, hplane, hcomp, -⟩ := digits_lt h hcell hdigits
  obtain ⟨hrow', hplane', hcomp', -⟩ := digits_lt h hcell' hdigits'
  have hposition : position field replica component column row plane =
      position field replica' component' column' row' plane' := by
    rw [haddress, haddress'] at hsame
    omega
  obtain ⟨hinner, hrep⟩ := strided_inj hcomp hcomp' hposition
  obtain ⟨hinner, hcompon⟩ := strided_inj hplane hplane' hinner
  obtain ⟨hinner, hplanes⟩ := strided_inj hrow hrow' hinner
  obtain ⟨hcolumns, hrows⟩ := strided_inj hdigits.column_lt hdigits'.column_lt hinner
  refine ⟨hrep, hcompon, ?_⟩
  have hx := hdigits.column_eq
  have hx' := hdigits'.column_eq
  have hy := hdigits.row_eq
  have hy' := hdigits'.row_eq
  have hz := hdigits.plane_eq
  have hz' := hdigits'.plane_eq
  cases index
  cases index'
  simp only [Int3.mk.injEq] at hx hx' hy hy' hz hz' ⊢
  omega

end Field

def Before (fields : List ArenaFieldLayout) (request other : ArenaFieldRequest) : Prop :=
  ∀ f g, fields[request.id.toNat]? = some f → fields[other.id.toNat]? = some g →
    f.rawOffsetDoubles + f.spanDoubles ≤ g.rawOffsetDoubles

structure Packed (schema : List FieldDescriptor) (run : List ArenaFieldRequest) (ownerIndex start stop : ℕ)
    (fields : List ArenaFieldLayout) : Prop where
  start_le : start ≤ stop
  placed : ∀ request ∈ run, ∃ f cursor, fields[request.id.toNat]? = some f ∧
    FieldPlaced (schema.getD request.id.toNat {}) request ownerIndex cursor f ∧ start ≤ f.rawOffsetDoubles ∧
      f.rawOffsetDoubles + f.spanDoubles ≤ stop
  before : run.Pairwise (Before fields)

variable {schema : List FieldDescriptor} {run : List ArenaFieldRequest}

lemma Packed.congr {ownerIndex start stop : ℕ} {fields fields' : List ArenaFieldLayout}
    (h : Packed schema run ownerIndex start stop fields)
    (hsame : ∀ request ∈ run, fields'[request.id.toNat]? = fields[request.id.toNat]?) :
    Packed schema run ownerIndex start stop fields' := by
  refine ⟨h.start_le, fun request hmem => ?_, ?_⟩
  · obtain ⟨f, cursor, hf, hplaced⟩ := h.placed request hmem
    exact ⟨f, cursor, (hsame request hmem).trans hf, hplaced⟩
  · apply h.before.imp_of_mem
    intro request other hmem hmem' hbefore f g hf hg
    rw [hsame request hmem] at hf
    rw [hsame other hmem'] at hg
    exact hbefore f g hf hg

lemma placeOwner_packed {ownerIndex : ℕ} {cursor cursor' : ℕ} {fields fields' : List ArenaFieldLayout}
    (hids : (run.map (·.id.toNat)).Nodup) (hlt : ∀ request ∈ run, request.id.toNat < fields.length)
    (h : placeOwner schema ownerIndex run cursor fields = .ok (cursor', fields')) :
    (∀ i, i ∉ run.map (·.id.toNat) → fields'[i]? = fields[i]?) ∧ Packed schema run ownerIndex cursor cursor' fields' := by
  induction run generalizing cursor fields with
  | nil =>
    obtain ⟨rfl, rfl⟩ := Prod.mk.inj (Except.ok.inj h)
    exact ⟨fun _ _ => rfl, le_refl _, fun request hmem => absurd hmem not_mem_nil, List.Pairwise.nil⟩
  | cons request rest ih =>
    rw [map_cons, nodup_cons] at hids
    unfold placeOwner at h
    simp only at h
    split at h
    · rename_i xGhosted yGhosted zGhosted lifetime hx hy hz hlife
      split at h
      · cases h
      · rename_i field fieldEnd hplace
        obtain ⟨hplaced, rfl⟩ := placeField_spec (checkedGhostExtent_spec hx).1 hy hz hlife hplace
        obtain ⟨hframe, hpacked⟩ := ih hids.2
          (fun other hother => by rw [length_set]; exact hlt other (mem_cons_of_mem _ hother)) h
        have hfield : fields'[request.id.toNat]? = some field := by
          rw [hframe _ hids.1, List.getElem?_set_self (hlt request mem_cons_self)]
        have hstart : cursor ≤ field.rawOffsetDoubles := by
          rw [hplaced.raw]
          exact le_aligned cursor
        refine ⟨fun i hi => ?_, ?_, ?_, ?_⟩
        · rw [map_cons, mem_cons, not_or] at hi
          rw [hframe i hi.2, List.getElem?_set_ne fun heq => hi.1 heq.symm]
        · exact hstart.trans ((Nat.le_add_right _ _).trans hpacked.start_le)
        · intro other hother
          rcases mem_cons.mp hother with rfl | hother
          · exact ⟨field, cursor, hfield, hplaced, hstart, hpacked.start_le⟩
          · obtain ⟨g, cursor'', hg, hgplaced, hafter, hend⟩ := hpacked.placed other hother
            exact ⟨g, cursor'', hg, hgplaced, hstart.trans ((Nat.le_add_right _ _).trans hafter), hend⟩
        · rw [pairwise_cons]
          refine ⟨fun other hother f g hf hg => ?_, hpacked.before⟩
          obtain ⟨g', cursor'', hg', -, hafter, -⟩ := hpacked.placed other hother
          obtain rfl := some.inj (hfield.symm.trans hf)
          obtain rfl := some.inj (hg'.symm.trans hg)
          exact hafter
    · cases h

def ownerSizes (cursor total : ℕ) : List ℕ :=
  [cursor + (kDoublesPerCacheLine - 1), aligned cursor, total + (kDoublesPerCacheLine - 1), aligned total,
    aligned total + aligned cursor]

structure OwnerPlaced (schema : List FieldDescriptor) (run : List ArenaFieldRequest) (ownerIndex : ℕ)
    (owner : ArenaOwnerLayout) (fields : List ArenaFieldLayout) : Prop where
  owner_eq : some owner.owner = (run.map (·.placement.owner.toNat)).head?
  packed : Packed schema run ownerIndex 0 owner.spanDoubles fields
  sizes : ∃ cursor total, owner.spanDoubles = aligned cursor ∧ owner.offsetDoubles = aligned total ∧
    ∀ size ∈ ownerSizes cursor total, size ≤ maxU64

lemma placeOwners_placed {runs : List (List ArenaFieldRequest)} {total total' : ℕ}
    {fields fields' : List ArenaFieldLayout} {owners owners' : List ArenaOwnerLayout}
    (hids : (runs.flatten.map (·.id.toNat)).Nodup)
    (hlt : ∀ request ∈ runs.flatten, request.id.toNat < fields.length) (hnon : [] ∉ runs)
    (h : placeOwners schema runs fields owners total = .ok (fields', owners', total')) :
    (∀ i, i ∉ runs.flatten.map (·.id.toNat) → fields'[i]? = fields[i]?) ∧
      ∃ added, owners' = owners ++ added ∧ added.length = runs.length ∧ ∀ j run, runs[j]? = some run →
        ∃ owner, added[j]? = some owner ∧ OwnerPlaced schema run (owners.length + j) owner fields' := by
  induction runs generalizing fields owners total with
  | nil =>
    obtain ⟨rfl, hrest⟩ := Prod.mk.inj (Except.ok.inj h)
    obtain ⟨rfl, -⟩ := Prod.mk.inj hrest
    exact ⟨fun _ _ => rfl, [], (append_nil _).symm, rfl, fun j run hrun => by cases hrun⟩
  | cons run rest ih =>
    rw [flatten_cons, map_append, nodup_append] at hids
    unfold placeOwners at h
    split at h
    · cases h
    · rename_i cursor middle hrun
      have hlength := (placeOwner_entries hrun).1
      obtain ⟨hframe, hpacked⟩ := placeOwner_packed hids.1
        (fun request hmem => hlt request (by rw [flatten_cons, mem_append]; exact .inl hmem)) hrun
      simp only at h
      split at h
      · cases h
      · rename_i ownerSpan hspan
        split_ifs at h
        split at h
        · cases h
        · rename_i globalOffset hoffset
          split at h
          · cases h
          · rename_i total'' htotal
            obtain ⟨rfl, hspanLe⟩ := HundunFlow.checkedAlign_spec hspan
            obtain ⟨rfl, hoffsetLe⟩ := HundunFlow.checkedAlign_spec hoffset
            obtain ⟨rfl, htotalLe⟩ := HundunFlow.checkedAdd_spec htotal
            obtain ⟨hframe', added, rfl, hcount, hadded⟩ := ih hids.2.1
              (fun request hmem => by
                rw [hlength]
                exact hlt request (by rw [flatten_cons, mem_append]; exact .inr hmem))
              (fun hmem => hnon (mem_cons_of_mem _ hmem)) h
            have hlater : ∀ request ∈ run, fields'[request.id.toNat]? = middle[request.id.toNat]? :=
              fun request hmem => hframe' _ fun hmem' => hids.2.2 _ (List.mem_map_of_mem hmem) _ hmem' rfl
            refine ⟨fun i hi => ?_, ⟨_, aligned total, aligned cursor⟩ :: added, append_assoc _ _ _,
              by rw [length_cons, length_cons, hcount], fun j other hj => ?_⟩
            · rw [flatten_cons, map_append, mem_append, not_or] at hi
              rw [hframe' i hi.2, hframe i hi.1]
            · cases j with
              | zero =>
                obtain rfl := some.inj hj
                refine ⟨_, rfl, ?_, ?_, cursor, total, rfl, rfl, ?_⟩
                · cases run with
                  | nil => exact absurd mem_cons_self hnon
                  | cons request run => rfl
                · have hmiddle := hpacked.congr hlater
                  refine ⟨Nat.zero_le _, fun request hmem => ?_, hmiddle.before⟩
                  obtain ⟨f, c, hf, hplaced, -, hend⟩ := hmiddle.placed request hmem
                  exact ⟨f, c, hf, hplaced, Nat.zero_le _, hend.trans (le_aligned cursor)⟩
                · have hoffset' := (aligned_le total).trans hoffsetLe
                  simp only [ownerSizes, forall_mem_cons, not_mem_nil, false_implies, implies_true, and_true]
                  exact ⟨hspanLe, (aligned_le cursor).trans hspanLe, hoffsetLe, hoffset', htotalLe hoffset'⟩
              | succ j =>
                obtain ⟨owner, howner, hplaced⟩ := hadded j other (by simpa using hj)
                refine ⟨owner, by simpa using howner, ?_⟩
                rw [length_append, length_singleton, Nat.add_assoc, Nat.add_comm 1 j] at hplaced
                exact hplaced

section Layout

variable {schema : List FieldDescriptor} {requests : List ArenaFieldRequest} {memory : Bool} {layout : ArenaLayout}

lemma compile_ok_iff {requests : Span ArenaFieldRequest} : compile schema requests memory = .ok layout ↔
    compileParts schema requests memory = .ok (layout.fields, layout.owners, layout.totalDoubles) := by
  unfold compile
  split
  · rename_i status h
    exact iff_of_false (by simp) (by rw [h]; simp)
  · rename_i parts h
    refine Iff.trans ?_ (Eq.congr_left h).symm
    rw [Except.ok.injEq, Except.ok.injEq]
    constructor
    · rintro rfl
      rfl
    · rintro rfl
      rfl

def arranged (requests : List ArenaFieldRequest) : List (List ArenaFieldRequest) :=
  ownerRuns (sortOn (fun request => request.id.toNat) requests)

lemma arranged_perm (requests : List ArenaFieldRequest) : (arranged requests).flatten.Perm requests :=
  (ownerRuns_perm _).trans (sortOn_perm _ _)

lemma arranged_ascending (requests : List ArenaFieldRequest) :
    (∀ run ∈ arranged requests, ∀ r ∈ run, ∀ r' ∈ run, r.placement.owner.toNat = r'.placement.owner.toNat) ∧
      (arranged requests).Pairwise fun run run' =>
        ∀ r ∈ run, ∀ r' ∈ run', r.placement.owner.toNat < r'.placement.owner.toNat := by
  have hsorted : (sortOn ownerKey (sortOn (fun request => request.id.toNat) requests)).Pairwise
      fun r r' => r.placement.owner.toNat ≤ r'.placement.owner.toNat := by
    apply (sortOn_pairwise_le ownerKey _).imp
    intro r r' hle
    rcases Prod.Lex.toLex_le_toLex.mp hle with hlt | ⟨heq, -⟩
    · exact hlt.le
    · exact heq.le
  have hsplit := splitBy_ascending hsorted
  have hsame : (fun left right : ArenaFieldRequest => decide (left.placement.owner.toNat = right.placement.owner.toNat)) =
      fun left right => decide (left.placement.owner = right.placement.owner) :=
    funext₂ fun left right => decide_eq_decide.mpr UInt16.toNat_inj
  rwa [hsame] at hsplit

structure FieldOrigin (schema : List FieldDescriptor) (requests : List ArenaFieldRequest) (layout : ArenaLayout)
    (f : ArenaFieldLayout) (request : ArenaFieldRequest) (run : List ArenaFieldRequest) (owner : ArenaOwnerLayout) : Prop where
  request_mem : request ∈ run
  run_eq : (arranged requests)[f.ownerIndex]? = some run
  owner_eq : layout.owners[f.ownerIndex]? = some owner
  owner_placed : OwnerPlaced schema run f.ownerIndex owner layout.fields
  field_eq : layout.fields[request.id.toNat]? = some f
  placed : ∃ cursor, FieldPlaced (schema.getD request.id.toNat {}) request f.ownerIndex cursor f
  end_le : f.rawOffsetDoubles + f.spanDoubles ≤ owner.spanDoubles

variable (h : compile schema (.of requests) memory = .ok layout)

include h

lemma compiled_of_ok : Compiled schema (.of requests) (layout.fields, layout.owners, layout.totalDoubles) :=
  compileParts_ok (compile_ok_iff.mp h)

lemma owners_placed : layout.owners.length = (arranged requests).length ∧ ∀ j run, (arranged requests)[j]? = some run →
    ∃ owner, layout.owners[j]? = some owner ∧ OwnerPlaced schema run j owner layout.fields := by
  have hcompiled := compiled_of_ok h
  have hperm := arranged_perm requests
  have hids : ((arranged requests).flatten.map (·.id.toNat)).Nodup := (hperm.map _).nodup_iff.mpr hcompiled.nodup
  have hlt : ∀ request ∈ (arranged requests).flatten,
      request.id.toNat < (replicate schema.length ({} : ArenaFieldLayout)).length := by
    intro request hmem
    rw [length_replicate]
    exact (hcompiled.known request (hperm.mem_iff.mp hmem)).1
  obtain ⟨-, added, howners, hcount, hadded⟩ := placeOwners_placed hids hlt (nil_notMem_splitBy _ _) hcompiled.placed
  refine ⟨by rw [howners, nil_append, hcount], fun j run hrun => ?_⟩
  obtain ⟨owner, howner, hplaced⟩ := hadded j run hrun
  rw [nil_append] at howners
  rw [length_nil, zero_add] at hplaced
  exact ⟨owner, howners ▸ howner, hplaced⟩

lemma exists_origin {f : ArenaFieldLayout} (hf : f ∈ layout.fields) :
    ∃ request run owner, FieldOrigin schema requests layout f request run owner := by
  have hcompiled := compiled_of_ok h
  obtain ⟨i, hi, hfi⟩ := mem_iff_getElem.mp hf
  -- the request with the id of the field
  have hid : i ∈ (arranged requests).flatten.map (·.id.toNat) := by
    have hrange : i ∈ range schema.length := mem_range.mpr (hcompiled.entries.1 ▸ hi)
    exact ((arranged_perm requests).map _).mem_iff.mpr (hcompiled.ids_perm.mem_iff.mpr hrange)
  obtain ⟨request, hmem, rfl⟩ := List.mem_map.mp hid
  obtain ⟨run, hrun, hrequest⟩ := mem_flatten.mp hmem
  obtain ⟨j, hj⟩ := mem_iff_getElem?.mp hrun
  obtain ⟨owner, howner, hplaced⟩ := (owners_placed h).2 j run hj
  obtain ⟨f', cursor, hf', hfield, -, hend⟩ := hplaced.packed.placed request hrequest
  obtain rfl : f' = f := by
    rw [List.getElem?_eq_getElem hi, some.injEq] at hf'
    exact hf'.symm.trans hfi
  obtain rfl := hfield.ownerIndex
  exact ⟨request, run, owner, hrequest, hj, howner, hplaced, hf', ⟨cursor, hfield⟩, hend⟩

end Layout

def AddressesInjective (layout : ArenaLayout) : Prop :=
  ∀ f ∈ layout.fields, ∀ g ∈ layout.fields, ∀ replica component index replica' component' index',
    InField f replica component index → InField g replica' component' index' → f.owner = g.owner →
      cellAddress f replica component index = cellAddress g replica' component' index' →
        f = g ∧ replica = replica' ∧ component = component' ∧ index = index'

/-- Every cell lies in the memory of its owner. -/
def AddressesInBounds (layout : ArenaLayout) : Prop :=
  ∀ f ∈ layout.fields, ∃ owner, layout.owners[f.ownerIndex]? = some owner ∧ owner.owner = f.owner ∧
    ∀ replica component index, InField f replica component index →
      0 ≤ cellAddress f replica component index ∧ cellAddress f replica component index < owner.spanDoubles

/-- The results that `make_view` and `checked_ptr_impl` compute without a check. -/
def addressSteps (f : ArenaFieldLayout) (replica component : ℕ) (index : Int3) : List ℤ :=
  [index.x, index.y * f.strideY, index.x + index.y * f.strideY, index.z * f.strideZ,
    index.x + index.y * f.strideY + index.z * f.strideZ, component * f.componentStride, f.cellOffset component index,
    f.offsetDoubles, replica * f.replicaStrideDoubles, f.replicaOffset replica, cellAddress f replica component index]

/-- No size is beyond `std::size_t`, and no place in bytes beyond `std::ptrdiff_t`. -/
structure SizesFit (layout : ArenaLayout) : Prop where
  fields : ∀ f ∈ layout.fields, ∃ cursor, f.rawOffsetDoubles = aligned cursor ∧
    ∀ size ∈ fieldSizes f.ghosts.x.toNat f.interior.x.toNat (f.interior.y.toNat + f.ghosts.y.toNat * 2)
      (f.interior.z.toNat + f.ghosts.z.toNat * 2) f.components f.replicas cursor, size ≤ maxU64
  owners : ∀ owner ∈ layout.owners, ∃ cursor total, owner.spanDoubles = aligned cursor ∧
    owner.offsetDoubles = aligned total ∧ ∀ size ∈ ownerSizes cursor total, size ≤ maxU64
  total : layout.totalDoubles * doubleBytes ≤ maxPtrdiff
  steps : ∀ f ∈ layout.fields, ∀ replica component index, InField f replica component index →
    ∀ step ∈ addressSteps f replica component index, |step| * doubleBytes ≤ maxPtrdiff

variable {schema : List FieldDescriptor} {requests : List ArenaFieldRequest} {memory : Bool} {layout : ArenaLayout}

lemma addressSteps_le {descriptor : FieldDescriptor} {request : ArenaFieldRequest} {ownerIndex cursor : ℕ}
    {f : ArenaFieldLayout} (h : FieldPlaced descriptor request ownerIndex cursor f) {replica component : ℕ} {index : Int3}
    (hcell : InField f replica component index) :
    ∀ step ∈ addressSteps f replica component index, |step| ≤ f.rawOffsetDoubles + f.spanDoubles := by
  obtain ⟨hreplica, hcomp, hx, hy, hz⟩ := hcell
  obtain ⟨hxpos, hypos, hzpos⟩ := h.extents
  have hghosts : 0 ≤ f.ghosts.x ∧ 0 ≤ f.ghosts.y ∧ 0 ≤ f.ghosts.z := by
    rw [h.ghosts]
    exact ⟨Int.natCast_nonneg _, Int.natCast_nonneg _, Int.natCast_nonneg _⟩
  rw [← h.interior] at hxpos hypos hzpos
  -- the cells with some of the digits
  have hcell : ∀ replica' component' x y z, (replica' = replica ∨ replica' = 0) → (component' = component ∨ component' = 0) →
      (x = index.x ∨ x = 0) → (y = index.y ∨ y = 0) → (z = index.z ∨ z = 0) →
      (f.rawOffsetDoubles : ℤ) ≤ cellAddress f replica' component' ⟨x, y, z⟩ ∧
        cellAddress f replica' component' ⟨x, y, z⟩ < f.rawOffsetDoubles + f.spanDoubles := by
    intro replica' component' x y z hr hc hx' hy' hz'
    apply cellAddress_mem h
    refine ⟨by omega, by omega, ?_, ?_, ?_⟩ <;> simp only <;> omega
  have hzero := hcell 0 0 0 0 0 (.inr rfl) (.inr rfl) (.inr rfl) (.inr rfl) (.inr rfl)
  have hxStep := hcell 0 0 index.x 0 0 (.inr rfl) (.inr rfl) (.inl rfl) (.inr rfl) (.inr rfl)
  have hyStep := hcell 0 0 0 index.y 0 (.inr rfl) (.inr rfl) (.inr rfl) (.inl rfl) (.inr rfl)
  have hxyStep := hcell 0 0 index.x index.y 0 (.inr rfl) (.inr rfl) (.inl rfl) (.inl rfl) (.inr rfl)
  have hzStep := hcell 0 0 0 0 index.z (.inr rfl) (.inr rfl) (.inr rfl) (.inr rfl) (.inl rfl)
  have hxyzStep := hcell 0 0 index.x index.y index.z (.inr rfl) (.inr rfl) (.inl rfl) (.inl rfl) (.inl rfl)
  have hcomponentStep := hcell 0 component 0 0 0 (.inr rfl) (.inl rfl) (.inr rfl) (.inr rfl) (.inr rfl)
  have hcellStep := hcell 0 component index.x index.y index.z (.inr rfl) (.inl rfl) (.inl rfl) (.inl rfl) (.inl rfl)
  have hreplicaStep := hcell replica 0 0 0 0 (.inl rfl) (.inr rfl) (.inr rfl) (.inr rfl) (.inr rfl)
  have hallStep := hcell replica component index.x index.y index.z (.inl rfl) (.inl rfl) (.inl rfl) (.inl rfl) (.inl rfl)
  unfold cellAddress ArenaFieldLayout.replicaOffset ArenaFieldLayout.cellOffset at *
  push_cast at *
  simp only [zero_mul, add_zero, zero_add] at *
  simp only [addressSteps, forall_mem_cons, not_mem_nil, false_implies, implies_true, and_true, abs_le,
    ArenaFieldLayout.replicaOffset, ArenaFieldLayout.cellOffset, cellAddress]
  push_cast
  refine ⟨?_, ?_, ?_, ?_, ?_, ?_, ?_, ?_, ?_, ?_, ?_⟩ <;> omega

lemma addresses_injective (h : compile schema (.of requests) memory = .ok layout) : AddressesInjective layout := by
  intro f hf g hg replica component index replica' component' index' hcell hcell' howner hsame
  obtain ⟨request, run, owner, horigin⟩ := exists_origin h hf
  obtain ⟨request', run', owner', horigin'⟩ := exists_origin h hg
  obtain ⟨cursor, hplaced⟩ := horigin.placed
  obtain ⟨cursor', hplaced'⟩ := horigin'.placed
  have howners : request.placement.owner.toNat = request'.placement.owner.toNat := by
    rw [← hplaced.owner, ← hplaced'.owner, howner]
  -- fields of one owner are of one run
  have hindex : f.ownerIndex = g.ownerIndex := by
    have hasc := pairwise_iff_getElem.mp (arranged_ascending requests).2
    obtain ⟨hi, hrun⟩ := List.getElem?_eq_some_iff.mp horigin.run_eq
    obtain ⟨hj, hrun'⟩ := List.getElem?_eq_some_iff.mp horigin'.run_eq
    rcases lt_trichotomy f.ownerIndex g.ownerIndex with hlt | heq | hgt
    · have hless := hasc _ _ hi hj hlt request (hrun ▸ horigin.request_mem) request' (hrun' ▸ horigin'.request_mem)
      exact absurd howners hless.ne
    · exact heq
    · have hless := hasc _ _ hj hi hgt request' (hrun' ▸ horigin'.request_mem) request (hrun ▸ horigin.request_mem)
      exact absurd howners.symm hless.ne
  have hrun : run = run' := by
    have heq := horigin.run_eq
    rw [hindex, horigin'.run_eq] at heq
    exact (some.inj heq).symm
  have hmem := cellAddress_mem hplaced hcell
  have hmem' := cellAddress_mem hplaced' hcell'
  have hfields : f = g := by
    have hbefore : request = request' ∨ Before layout.fields request request' ∨ Before layout.fields request' request :=
      List.Pairwise.forall_of_forall_of_flip
        (R := fun r r' => r = r' ∨ Before layout.fields r r' ∨ Before layout.fields r' r) (fun _ _ => .inl rfl)
        (horigin.owner_placed.packed.before.imp fun hless => .inr (.inl hless))
        (horigin.owner_placed.packed.before.imp fun hless => .inr (.inr hless))
        horigin.request_mem (hrun ▸ horigin'.request_mem)
    rcases hbefore with rfl | hless | hless
    · exact some.inj (horigin.field_eq.symm.trans horigin'.field_eq)
    · have hle := hless f g horigin.field_eq horigin'.field_eq
      omega
    · have hle := hless g f horigin'.field_eq horigin.field_eq
      omega
  subst hfields
  exact ⟨rfl, cellAddress_inj hplaced hcell hcell' hsame⟩

lemma addresses_inBounds (h : compile schema (.of requests) memory = .ok layout) : AddressesInBounds layout := by
  intro f hf
  obtain ⟨request, run, owner, horigin⟩ := exists_origin h hf
  obtain ⟨cursor, hplaced⟩ := horigin.placed
  refine ⟨owner, horigin.owner_eq, ?_, fun replica component index hcell => ?_⟩
  · have hhead := horigin.owner_placed.owner_eq
    have hmem := mem_of_mem_head? (mem_def.mpr hhead.symm)
    obtain ⟨first, hfirst, heq⟩ := List.mem_map.mp hmem
    have hrun := mem_of_getElem? horigin.run_eq
    rw [← heq, hplaced.owner, (arranged_ascending requests).1 run hrun first hfirst request horigin.request_mem]
  · have hmem := cellAddress_mem hplaced hcell
    have hend := horigin.end_le
    omega

lemma sizes_fit (h : compile schema (.of requests) memory = .ok layout) : SizesFit layout := by
  refine ⟨fun f hf => ?_, fun owner howner => ?_, (compiled_of_ok h).total, fun f hf replica component index hcell => ?_⟩
  · obtain ⟨request, run, owner, horigin⟩ := exists_origin h hf
    obtain ⟨cursor, hplaced⟩ := horigin.placed
    refine ⟨cursor, hplaced.raw, ?_⟩
    rw [hplaced.ghosts, hplaced.interior]
    exact hplaced.sizes
  · obtain ⟨hlength, howners⟩ := owners_placed h
    obtain ⟨j, hj, heq⟩ := mem_iff_getElem.mp howner
    obtain ⟨owner', howner', hplaced⟩ := howners j _ (List.getElem?_eq_getElem (hlength ▸ hj))
    rw [List.getElem?_eq_getElem hj, some.injEq, heq] at howner'
    exact howner' ▸ hplaced.sizes
  · obtain ⟨request, run, owner, horigin⟩ := exists_origin h hf
    obtain ⟨cursor, hplaced⟩ := horigin.placed
    intro step hstep
    have hle := addressSteps_le hplaced hcell step hstep
    have hend := hplaced.end_le
    calc |step| * doubleBytes ≤ (f.rawOffsetDoubles + f.spanDoubles) * doubleBytes :=
          mul_le_mul_of_nonneg_right hle (Int.natCast_nonneg _)
      _ ≤ maxPtrdiff := by exact_mod_cast hend

lemma compileParts_perm {requests' : List ArenaFieldRequest} (hperm : requests'.Perm requests) (memory : Bool)
    (hnodup : ((Span.of requests).values.map (·.id.toNat)).Nodup) :
    compileParts schema (.of requests') memory = compileParts schema (.of requests) memory := by
  have hsorted : sortOn (fun request => request.id.toNat) requests' = sortOn (fun request => request.id.toNat) requests := by
    have hnodup' : (requests'.map (·.id.toNat)).Nodup := (hperm.map _).nodup_iff.mpr hnodup
    exact eq_of_perm_of_pairwise (sortOn_pairwise_lt hnodup') (sortOn_pairwise_le _ _)
      ((sortOn_perm _ _).trans (hperm.trans (sortOn_perm _ _).symm))
  unfold compileParts
  simp only [Span.values, Span.size, Span.isNull, hsorted, hperm.length_eq]
  rfl

def sampleSchema : List FieldDescriptor := [⟨0, 2, 1⟩, ⟨1, 1, 0⟩]

def sampleRequests : List ArenaFieldRequest := [⟨0, ⟨4, 2, 1⟩, ⟨1⟩, 0⟩, ⟨1, ⟨4, 2, 1⟩, ⟨0⟩, 3⟩]

lemma sample_byField : sortOn (fun request => request.id.toNat) sampleRequests = sampleRequests :=
  eq_of_perm_of_pairwise (sortOn_pairwise_lt (by decide)) (by decide) (sortOn_perm _ _)

lemma sample_byOwner : sortOn ownerKey sampleRequests = sampleRequests.reverse :=
  eq_of_perm_of_pairwise (sortOn_pairwise_lt (by decide)) (by decide)
    ((sortOn_perm _ _).trans (reverse_perm _).symm)

lemma sample_compiled : ∃ layout, compile sampleSchema (.of sampleRequests) true = .ok layout := by
  have hruns : ownerRuns sampleRequests =
      sampleRequests.reverse.splitBy fun left right => left.placement.owner = right.placement.owner := by
    rw [ownerRuns, sample_byOwner]
  have hparts : ∃ parts, compileParts sampleSchema (.of sampleRequests) true = .ok parts := by
    unfold compileParts
    simp only [Span.values, sample_byField, hruns]
    exact ⟨_, rfl⟩
  obtain ⟨parts, hparts⟩ := hparts
  unfold compile
  split
  · rename_i status herror
    cases herror.symm.trans hparts
  · exact ⟨_, rfl⟩

end HundunFlow.Proofs
