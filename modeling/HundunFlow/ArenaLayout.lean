import HundunFlow.MeshDecomposition
import HundunFlow.Lib.Strides
import Mathlib.Data.Prod.Lex
import Mathlib.Data.List.Perm.Subperm

/-!
# The layout of the arena

`ArenaLayout::compile` gives every field of a schema its place in the memory of an owner. Fields of
one owner follow each other in the order of their ids, each row begins at a cache line, and every
size is computed with a check against `std::size_t`.
-/

namespace HundunFlow

open Lib

def kDoublesPerCacheLine : ℕ := 8

def checkedAdd (left right : ℕ) : Option ℕ := if maxU64 - left < right then none else some (left + right)

def checkedMultiply (left right : ℕ) : Option ℕ :=
  if left ≠ 0 && maxU64 / left < right then none else some (left * right)

def checkedAlign (value : ℕ) : Option ℕ :=
  (checkedAdd value (kDoublesPerCacheLine - 1)).map fun candidate =>
    candidate / kDoublesPerCacheLine * kDoublesPerCacheLine

def aligned (value : ℕ) : ℕ := (value + (kDoublesPerCacheLine - 1)) / kDoublesPerCacheLine * kDoublesPerCacheLine

lemma checkedAdd_spec {left right sum : ℕ} (h : HundunFlow.checkedAdd left right = some sum) :
    sum = left + right ∧ (left ≤ maxU64 → left + right ≤ maxU64) := by
  unfold HundunFlow.checkedAdd at h
  split_ifs at h with hlarge
  exact ⟨(Option.some.inj h).symm, fun hleft => by omega⟩

lemma checkedMultiply_spec {left right product : ℕ} (h : HundunFlow.checkedMultiply left right = some product) :
    product = left * right ∧ left * right ≤ maxU64 := by
  unfold HundunFlow.checkedMultiply at h
  split_ifs at h with hlarge
  refine ⟨(Option.some.inj h).symm, ?_⟩
  by_cases hleft : left = 0
  · rw [hleft, zero_mul]
    exact Nat.zero_le _
  · simp only [ne_eq, hleft, not_false_eq_true, decide_true, Bool.true_and, decide_eq_true_eq, not_lt] at hlarge
    rw [mul_comm]
    exact (Nat.le_div_iff_mul_le (Nat.pos_of_ne_zero hleft)).mp hlarge

lemma checkedAlign_spec {value result : ℕ} (h : HundunFlow.checkedAlign value = some result) :
    result = aligned value ∧ value + (kDoublesPerCacheLine - 1) ≤ maxU64 := by
  obtain ⟨candidate, hadd, rfl⟩ := Option.map_eq_some_iff.mp h
  obtain ⟨rfl, hle⟩ := checkedAdd_spec hadd
  refine ⟨rfl, ?_⟩
  by_cases hvalue : value ≤ maxU64
  · exact hle hvalue
  · unfold HundunFlow.checkedAdd kDoublesPerCacheLine at hadd
    split_ifs at hadd with hlarge
    omega

lemma le_aligned (value : ℕ) : value ≤ aligned value := by
  unfold aligned kDoublesPerCacheLine
  omega

lemma aligned_le (value : ℕ) : aligned value ≤ value + (kDoublesPerCacheLine - 1) := by
  unfold aligned kDoublesPerCacheLine
  omega

inductive FieldLifetime where
  | stateLayer | pendingCache | persistentWorkspace | stepScratch
  deriving DecidableEq

def FieldLifetime.ofRaw (raw : UInt8) : Option FieldLifetime :=
  if raw = 0 then some .stateLayer
  else if raw = 1 then some .pendingCache
  else if raw = 2 then some .persistentWorkspace
  else if raw = 3 then some .stepScratch
  else none

def kArenaSchema : UInt32 := 1
def kArenaRequest : UInt32 := 2
def kArenaExtent : UInt32 := 3
def kArenaOverflow : UInt32 := 4
def kArenaOwner : UInt32 := 5
def kArenaView : UInt32 := 6
def kArenaRevision : UInt32 := 7

def kRoleCount : ℕ := 3

structure FieldDescriptor where
  id : UInt16 := 0
  components : UInt8 := 0
  ghostWidth : UInt8 := 0
  deriving DecidableEq

structure FieldPlacement where
  owner : UInt16 := 0
  deriving DecidableEq

/-- `lifetime` is the number of an enumerator. -/
structure ArenaFieldRequest where
  id : UInt16 := 0
  interior : Int3 := {}
  placement : FieldPlacement := {}
  lifetime : UInt8 := 0
  deriving DecidableEq

structure ArenaFieldLayout where
  id : ℕ := 0
  interior : Int3 := {}
  ghosts : Int3 := {}
  components : ℕ := 0
  strideY : ℕ := 0
  strideZ : ℕ := 0
  componentStride : ℕ := 0
  replicas : ℕ := 0
  replicaStrideDoubles : ℕ := 0
  owner : ℕ := 0
  ownerIndex : ℕ := 0
  rawOffsetDoubles : ℕ := 0
  offsetDoubles : ℕ := 0
  spanDoubles : ℕ := 0
  lifetime : FieldLifetime := .stateLayer
  deriving DecidableEq

structure ArenaOwnerLayout where
  owner : ℕ := 0
  offsetDoubles : ℕ := 0
  spanDoubles : ℕ := 0
  deriving DecidableEq

/-- A compiled layout: the field at position `i` has the id `i`, ids are 16 bits wide, and a
state field has three replicas where any other field has one. -/
structure ArenaLayout where
  fields : List ArenaFieldLayout
  owners : List ArenaOwnerLayout
  totalDoubles : ℕ
  id_eq : ∀ i (h : i < fields.length), (fields.get ⟨i, h⟩).id = i
  replicas_eq : ∀ f ∈ fields, f.replicas = if f.lifetime = .stateLayer then kRoleCount else 1
  length_le : fields.length ≤ 2 ^ 16

def checkedGhostExtent (interior : ℤ) (ghost : ℕ) : Option ℕ :=
  if interior ≤ 0 then none
  else (checkedMultiply ghost 2).bind fun twoGhosts => checkedAdd interior.toNat twoGhosts

/-- `PTRDIFF_MAX`. -/
def maxPtrdiff : ℕ := 2 ^ 63 - 1

/-- `sizeof(double)`. -/
def doubleBytes : ℕ := 8

/-- The place of a field behind `cursor`, with the cursor behind it. -/
def placeField (descriptor : FieldDescriptor) (request : ArenaFieldRequest) (lifetime : FieldLifetime)
    (ownerIndex yGhosted zGhosted cursor : ℕ) : Option (ArenaFieldLayout × ℕ) := do
  let ghost := descriptor.ghostWidth.toNat
  let leadingX ← checkedAlign ghost
  let xWithoutLeading ← checkedAdd request.interior.x.toNat ghost
  let rowWidth ← checkedAdd leadingX xWithoutLeading
  let strideY ← checkedAlign rowWidth
  let strideZ ← checkedMultiply strideY yGhosted
  let componentStride ← checkedMultiply strideZ zGhosted
  let rawComponentSpan ← checkedMultiply componentStride descriptor.components.toNat
  let replicaStride ← checkedAlign rawComponentSpan
  let replicas := if lifetime = .stateLayer then kRoleCount else 1
  let span ← checkedMultiply replicaStride replicas
  let rawStart ← checkedAlign cursor
  let ghostYOffset ← checkedMultiply ghost strideY
  let ghostZOffset ← checkedMultiply ghost strideZ
  let interiorOffset ← checkedAdd rawStart leadingX
  let interiorOffset ← checkedAdd interiorOffset ghostYOffset
  let interiorOffset ← checkedAdd interiorOffset ghostZOffset
  let fieldEnd ← checkedAdd rawStart span
  if maxPtrdiff / doubleBytes < fieldEnd then none
  else
    some ({
      id := request.id.toNat
      interior := request.interior
      ghosts := ⟨ghost, ghost, ghost⟩
      components := descriptor.components.toNat
      strideY := strideY
      strideZ := strideZ
      componentStride := componentStride
      replicas := replicas
      replicaStrideDoubles := replicaStride
      owner := request.placement.owner.toNat
      ownerIndex := ownerIndex
      rawOffsetDoubles := rawStart
      offsetDoubles := interiorOffset
      spanDoubles := span
      lifetime := lifetime }, fieldEnd)

namespace ArenaLayout

def validRequests (schema : List FieldDescriptor) : List ArenaFieldRequest → List Bool → Bool
  | [], _ => true
  | request :: rest, seen =>
    let id := request.id.toNat
    if schema.length ≤ id || (schema.getD id {}).id ≠ request.id || seen.getD id false ||
        (FieldLifetime.ofRaw request.lifetime).isNone then false
    else validRequests schema rest (seen.set id true)

def placeOwner (schema : List FieldDescriptor) (ownerIndex : ℕ) :
    List ArenaFieldRequest → ℕ → List ArenaFieldLayout → Except Status (ℕ × List ArenaFieldLayout)
  | [], cursor, fields => .ok (cursor, fields)
  | request :: rest, cursor, fields =>
    let descriptor := schema.getD request.id.toNat {}
    let ghost := descriptor.ghostWidth.toNat
    match checkedGhostExtent request.interior.x ghost, checkedGhostExtent request.interior.y ghost,
        checkedGhostExtent request.interior.z ghost, FieldLifetime.ofRaw request.lifetime with
    | some _, some yGhosted, some zGhosted, some lifetime =>
      match placeField descriptor request lifetime ownerIndex yGhosted zGhosted cursor with
      | none => .error ⟨.invalidPlan, kArenaOverflow⟩
      | some (field, cursor) => placeOwner schema ownerIndex rest cursor (fields.set request.id.toNat field)
    | _, _, _, _ => .error ⟨.invalidPlan, kArenaExtent⟩

def placeOwners (schema : List FieldDescriptor) :
    List (List ArenaFieldRequest) → List ArenaFieldLayout → List ArenaOwnerLayout → ℕ →
      Except Status (List ArenaFieldLayout × List ArenaOwnerLayout × ℕ)
  | [], fields, owners, total => .ok (fields, owners, total)
  | run :: rest, fields, owners, total =>
    match placeOwner schema owners.length run 0 fields with
    | .error status => .error status
    | .ok (cursor, fields) =>
      match checkedAlign cursor with
      | none => .error ⟨.invalidPlan, kArenaOwner⟩
      | some ownerSpan =>
        if ownerSpan = 0 then .error ⟨.invalidPlan, kArenaOwner⟩
        else
          match checkedAlign total with
          | none => .error ⟨.invalidPlan, kArenaOverflow⟩
          | some globalOffset =>
            let owner := ((run.map (·.placement.owner.toNat)).head?).getD 0
            match checkedAdd globalOffset ownerSpan with
            | none => .error ⟨.invalidPlan, kArenaOverflow⟩
            | some total => placeOwners schema rest fields (owners ++ [⟨owner, globalOffset, ownerSpan⟩]) total

def ownerKey (request : ArenaFieldRequest) : ℕ ×ₗ ℕ := toLex (request.placement.owner.toNat, request.id.toNat)

def ownerRuns (requests : List ArenaFieldRequest) : List (List ArenaFieldRequest) :=
  (sortOn ownerKey requests).splitBy fun left right => left.placement.owner = right.placement.owner

def compileParts (schema : List FieldDescriptor) (requests : Span ArenaFieldRequest) (memory : Bool) :
    Except Status (List ArenaFieldLayout × List ArenaOwnerLayout × ℕ) :=
  if schema.isEmpty || requests.isNull || requests.size ≠ schema.length then
    .error ⟨.invalidPlan, kArenaSchema⟩
  else if !memory then .error ⟨.allocationFailure, 0⟩
  else
    let byField := sortOn (fun request => request.id.toNat) requests.values
    if !validRequests schema byField (List.replicate schema.length false) then .error ⟨.invalidPlan, kArenaRequest⟩
    else
      match placeOwners schema (ownerRuns byField) (List.replicate schema.length {}) [] 0 with
      | .error status => .error status
      | .ok (fields, owners, total) =>
        match checkedMultiply total doubleBytes with
        | none => .error ⟨.invalidPlan, kArenaOverflow⟩
        | some totalBytes =>
          if maxPtrdiff < totalBytes then .error ⟨.invalidPlan, kArenaOverflow⟩ else .ok (fields, owners, total)

def EntryOf (fields : List ArenaFieldLayout) (i : ℕ) : Prop :=
  ∀ f, fields[i]? = some f → f.id = i ∧ f.replicas = if f.lifetime = .stateLayer then kRoleCount else 1

def fieldSizes (ghost nx yGhosted zGhosted components replicas cursor : ℕ) : List ℕ :=
  let leadingX := aligned ghost
  let rowWidth := leadingX + (nx + ghost)
  let strideY := aligned rowWidth
  let strideZ := strideY * yGhosted
  let componentStride := strideZ * zGhosted
  let rawComponentSpan := componentStride * components
  let replicaStride := aligned rawComponentSpan
  let span := replicaStride * replicas
  let rawStart := aligned cursor
  [ghost * 2, leadingX, nx + ghost, rowWidth, rowWidth + (kDoublesPerCacheLine - 1), strideY, yGhosted, zGhosted, strideZ,
    componentStride, rawComponentSpan, rawComponentSpan + (kDoublesPerCacheLine - 1), replicaStride, span,
    cursor + (kDoublesPerCacheLine - 1), rawStart, ghost * strideY, ghost * strideZ, rawStart + leadingX,
    rawStart + leadingX + ghost * strideY, rawStart + leadingX + ghost * strideY + ghost * strideZ, rawStart + span]

structure FieldPlaced (descriptor : FieldDescriptor) (request : ArenaFieldRequest) (ownerIndex cursor : ℕ)
    (field : ArenaFieldLayout) : Prop where
  id : field.id = request.id.toNat
  interior : field.interior = request.interior
  extents : 0 < request.interior.x ∧ 0 < request.interior.y ∧ 0 < request.interior.z
  ghosts : field.ghosts = ⟨descriptor.ghostWidth.toNat, descriptor.ghostWidth.toNat, descriptor.ghostWidth.toNat⟩
  components : field.components = descriptor.components.toNat
  lifetime : FieldLifetime.ofRaw request.lifetime = some field.lifetime
  replicas : field.replicas = if field.lifetime = .stateLayer then kRoleCount else 1
  strideY : field.strideY = aligned (aligned descriptor.ghostWidth.toNat +
    (request.interior.x.toNat + descriptor.ghostWidth.toNat))
  strideZ : field.strideZ = field.strideY * (request.interior.y.toNat + descriptor.ghostWidth.toNat * 2)
  componentStride : field.componentStride = field.strideZ * (request.interior.z.toNat + descriptor.ghostWidth.toNat * 2)
  replicaStride : field.replicaStrideDoubles = aligned (field.componentStride * field.components)
  owner : field.owner = request.placement.owner.toNat
  ownerIndex : field.ownerIndex = ownerIndex
  raw : field.rawOffsetDoubles = aligned cursor
  offset : field.offsetDoubles = field.rawOffsetDoubles + aligned descriptor.ghostWidth.toNat +
    descriptor.ghostWidth.toNat * field.strideY + descriptor.ghostWidth.toNat * field.strideZ
  span : field.spanDoubles = field.replicaStrideDoubles * field.replicas
  end_le : (field.rawOffsetDoubles + field.spanDoubles) * doubleBytes ≤ maxPtrdiff
  sizes : ∀ size ∈ fieldSizes descriptor.ghostWidth.toNat request.interior.x.toNat
    (request.interior.y.toNat + descriptor.ghostWidth.toNat * 2) (request.interior.z.toNat + descriptor.ghostWidth.toNat * 2)
    field.components field.replicas cursor, size ≤ maxU64

variable {schema : List FieldDescriptor} {parts : List ArenaFieldLayout × List ArenaOwnerLayout × ℕ}
  {requests : Span ArenaFieldRequest}

lemma checkedGhostExtent_spec {interior : ℤ} {ghost extent : ℕ} (h : checkedGhostExtent interior ghost = some extent) :
    0 < interior ∧ extent = interior.toNat + ghost * 2 := by
  unfold checkedGhostExtent at h
  split_ifs at h with hneg
  obtain ⟨twoGhosts, htwo, hadd⟩ := Option.bind_eq_some_iff.mp h
  rw [(checkedAdd_spec hadd).1, (checkedMultiply_spec htwo).1]
  exact ⟨not_le.mp hneg, rfl⟩

lemma placeField_spec {descriptor : FieldDescriptor} {request : ArenaFieldRequest} {lifetime : FieldLifetime}
    {ownerIndex yGhosted zGhosted cursor fieldEnd : ℕ} {field : ArenaFieldLayout} (hx : 0 < request.interior.x)
    (hy : checkedGhostExtent request.interior.y descriptor.ghostWidth.toNat = some yGhosted)
    (hz : checkedGhostExtent request.interior.z descriptor.ghostWidth.toNat = some zGhosted)
    (hlife : FieldLifetime.ofRaw request.lifetime = some lifetime)
    (h : placeField descriptor request lifetime ownerIndex yGhosted zGhosted cursor = some (field, fieldEnd)) :
    FieldPlaced descriptor request ownerIndex cursor field ∧ fieldEnd = field.rawOffsetDoubles + field.spanDoubles := by
  obtain ⟨hypos, rfl⟩ := checkedGhostExtent_spec hy
  obtain ⟨hzpos, rfl⟩ := checkedGhostExtent_spec hz
  have hghost := descriptor.ghostWidth.toNat_lt
  unfold placeField at h
  obtain ⟨leadingX, hleading, h⟩ := Option.bind_eq_some_iff.mp h
  obtain ⟨xWithoutLeading, hwithout, h⟩ := Option.bind_eq_some_iff.mp h
  obtain ⟨rowWidth, hrow, h⟩ := Option.bind_eq_some_iff.mp h
  obtain ⟨strideY, hstrideY, h⟩ := Option.bind_eq_some_iff.mp h
  obtain ⟨strideZ, hstrideZ, h⟩ := Option.bind_eq_some_iff.mp h
  obtain ⟨componentStride, hcomp, h⟩ := Option.bind_eq_some_iff.mp h
  obtain ⟨rawComponentSpan, hrawSpan, h⟩ := Option.bind_eq_some_iff.mp h
  obtain ⟨replicaStride, hreplica, h⟩ := Option.bind_eq_some_iff.mp h
  obtain ⟨span, hspan, h⟩ := Option.bind_eq_some_iff.mp h
  obtain ⟨rawStart, hraw, h⟩ := Option.bind_eq_some_iff.mp h
  obtain ⟨ghostY, hghostY, h⟩ := Option.bind_eq_some_iff.mp h
  obtain ⟨ghostZ, hghostZ, h⟩ := Option.bind_eq_some_iff.mp h
  obtain ⟨offsetX, hoffsetX, h⟩ := Option.bind_eq_some_iff.mp h
  obtain ⟨offsetY, hoffsetY, h⟩ := Option.bind_eq_some_iff.mp h
  obtain ⟨offsetZ, hoffsetZ, h⟩ := Option.bind_eq_some_iff.mp h
  obtain ⟨fieldEnd', hend, h⟩ := Option.bind_eq_some_iff.mp h
  have hfit : fieldEnd' ≤ maxPtrdiff / doubleBytes := by
    by_contra hlarge
    rw [if_pos (not_le.mp hlarge)] at h
    exact nomatch h
  rw [if_neg (not_lt.mpr hfit)] at h
  obtain ⟨rfl, rfl⟩ := Prod.mk.inj (Option.some.inj h)
  obtain ⟨rfl, -⟩ := checkedAlign_spec hleading
  obtain ⟨rfl, hwithoutLe⟩ := checkedAdd_spec hwithout
  obtain ⟨rfl, hrowLe⟩ := checkedAdd_spec hrow
  obtain ⟨rfl, hstrideYLe⟩ := checkedAlign_spec hstrideY
  obtain ⟨rfl, hstrideZLe⟩ := checkedMultiply_spec hstrideZ
  obtain ⟨rfl, hcomponentLe⟩ := checkedMultiply_spec hcomp
  obtain ⟨rfl, hrawSpanLe⟩ := checkedMultiply_spec hrawSpan
  obtain ⟨rfl, hreplicaLe⟩ := checkedAlign_spec hreplica
  obtain ⟨rfl, hspanLe⟩ := checkedMultiply_spec hspan
  obtain ⟨rfl, hrawLe⟩ := checkedAlign_spec hraw
  obtain ⟨rfl, hghostYLe⟩ := checkedMultiply_spec hghostY
  obtain ⟨rfl, hghostZLe⟩ := checkedMultiply_spec hghostZ
  obtain ⟨rfl, hoffsetXLe⟩ := checkedAdd_spec hoffsetX
  obtain ⟨rfl, hoffsetYLe⟩ := checkedAdd_spec hoffsetY
  obtain ⟨rfl, hoffsetZLe⟩ := checkedAdd_spec hoffsetZ
  obtain ⟨rfl, hendLe⟩ := checkedAdd_spec hend
  have hleadingLe := aligned_le descriptor.ghostWidth.toNat
  have hrowLe := hrowLe (by unfold kDoublesPerCacheLine at hleadingLe; unfold maxU64; omega)
  refine ⟨⟨rfl, rfl, ⟨hx, hypos, hzpos⟩, rfl, rfl, hlife, rfl, rfl, rfl, rfl, rfl, rfl, rfl, rfl, rfl, rfl, ?_, ?_⟩, rfl⟩
  · exact (Nat.le_div_iff_mul_le (by decide)).mp hfit
  · have hpos : 1 ≤ aligned (aligned descriptor.ghostWidth.toNat +
        (request.interior.x.toNat + descriptor.ghostWidth.toNat)) := by
      have hle := le_aligned (aligned descriptor.ghostWidth.toNat +
        (request.interior.x.toNat + descriptor.ghostWidth.toNat))
      omega
    have hplane : 1 ≤ aligned (aligned descriptor.ghostWidth.toNat +
        (request.interior.x.toNat + descriptor.ghostWidth.toNat)) *
          (request.interior.y.toNat + descriptor.ghostWidth.toNat * 2) := Nat.mul_pos hpos (by omega)
    have hrawStart := (aligned_le cursor).trans hrawLe
    have hoffsetXLe := hoffsetXLe hrawStart
    have hoffsetYLe := hoffsetYLe hoffsetXLe
    have hsmall : kDoublesPerCacheLine - 1 = 7 := rfl
    have hmax : maxU64 = 2 ^ 64 - 1 := rfl
    simp only [fieldSizes, List.forall_mem_cons, List.not_mem_nil, false_implies, implies_true, and_true]
    exact ⟨by omega, by omega, (Nat.le_add_left _ _).trans hrowLe, hrowLe, hstrideYLe, (aligned_le _).trans hstrideYLe,
      (Nat.le_mul_of_pos_left _ hpos).trans hstrideZLe, (Nat.le_mul_of_pos_left _ hplane).trans hcomponentLe, hstrideZLe,
      hcomponentLe, hrawSpanLe, hreplicaLe, (aligned_le _).trans hreplicaLe, hspanLe, hrawLe, hrawStart, hghostYLe,
      hghostZLe, hoffsetXLe, hoffsetYLe, hoffsetZLe hoffsetYLe, hendLe hrawStart⟩

lemma placeOwner_entries {ownerIndex : ℕ} {run : List ArenaFieldRequest} {cursor cursor' : ℕ}
    {fields fields' : List ArenaFieldLayout}
    (h : placeOwner schema ownerIndex run cursor fields = .ok (cursor', fields')) : fields'.length = fields.length ∧
      ∀ i, EntryOf fields i ∨ i ∈ run.map (·.id.toNat) → EntryOf fields' i := by
  induction run generalizing cursor fields with
  | nil =>
    obtain ⟨-, rfl⟩ := Prod.mk.inj (Except.ok.inj h)
    exact ⟨rfl, fun i hi => hi.resolve_right List.not_mem_nil⟩
  | cons request rest ih =>
    unfold placeOwner at h
    simp only at h
    split at h
    · rename_i xGhosted yGhosted zGhosted lifetime hx hy hz hlife
      split at h
      · exact nomatch h
      · rename_i hplace
        obtain ⟨hlength, hentries⟩ := ih h
        rw [List.length_set] at hlength
        refine ⟨hlength, fun i hi => hentries i ?_⟩
        by_cases hrest : i ∈ rest.map (·.id.toNat)
        · exact .inr hrest
        left
        intro f hf
        rw [List.getElem?_set] at hf
        split_ifs at hf with hid hlt
        · obtain rfl := Option.some.inj hf
          have hentry := (placeField_spec (checkedGhostExtent_spec hx).1 hy hz hlife hplace).1
          exact ⟨hentry.id.trans hid, hentry.replicas⟩
        · rw [List.map_cons, List.mem_cons] at hi
          exact (hi.resolve_right fun hmem => hmem.elim (fun heq => hid heq.symm) hrest) f hf
    · exact nomatch h

lemma placeOwners_entries {runs : List (List ArenaFieldRequest)} {total total' : ℕ}
    {fields fields' : List ArenaFieldLayout} {owners owners' : List ArenaOwnerLayout}
    (h : placeOwners schema runs fields owners total = .ok (fields', owners', total')) :
    fields'.length = fields.length ∧
      ∀ i, EntryOf fields i ∨ i ∈ runs.flatten.map (·.id.toNat) → EntryOf fields' i := by
  induction runs generalizing fields owners total with
  | nil =>
    obtain ⟨rfl, -⟩ := Prod.mk.inj (Except.ok.inj h)
    exact ⟨rfl, fun i hi => hi.resolve_right List.not_mem_nil⟩
  | cons run rest ih =>
    unfold placeOwners at h
    split at h
    · exact nomatch h
    · rename_i hrun
      obtain ⟨hlength, hentries⟩ := placeOwner_entries hrun
      simp only at h
      split at h
      · exact nomatch h
      · split_ifs at h
        split at h
        · exact nomatch h
        · split at h
          · exact nomatch h
          · obtain ⟨hlength', hentries'⟩ := ih h
            refine ⟨hlength'.trans hlength, fun i hi => hentries' i ?_⟩
            rw [List.flatten_cons, List.map_append, List.mem_append] at hi
            rcases hi with hbefore | hhere | hlater
            · exact .inl (hentries i (.inl hbefore))
            · exact .inl (hentries i (.inr hhere))
            · exact .inr hlater

lemma validRequests_spec {requests : List ArenaFieldRequest} {seen : List Bool}
    (hseen : seen.length = schema.length) (h : validRequests schema requests seen = true) :
    (requests.map (·.id.toNat)).Nodup ∧ ∀ request ∈ requests, request.id.toNat < schema.length ∧
      seen.getD request.id.toNat false = false ∧ (FieldLifetime.ofRaw request.lifetime).isSome := by
  induction requests generalizing seen with
  | nil => exact ⟨List.nodup_nil, fun request hmem => absurd hmem List.not_mem_nil⟩
  | cons request rest ih =>
    unfold validRequests at h
    simp only at h
    split_ifs at h with hbad
    simp only [Bool.or_eq_true, decide_eq_true_eq, not_or, not_le, Bool.not_eq_true] at hbad
    obtain ⟨⟨⟨hlt, -⟩, hunseen⟩, hlife⟩ := hbad
    obtain ⟨hnodup, hrest⟩ := ih (by rw [List.length_set, hseen]) h
    have hother : ∀ other ∈ rest, other.id.toNat ≠ request.id.toNat ∧ seen.getD other.id.toNat false = false := by
      intro other hmem
      have hset := (hrest other hmem).2.1
      rw [List.getD_eq_getElem?_getD, List.getElem?_set] at hset
      split_ifs at hset with hid
      · exact nomatch hset
      · rename_i hout
        exact absurd (hseen ▸ hlt) (hid ▸ hout)
      · exact ⟨fun heq => hid heq.symm, by rwa [List.getD_eq_getElem?_getD]⟩
    refine ⟨?_, ?_⟩
    · rw [List.map_cons, List.nodup_cons]
      refine ⟨fun hmem => ?_, hnodup⟩
      obtain ⟨other, hother', heq⟩ := List.mem_map.mp hmem
      exact (hother other hother').1 heq
    · intro other hmem
      rcases List.mem_cons.mp hmem with rfl | hmem
      · exact ⟨hlt, hunseen, by rw [← Option.not_isNone, hlife]; rfl⟩
      · exact ⟨(hrest other hmem).1, (hother other hmem).2, (hrest other hmem).2.2⟩

lemma ownerRuns_perm (requests : List ArenaFieldRequest) : (ownerRuns requests).flatten.Perm requests := by
  rw [ownerRuns, List.flatten_splitBy]
  exact sortOn_perm _ _

/-- What `compile` has checked and computed. -/
structure Compiled (schema : List FieldDescriptor) (requests : Span ArenaFieldRequest)
    (parts : List ArenaFieldLayout × List ArenaOwnerLayout × ℕ) : Prop where
  size : requests.values.length = schema.length
  nodup : (requests.values.map (·.id.toNat)).Nodup
  known : ∀ request ∈ requests.values, request.id.toNat < schema.length ∧ (FieldLifetime.ofRaw request.lifetime).isSome
  placed : placeOwners schema (ownerRuns (sortOn (fun request => request.id.toNat) requests.values))
    (List.replicate schema.length {}) [] 0 = .ok parts
  total : parts.2.2 * doubleBytes ≤ maxPtrdiff

lemma compileParts_ok {memory : Bool} (h : compileParts schema requests memory = .ok parts) :
    Compiled schema requests parts := by
  unfold compileParts at h
  split at h
  · exact nomatch h
  rename_i hschema
  split at h
  · exact nomatch h
  dsimp only at h
  split at h
  · exact nomatch h
  rename_i hvalid
  simp only [Bool.or_eq_true, decide_eq_true_eq, not_or, Bool.not_eq_true, not_not] at hschema
  rw [Bool.not_eq_true', Bool.not_eq_false] at hvalid
  have hperm := sortOn_perm (fun request : ArenaFieldRequest => request.id.toNat) requests.values
  obtain ⟨hnodup, hknown⟩ := validRequests_spec List.length_replicate hvalid
  split at h
  · exact nomatch h
  · rename_i fields owners total hplaced
    split at h
    · exact nomatch h
    · rename_i totalBytes hbytes
      split_ifs at h with hlarge
      obtain rfl := Except.ok.inj h
      refine ⟨?_, (hperm.map _).nodup_iff.mp hnodup, fun request hmem => ?_, hplaced, ?_⟩
      · rw [← hschema.2, ← Span.size_eq_length fun hnull => absurd hnull (by rw [hschema.1.2]; simp)]
      · have hrequest := hknown request (hperm.mem_iff.mpr hmem)
        exact ⟨hrequest.1, hrequest.2.2⟩
      · unfold checkedMultiply at hbytes
        split_ifs at hbytes
        rw [Option.some.inj hbytes]
        exact not_lt.mp hlarge

lemma Compiled.ids_perm (h : Compiled schema requests parts) :
    (requests.values.map (·.id.toNat)).Perm (List.range schema.length) := by
  have hsub : (requests.values.map (·.id.toNat)).Subperm (List.range schema.length) := by
    apply h.nodup.subperm
    intro id hid
    obtain ⟨request, hmem, rfl⟩ := List.mem_map.mp hid
    exact List.mem_range.mpr (h.known request hmem).1
  apply hsub.perm_of_length_le
  rw [List.length_range, List.length_map, h.size]

lemma Compiled.entries (h : Compiled schema requests parts) :
    parts.1.length = schema.length ∧ ∀ i < schema.length, EntryOf parts.1 i := by
  obtain ⟨hlength, hentries⟩ := placeOwners_entries h.placed
  rw [List.length_replicate] at hlength
  refine ⟨hlength, fun i hi => hentries i (.inr ?_)⟩
  have hperm := ((ownerRuns_perm _).trans (sortOn_perm (fun request => request.id.toNat) requests.values)).map
    fun request : ArenaFieldRequest => request.id.toNat
  rw [(hperm.trans h.ids_perm).mem_iff]
  exact List.mem_range.mpr hi

lemma Compiled.length_le (h : Compiled schema requests parts) : parts.1.length ≤ 2 ^ 16 := by
  rw [h.entries.1]
  by_contra hlarge
  have hmem : 2 ^ 16 ∈ requests.values.map (·.id.toNat) := h.ids_perm.mem_iff.mpr (List.mem_range.mpr (not_le.mp hlarge))
  obtain ⟨request, -, hid⟩ := List.mem_map.mp hmem
  exact absurd request.id.toNat_lt (by rw [hid]; exact lt_irrefl _)

def compile (schema : List FieldDescriptor) (requests : Span ArenaFieldRequest) (memory : Bool) : Except Status ArenaLayout :=
  match h : compileParts schema requests memory with
  | .error status => .error status
  | .ok parts => .ok {
      fields := parts.1
      owners := parts.2.1
      totalDoubles := parts.2.2
      id_eq := fun i hi => by
        have hcompiled := compileParts_ok h
        exact (hcompiled.entries.2 i (hcompiled.entries.1 ▸ hi) _ (List.getElem?_eq_getElem hi)).1
      replicas_eq := fun f hf => by
        have hcompiled := compileParts_ok h
        obtain ⟨i, hi, rfl⟩ := List.mem_iff_getElem.mp hf
        exact (hcompiled.entries.2 i (hcompiled.entries.1 ▸ hi) _ (List.getElem?_eq_getElem hi)).2
      length_le := (compileParts_ok h).length_le }

end ArenaLayout

end HundunFlow
