import HundunFlow.ArenaLayout

/-!
# The three layers of the state

`StateLayers` holds three replicas of every state field and one of every runtime field.
Three roles (accepted n, accepted n-1, trial) name the replicas, and every replica of a
field carries a revision token. Tokens are `uint64` counters with an explicit guard
against the last value; they are naturals here.
-/

namespace HundunFlow

inductive StateRole where
  | acceptedN | acceptedNMinusOne | trial
  deriving DecidableEq

/-- A place in the memory that a storage has allocated for an owner, counted in doubles. -/
structure ArenaAddress where
  storage : ℕ
  owner : ℕ
  offset : ℤ
  deriving DecidableEq

namespace ArenaFieldLayout

def replicaOffset (layout : ArenaFieldLayout) (replica : ℕ) : ℕ :=
  layout.offsetDoubles + replica * layout.replicaStrideDoubles

def cellOffset (layout : ArenaFieldLayout) (component : ℕ) (index : Int3) : ℤ :=
  index.x + index.y * layout.strideY + index.z * layout.strideZ + component * layout.componentStride

end ArenaFieldLayout

/-- `data` is null before the allocation. -/
structure OwnerAllocation where
  owner : ℕ := 0
  data : Option ArenaAddress := none
  doubles : ℕ := 0
  deriving DecidableEq

structure FieldStorage where
  identity : ℕ := 0
  fields : List ArenaFieldLayout := []
  owners : List OwnerAllocation := []
  deriving DecidableEq

structure FieldView where
  base : Option ArenaAddress := none
  interior : Int3 := {}
  ghosts : Int3 := {}
  components : ℕ := 0
  strideY : ℕ := 0
  strideZ : ℕ := 0
  componentStride : ℕ := 0
  replica : ℕ := 0
  field : ℕ := 0
  revision : ℕ := 0
  storageIdentity : ℕ := 0
  revisionDomain : ℕ := 0
  deriving DecidableEq

def makeView (ownerBase : Option ArenaAddress) (layout : ArenaFieldLayout)
    (replica revision storageIdentity revisionDomain : ℕ) : Except Status FieldView :=
  match ownerBase with
  | none => .error ⟨.invalidPlan, kArenaView⟩
  | some ownerBase =>
    if layout.replicas ≤ replica || revision = 0 || storageIdentity = 0 || revisionDomain = 0 then
      .error ⟨.invalidPlan, kArenaView⟩
    else
      match checkedMultiply replica layout.replicaStrideDoubles with
      | none => .error ⟨.invalidPlan, kArenaOverflow⟩
      | some replicaOffset => .ok {
          base := some { ownerBase with offset := ownerBase.offset + layout.offsetDoubles + replicaOffset }
          interior := layout.interior
          ghosts := layout.ghosts
          components := layout.components
          strideY := layout.strideY
          strideZ := layout.strideZ
          componentStride := layout.componentStride
          replica := replica
          field := layout.id
          revision := revision
          storageIdentity := storageIdentity
          revisionDomain := revisionDomain }

namespace FieldStorage

/-- The memory of the owners, the first of which is `index`. -/
def allocateOwners (identity : ℕ) : ℕ → List ArenaOwnerLayout → Option (List OwnerAllocation)
  | _, [] => some []
  | index, owner :: rest =>
    match checkedMultiply owner.spanDoubles doubleBytes with
    | none => none
    | some bytes =>
      if bytes = 0 then none
      else (allocateOwners identity (index + 1) rest).map (⟨owner.owner, some ⟨identity, index, 0⟩, owner.spanDoubles⟩ :: ·)

/-- `identity` is the answer of `issue_identity`, `memory` whether the allocator succeeds. -/
def allocate (layout : ArenaLayout) (identity : ℕ) (memory : Bool) : Except Status FieldStorage :=
  if layout.fields.length = 0 || layout.owners.length = 0 then .error ⟨.invalidPlan, kArenaSchema⟩
  else if identity = 0 then .error ⟨.invalidPlan, kArenaRevision⟩
  else if !memory then .error ⟨.allocationFailure, 0⟩
  else
    match allocateOwners identity 0 layout.owners with
    | none => .error ⟨.invalidPlan, kArenaOverflow⟩
    | some owners => .ok ⟨identity, layout.fields, owners⟩

def ownerOf (storage : FieldStorage) (field : ℕ) : Option (ArenaFieldLayout × OwnerAllocation) :=
  match storage.fields[field]? with
  | none => none
  | some layout =>
    match storage.owners[layout.ownerIndex]? with
    | none => none
    | some owner => if owner.owner = layout.owner then some (layout, owner) else none

def view (storage : FieldStorage) (field replica revision revisionDomain : ℕ) : Except Status FieldView :=
  match storage.ownerOf field with
  | none => .error ⟨.invalidPlan, kArenaView⟩
  | some (layout, owner) => makeView owner.data layout replica revision storage.identity revisionDomain

/-- `none` is the null pointer. -/
def checkedPtrImpl (storage : FieldStorage) (view : FieldView) (index : Int3)
    (component expectedRevision expectedDomain : ℕ) : Option ArenaAddress :=
  match storage.ownerOf view.field with
  | none => none
  | some (layout, owner) =>
    match owner.data with
    | none => none
    | some data =>
      if layout.replicas ≤ view.replica || expectedRevision = 0 || expectedDomain = 0 ||
          view.revision ≠ expectedRevision || view.storageIdentity ≠ storage.identity ||
          view.revisionDomain ≠ expectedDomain || view.interior ≠ layout.interior || view.ghosts ≠ layout.ghosts ||
          view.components ≠ layout.components || view.strideY ≠ layout.strideY || view.strideZ ≠ layout.strideZ ||
          view.componentStride ≠ layout.componentStride then none
      else
        match checkedMultiply view.replica layout.replicaStrideDoubles with
        | none => none
        | some replicaOffset =>
          let expectedBase : ArenaAddress := { data with offset := data.offset + layout.offsetDoubles + replicaOffset }
          if view.base ≠ some expectedBase || layout.components ≤ component ||
              index.x < -layout.ghosts.x || index.y < -layout.ghosts.y || index.z < -layout.ghosts.z ||
              layout.interior.x + layout.ghosts.x ≤ index.x || layout.interior.y + layout.ghosts.y ≤ index.y ||
              layout.interior.z + layout.ghosts.z ≤ index.z then none
          else some { expectedBase with offset := expectedBase.offset + layout.cellOffset component index }

end FieldStorage

structure StateLayers where
  storage : FieldStorage := {}
  revisions : List ℕ := []
  stateRevisions : List ℕ := [0, 0, 0]
  stateFields : List Bool := []
  fieldCount : ℕ := 0
  roleHandles : StateRole → ℕ := fun
    | .acceptedN => 0
    | .acceptedNMinusOne => 1
    | .trial => 2
  nextRevision : ℕ := 1

namespace StateLayers

def storageIdentity (layers : StateLayers) : ℕ := layers.storage.identity

def handle (layers : StateLayers) (role : StateRole) : ℕ := layers.roleHandles role

def isStateField (layers : StateLayers) (field : ℕ) : Bool := layers.stateFields.getD field false

def token (layers : StateLayers) (replica field : ℕ) : ℕ :=
  layers.revisions.getD (replica * layers.fieldCount + field) 0

def revision (layers : StateLayers) (role : StateRole) (field : ℕ) : ℕ :=
  if layers.fieldCount ≤ field || !layers.isStateField field || kRoleCount ≤ layers.handle role then 0
  else layers.token (layers.handle role) field

def stateRevision (layers : StateLayers) (role : StateRole) : ℕ :=
  layers.stateRevisions.getD (layers.handle role) 0

/-- `revisions_[replica * field_count_ + id] = next_revision_++`. -/
def stampNext (layers : StateLayers) (replica field : ℕ) : StateLayers :=
  { layers with
    revisions := layers.revisions.set (replica * layers.fieldCount + field) layers.nextRevision
    nextRevision := layers.nextRevision + 1 }

def issueRevision (layers : StateLayers) (replica field : ℕ) : StateLayers × Status :=
  if kRoleCount ≤ replica || layers.fieldCount ≤ field || !layers.isStateField field ||
      layers.nextRevision = 0 || layers.nextRevision = maxU64 then
    (layers, ⟨.invalidPlan, kArenaRevision⟩)
  else
    ({ layers.stampNext replica field with
        stateRevisions := layers.stateRevisions.set replica layers.nextRevision }, {})

def runtimeField (layers : StateLayers) (lifetime : FieldLifetime) (field : ℕ) : Bool :=
  match layers.storage.fields[field]? with
  | none => false
  | some layout => lifetime ≠ .stateLayer && layout.lifetime = lifetime && layout.replicas = 1 &&
      field < layers.fieldCount && field < layers.revisions.length

def runtimeRevision (layers : StateLayers) (lifetime : FieldLifetime) (field : ℕ) : ℕ :=
  if layers.runtimeField lifetime field then layers.revisions.getD field 0 else 0

def reviseRuntime (layers : StateLayers) (lifetime : FieldLifetime) (field : ℕ) :
    StateLayers × Status :=
  if !layers.runtimeField lifetime field || layers.stateFields.length ≤ field ||
      layers.isStateField field || layers.nextRevision = 0 || layers.nextRevision = maxU64 then
    (layers, ⟨.invalidPlan, kArenaRevision⟩)
  else
    ({ layers with
        revisions := layers.revisions.set field layers.nextRevision
        nextRevision := layers.nextRevision + 1 }, {})

def view (layers : StateLayers) (role : StateRole) (field : ℕ) : Except Status FieldView :=
  let token := layers.revision role field
  if token = 0 then .error ⟨.invalidPlan, kArenaView⟩
  else layers.storage.view field (layers.handle role) token layers.storage.identity

def checkedPtr (layers : StateLayers) (role : StateRole) (view : FieldView) (index : Int3) (component : ℕ) :
    Option ArenaAddress :=
  layers.storage.checkedPtrImpl view index component (layers.revision role view.field) layers.storage.identity

/-- The old n becomes n-1, the trial becomes n, and the old n-1 is the next trial. -/
def rotateCommit (layers : StateLayers) : StateLayers :=
  { layers with
    roleHandles := fun
      | .acceptedNMinusOne => layers.roleHandles .acceptedN
      | .acceptedN => layers.roleHandles .trial
      | .trial => layers.roleHandles .acceptedNMinusOne }

def stampReplicas (layers : StateLayers) (field : ℕ) : List ℕ → StateLayers
  | [] => layers
  | replica :: rest =>
    stampReplicas
      { layers.stampNext replica field with
        stateRevisions := layers.stateRevisions.set replica layers.nextRevision } field rest

/-- The loop of `allocate` over the fields of the layout. -/
def allocateFields (candidate : StateLayers) : List ArenaFieldLayout → Except Status StateLayers
  | [] => .ok candidate
  | field :: rest =>
    if field.lifetime = .stateLayer then
      if field.replicas ≠ kRoleCount then .error ⟨.invalidPlan, kArenaSchema⟩
      else
        allocateFields
          ({ candidate with stateFields := candidate.stateFields.set field.id true }.stampReplicas
            field.id [0, 1, 2]) rest
    else
      if field.replicas ≠ 1 || candidate.nextRevision = maxU64 then
        .error ⟨.invalidPlan, kArenaSchema⟩
      else allocateFields (candidate.stampNext 0 field.id) rest

def allocate (layout : ArenaLayout) (identity : ℕ) (memory : Bool) : Except Status StateLayers :=
  match FieldStorage.allocate layout identity memory with
  | .error status => .error status
  | .ok storage =>
    let count := layout.fields.length
    match allocateFields
        { storage
          revisions := List.replicate (count * kRoleCount) 0
          stateFields := List.replicate count false
          fieldCount := count } layout.fields with
    | .error status => .error status
    | .ok candidate =>
      -- `state_field_count == 0`
      if candidate.stateFields.all (!·) then .error ⟨.invalidPlan, kArenaSchema⟩ else .ok candidate

end StateLayers

end HundunFlow
