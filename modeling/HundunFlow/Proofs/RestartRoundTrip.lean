import HundunFlow.Proofs.RestartDecoding
import HundunFlow.RestartSnapshot

/-!
# The manifest comes back

Every reader yields the value of which the encoder made the bytes, when the value passes the checks
of the reader.
-/

namespace HundunFlow.Proofs

open Lib Lib.Decoder Restart List

variable {rest : List UInt8}

variable {version : UInt32} {m : Manifest}

lemma integer_yields {count v : ℕ} (hv : v < 256 ^ count) : Yields (Reader.integer count) (leBytes count v) rest v := by
  have hbytes := (bytes_yields (κ := RestartArray) (length_leBytes count v) () rest).map leValue
  rwa [leValue_leBytes, Nat.mod_eq_of_lt hv] at hbytes

lemma u8_yields (v : UInt8) : Yields Reader.u8 (Encoder.u8 v) rest v := by
  have hvalue : Yields (Reader.integer 1) (leBytes 1 v.toNat) rest v.toNat := integer_yields (by simpa using v.toNat_lt)
  have hread := hvalue.map UInt8.ofNat
  rwa [UInt8.ofNat_toNat] at hread

lemma u16_yields (v : UInt16) : Yields Reader.u16 (Encoder.u16 v) rest v := by
  have hvalue : Yields (Reader.integer 2) (leBytes 2 v.toNat) rest v.toNat := integer_yields (by simpa using v.toNat_lt)
  have hread := hvalue.map UInt16.ofNat
  rwa [UInt16.ofNat_toNat] at hread

lemma u32_yields (v : UInt32) : Yields Reader.u32 (Encoder.u32 v) rest v := by
  have hvalue : Yields (Reader.integer 4) (leBytes 4 v.toNat) rest v.toNat := integer_yields (by simpa using v.toNat_lt)
  have hread := hvalue.map UInt32.ofNat
  rwa [UInt32.ofNat_toNat] at hread

lemma u64_yields (v : UInt64) : Yields Reader.u64 (Encoder.u64 v) rest v := by
  have hvalue : Yields (Reader.integer 8) (leBytes 8 v.toNat) rest v.toNat := integer_yields (by simpa using v.toNat_lt)
  have hread := hvalue.map UInt64.ofNat
  rwa [UInt64.ofNat_toNat] at hread

lemma i32_yields {v : ℤ} (hv : IsI32 v) : Yields Reader.i32 (Encoder.i32 v) rest v := by
  obtain ⟨hmin, hmax⟩ := hv
  rw [show maxI32 = 2 ^ 31 - 1 from rfl] at hmin hmax
  have hlt : (v % 2 ^ 32).toNat < 256 ^ 4 := by norm_num; omega
  have hbits : Yields (Reader.integer 4) (leBytes 4 (v % 2 ^ 32).toNat) rest (v % 2 ^ 32).toNat := integer_yields hlt
  have hread := hbits.map fun bits : ℕ =>
    if bits < 2 ^ 31 then (bits : ℤ) else (bits : ℤ) - 2 ^ 32
  have hvalue : (if (v % 2 ^ 32).toNat < 2 ^ 31 then ((v % 2 ^ 32).toNat : ℤ)
      else ((v % 2 ^ 32).toNat : ℤ) - 2 ^ 32) = v := by
    split_ifs <;> omega
  rwa [hvalue] at hread

lemma real_yields (v : Binary64) : Yields Reader.real (Encoder.real v) rest v :=
  (u64_yields v.bits).map Binary64.mk

/-- The ranges of the coordinates of an `Int3`. -/
def Int3Fits (v : Int3) : Prop := IsI32 v.x ∧ IsI32 v.y ∧ IsI32 v.z

lemma int3_yields {v : Int3} (hv : Int3Fits v) : Yields Reader.int3 (Encoder.int3 v) rest v := by
  obtain ⟨hx, hy, hz⟩ := hv
  rw [Encoder.int3, append_assoc]
  exact (i32_yields hx).bind ((i32_yields hy).bind ((i32_yields hz).map (Int3.mk v.x v.y)))

lemma toRaw_ofRaw (role : RestartFieldRole) : RestartFieldRole.ofRaw role.toRaw = some role := by
  cases role <;> rfl

def EntryFits (rates : Bool) (field : FieldMeta) : Prop :=
  (field.role.isRate = rates && if rates then field.components = 1 else field.components ≠ 0) = true

lemma fieldMeta_yields {rates : Bool} {field : FieldMeta} (h : EntryFits rates field) :
    Yields (Reader.fieldMeta rates) (Encoder.fieldMeta field) rest field := by
  rw [Encoder.fieldMeta, append_assoc]
  refine (u8_yields _).bind ((u16_yields _).bind ?_)
  rw [← append_nil (Encoder.u8 field.components)]
  refine (u8_yields _).bind ?_
  rw [toRaw_ofRaw]
  exact Yields.require h (Yields.pure _ _)

/-- What `parse_manifest` checks of a record. -/
structure RecordFits (globalCells : Int3) (record : RankRecord) : Prop where
  begin : Int3Fits record.begin
  cells : Int3Fits record.cells
  bytes : 16 ≤ record.bytes
  hash : record.hash ≠ 0
  patch : validGlobalPatch globalCells ⟨record.begin, record.cells, {}, {}⟩ = true

lemma rankRecord_yields {globalCells : Int3} {record : RankRecord} (h : RecordFits globalCells record) :
    Yields (Reader.rankRecord globalCells) (Encoder.rankRecord record) rest record := by
  rw [Encoder.rankRecord, append_assoc, append_assoc]
  refine (int3_yields h.begin).bind ((int3_yields h.cells).bind ((u64_yields _).bind ?_))
  rw [← append_nil (Encoder.u64 record.hash)]
  refine (u64_yields _).bind (Yields.require ?_ (Yields.pure _ _))
  simp [h.bytes, h.hash, h.patch]

/-- What `decode_common` checks of a header. -/
structure HeaderFits (version : UInt32) (m : Manifest) : Prop where
  globalCells : Int3Fits m.globalCells
  count : 3 ≤ m.fields.length ∧ m.fields.length ≤ 64
  identity : m.plan ≠ 0 ∧ m.schema ≠ 0 ∧ m.geometry ≠ 0 ∧ m.step ≠ 0
  time : m.time.isFinite = true ∧ m.dt.isFinite = true ∧ m.dt.positive = true ∧ m.pressureReference.isFinite = true
  fields : ∀ field ∈ m.fields, EntryFits false field
  known : hasTemporalHistory version = false → version = kLegacyFormatVersion ∨ version = kCurrentCellRecordFormatVersion
  rateCount : hasTemporalHistory version = true → m.rateFields.length ≠ 0 ∧ m.rateFields.length ≤ 64
  history : hasTemporalHistory version = true → (m.controllerState ≠ 0 && m.previousPressureReference.isFinite &&
    m.closedMassTarget.isFinite && m.closedMassTarget.positive && m.previousMassFluxRevision ≠ 0 &&
    m.previousMassFluxRevision < m.finalMassFluxRevision && m.finalMassFluxRevision.toNat ≠ maxU64) = true
  rateFields : hasTemporalHistory version = true → ∀ field ∈ m.rateFields, EntryFits true field
  signature : hasMethodSignature version = true → m.methodHistorySignature ≠ 0
  records : kCellRecordFormatVersion ≤ version → m.cellRecordIdentity ≠ 0 ∧
    (version = kVariableCellRecordFormatVersion ↔ m.cellRecordBytes = 0)

/-- What `decodeHistory` makes of a manifest when the bytes are those of `m`. -/
def decodedHistory (version : UInt32) (m manifest : Manifest) : Manifest :=
  if hasTemporalHistory version then
    withHistory manifest m.previousPressureReference m.closedMassTarget m.finalMassFluxRevision
      m.previousMassFluxRevision m.rateFields
  else manifest

lemma u32_ofNat_toNat {n : ℕ} (h : n ≤ 64) : (UInt32.ofNat n).toNat = n := by
  rw [UInt32.toNat_ofNat', Nat.mod_eq_of_lt (by omega)]

lemma decodeHistory_yields (h : HeaderFits version m) {manifest : Manifest}
    (hcontr : manifest.controllerState = m.controllerState) :
    Yields (decodeHistory version manifest) (if hasTemporalHistory version then encodeHistory m else []) rest
      (decodedHistory version m manifest) := by
  unfold decodeHistory decodedHistory
  cases hhistory : hasTemporalHistory version with
  | false =>
    have hversion := h.known hhistory
    refine Yields.require ?_ (Yields.pure _ _)
    simpa using hversion
  | true =>
    obtain ⟨hne, hle⟩ := h.rateCount hhistory
    have hchecks := h.history hhistory
    have hcount := u32_ofNat_toNat hle
    rw [if_pos rfl, if_pos rfl, if_pos rfl, encodeHistory]
    simp only [append_assoc]
    refine (real_yields _).bind ((real_yields _).bind ((u64_yields _).bind ((u64_yields _).bind
      ((u32_yields _).bind (Yields.require ?_ (Yields.allocate ?_))))))
    · have hpos : UInt32.ofNat m.rateFields.length ≠ 0 := by
        intro hzero
        rw [hzero] at hcount
        exact hne hcount.symm
      have hbound : UInt32.ofNat m.rateFields.length ≤ 64 := by
        rw [UInt32.le_iff_toNat_le, hcount]
        exact hle
      simp only [Bool.and_eq_true, decide_eq_true_eq, hcontr] at hchecks ⊢
      exact ⟨⟨⟨⟨⟨⟨⟨⟨hpos, hbound⟩, hchecks.1.1.1.1.1.1⟩, hchecks.1.1.1.1.1.2⟩, hchecks.1.1.1.1.2⟩, hchecks.1.1.1.2⟩,
        hchecks.1.1.2⟩, hchecks.1.2⟩, hchecks.2⟩
    · rw [hcount]
      exact (times_yields (fun field hfield _ => fieldMeta_yields (h.rateFields hhistory field hfield)) rest).map _

def decodedSignature (version : UInt32) (m manifest : Manifest) : Manifest :=
  if hasMethodSignature version then { manifest with methodHistorySignature := m.methodHistorySignature } else manifest

lemma decodeSignature_yields (h : HeaderFits version m) (manifest : Manifest) :
    Yields (decodeSignature version manifest)
      (if hasMethodSignature version then Encoder.u64 m.methodHistorySignature else []) rest
      (decodedSignature version m manifest) := by
  unfold decodeSignature decodedSignature
  cases hsignature : hasMethodSignature version with
  | false => exact Yields.pure _ _
  | true =>
    rw [if_pos rfl, if_pos rfl, if_pos rfl, ← append_nil (Encoder.u64 _)]
    exact (u64_yields _).bind (Yields.require (by simpa using h.signature hsignature) (Yields.pure _ _))

def decodedCellRecord (version : UInt32) (m manifest : Manifest) : Manifest :=
  if kCellRecordFormatVersion ≤ version then
    { manifest with cellRecordIdentity := m.cellRecordIdentity, cellRecordBytes := m.cellRecordBytes }
  else manifest

lemma decodeCellRecord_yields (h : HeaderFits version m) (manifest : Manifest) :
    Yields (decodeCellRecord version manifest)
      (if kCellRecordFormatVersion ≤ version then Encoder.u64 m.cellRecordIdentity ++ Encoder.u32 m.cellRecordBytes
        else []) rest
      (decodedCellRecord version m manifest) := by
  unfold decodeCellRecord decodedCellRecord
  by_cases hrecords : kCellRecordFormatVersion ≤ version
  · obtain ⟨hidentity, hbytes⟩ := h.records hrecords
    rw [if_pos hrecords, if_pos hrecords, if_pos hrecords, ← append_nil (Encoder.u32 _)]
    refine (u64_yields _).bind ((u32_yields _).bind (Yields.require ?_ (Yields.pure _ _)))
    by_cases hvariable : version = kVariableCellRecordFormatVersion
    · simp [hidentity, hvariable, hbytes.mp hvariable]
    · have hne : m.cellRecordBytes ≠ 0 := fun hzero => hvariable (hbytes.mpr hzero)
      simp [hidentity, hvariable, hne]
  · rw [if_neg hrecords, if_neg hrecords, if_neg hrecords]
    exact Yields.pure _ _

/-- What `decodeCommon` makes of a manifest when the bytes are those of `m`. -/
def decodedCommon (version : UInt32) (m manifest : Manifest) : Manifest :=
  decodedCellRecord version m (decodedSignature version m (decodedHistory version m { manifest with
    formatVersion := version
    globalCells := m.globalCells
    plan := m.plan
    schema := m.schema
    geometry := m.geometry
    time := m.time
    dt := m.dt
    pressureReference := m.pressureReference
    step := m.step
    controllerState := m.controllerState
    fields := m.fields }))

lemma decodeCommon_yields (h : HeaderFits version m) (manifest : Manifest) :
    Yields (decodeCommon version manifest) (encodeCommon m version) rest (decodedCommon version m manifest) := by
  have hcount := u32_ofNat_toNat h.count.2
  have hsplit : encodeCommon m version = Encoder.int3 m.globalCells ++ (Encoder.u64 m.plan ++ (Encoder.u64 m.schema ++
      (Encoder.u64 m.geometry ++ (Encoder.real m.time ++ (Encoder.real m.dt ++ (Encoder.real m.pressureReference ++
      (Encoder.u64 m.step ++ (Encoder.u64 m.controllerState ++ (Encoder.u32 (UInt32.ofNat m.fields.length) ++
      (m.fields.flatMap Encoder.fieldMeta ++ ((if hasTemporalHistory version then encodeHistory m else []) ++
      ((if hasMethodSignature version then Encoder.u64 m.methodHistorySignature else []) ++
      (if kCellRecordFormatVersion ≤ version then Encoder.u64 m.cellRecordIdentity ++ Encoder.u32 m.cellRecordBytes
        else []))))))))))))) := by
    simp only [encodeCommon, encodeHistory, append_assoc]
  rw [hsplit]
  refine (int3_yields h.globalCells).bind ((u64_yields _).bind ((u64_yields _).bind ((u64_yields _).bind
    ((real_yields _).bind ((real_yields _).bind ((real_yields _).bind ((u64_yields _).bind ((u64_yields _).bind
    ((u32_yields _).bind (Yields.require ?_ (Yields.allocate ?_)))))))))))
  · have hmin : 3 ≤ UInt32.ofNat m.fields.length := by
      rw [UInt32.le_iff_toNat_le, hcount]
      exact h.count.1
    have hmax : UInt32.ofNat m.fields.length ≤ 64 := by
      rw [UInt32.le_iff_toNat_le, hcount]
      exact h.count.2
    obtain ⟨hplan, hschema, hgeom, hstep⟩ := h.identity
    obtain ⟨htime, hdt, h0, hpres⟩ := h.time
    simp [hmin, hmax, hplan, hschema, hgeom, hstep, htime, hdt, h0, hpres]
  · rw [hcount]
    refine (times_yields (fun field hfield _ => fieldMeta_yields (h.fields field hfield)) _).bind ?_
    refine Yields.bind (decodeHistory_yields h ?_) ((decodeSignature_yields h _).bind (decodeCellRecord_yields h _))
    rfl

lemma verifiedIntegrity_appendIntegrity (body : List UInt8) : verifiedIntegrity (Encoder.appendIntegrity body) = true := by
  have hlength : (Encoder.appendIntegrity body).length - 8 = body.length := by
    simp [Encoder.appendIntegrity, Encoder.u64]
  have hlong : ¬ (Encoder.appendIntegrity body).length < 8 := by
    simp [Encoder.appendIntegrity, Encoder.u64]
  rw [verifiedIntegrity, if_neg hlong, decide_eq_true_eq, hlength, Encoder.appendIntegrity, drop_left,
    take_left, Encoder.u64, leValue_leBytes, Nat.mod_eq_of_lt (by simpa using (hashBytes body).toNat_lt),
    UInt64.ofNat_toNat]

@[simp] lemma length_fieldMeta (field : FieldMeta) : (Encoder.fieldMeta field).length = 4 := by
  simp [Encoder.fieldMeta, Encoder.u8, Encoder.u16]

@[simp] lemma length_int3 (v : Int3) : (Encoder.int3 v).length = 12 := by
  simp [Encoder.int3, Encoder.i32]

@[simp] lemma length_rankRecord (record : RankRecord) : (Encoder.rankRecord record).length = 40 := by
  simp [Encoder.rankRecord, Encoder.u64]

lemma length_flatMap_of_length {α : Type} {encode : α → List UInt8} {n : ℕ} (h : ∀ a, (encode a).length = n) (l : List α) :
    (l.flatMap encode).length = l.length * n := by
  induction l with
  | nil => simp
  | cons a l ih => rw [flatMap_cons, length_append, h, ih, length_cons, Nat.add_one_mul, add_comm]

/-- A manifest that is written is read back. -/
theorem parseManifest_encodeManifest {size maximumRanks : UInt32} {common : Manifest} {records : List RankRecord}
    (h : HeaderFits version common) (hknown : knownVersion version = true) (hsize : size ≠ 0 ∧ size ≤ maximumRanks)
    (hcount : size.toNat = records.length)
    (hglobal : validGlobalPatch common.globalCells ⟨{}, common.globalCells, {}, {}⟩ = true)
    (hrecords : ∀ record ∈ records, RecordFits common.globalCells record) :
    ∃ s, parseManifest (encodeManifest common version size records) maximumRanks =
      .value { decodedCommon version common { rankCount := size } with ranks := records } s := by
  have hcells : (decodedCommon version common { rankCount := size }).globalCells = common.globalCells := by
    simp only [decodedCommon, decodedCellRecord, decodedSignature, decodedHistory, withHistory]
    split_ifs <;> rfl
  have hbytes := length_flatMap_of_length length_rankRecord records
  have hread : Yields (manifestReader maximumRanks) (encodeManifest common version size records) []
      { decodedCommon version common { rankCount := size } with ranks := records } := by
    rw [encodeManifest, Encoder.appendIntegrity]
    simp only [append_assoc]
    have hmagic : kManifestMagic.length = 8 := rfl
    refine Yields.bind (bytes_yields hmagic () _) ?_
    refine Yields.require (decide_eq_true rfl) (Yields.bind (u32_yields version) ?_)
    refine Yields.require hknown (Yields.bind (u32_yields size) ?_)
    refine Yields.require ?_ ?_
    · rw [Bool.and_eq_true, decide_eq_true_eq, decide_eq_true_eq]
      exact hsize
    refine Yields.bind (decodeCommon_yields h { rankCount := size }) ?_
    generalize decodedCommon version common { rankCount := size } = candidate at hcells ⊢
    rw [hcells]
    refine Yields.require hglobal (Yields.remaining (Yields.require ?_ (Yields.allocate ?_)))
    · simp only [append_nil, length_append, hbytes, Encoder.u64, length_leBytes, Bool.and_eq_true,
        decide_eq_true_eq, hcount]
      omega
    · rw [hcount]
      refine (times_yields (fun record hrecord _ => rankRecord_yields (hrecords record hrecord)) _).bind ?_
      rw [← append_nil (Encoder.u64 _)]
      exact (u64_yields _).bind (Yields.remaining (Yields.require rfl (Yields.pure _ _)))
  obtain ⟨log, hvalue⟩ := (hread.refusing (⟨.ioFailure, kRestartManifest⟩ : Status)) []
  refine ⟨⟨[], log⟩, ?_⟩
  rw [append_nil] at hvalue
  rw [parseManifest, encodeManifest, verifiedIntegrity_appendIntegrity]
  exact hvalue

end HundunFlow.Proofs
