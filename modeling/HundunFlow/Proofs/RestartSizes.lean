import HundunFlow.Proofs.RestartRoundTrip
import HundunFlow.Proofs.KernelTiling

/-!
# The sizes of a rank block

A block is a header, a number of arrays with their counts, and the records of the cells.
-/

namespace HundunFlow.Proofs

open Lib Lib.Decoder Restart List Option

def boxSize (extents : Int3) : ℕ := (faceIndices extents).length

def fieldCounts (cells : ℕ) (catalog : List FieldMeta) : List ℕ := catalog.map fun field => cells * field.components.toNat

def faceCounts (global : Int3) (patch : MeshPatch) : List ℕ := axes.map fun axis => boxSize (ownedExtents global patch axis)

def arrayCounts (m : Manifest) (patch : MeshPatch) : List ℕ :=
  let fields := fieldCounts (boxSize patch.cells) m.fields
  let rates := fieldCounts (boxSize patch.cells) m.rateFields
  let faces := faceCounts m.globalCells patch
  if hasTemporalHistory m.formatVersion then fields ++ fields ++ rates ++ rates ++ faces ++ faces else fields ++ faces

def arrayBytes (counts : List ℕ) : ℕ := (counts.map fun count => 8 + 8 * count).sum

variable {cells : Int3} {fields : List RestartFieldView} (s : RestartSnapshot) {rates : Bool}

lemma arrayBytes_append (l l' : List ℕ) : arrayBytes (l ++ l') = arrayBytes l + arrayBytes l' := by
  rw [arrayBytes, map_append, sum_append, arrayBytes, arrayBytes]

lemma arrayBytes_eq (l : List ℕ) : arrayBytes l = 8 * l.length + 8 * l.sum := by
  induction l with
  | nil => rfl
  | cons n l ih =>
    rw [arrayBytes, map_cons, sum_cons] at *
    rw [ih, length_cons, sum_cons]
    ring

def commonBytes (m : Manifest) : ℕ :=
  80 + 4 * m.fields.length + (if hasTemporalHistory m.formatVersion then 36 + 4 * m.rateFields.length else 0) +
    (if hasMethodSignature m.formatVersion then 8 else 0) + if kCellRecordFormatVersion ≤ m.formatVersion then 12 else 0

/-- The length of the block of a patch, whose cells have `payload` bytes of records. -/
def blockBytes (m : Manifest) (patch : MeshPatch) (payload : ℕ) : ℕ :=
  52 + commonBytes m + arrayBytes (arrayCounts m patch) +
    if kCellRecordFormatVersion ≤ m.formatVersion then
      8 + payload + if m.formatVersion = kVariableCellRecordFormatVersion then 4 * boxSize patch.cells else 0
    else 0

lemma foldlM_cost {α : Type} {step : ℕ → α → Option ℕ} (cost : α → ℕ)
    (h : ∀ b a n, step b a = some n → n = b + cost a) {l : List α} {b n : ℕ} (hrun : l.foldlM step b = some n) :
    n = b + (l.map cost).sum := by
  induction l generalizing b with
  | nil => exact (some.inj hrun).symm
  | cons a l ih =>
    rw [foldlM_cons] at hrun
    obtain ⟨b', hstep, hrun⟩ := bind_eq_some_iff.mp hrun
    rw [ih hrun, h b a b' hstep, map_cons, sum_cons, add_assoc]

lemma foldlM_of_le {α : Type} {l : List α} (step : ℕ → α → Option ℕ) (cost : α → ℕ) (bound : ℕ)
    (h : ∀ a ∈ l, ∀ b, b + cost a ≤ bound → step b a = some (b + cost a)) {b : ℕ} (hle : b + (l.map cost).sum ≤ bound) :
    l.foldlM step b = some (b + (l.map cost).sum) := by
  induction l generalizing b with
  | nil => rfl
  | cons a l ih =>
    rw [map_cons, sum_cons] at hle
    rw [foldlM_cons, h a mem_cons_self b (by omega), bind_eq_bind, bind_some,
      ih (fun a ha => h a (mem_cons_of_mem _ ha)) (by omega), map_cons, sum_cons, add_assoc]

lemma bulkAdd_of_le {value count width : ℕ} (h : value + count * width ≤ maxU64) :
    BulkBytes.add value count width = some (value + count * width) := by
  rw [BulkBytes.add, checkedMultiply_of_le (by omega), bind_eq_bind, bind_some, checkedAdd_of_le h]

lemma cellCount_eq {count : ℕ} (h : cellCount cells = some count) :
    count = boxSize cells ∧ count ≤ maxU64 ∧ 0 < cells.x ∧ 0 < cells.y ∧ 0 < cells.z := by
  unfold cellCount at h
  split_ifs at h with hempty
  obtain ⟨plane, hplane, h⟩ := bind_eq_some_iff.mp h
  obtain ⟨rfl, -⟩ := checkedMultiply_spec hplane
  obtain ⟨rfl, hle⟩ := checkedMultiply_spec h
  simp only [Bool.or_eq_true, decide_eq_true_eq, not_or, not_le] at hempty
  exact ⟨(length_faceIndices cells).symm, hle, hempty.1.1, hempty.1.2, hempty.2⟩

lemma cellCount_of_le (h : 0 < cells.x ∧ 0 < cells.y ∧ 0 < cells.z) (hle : boxSize cells ≤ maxU64) :
    cellCount cells = some (boxSize cells) := by
  obtain ⟨hx, hy, hz⟩ := h
  rw [boxSize, length_faceIndices] at hle ⊢
  have hz' : 1 ≤ cells.z.toNat := by omega
  have hplane : cells.x.toNat * cells.y.toNat ≤ maxU64 := (Nat.le_mul_of_pos_right _ hz').trans hle
  have hsome : ¬ (cells.x ≤ 0 || cells.y ≤ 0 || cells.z ≤ 0) = true := by
    simp only [Bool.or_eq_true, decide_eq_true_eq, not_or, not_le]
    exact ⟨⟨hx, hy⟩, hz⟩
  rw [cellCount, if_neg hsome, checkedMultiply_of_le hplane, bind_eq_bind, bind_some,
    checkedMultiply_of_le hle]

@[simp] lemma length_encoder_u64 (v : UInt64) : (Encoder.u64 v).length = 8 := length_leBytes 8 _
@[simp] lemma length_encoder_u32 (v : UInt32) : (Encoder.u32 v).length = 4 := length_leBytes 4 _
@[simp] lemma length_encoder_real (v : Binary64) : (Encoder.real v).length = 8 := length_leBytes 8 _

lemma length_encodeCommon (m : Manifest) : (encodeCommon m m.formatVersion).length = commonBytes m := by
  have hfields := length_flatMap_of_length length_fieldMeta m.fields
  have hrates := length_flatMap_of_length length_fieldMeta m.rateFields
  simp only [encodeCommon, commonBytes, length_append, length_int3, length_encoder_u64, length_encoder_u32,
    length_encoder_real, hfields]
  split_ifs <;> simp only [length_append, length_encoder_u64, length_encoder_u32, length_encoder_real, hrates,
    length_nil] <;> omega

lemma addValues_eq {bytes count n : ℕ} (h : addValues bytes count = some n) : n = bytes + (8 + 8 * count) := by
  obtain ⟨payload, hpayload, h⟩ := bind_eq_some_iff.mp h
  obtain ⟨-, -, h⟩ := bind_eq_some_iff.mp h
  obtain ⟨rfl, -⟩ := checkedMultiply_spec hpayload
  rw [← some.inj h, mul_comm count]

lemma meta_components (field : RestartFieldView) : field.meta.components.toNat = field.values.components := by
  rw [RestartFieldView.meta, UInt8.toNat_ofNat', Nat.mod_eq_of_lt field.components_lt]

lemma addFields_eq {cells bytes n : ℕ} (h : addFields cells fields bytes = some n) :
    n = bytes + arrayBytes (fieldCounts cells (fields.map (·.meta))) := by
  have hcost := foldlM_cost (fun field => 8 + 8 * (cells * field.values.components)) (fun b field n hn => by
    obtain ⟨count, hcount, hn⟩ := bind_eq_some_iff.mp hn
    obtain ⟨rfl, -⟩ := checkedMultiply_spec hcount
    exact addValues_eq hn) h
  rw [hcost, arrayBytes, fieldCounts, List.map_map, List.map_map]
  simp only [Function.comp_def, meta_components]

lemma addFaces_eq {global : Int3} {patch : MeshPatch} {bytes n : ℕ} (h : addFaces global patch bytes = some n) :
    n = bytes + arrayBytes (faceCounts global patch) := by
  have hcost := foldlM_cost (fun axis => 8 + 8 * boxSize (ownedExtents global patch axis)) (fun b axis n hn => by
    obtain ⟨count, hcount, hn⟩ := bind_eq_some_iff.mp hn
    obtain ⟨rfl, -⟩ := cellCount_eq hcount
    exact addValues_eq hn) h
  rw [hcost, arrayBytes, faceCounts, List.map_map]
  rfl

lemma temporal_iff_exact : hasTemporalHistory s.format = s.hasExactHistory := by
  unfold RestartSnapshot.format
  cases s.hasExactHistory <;> simp only [Bool.not_true, Bool.not_false, Bool.and_true, Bool.and_false, decide_eq_true_eq] <;>
    split_ifs <;> first | rfl | contradiction

lemma records_iff_identity : kCellRecordFormatVersion ≤ s.format ↔ s.cellRecords.identity ≠ 0 := by
  unfold RestartSnapshot.format
  by_cases hidentity : s.cellRecords.identity = 0
  · simp only [hidentity, ne_eq, not_true_eq_false, decide_false, Bool.false_and, Bool.false_eq_true, if_false, iff_false]
    split_ifs <;> decide
  · simp only [hidentity, ne_eq, not_false_eq_true, decide_true, Bool.true_and, if_true, iff_true]
    split_ifs <;> decide

lemma format_known : knownVersion s.format = true := by
  unfold RestartSnapshot.format
  split_ifs <;> decide

lemma variable_iff {s : RestartSnapshot} (hidentity : s.cellRecords.identity ≠ 0)
    (hrecords : s.hasExactHistory = true ∨ s.cellRecords.recordBytes ≠ 0) :
    s.format = kVariableCellRecordFormatVersion ↔ s.cellRecords.recordBytes = 0 := by
  unfold RestartSnapshot.format
  cases hexact : s.hasExactHistory with
  | false =>
    have hbytes : s.cellRecords.recordBytes ≠ 0 := hrecords.resolve_left (by simp [hexact])
    simp only [hidentity, ne_eq, not_false_eq_true, decide_true, Bool.not_false, Bool.and_true, if_true, hbytes, iff_false]
    decide
  | true =>
    simp only [hidentity, ne_eq, not_false_eq_true, decide_true, Bool.not_true, Bool.and_false, if_true,
      Bool.false_eq_true, if_false]
    split_ifs with hbytes
    · simp [hbytes]
    · simp only [hbytes, iff_false]
      decide

lemma unsigned_version {s : RestartSnapshot} (h : hasTemporalHistory s.format = false) :
    s.format = kLegacyFormatVersion ∨ s.format = kCurrentCellRecordFormatVersion := by
  rw [temporal_iff_exact] at h
  unfold RestartSnapshot.format
  simp only [h, Bool.not_false, Bool.and_true, if_true, decide_eq_true_eq]
  split_ifs with hidentity
  · exact .inr rfl
  · exact .inl rfl

lemma signature_ne_zero {s : RestartSnapshot} (h : hasMethodSignature s.format = true)
    (hrecords : s.cellRecords.identity ≠ 0 → s.hasExactHistory = true → s.methodHistorySignature ≠ 0) :
    s.methodHistorySignature ≠ 0 := by
  have hexact : s.hasExactHistory = true := by
    rw [← temporal_iff_exact]
    revert h
    unfold RestartSnapshot.format
    split_ifs <;> decide
  by_cases hidentity : s.cellRecords.identity = 0
  · intro hzero
    unfold RestartSnapshot.format at h
    simp [hidentity, hexact, hzero] at h
    exact nomatch h
  · exact hrecords hidentity hexact

/-- What a catalog that `valid_field_catalog` accepts is like. -/
structure CatalogFits (cells : Int3) (rates : Bool) (fields : List RestartFieldView) : Prop where
  entries : ∀ field ∈ fields, EntryFits rates field.meta ∧ field.values.interior = cells
  nonempty : 1 ≤ fields.length
  bounded : fields.length ≤ 64
  state : rates = false → 3 ≤ fields.length

def CatalogSeen.count (seen : CatalogSeen) : ℕ := seen.velocity.toNat + seen.pressure.toNat + seen.enthalpy.toNat

lemma meet_fits {seen seen' : CatalogSeen} {field : RestartFieldView}
    (h : seen.meet rates field.role field.values.components = some seen') :
    EntryFits rates field.meta ∧ CatalogSeen.count seen' ≤ CatalogSeen.count seen + 1 := by
  have hcompon := meta_components field
  have hrole : field.meta.role = field.role := rfl
  have hone : field.values.components = 1 → field.meta.components = 1 := fun h1 =>
    UInt8.toNat_inj.mp (hcompon.trans h1)
  have hne : field.values.components ≠ 0 → field.meta.components ≠ 0 := fun h0 hzero => h0 (by
    rw [← hcompon, hzero]
    rfl)
  unfold CatalogSeen.meet at h
  unfold EntryFits CatalogSeen.count
  rw [hrole]
  cases hcase : field.role <;> rw [hcase] at h <;> simp only at h <;> split_ifs at h with hbad <;>
    obtain rfl := some.inj h <;> cases rates <;>
    simp only [Bool.or_eq_true, Bool.and_eq_true, decide_eq_true_eq, not_or, Bool.not_eq_true, Bool.not_true,
      Bool.not_false, Bool.false_eq_true, not_false_eq_true, not_true_eq_false, ne_eq, Decidable.not_not, true_and,
      false_and, not_and, not_lt] at hbad
  all_goals
    refine ⟨?_, ?_⟩
    · simp only [RestartFieldRole.isRate, decide_true, Bool.true_and, if_true, if_false, Bool.false_eq_true,
        decide_eq_true_eq]
      first
      | exact hone (by omega)
      | exact hne (by omega)
    · have hvelocity := Bool.toNat_le seen.velocity
      have hpres := Bool.toNat_le seen.pressure
      have henthalpy := Bool.toNat_le seen.enthalpy
      have htrue : true.toNat = 1 := rfl
      first
      | omega
      | dsimp only
        omega

lemma catalogLoop_fits :
    ∀ {prior : List RestartFieldView} {seen seen' : CatalogSeen}, catalogLoop cells rates fields prior seen = some seen' →
      (∀ field ∈ fields, EntryFits rates field.meta ∧ field.values.interior = cells) ∧
        CatalogSeen.count seen' ≤ CatalogSeen.count seen + fields.length := by
  induction fields with
  | nil =>
    intro prior seen seen' h
    obtain rfl := some.inj h
    exact ⟨by simp, Nat.le_add_right _ _⟩
  | cons field fields ih =>
    intro prior seen seen' h
    unfold catalogLoop at h
    split_ifs at h with hbad
    obtain ⟨next, hmeet, h⟩ := bind_eq_some_iff.mp h
    obtain ⟨hentry, hcount⟩ := meet_fits hmeet
    obtain ⟨hentries, hcount'⟩ := ih h
    simp only [Bool.or_eq_true, decide_eq_true_eq, not_or, ne_eq, Decidable.not_not] at hbad
    refine ⟨forall_mem_cons.mpr ⟨⟨hentry, hbad.1.1.2⟩, hentries⟩, ?_⟩
    rw [length_cons]
    omega

lemma validFieldCatalog_fits {fields : Span RestartFieldView} (h : validFieldCatalog fields cells rates = true) :
    CatalogFits cells rates fields.values ∧ fields.size = fields.values.length := by
  unfold validFieldCatalog at h
  by_cases hbad : (fields.isNull || fields.size = 0 || 64 < fields.size) = true
  · rw [if_pos hbad] at h
    exact nomatch h
  rw [if_neg hbad] at h
  simp only [Bool.or_eq_true, decide_eq_true_eq, not_or, Bool.not_eq_true, not_lt] at hbad
  have hsize : fields.size = fields.values.length := Span.size_eq_length fun hnull => by simp [hbad.1.1] at hnull
  cases hloop : catalogLoop cells rates fields.values [] {} with
  | none => simp [hloop] at h
  | some seen =>
    rw [hloop] at h
    obtain ⟨hentries, hcount⟩ := catalogLoop_fits hloop
    refine ⟨⟨hentries, by omega, by omega, ?_⟩, hsize⟩
    rintro rfl
    simp only [Bool.false_eq_true, if_false, Bool.and_eq_true] at h
    rw [CatalogSeen.count, h.1.1, h.1.2, h.2] at hcount
    simpa [CatalogSeen.count] using hcount

end HundunFlow.Proofs
