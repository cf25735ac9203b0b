import HundunFlow.Proofs.RestartSizes

/-!
# The reader plans for what the writer wrote

The encoder appends as many bytes as the writer predicts, and the reader expects the same number of
the manifest that comes back.
-/

namespace HundunFlow.Proofs

open Lib Lib.Decoder Restart List Option

variable {s : RestartSnapshot} {n layers : ℕ} {bytes data : List UInt8} {value : Option ℕ}
  {memory : RankMemory} {patch : MeshPatch} {global : Int3} {axis : CartesianAxis} {m : Manifest}
  {record : RankRecord} {e : Status} {records : List RankRecord}

variable {root : RestartSnapshot} {largest : ℕ}

lemma sameFieldLayout_map {left right : Span RestartFieldView} (h : sameFieldLayout left right = true)
    (hleft : left.size = left.values.length) (hright : right.size = right.values.length) :
    left.values.map (·.meta) = right.values.map (·.meta) := by
  unfold sameFieldLayout at h
  by_cases hbad : (left.size ≠ right.size || left.isNull || right.isNull) = true
  · rw [if_pos hbad] at h
    exact nomatch h
  rw [if_neg hbad] at h
  simp only [Bool.or_eq_true, decide_eq_true_eq, not_or, ne_eq, Decidable.not_not] at hbad
  have hlength : left.values.length = right.values.length := by rw [← hleft, ← hright, hbad.1.1]
  refine ext_getElem (by simpa using hlength) fun i hi hi' => ?_
  rw [length_map] at hi hi'
  rw [List.all_eq_true] at h
  have hpair := h (left.values[i], right.values[i]) (by
    rw [mem_iff_getElem]
    exact ⟨i, by rw [length_zip]; omega, getElem_zip⟩)
  simp only [Bool.and_eq_true, decide_eq_true_eq] at hpair
  rw [getElem_map, getElem_map, RestartFieldView.meta, RestartFieldView.meta, hpair.1.1, hpair.1.2, hpair.2]

/-- What `valid_snapshot` says of the catalogs and the records. -/
structure SnapshotFits (s : RestartSnapshot) : Prop where
  patch : validGlobalPatch s.globalCells s.patch = true
  fields : CatalogFits s.patch.cells false s.fields.values
  previousFields : s.hasExactHistory = true → CatalogFits s.patch.cells false s.previousFields.values
  acceptedRates : s.hasExactHistory = true → CatalogFits s.patch.cells true s.acceptedRateFields.values
  previousRates : s.hasExactHistory = true → CatalogFits s.patch.cells true s.previousRateFields.values
  sameFields : s.hasExactHistory = true → s.fields.values.map (·.meta) = s.previousFields.values.map (·.meta)
  sameRates : s.hasExactHistory = true → s.acceptedRateFields.values.map (·.meta) = s.previousRateFields.values.map (·.meta)
  signed : s.cellRecords.identity ≠ 0 → s.hasExactHistory = true → s.methodHistorySignature ≠ 0
  counted : s.cellRecords.identity ≠ 0 → s.hasExactHistory = true ∨ s.cellRecords.recordBytes ≠ 0
  values : s.cellRecords.values.size = s.cellRecords.values.values.length
  fixed : s.cellRecords.identity ≠ 0 → s.cellRecords.recordBytes ≠ 0 →
    s.cellRecords.values.size = boxSize s.patch.cells * s.cellRecords.recordBytes.toNat
  lengths : s.cellRecords.identity ≠ 0 → s.cellRecords.recordBytes = 0 →
    s.cellRecords.variableCellBytes.values.length = boxSize s.patch.cells

lemma validCellRecords_fits (h : s.validCellRecords = true) :
    (s.cellRecords.identity ≠ 0 → s.hasExactHistory = true → s.methodHistorySignature ≠ 0) ∧
    (s.cellRecords.identity ≠ 0 → s.hasExactHistory = true ∨ s.cellRecords.recordBytes ≠ 0) ∧
    s.cellRecords.values.size = s.cellRecords.values.values.length ∧
    (s.cellRecords.identity ≠ 0 → s.cellRecords.recordBytes ≠ 0 →
      s.cellRecords.values.size = boxSize s.patch.cells * s.cellRecords.recordBytes.toNat) ∧
    (s.cellRecords.identity ≠ 0 → s.cellRecords.recordBytes = 0 →
      s.cellRecords.variableCellBytes.values.length = boxSize s.patch.cells) := by
  unfold RestartSnapshot.validCellRecords at h
  by_cases hidentity : s.cellRecords.identity = 0
  · rw [if_neg (by simpa using hidentity)] at h
    simp only [Bool.and_eq_true, decide_eq_true_eq] at h
    refine ⟨fun h => absurd hidentity h, fun h => absurd hidentity h, Span.size_eq_length fun _ => h.1.1.1.2,
      fun h => absurd hidentity h, fun h => absurd hidentity h⟩
  · rw [if_pos (by simpa using hidentity)] at h
    by_cases hunsigned : (s.hasExactHistory && decide (s.methodHistorySignature = 0)) = true
    · rw [if_pos hunsigned] at h
      exact nomatch h
    rw [if_neg hunsigned] at h
    by_cases huncounted : (!s.hasExactHistory && decide (s.cellRecords.recordBytes = 0)) = true
    · rw [if_pos huncounted] at h
      exact nomatch h
    rw [if_neg huncounted] at h
    simp only [Bool.and_eq_true, decide_eq_true_eq, not_and, Bool.not_eq_true'] at hunsigned huncounted
    cases hcells : cellCount s.patch.cells with
    | none => simp [hcells] at h
    | some cells =>
      rw [hcells] at h
      obtain ⟨rfl, -⟩ := cellCount_eq hcells
      have hcounted : s.hasExactHistory = true ∨ s.cellRecords.recordBytes ≠ 0 := by
        cases hexact : s.hasExactHistory with
        | true => exact .inl rfl
        | false => exact .inr (huncounted hexact)
      refine ⟨fun _ => hunsigned, fun _ => hcounted, ?_⟩
      dsimp only at h
      by_cases hzero : s.cellRecords.recordBytes = 0
      · rw [if_pos hzero] at h
        by_cases hbad : (s.cellRecords.variableCellBytes.size ≠ boxSize s.patch.cells ||
            s.cellRecords.variableCellBytes.isNull) = true
        · rw [if_pos hbad] at h
          exact nomatch h
        rw [if_neg hbad] at h
        simp only [Bool.or_eq_true, decide_eq_true_eq, not_or, ne_eq, Decidable.not_not, Bool.not_eq_true] at hbad
        cases htotal : totalLength s.cellRecords.variableCellBytes.values 0 with
        | none => simp [htotal] at h
        | some bytes =>
          simp only [htotal, Bool.and_eq_true, decide_eq_true_eq, Bool.or_eq_true, Bool.not_eq_true'] at h
          obtain ⟨hsize, hnull⟩ := h
          refine ⟨Span.size_eq_length fun hn => ?_, fun _ hne => absurd hzero hne, fun _ _ => ?_⟩
          · rw [hsize]
            exact hnull.resolve_right (by simp [hn])
          · rw [← hbad.1]
            exact (Span.size_eq_length fun hn => by simp [hbad.2] at hn).symm
      · rw [if_neg hzero] at h
        by_cases hbad : (s.cellRecords.variableCellBytes.size ≠ 0 || !s.cellRecords.variableCellBytes.isNull) = true
        · rw [if_pos hbad] at h
          exact nomatch h
        rw [if_neg hbad] at h
        cases htotal : checkedMultiply (boxSize s.patch.cells) s.cellRecords.recordBytes.toNat with
        | none => simp [htotal] at h
        | some bytes =>
          simp only [htotal, Bool.and_eq_true, decide_eq_true_eq, Bool.or_eq_true, Bool.not_eq_true'] at h
          obtain ⟨hsize, hnull⟩ := h
          obtain ⟨rfl, -⟩ := checkedMultiply_spec htotal
          refine ⟨Span.size_eq_length fun hn => ?_, fun _ _ => hsize, fun _ h => absurd h hzero⟩
          rw [hsize]
          exact hnull.resolve_right (by simp [hn])

lemma valid_fits (h : s.valid = true) : SnapshotFits s ∧ HeaderFits s.format s.common := by
  unfold RestartSnapshot.valid at h
  simp only [Bool.and_eq_true, Bool.or_eq_true, Bool.not_eq_true', decide_eq_true_eq, ne_eq] at h
  obtain ⟨⟨⟨⟨⟨⟨⟨⟨⟨⟨⟨⟨hpatch, hplan⟩, hschema⟩, hgeom⟩, htime⟩, hdt⟩, hpos⟩, hpres⟩, hstep⟩, hfields⟩, hflux⟩,
    hrecords⟩, hhistory⟩ := h
  obtain ⟨hfields, hfieldSize⟩ := validFieldCatalog_fits hfields
  obtain ⟨hsigned, hcounted, hvalues, hfixed, hvariable⟩ := validCellRecords_fits hrecords
  have hexact : s.hasExactHistory = true → _ := fun hexact => hhistory.resolve_left (by simp [hexact])
  have hcat : s.hasExactHistory = true → CatalogFits s.patch.cells false s.previousFields.values ∧
      CatalogFits s.patch.cells true s.acceptedRateFields.values ∧
      CatalogFits s.patch.cells true s.previousRateFields.values ∧
      s.fields.values.map (·.meta) = s.previousFields.values.map (·.meta) ∧
      s.acceptedRateFields.values.map (·.meta) = s.previousRateFields.values.map (·.meta) := by
    intro h
    obtain ⟨⟨⟨⟨⟨⟨⟨⟨⟨⟨⟨-, hprev⟩, hsame⟩, haccepted⟩, hprior⟩, hsameRates⟩, -⟩, -⟩, -⟩, -⟩, -⟩, -⟩ := hexact h
    obtain ⟨hprev, hpreviousSize⟩ := validFieldCatalog_fits hprev
    obtain ⟨haccepted, hacceptedSize⟩ := validFieldCatalog_fits haccepted
    obtain ⟨hprior, hpriorSize⟩ := validFieldCatalog_fits hprior
    exact ⟨hprev, haccepted, hprior, sameFieldLayout_map hsame hfieldSize hpreviousSize,
      sameFieldLayout_map hsameRates hacceptedSize hpriorSize⟩
  refine ⟨⟨hpatch, hfields, fun h => (hcat h).1, fun h => (hcat h).2.1, fun h => (hcat h).2.2.1,
    fun h => (hcat h).2.2.2.1, fun h => (hcat h).2.2.2.2, hsigned, hcounted, hvalues, hfixed, hvariable⟩, ?_⟩
  have hentry : ∀ {rates : Bool} {fields : List RestartFieldView}, CatalogFits s.patch.cells rates fields →
      ∀ field ∈ fields.map (·.meta), EntryFits rates field := by
    rintro rates fields hfits field hfield
    obtain ⟨view, hview, rfl⟩ := List.mem_map.mp hfield
    exact (hfits.entries view hview).1
  refine ⟨s.globalCells_range, ?_, ⟨hplan, hschema, hgeom, hstep⟩, ⟨htime, hdt, hpos, hpres⟩, hentry hfields,
    fun h => unsigned_version h, fun h => ?_, fun h => ?_, fun h => ?_, fun h => signature_ne_zero h hsigned, fun h => ?_⟩
  · rw [show s.common.fields = s.fields.values.map (·.meta) from rfl, length_map]
    exact ⟨hfields.state rfl, hfields.bounded⟩
  · rw [temporal_iff_exact] at h
    obtain ⟨-, haccepted, -⟩ := hcat h
    rw [show s.common.rateFields = s.acceptedRateFields.values.map (·.meta) from rfl, length_map]
    exact ⟨Nat.one_le_iff_ne_zero.mp haccepted.nonempty, haccepted.bounded⟩
  · rw [temporal_iff_exact] at h
    obtain ⟨⟨⟨⟨⟨⟨⟨⟨⟨⟨⟨hcontr, -⟩, -⟩, -⟩, -⟩, -⟩, hprior⟩, hless⟩, hlast⟩, hreference⟩, hmass⟩, hmassPositive⟩ := hexact h
    have hprev : s.common.previousMassFluxRevision.toNat = s.previousMassFlux.revision :=
      UInt64.toNat_ofNat_of_lt' s.previousRevision_lt
    have hfinal : s.common.finalMassFluxRevision.toNat = s.finalMassFlux.revision :=
      UInt64.toNat_ofNat_of_lt' s.finalRevision_lt
    have hne : s.common.previousMassFluxRevision ≠ 0 := by
      intro hzero
      rw [hzero] at hprev
      simp only [expectedFaceExtents, Bool.and_eq_true, decide_eq_true_eq, ne_eq] at hprior
      exact hprior.1.1.1.1.1.1.1.1 hprev.symm
    have hlt : s.common.previousMassFluxRevision < s.common.finalMassFluxRevision := by
      rw [UInt64.lt_iff_toNat_lt, hprev, hfinal]
      exact hless
    simp only [Bool.and_eq_true, decide_eq_true_eq, hfinal]
    exact ⟨⟨⟨⟨⟨⟨hcontr, hreference⟩, hmass⟩, hmassPositive⟩, hne⟩, hlt⟩, hlast⟩
  · rw [temporal_iff_exact] at h
    exact hentry (hcat h).2.1
  · have hidentity := (records_iff_identity s).mp h
    exact ⟨hidentity, variable_iff hidentity (hcounted hidentity)⟩

lemma common_bytes (s : RestartSnapshot) : s.encodeCommon.length = commonBytes s.common := length_encodeCommon s.common

lemma addRecords_eq {bytes : ℕ} (h : addRecords s (boxSize s.patch.cells) bytes = some n) :
    n = bytes + if kCellRecordFormatVersion ≤ s.format then
      8 + s.cellRecords.values.size + if s.format = kVariableCellRecordFormatVersion then 4 * boxSize s.patch.cells else 0
    else 0 := by
  unfold addRecords at h
  simp only [records_iff_identity]
  split_ifs at h ⊢ with hidentity hvariable
  · obtain ⟨-, -, h⟩ := bind_eq_some_iff.mp h
    obtain ⟨lengths, hlengths, h⟩ := bind_eq_some_iff.mp h
    obtain ⟨-, -, h⟩ := bind_eq_some_iff.mp h
    obtain ⟨rfl, -⟩ := checkedMultiply_spec hlengths
    rw [← some.inj h]
    ring
  · obtain ⟨-, -, h⟩ := bind_eq_some_iff.mp h
    rw [← some.inj h, add_zero]
  · rw [← some.inj h, add_zero]

lemma rankBlockSize_eq (hfits : SnapshotFits s) (h : rankBlockSize s = some n) :
    n = blockBytes s.common s.patch s.cellRecords.values.size := by
  obtain ⟨cells, hcells, h⟩ := bind_eq_some_iff.mp h
  obtain ⟨rfl, -⟩ := cellCount_eq hcells
  obtain ⟨b₁, hfields, h⟩ := bind_eq_some_iff.mp h
  have hformat : s.common.formatVersion = s.format := rfl
  rw [blockBytes, arrayCounts, hformat, temporal_iff_exact]
  cases hexact : s.hasExactHistory with
  | true =>
    rw [hexact, if_pos rfl] at h
    obtain ⟨b₂, hprev, h⟩ := bind_eq_some_iff.mp h
    obtain ⟨b₃, haccepted, h⟩ := bind_eq_some_iff.mp h
    obtain ⟨b₄, hprior, h⟩ := bind_eq_some_iff.mp h
    obtain ⟨b₅, hflux, h⟩ := bind_eq_some_iff.mp h
    obtain ⟨b₆, hpreviousFlux, h⟩ := bind_eq_some_iff.mp h
    rw [addRecords_eq h, addFaces_eq hpreviousFlux, addFaces_eq hflux, addFields_eq hprior, addFields_eq haccepted,
      addFields_eq hprev, addFields_eq hfields, common_bytes, ← hfits.sameFields hexact, ← hfits.sameRates hexact]
    simp only [if_true, arrayBytes_append, RestartSnapshot.common]
    ring
  | false =>
    rw [hexact, if_neg (by simp)] at h
    obtain ⟨b₂, hflux, h⟩ := bind_eq_some_iff.mp h
    rw [addRecords_eq h, addFaces_eq hflux, addFields_eq hfields, common_bytes]
    simp only [Bool.false_eq_true, if_false, arrayBytes_append, RestartSnapshot.common]
    ring

lemma encodeEach_length {α : Type} {encode : α → Except EncodeFailure (List UInt8)} (cost : α → ℕ) {l : List α}
    (h : ∀ a ∈ l, ∀ bytes, encode a = .ok bytes → bytes.length = cost a)
    (hrun : encodeEach encode l = .ok bytes) : bytes.length = (l.map cost).sum := by
  induction l generalizing bytes with
  | nil =>
    obtain rfl := Except.ok.inj hrun
    rfl
  | cons a l ih =>
    unfold encodeEach at hrun
    cases hone : encode a with
    | error e => simp [hone, bind, Except.bind] at hrun
    | ok first =>
      cases hrest : encodeEach encode l with
      | error e => simp [hone, hrest, bind, Except.bind] at hrun
      | ok others =>
        simp only [hone, hrest, bind, Except.bind, pure, Except.pure, Except.ok.injEq] at hrun
        rw [← hrun, length_append, h a mem_cons_self first hone,
          ih (fun a ha => h a (mem_cons_of_mem _ ha)) hrest, map_cons, sum_cons]

lemma encodeValues_length {count : ℕ} {read : List Binary64} (h : encodeValues count read = .ok bytes) :
    bytes.length = 8 + 8 * read.length := by
  unfold encodeValues at h
  split_ifs at h
  rw [← Except.ok.inj h, length_append, length_encoder_u64, length_flatMap_of_length length_encoder_real, mul_comm]

lemma orInvalid_ok {f : ℕ → Except EncodeFailure (List UInt8)}
    (h : (orInvalid value >>= f) = .ok bytes) : ∃ n, value = some n ∧ f n = .ok bytes := by
  cases value with
  | none => simp [orInvalid, bind, Except.bind] at h
  | some n => exact ⟨n, rfl, h⟩

lemma length_viewValues (memory : Memory ArenaAddress Binary64) (view : FieldView) :
    (viewValues memory view).length = boxSize view.interior * view.components := by
  rw [viewValues, length_flatMap]
  simp only [length_map, length_range, map_const', sum_replicate, nsmul_eq_mul, Nat.cast_id, boxSize]

lemma encodeFields_length {memory : Memory ArenaAddress Binary64} {cells : Int3} {rates : Bool}
    {fields : List RestartFieldView} (hfits : CatalogFits cells rates fields)
    (h : encodeFields memory n fields = .ok bytes) :
    bytes.length = arrayBytes (fieldCounts (boxSize cells) (fields.map (·.meta))) := by
  have hlength := encodeEach_length (fun field => 8 + 8 * (boxSize cells * field.values.components))
    (fun field hfield bytes hone => by
      obtain ⟨count, -, hone⟩ := orInvalid_ok hone
      rw [encodeValues_length hone, length_viewValues, (hfits.entries field hfield).2]) h
  rw [hlength, arrayBytes, fieldCounts, List.map_map, List.map_map]
  simp only [Function.comp_def, meta_components]

lemma encodeFlux_length {memory : Memory Address Binary64} {flux : FaceFluxView}
    (h : encodeFlux memory s flux = .ok bytes) : bytes.length = arrayBytes (faceCounts s.globalCells s.patch) := by
  have hlength := encodeEach_length (fun axis => 8 + 8 * boxSize (ownedExtents s.globalCells s.patch axis))
    (fun axis _ bytes hone => by
      obtain ⟨count, -, hone⟩ := orInvalid_ok hone
      rw [encodeValues_length hone, length_map, boxSize]) h
  rw [hlength, arrayBytes, faceCounts, List.map_map]
  rfl

lemma bind_ok {ε α β : Type} {x : Except ε α} {f : α → Except ε β} {b : β} (h : (x >>= f) = .ok b) :
    ∃ a, x = .ok a ∧ f a = .ok b := by
  cases x with
  | error e => exact absurd h (by simp [bind, Except.bind])
  | ok a => exact ⟨a, rfl, h⟩

lemma encodeArrays_length (hfits : SnapshotFits s)
    (h : encodeArrays memory s n = .ok bytes) : bytes.length = arrayBytes (arrayCounts s.common s.patch) := by
  unfold encodeArrays at h
  unfold arrayCounts
  have hformat : s.common.formatVersion = s.format := rfl
  rw [hformat]
  split_ifs at h ⊢ with hhistory
  · have hexact : s.hasExactHistory = true := by rw [← temporal_iff_exact, hhistory]
    obtain ⟨fields, hfields, h⟩ := bind_ok h
    obtain ⟨previous, hprev, h⟩ := bind_ok h
    obtain ⟨accepted, haccepted, h⟩ := bind_ok h
    obtain ⟨prior, hprior, h⟩ := bind_ok h
    obtain ⟨flux, hflux, h⟩ := bind_ok h
    obtain ⟨previousFlux, hpreviousFlux, h⟩ := bind_ok h
    obtain rfl := Except.ok.inj h
    simp only [length_append, arrayBytes_append]
    rw [encodeFields_length hfits.fields hfields, encodeFields_length (hfits.previousFields hexact) hprev,
      encodeFields_length (hfits.acceptedRates hexact) haccepted, encodeFields_length (hfits.previousRates hexact) hprior,
      encodeFlux_length hflux, encodeFlux_length hpreviousFlux, ← hfits.sameFields hexact, ← hfits.sameRates hexact]
    rfl
  · obtain ⟨fields, hfields, h⟩ := bind_ok h
    obtain ⟨flux, hflux, h⟩ := bind_ok h
    obtain rfl := Except.ok.inj h
    rw [length_append, arrayBytes_append, encodeFields_length hfits.fields hfields, encodeFlux_length hflux]
    rfl

lemma encodeRecords_length (hfits : SnapshotFits s) :
    (encodeRecords s).length = if kCellRecordFormatVersion ≤ s.format then
      8 + s.cellRecords.values.size + if s.format = kVariableCellRecordFormatVersion then 4 * boxSize s.patch.cells else 0
    else 0 := by
  unfold encodeRecords
  by_cases hrecords : kCellRecordFormatVersion ≤ s.format
  · have hidentity := (records_iff_identity s).mp hrecords
    rw [if_pos hrecords, if_pos hrecords, length_append, length_append, length_encoder_u64, ← hfits.values]
    by_cases hvariable : s.format = kVariableCellRecordFormatVersion
    · have hzero := (variable_iff hidentity (hfits.counted hidentity)).mp hvariable
      rw [if_pos hvariable, if_pos hvariable, length_flatMap_of_length length_encoder_u32, hfits.lengths hidentity hzero]
      ring
    · rw [if_neg hvariable, if_neg hvariable, length_nil, add_zero, add_zero]
  · rw [if_neg hrecords, if_neg hrecords, length_nil]

lemma encoded_length (hfits : SnapshotFits s) {arrays : List UInt8} (h : encodeArrays memory s n = .ok arrays)
    (size rank : ℕ) :
    (Encoder.appendIntegrity (kRankMagic ++ Encoder.u32 s.format ++ Encoder.u32 (UInt32.ofNat size) ++
      Encoder.u32 (UInt32.ofNat rank) ++ s.encodeCommon ++ Encoder.int3 s.patch.begin ++ Encoder.int3 s.patch.cells ++
      arrays ++ encodeRecords s)).length = blockBytes s.common s.patch s.cellRecords.values.size := by
  have hmagic : kRankMagic.length = 8 := rfl
  have hformat : s.common.formatVersion = s.format := rfl
  simp only [Encoder.appendIntegrity, length_append, length_encoder_u64, length_encoder_u32, length_int3, hmagic,
    common_bytes, encodeArrays_length hfits h, encodeRecords_length hfits, blockBytes, hformat]
  omega

def BlamesInput {α : Type} (x : Except EncodeFailure α) : Prop :=
  ∀ e, x = .error e → ∃ code, e = .status ⟨code, kRestartInput⟩

lemma BlamesInput.bind {α β : Type} {x : Except EncodeFailure α} {f : α → Except EncodeFailure β} (hx : BlamesInput x)
    (hf : ∀ a, BlamesInput (f a)) : BlamesInput (x >>= f) := by
  intro e h
  cases x with
  | error e' => exact hx e (by simpa [Bind.bind, Except.bind] using h)
  | ok a => exact hf a e h

lemma BlamesInput.pure {α : Type} (a : α) : BlamesInput (Pure.pure a) := fun e h => absurd h (by simp [Pure.pure, Except.pure])

lemma orInvalid_blames (value : Option ℕ) : BlamesInput (orInvalid value) := by
  intro e h
  cases value with
  | none => exact ⟨.invalidPlan, (Except.error.inj h).symm⟩
  | some value => simp [orInvalid] at h

lemma encodeValues_blames (count : ℕ) (read : List Binary64) : BlamesInput (encodeValues count read) := by
  intro e h
  unfold encodeValues at h
  split_ifs at h
  exact ⟨.numericalFailure, (Except.error.inj h).symm⟩

lemma encodeEach_blames {α : Type} {encode : α → Except EncodeFailure (List UInt8)} (h : ∀ a, BlamesInput (encode a))
    (l : List α) : BlamesInput (encodeEach encode l) := by
  induction l with
  | nil => exact BlamesInput.pure _
  | cons a l ih => exact (h a).bind fun _ => ih.bind fun _ => BlamesInput.pure _

lemma encodeArrays_blames (memory : RankMemory) (s : RestartSnapshot) (n : ℕ) : BlamesInput (encodeArrays memory s n) := by
  have hfields : ∀ fields, BlamesInput (encodeFields memory.cells n fields) := fun fields =>
    encodeEach_blames (fun _ => (orInvalid_blames _).bind fun _ => encodeValues_blames _ _) fields
  have hflux : ∀ flux, BlamesInput (encodeFlux memory.faces s flux) := fun flux =>
    encodeEach_blames (fun _ => (orInvalid_blames _).bind fun _ => encodeValues_blames _ _) axes
  unfold encodeArrays
  split_ifs
  · exact (hfields _).bind fun _ => (hfields _).bind fun _ => (hfields _).bind fun _ => (hfields _).bind fun _ =>
      (hflux _).bind fun _ => (hflux _).bind fun _ => BlamesInput.pure _
  · exact (hfields _).bind fun _ => (hflux _).bind fun _ => BlamesInput.pure _

lemma encodeRankBlock_length (hfits : SnapshotFits s) (memory : RankMemory) (size rank maximumBytes : ℕ) :
    encodeRankBlock memory s size rank maximumBytes ≠ .error (.status ⟨.invalidPlan, kRestartRankFile⟩) ∧
    ∀ data, encodeRankBlock memory s size rank maximumBytes = .ok data →
      rankBlockSize s = some data.length ∧ data.length ≤ kMaximumVectorBytes ∧
        data.length = blockBytes s.common s.patch s.cellRecords.values.size := by
  unfold encodeRankBlock
  cases hsize : rankBlockSize s with
  | none => simp [orInvalid, bind, Except.bind, kRestartInput, kRestartRankFile]
  | some bytes =>
    have hpred := rankBlockSize_eq hfits hsize
    simp only [orInvalid, bind, Except.bind]
    split_ifs with hmaximum hlong
    · simp
    · simp
    · cases hcells : cellCount s.patch.cells with
      | none => simp [kRestartInput, kRestartRankFile]
      | some cells =>
        dsimp only
        cases harrays : encodeArrays memory s cells with
        | error e =>
          obtain ⟨code, rfl⟩ := encodeArrays_blames memory s cells e harrays
          simp [kRestartInput, kRestartRankFile]
        | ok arrays =>
          have hlength := encoded_length hfits harrays size rank
          dsimp only
          rw [if_neg (by rw [hlength, hpred]; simp)]
          refine ⟨by simp [pure, Except.pure], fun data hdata => ?_⟩
          obtain rfl := Except.ok.inj hdata
          exact ⟨by rw [hlength, hpred], by omega, hlength⟩

lemma layoutFields_of_le {cells copies : ℕ} {catalog : List FieldMeta} {bytes : LayoutBytes} (hcopies : 1 ≤ copies)
    (hvalues : bytes.values + 8 * copies * (fieldCounts cells catalog).sum ≤ maxU64)
    (hdescr : bytes.descriptors + 32 * copies * catalog.length ≤ maxU64)
    (hvectors : bytes.vectors + catalog.length * copies ≤ maxU64) :
    LayoutBytes.fields cells copies catalog bytes = some { bytes with
      values := bytes.values + 8 * copies * (fieldCounts cells catalog).sum
      descriptors := bytes.descriptors + 32 * copies * catalog.length
      vectors := bytes.vectors + catalog.length * copies } := by
  have hsum : ∀ l : List FieldMeta, (l.map fun field => cells * field.components.toNat * (8 * copies)).sum =
      8 * copies * (fieldCounts cells l).sum := by
    intro l
    induction l with
    | nil => rfl
    | cons field l ih =>
      rw [fieldCounts, map_cons, map_cons, sum_cons, sum_cons, ih, fieldCounts]
      ring
  have hfold := foldlM_of_le (l := catalog) (fun values field => do
      let count ← checkedMultiply cells field.components.toNat
      BulkBytes.add values count (8 * copies)) (fun field => cells * field.components.toNat * (8 * copies))
    maxU64 (fun field _ b hb => by
      have hcount : cells * field.components.toNat ≤ maxU64 :=
        (Nat.le_mul_of_pos_right _ (by omega)).trans ((Nat.le_add_left _ b).trans hb)
      rw [checkedMultiply_of_le hcount, bind_eq_bind, bind_some, bulkAdd_of_le hb])
    (b := bytes.values) (by rw [hsum]; exact hvalues)
  rw [hsum] at hfold
  have hdescriptorsAdd : BulkBytes.add bytes.descriptors catalog.length (kImageFieldBytes * copies) =
      some (bytes.descriptors + 32 * copies * catalog.length) := by
    rw [kImageFieldBytes, mul_comm (32 * copies) catalog.length] at *
    exact bulkAdd_of_le hdescr
  unfold LayoutBytes.fields
  rw [hfold, bind_eq_bind, bind_some, hdescriptorsAdd, bind_some, bulkAdd_of_le hvectors]
  rfl

lemma layoutFaces_of_le {count : ℕ} {bytes : LayoutBytes}
    (h : cellCount (ownedExtents global patch axis) = some count)
    (hvalues : bytes.values + 8 * layers * count ≤ maxU64) (hvectors : bytes.vectors + layers ≤ maxU64)
    (hcover : bytes.coverage + count ≤ maxU64) :
    LayoutBytes.faces global patch false layers bytes axis = some { bytes with
      values := bytes.values + 8 * layers * count
      vectors := bytes.vectors + layers
      coverage := bytes.coverage + count } := by
  have hpos := (cellCount_eq h).2.2
  have hextent : ¬ (axisIndex axis patch.begin + axisIndex axis patch.cells = axisIndex axis global ∧
      axisIndex axis patch.cells = maxI32) := by
    rintro ⟨htouch, hmax⟩
    rw [ownedExtents, if_pos htouch, increment, if_pos hmax] at hpos
    cases axis <;> simp only [setAxis, maxI32] at hpos <;> omega
  have howned : (if axisIndex axis patch.begin + axisIndex axis patch.cells = axisIndex axis global then
      setAxis axis patch.cells (axisIndex axis patch.cells + 1) else patch.cells) = ownedExtents global patch axis := by
    unfold ownedExtents
    split_ifs with htouch
    · rw [increment, if_neg fun hmax => hextent ⟨htouch, hmax⟩]
    · rfl
  have hvalues' : BulkBytes.add bytes.values count (8 * layers) = some (bytes.values + 8 * layers * count) := by
    rw [mul_comm (8 * layers) count] at hvalues ⊢
    exact bulkAdd_of_le hvalues
  have hvectors' : BulkBytes.add bytes.vectors layers = some (bytes.vectors + layers) := by
    rw [bulkAdd_of_le (by omega), mul_one]
  have hcover' : BulkBytes.add bytes.coverage count = some (bytes.coverage + count) := by
    rw [bulkAdd_of_le (by omega), mul_one]
  have hguard : (guard ((!(decide (axisIndex axis patch.begin + axisIndex axis patch.cells = axisIndex axis global) &&
      decide (axisIndex axis patch.cells = maxI32))) = true) : Option Unit) = some () := by
    rw [← Bool.decide_and, decide_eq_false hextent]
    rfl
  unfold LayoutBytes.faces
  simp only [Bool.false_or, decide_eq_true_eq, howned, h, bind_eq_bind, bind_some, hvalues', hvectors',
    hcover']
  rw [hguard, bind_some]
  rfl

lemma headerBytes_eq (hfields : m.fields.length ≤ 64)
    (hrates : hasTemporalHistory m.formatVersion = true → m.rateFields.length ≤ 64) :
    headerBytes m = some (52 + commonBytes m) := by
  have hmax : maxU64 = 2 ^ 64 - 1 := rfl
  unfold headerBytes commonBytes
  cases hhistory : hasTemporalHistory m.formatVersion with
  | true =>
    have hrates := hrates hhistory
    cases hasMethodSignature m.formatVersion <;> by_cases hrecords : kCellRecordFormatVersion ≤ m.formatVersion <;>
      simp (disch := omega) only [hrecords, if_true, if_false, Bool.false_eq_true, bulkAdd_of_le, bind_eq_bind,
        bind_some, some.injEq] <;> omega
  | false =>
    cases hasMethodSignature m.formatVersion <;> by_cases hrecords : kCellRecordFormatVersion ≤ m.formatVersion <;>
      simp (disch := omega) only [hrecords, if_true, if_false, Bool.false_eq_true, bulkAdd_of_le, bind_eq_bind,
        bind_some, some.injEq] <;> omega

lemma boxSize_le_owned
    (h : (cellCount (ownedExtents global patch axis)).isSome) : boxSize patch.cells ≤ boxSize (ownedExtents global patch axis) := by
  obtain ⟨count, hcount⟩ := isSome_iff_exists.mp h
  have hpos := (cellCount_eq hcount).2.2
  unfold ownedExtents at *
  split_ifs at * with htouch
  · by_cases hmax : axisIndex axis patch.cells = maxI32
    · rw [increment, if_pos hmax] at hpos
      cases axis <;> simp only [setAxis, maxI32] at hpos <;> omega
    · rw [increment, if_neg hmax, boxSize, boxSize, length_faceIndices, length_faceIndices]
      cases axis <;> simp only [setAxis, axisIndex] <;> gcongr <;> omega
  · exact le_refl _

def arraysLayout (m : Manifest) (patch : MeshPatch) (layers : ℕ) : LayoutBytes :=
  let cells := boxSize patch.cells
  let rates := if hasTemporalHistory m.formatVersion then 2 else 0
  { values := 8 * layers * (fieldCounts cells m.fields).sum + 8 * rates * (fieldCounts cells m.rateFields).sum +
      8 * layers * (faceCounts m.globalCells patch).sum
    descriptors := 32 * layers * m.fields.length + 32 * rates * m.rateFields.length
    vectors := m.fields.length * layers + m.rateFields.length * rates + 3 * layers
    coverage := cells + (faceCounts m.globalCells patch).sum }

lemma sum_faceCounts (global : Int3) (patch : MeshPatch) : (faceCounts global patch).sum =
    boxSize (ownedExtents global patch .x) + boxSize (ownedExtents global patch .y) +
      boxSize (ownedExtents global patch .z) := by
  simp only [faceCounts, axes, map_cons, map_nil, sum_cons, sum_nil]
  ring

lemma arrayBytes_layout (hlayers : layers = if hasTemporalHistory m.formatVersion then 2 else 1) :
    arrayBytes (arrayCounts m patch) = 8 * (arraysLayout m patch layers).vectors + (arraysLayout m patch layers).values := by
  have hfields : (fieldCounts (boxSize patch.cells) m.fields).length = m.fields.length := length_map _
  have hrates : (fieldCounts (boxSize patch.cells) m.rateFields).length = m.rateFields.length := length_map _
  have hfaces : (faceCounts m.globalCells patch).length = 3 := rfl
  unfold arrayCounts arraysLayout
  rw [hlayers]
  split_ifs <;> simp only [arrayBytes_append] <;> simp only [arrayBytes_eq, hfields, hrates, hfaces] <;> ring

lemma layoutAxes_of_le {bytes : LayoutBytes} (hfaces : ∀ axis, (cellCount (ownedExtents global patch axis)).isSome)
    (hvalues : bytes.values + 8 * layers * (faceCounts global patch).sum ≤ maxU64)
    (hvectors : bytes.vectors + 3 * layers ≤ maxU64)
    (hcover : bytes.coverage + (faceCounts global patch).sum ≤ maxU64) :
    axes.foldlM (LayoutBytes.faces global patch false layers) bytes = some { bytes with
      values := bytes.values + 8 * layers * (faceCounts global patch).sum
      vectors := bytes.vectors + 3 * layers
      coverage := bytes.coverage + (faceCounts global patch).sum } := by
  have hcount : ∀ axis, cellCount (ownedExtents global patch axis) = some (boxSize (ownedExtents global patch axis)) := by
    intro axis
    obtain ⟨count, hcount⟩ := isSome_iff_exists.mp (hfaces axis)
    rw [hcount, (cellCount_eq hcount).1]
  rw [sum_faceCounts] at *
  generalize hx : boxSize (ownedExtents global patch .x) = x at *
  generalize hy : boxSize (ownedExtents global patch .y) = y at *
  generalize hz : boxSize (ownedExtents global patch .z) = z at *
  rw [mul_add, mul_add] at hvalues
  rw [axes, foldlM_cons, layoutFaces_of_le (hcount .x) (by rw [hx]; omega) (by omega) (by omega),
    bind_eq_bind, bind_some, foldlM_cons,
    layoutFaces_of_le (hcount .y) (by rw [hx, hy]; dsimp only; omega) (by dsimp only; omega) (by rw [hy]; dsimp only; omega),
    bind_eq_bind, bind_some, foldlM_cons,
    layoutFaces_of_le (hcount .z) (by rw [hx, hy, hz]; dsimp only; omega) (by dsimp only; omega)
      (by rw [hx, hy, hz]; dsimp only; omega), bind_eq_bind, bind_some, foldlM_nil, hx, hy, hz]
  simp only [Option.pure_def, Option.some.injEq, LayoutBytes.mk.injEq, true_and]
  refine ⟨by ring, by ring, by ring⟩

def layersOf (m : Manifest) : ℕ := if hasTemporalHistory m.formatVersion then 2 else 1

lemma descriptors_le (hfields : m.fields.length ≤ 64)
    (hrates : hasTemporalHistory m.formatVersion = true → m.rateFields.length ≤ 64) (patch : MeshPatch) :
    (arraysLayout m patch (layersOf m)).descriptors ≤ 2 ^ 14 := by
  unfold arraysLayout layersOf
  cases hhistory : hasTemporalHistory m.formatVersion with
  | true =>
    have hrates := hrates hhistory
    simp only [if_true]
    omega
  | false =>
    simp only [Bool.false_eq_true, if_false]
    omega

lemma faces_le_values (m : Manifest) (patch : MeshPatch) :
    8 * (faceCounts m.globalCells patch).sum ≤ (arraysLayout m patch (layersOf m)).values := by
  unfold arraysLayout layersOf
  cases hasTemporalHistory m.formatVersion with
  | true =>
    simp only [if_true]
    omega
  | false =>
    simp only [Bool.false_eq_true, if_false]
    omega

lemma arraysLayout_run (hfields : m.fields.length ≤ 64)
    (hrates : hasTemporalHistory m.formatVersion = true → m.rateFields.length ≤ 64)
    (hfaces : ∀ axis, (cellCount (ownedExtents m.globalCells patch axis)).isSome)
    (hvalues : (arraysLayout m patch (layersOf m)).values ≤ 2 ^ 63) :
    ∃ b₁ b₂, LayoutBytes.fields (boxSize patch.cells) (layersOf m) m.fields { coverage := boxSize patch.cells } = some b₁ ∧
      (if hasTemporalHistory m.formatVersion then LayoutBytes.fields (boxSize patch.cells) 2 m.rateFields b₁
        else some b₁) = some b₂ ∧
      axes.foldlM (LayoutBytes.faces m.globalCells patch false (layersOf m)) b₂ =
        some (arraysLayout m patch (layersOf m)) := by
  have hmax : maxU64 = 2 ^ 64 - 1 := rfl
  have hx := boxSize_le_owned (hfaces .x)
  have hsum := sum_faceCounts m.globalCells patch
  unfold arraysLayout layersOf at hvalues ⊢
  cases hhistory : hasTemporalHistory m.formatVersion with
  | true =>
    have hrates := hrates hhistory
    simp only [hhistory, if_true] at hvalues ⊢
    refine ⟨_, _, layoutFields_of_le (by omega) (by dsimp only; omega) (by dsimp only; omega) (by dsimp only; omega),
      layoutFields_of_le (by omega) (by dsimp only; omega) (by dsimp only; omega) (by dsimp only; omega), ?_⟩
    rw [layoutAxes_of_le hfaces (by dsimp only; omega) (by dsimp only; omega) (by dsimp only; omega)]
    simp only [zero_add]
  | false =>
    simp only [hhistory, Bool.false_eq_true, if_false] at hvalues ⊢
    refine ⟨_, _, layoutFields_of_le (by omega) (by dsimp only; omega) (by dsimp only; omega) (by dsimp only; omega),
      rfl, ?_⟩
    rw [layoutAxes_of_le hfaces (by dsimp only; omega) (by dsimp only; omega) (by dsimp only; omega)]
    simp only [zero_add, mul_zero, zero_mul, add_zero]

def recordValues (m : Manifest) (cells : ℕ) : ℕ :=
  if kCellRecordFormatVersion ≤ m.formatVersion then
    cells * m.cellRecordBytes.toNat + if m.formatVersion = kVariableCellRecordFormatVersion then 4 * cells else 0
  else 0

lemma layoutRecords_of_le {cells : ℕ} {bytes : LayoutBytes} (hvalues : bytes.values + recordValues m cells ≤ maxU64)
    (hvectors : bytes.vectors + 1 ≤ maxU64) : LayoutBytes.records m cells bytes = some { bytes with
      values := bytes.values + recordValues m cells
      vectors := bytes.vectors + if kCellRecordFormatVersion ≤ m.formatVersion then 1 else 0 } := by
  unfold LayoutBytes.records
  unfold recordValues at hvalues ⊢
  by_cases hrecords : kCellRecordFormatVersion ≤ m.formatVersion
  · rw [if_pos hrecords] at hvalues
    simp only [if_pos hrecords]
    by_cases hvariable : m.formatVersion = kVariableCellRecordFormatVersion
    · simp only [if_pos hvariable] at hvalues ⊢
      rw [bulkAdd_of_le (by omega), bind_eq_bind, bind_some, bulkAdd_of_le (by omega), bind_some,
        bulkAdd_of_le (by omega), bind_some, mul_one, mul_comm 4 cells, add_assoc]
      rfl
    · simp only [if_neg hvariable] at hvalues ⊢
      rw [bulkAdd_of_le (by omega), bind_eq_bind, bind_some, bulkAdd_of_le (by omega), bind_some,
        bind_some, mul_one]
      rfl
  · simp only [if_neg hrecords, add_zero]

lemma readLayout_eq (hfields : m.fields.length ≤ 64)
    (hrates : hasTemporalHistory m.formatVersion = true → m.rateFields.length ≤ 64)
    (hcells : 0 < patch.cells.x ∧ 0 < patch.cells.y ∧ 0 < patch.cells.z)
    (hfaces : ∀ axis, (cellCount (ownedExtents m.globalCells patch axis)).isSome)
    (hbytes : blockBytes m patch (boxSize patch.cells * m.cellRecordBytes.toNat) ≤ kMaximumVectorBytes) :
    ∃ layout, readLayout m patch false = some layout ∧
      layout.encoded = blockBytes m patch (boxSize patch.cells * m.cellRecordBytes.toNat) ∧
      layout.owned ≤ blockBytes m patch (boxSize patch.cells * m.cellRecordBytes.toNat) + 2 ^ 62 := by
  have hmax : maxU64 = 2 ^ 64 - 1 := rfl
  have hbound : kMaximumVectorBytes = 2 ^ 63 - 1 := rfl
  have hheader := headerBytes_eq hfields hrates
  have hx := boxSize_le_owned (hfaces .x)
  have hy := boxSize_le_owned (hfaces .y)
  have hz := boxSize_le_owned (hfaces .z)
  have hsum := sum_faceCounts m.globalCells patch
  have hfaceValues := faces_le_values m patch
  have hdescr := descriptors_le hfields hrates patch
  have harrays : arrayBytes (arrayCounts m patch) = _ := arrayBytes_layout (rfl : layersOf m = _)
  have hvalues : blockBytes m patch (boxSize patch.cells * m.cellRecordBytes.toNat) = 52 + commonBytes m +
      ((arraysLayout m patch (layersOf m)).vectors + if kCellRecordFormatVersion ≤ m.formatVersion then 1 else 0) * 8 +
      ((arraysLayout m patch (layersOf m)).values + recordValues m (boxSize patch.cells)) := by
    unfold blockBytes recordValues
    rw [harrays]
    split_ifs <;> ring
  rw [hvalues] at hbytes ⊢
  obtain ⟨b₁, b₂, h₁, h₂, h₃⟩ := arraysLayout_run hfields hrates hfaces (by omega)
  have hcount : cellCount patch.cells = some (boxSize patch.cells) := cellCount_of_le hcells (by omega)
  have hcover : BulkBytes.add 0 (boxSize patch.cells) = some (boxSize patch.cells) := by
    rw [bulkAdd_of_le (by omega), mul_one, zero_add]
  unfold readLayout
  have hrecords : LayoutBytes.records m (boxSize patch.cells) (arraysLayout m patch (layersOf m)) = _ :=
    layoutRecords_of_le (by omega) (by omega)
  have hlayers : (if hasTemporalHistory m.formatVersion = true then 2 else 1) = layersOf m := rfl
  simp only [hcount, bind_eq_bind, bind_some, hcover, hlayers, h₁, hheader, Bool.and_false, Bool.not_false,
    Bool.and_true, Bool.false_eq_true, if_false, decide_eq_true_eq]
  generalize arraysLayout m patch (layersOf m) = bytes at *
  have hvectors : BulkBytes.add (52 + commonBytes m)
      (bytes.vectors + if kCellRecordFormatVersion ≤ m.formatVersion then 1 else 0) 8 = some (52 + commonBytes m +
        (bytes.vectors + if kCellRecordFormatVersion ≤ m.formatVersion then 1 else 0) * 8) := bulkAdd_of_le (by omega)
  have hoffsets : 24 * boxSize patch.cells ≤ bytes.values + recordValues m (boxSize patch.cells) := by omega
  generalize (bytes.vectors + if kCellRecordFormatVersion ≤ m.formatVersion then 1 else 0) = vectors at *
  generalize bytes.values + recordValues m (boxSize patch.cells) = values at *
  have howned : BulkBytes.add values bytes.descriptors = some (values + bytes.descriptors) := by
    rw [bulkAdd_of_le (by omega), mul_one]
  have hencoded : BulkBytes.add (52 + commonBytes m + vectors * 8) values = some (52 + commonBytes m + vectors * 8 + values) := by
    rw [bulkAdd_of_le (by omega), mul_one]
  have hmore : BulkBytes.add (values + bytes.descriptors) (boxSize patch.cells + 1) 8 =
      some (values + bytes.descriptors + (boxSize patch.cells + 1) * 8) := bulkAdd_of_le (by omega)
  cases hhistory : hasTemporalHistory m.formatVersion with
  | true =>
    simp only [hhistory, if_true] at h₂ ⊢
    simp only [h₂, h₃, bind_some, hrecords, howned, hvectors, hencoded, hmore]
    split_ifs
    · exact ⟨_, rfl, rfl, by dsimp only; omega⟩
    · exact ⟨_, rfl, rfl, by dsimp only; omega⟩
  | false =>
    simp only [hhistory, Bool.false_eq_true, if_false, some.injEq] at h₂ ⊢
    simp only [h₂, h₃, bind_some, hrecords, howned, hvectors, hencoded, hmore]
    split_ifs
    · exact ⟨_, rfl, rfl, by dsimp only; omega⟩
    · exact ⟨_, rfl, rfl, by dsimp only; omega⟩

structure HeaderOf (s : RestartSnapshot) (m : Manifest) : Prop where
  version : m.formatVersion = s.format
  globalCells : m.globalCells = s.globalCells
  fields : m.fields = s.common.fields
  rateFields : hasTemporalHistory s.format = true → m.rateFields = s.common.rateFields
  recordBytes : kCellRecordFormatVersion ≤ s.format → m.cellRecordBytes = s.cellRecords.recordBytes

lemma headerOf_decoded (s : RestartSnapshot) (manifest : Manifest) (records : List RankRecord) :
    HeaderOf s { decodedCommon s.format s.common manifest with ranks := records } := by
  unfold decodedCommon decodedCellRecord decodedSignature decodedHistory withHistory
  constructor
  · split_ifs <;> rfl
  · split_ifs <;> rfl
  · split_ifs <;> rfl
  · intro hhistory
    rw [if_pos hhistory]
    split_ifs <;> rfl
  · intro hrecords
    rw [if_pos hrecords]
    rfl

lemma arrayCounts_of_header (h : HeaderOf s m) (patch : MeshPatch) :
    arrayCounts m patch = arrayCounts s.common patch := by
  have hversion : s.common.formatVersion = s.format := rfl
  have hglobal : s.common.globalCells = s.globalCells := rfl
  unfold arrayCounts
  rw [h.version, h.globalCells, h.fields, hversion, hglobal]
  split_ifs with hhistory
  · rw [h.rateFields hhistory]
  · rfl

lemma blockBytes_of_header (h : HeaderOf s m) (patch : MeshPatch) (payload : ℕ) :
    blockBytes m patch payload = blockBytes s.common patch payload := by
  have hversion : s.common.formatVersion = s.format := rfl
  have hcommon : commonBytes m = commonBytes s.common := by
    unfold commonBytes
    rw [h.version, h.fields, hversion]
    split_ifs with hhistory <;> first | rw [h.rateFields hhistory] | rfl
  rw [blockBytes, blockBytes, hcommon, arrayCounts_of_header h, h.version, hversion]

lemma decodedCommon_of_signed (hs : HeaderFits s.format s.common) (hroot : HeaderFits root.format root.common)
    (h : s.signed = root.signed) (manifest : Manifest) :
    s.format = root.format ∧ decodedCommon s.format s.common manifest = decodedCommon root.format root.common manifest := by
  obtain ⟨hversion, hcommon⟩ := append_inj h (by rw [length_encoder_u32, length_encoder_u32])
  have hformat : s.format = root.format := by
    have hread : Yields Reader.u32 (Encoder.u32 s.format) [] s.format := u32_yields s.format
    rw [hversion] at hread
    exact hread.unique (u32_yields root.format)
  refine ⟨hformat, ?_⟩
  have hread : Yields _ s.encodeCommon [] _ := decodeCommon_yields hs manifest
  rw [hcommon] at hread
  rw [hformat] at hread ⊢
  exact hread.unique (decodeCommon_yields hroot manifest)

lemma ownedFaces_some (h : rankBlockSize s = some n) (axis : CartesianAxis) :
    (cellCount (ownedExtents s.globalCells s.patch axis)).isSome := by
  have hfaces : ∀ {b n : ℕ}, addFaces s.globalCells s.patch b = some n →
      (cellCount (ownedExtents s.globalCells s.patch axis)).isSome := by
    intro b n h
    unfold addFaces axes at h
    obtain ⟨b₁, hx, h⟩ := bind_eq_some_iff.mp h
    obtain ⟨b₂, hy, h⟩ := bind_eq_some_iff.mp h
    obtain ⟨b₃, hz, h⟩ := bind_eq_some_iff.mp h
    cases axis with
    | x =>
      obtain ⟨count, hcount, -⟩ := bind_eq_some_iff.mp hx
      exact isSome_of_eq_some hcount
    | y =>
      obtain ⟨count, hcount, -⟩ := bind_eq_some_iff.mp hy
      exact isSome_of_eq_some hcount
    | z =>
      obtain ⟨count, hcount, -⟩ := bind_eq_some_iff.mp hz
      exact isSome_of_eq_some hcount
  obtain ⟨cells, -, h⟩ := bind_eq_some_iff.mp h
  obtain ⟨b₁, -, h⟩ := bind_eq_some_iff.mp h
  split_ifs at h with hexact
  · obtain ⟨b₂, -, h⟩ := bind_eq_some_iff.mp h
    obtain ⟨b₃, -, h⟩ := bind_eq_some_iff.mp h
    obtain ⟨b₄, -, h⟩ := bind_eq_some_iff.mp h
    obtain ⟨b₅, hflux, -⟩ := bind_eq_some_iff.mp h
    exact hfaces hflux
  · obtain ⟨b₂, hflux, -⟩ := bind_eq_some_iff.mp h
    exact hfaces hflux

/-- The bytes of the records that the manifest does not tell. -/
def unknownBytes (s : RestartSnapshot) : ℕ :=
  if s.format = kVariableCellRecordFormatVersion then s.cellRecords.values.size else 0

lemma source_layout (hfits : SnapshotFits s) (hheader : HeaderFits s.format s.common) (hm : HeaderOf s m)
    (hsize : rankBlockSize s = some n) (hn : n ≤ kMaximumVectorBytes) :
    ∃ layout, readLayout m ⟨s.patch.begin, s.patch.cells, {}, {}⟩ false = some layout ∧
      layout.encoded + unknownBytes s = n ∧ layout.owned + unknownBytes s ≤ n + 2 ^ 62 := by
  have hpred := rankBlockSize_eq hfits hsize
  rw [← blockBytes_of_header hm] at hpred
  have hpayload : blockBytes m s.patch (boxSize s.patch.cells * m.cellRecordBytes.toNat) + unknownBytes s = n := by
    rw [hpred]
    unfold blockBytes unknownBytes
    rw [hm.version]
    by_cases hrecords : kCellRecordFormatVersion ≤ s.format
    · have hidentity := (records_iff_identity s).mp hrecords
      have hvariable := variable_iff hidentity (hfits.counted hidentity)
      rw [if_pos hrecords, if_pos hrecords, hm.recordBytes hrecords]
      split_ifs with hformat
      · rw [hvariable.mp hformat]
        change _ + (8 + boxSize s.patch.cells * 0 + _) + _ = _
        ring
      · rw [hfits.fixed hidentity fun hzero => hformat (hvariable.mpr hzero)]
        rfl
    · have hformat : s.format ≠ kVariableCellRecordFormatVersion := by
        intro hformat
        rw [hformat] at hrecords
        exact hrecords (by decide)
      rw [if_neg hrecords, if_neg hrecords, if_neg hformat]
  have hcells : 0 < s.patch.cells.x ∧ 0 < s.patch.cells.y ∧ 0 < s.patch.cells.z := by
    obtain ⟨cells, hcells, -⟩ := bind_eq_some_iff.mp hsize
    exact (cellCount_eq hcells).2.2
  have hlayout : ∃ layout, readLayout m ⟨s.patch.begin, s.patch.cells, {}, {}⟩ false = some layout ∧ _ ∧ _ := readLayout_eq
    (by rw [hm.fields]; exact hheader.count.2)
    (fun hhistory => by
      rw [hm.version] at hhistory
      rw [hm.rateFields hhistory]
      exact (hheader.rateCount hhistory).2)
    hcells (by rw [hm.globalCells]; exact ownedFaces_some hsize)
    (by
      change blockBytes m s.patch (boxSize s.patch.cells * m.cellRecordBytes.toNat) ≤ _
      omega)
  obtain ⟨layout, hlayout, hencoded, howned⟩ := hlayout
  change layout.encoded = blockBytes m s.patch (boxSize s.patch.cells * m.cellRecordBytes.toNat) at hencoded
  change layout.owned ≤ blockBytes m s.patch (boxSize s.patch.cells * m.cellRecordBytes.toNat) + _ at howned
  exact ⟨layout, hlayout, by omega, by omega⟩

lemma sourceLayout_ok {source : ReadLayout} (h : sourceLayout m record = .ok source) :
    source.encoded = record.bytes.toNat ∧ ∃ layout, readLayout m ⟨record.begin, record.cells, {}, {}⟩ false = some layout ∧
      layout.encoded ≤ record.bytes.toNat ∧
      (m.formatVersion ≠ kVariableCellRecordFormatVersion → record.bytes.toNat = layout.encoded) := by
  unfold sourceLayout at h
  cases hlayout : readLayout m ⟨record.begin, record.cells, {}, {}⟩ false with
  | none => simp [hlayout] at h
  | some layout =>
    rw [hlayout] at h
    dsimp only at h
    split_ifs at h with hvariable hbad hbad
    · simp only [Bool.or_eq_true, decide_eq_true_eq, not_or, not_lt] at hbad
      obtain rfl := Except.ok.inj h
      exact ⟨rfl, layout, rfl, hbad.1.1, fun hne => absurd hvariable hne⟩
    · simp only [ne_eq, Decidable.not_not] at hbad
      obtain rfl := Except.ok.inj h
      exact ⟨hbad.symm, layout, rfl, hbad.ge, fun _ => hbad⟩

lemma sourceLayout_error (h : sourceLayout m record = .error e) : e = ⟨.ioFailure, kRestartManifest⟩ := by
  unfold sourceLayout at h
  cases hlayout : readLayout m ⟨record.begin, record.cells, {}, {}⟩ false with
  | none =>
    rw [hlayout] at h
    exact (Except.error.inj h).symm
  | some layout =>
    rw [hlayout] at h
    dsimp only at h
    split_ifs at h <;> exact (Except.error.inj h).symm

lemma orBudget_error (h : orBudget value = .error e) : e = budgetFailure := by
  cases value with
  | none => exact (Except.error.inj h).symm
  | some value => simp [orBudget] at h

lemma bind_error {ε α β : Type} {x : Except ε α} {f : α → Except ε β} {e : ε} (h : (x >>= f) = .error e) :
    x = .error e ∨ ∃ a, x = .ok a ∧ f a = .error e := by
  cases x with
  | error e' => exact .inl (by simpa [bind, Except.bind] using h)
  | ok a => exact .inr ⟨a, rfl, h⟩

lemma largestBlock_ok
    (h : largestBlock m records largest = .ok n) : ∀ record ∈ records, ∃ source, sourceLayout m record = .ok source := by
  induction records generalizing largest with
  | nil => simp
  | cons record records ih =>
    unfold largestBlock at h
    obtain ⟨source, hsource, h⟩ := bind_ok h
    obtain ⟨block, -, h⟩ := bind_ok h
    exact forall_mem_cons.mpr ⟨⟨source, hsource⟩, ih h⟩

lemma largestBlock_error (h : largestBlock m records largest = .error e) :
    e = budgetFailure ∨ ∃ record ∈ records, sourceLayout m record = .error e := by
  induction records generalizing largest with
  | nil => simp [largestBlock] at h
  | cons record records ih =>
    unfold largestBlock at h
    rcases bind_error h with hsource | ⟨source, -, h⟩
    · exact .inr ⟨record, mem_cons_self, hsource⟩
    rcases bind_error h with hblock | ⟨block, -, h⟩
    · exact .inl (orBudget_error hblock)
    rcases ih h with hbudget | ⟨other, hother, he⟩
    · exact .inl hbudget
    · exact .inr ⟨other, mem_cons_of_mem _ hother, he⟩

lemma planReadBulk_cases (m : Manifest) (capacity : ManifestCapacity) (target : MeshPatch) (retained limit more : ℕ)
    (report : BulkReport) :
    let status := (planReadBulk m capacity target retained limit report more).1
    (status = {} ∧ ∀ record ∈ m.ranks, ∃ source, sourceLayout m record = .ok source) ∨ status = budgetFailure ∨
      ∃ record ∈ m.ranks, sourceLayout m record = .error status := by
  intro status
  have hstatus : status = (planReadBulk m capacity target retained limit report more).1 := rfl
  unfold planReadBulk at hstatus
  cases hplan : planBytes m capacity target retained more with
  | error e =>
    rw [hplan] at hstatus
    change status = e at hstatus
    rw [hstatus]
    right
    unfold planBytes at hplan
    cases htarget : readLayout m target true with
    | none =>
      rw [htarget] at hplan
      exact .inl (Except.error.inj hplan).symm
    | some layout =>
      rw [htarget] at hplan
      dsimp only at hplan
      split_ifs at hplan
      · exact .inl (Except.error.inj hplan).symm
      · rcases bind_error hplan with hblocks | ⟨largest, -, hplan⟩
        · exact largestBlock_error hblocks
        rcases bind_error hplan with hpeak | ⟨peak, -, hplan⟩
        · exact .inl (orBudget_error hpeak)
        · exact absurd hplan (by simp [pure, Except.pure])
  | ok found =>
    rw [hplan] at hstatus
    dsimp only at hstatus
    split_ifs at hstatus
    · refine .inl ⟨hstatus, ?_⟩
      unfold planBytes at hplan
      cases htarget : readLayout m target true with
      | none => simp [htarget] at hplan
      | some layout =>
        rw [htarget] at hplan
        dsimp only at hplan
        split_ifs at hplan
        obtain ⟨largest, hblocks, -⟩ := bind_ok hplan
        exact largestBlock_ok hblocks
    · exact .inr (.inl hstatus)

/-- A block that a rank has written, with the header that the ranks agree on. -/
structure Written (root s : RestartSnapshot) (data : List UInt8) : Prop where
  valid : s.valid = true
  signed : s.signed = root.signed
  encoded : ∃ memory size rank maximumBytes, encodeRankBlock memory s size rank maximumBytes = .ok data

lemma sourceLayout_written (hwritten : Written root s data)
    (hm : HeaderOf s m) : ∃ source, sourceLayout m (rankRecordOf s data) = .ok source := by
  obtain ⟨hfits, hheader⟩ := valid_fits hwritten.valid
  obtain ⟨memory, size, rank, maximumBytes, hencoded⟩ := hwritten.encoded
  obtain ⟨hsize, hlong, -⟩ := (encodeRankBlock_length hfits memory size rank maximumBytes).2 data hencoded
  obtain ⟨layout, hlayout, hlength, howned⟩ := source_layout hfits hheader hm hsize hlong
  have hbound : kMaximumVectorBytes = 2 ^ 63 - 1 := rfl
  have hmax : maxU64 = 2 ^ 64 - 1 := rfl
  have hbytes : (rankRecordOf s data).bytes.toNat = data.length := UInt64.toNat_ofNat_of_lt' (by
    change data.length < 2 ^ 64
    omega)
  unfold sourceLayout
  rw [show readLayout m ⟨(rankRecordOf s data).begin, (rankRecordOf s data).cells, {}, {}⟩ false = some layout from hlayout]
  dsimp only
  rw [hbytes, hm.version]
  unfold unknownBytes at hlength howned
  split_ifs with hvariable hbad hbad
  · rw [if_pos hvariable] at hlength howned
    simp only [Bool.or_eq_true, decide_eq_true_eq] at hbad
    omega
  · exact ⟨_, rfl⟩
  · rw [if_neg hvariable] at hlength
    exact absurd hlength.symm hbad
  · exact ⟨_, rfl⟩

lemma int3Fits_of_patch (hglobal : Int3Fits global)
    (h : validGlobalPatch global patch = true) : Int3Fits patch.begin ∧ Int3Fits patch.cells := by
  obtain ⟨⟨hx, hx'⟩, ⟨hy, hy'⟩, ⟨hz, hz'⟩⟩ := hglobal
  unfold validGlobalPatch at h
  split_ifs at h with hbad
  simp only [Bool.or_eq_true, decide_eq_true_eq, not_or, not_le, not_lt, Bool.and_eq_true] at hbad h
  have hmax : maxI32 = 2 ^ 31 - 1 := rfl
  refine ⟨⟨⟨?_, ?_⟩, ⟨?_, ?_⟩, ?_, ?_⟩, ⟨?_, ?_⟩, ⟨?_, ?_⟩, ?_, ?_⟩ <;> omega

lemma recordFits_written (hwritten : Written root s data)
    (hglobal : s.globalCells = root.globalCells) : RecordFits root.globalCells (rankRecordOf s data) := by
  obtain ⟨hfits, hheader⟩ := valid_fits hwritten.valid
  obtain ⟨memory, size, rank, maximumBytes, hencoded⟩ := hwritten.encoded
  obtain ⟨-, hlong, hlength⟩ := (encodeRankBlock_length hfits memory size rank maximumBytes).2 data hencoded
  have hbound : kMaximumVectorBytes = 2 ^ 63 - 1 := rfl
  have hbytes : (rankRecordOf s data).bytes.toNat = data.length := UInt64.toNat_ofNat_of_lt' (by
    change data.length < 2 ^ 64
    omega)
  obtain ⟨hbegin, hcells⟩ := int3Fits_of_patch hheader.globalCells hfits.patch
  refine ⟨hbegin, hcells, ?_, ?_, ?_⟩
  · rw [UInt64.le_iff_toNat_le, hbytes, hlength]
    change 16 ≤ blockBytes s.common s.patch s.cellRecords.values.size
    unfold blockBytes
    omega
  · change hashBytes data ≠ 0
    unfold hashBytes
    dsimp only
    split_ifs with hzero
    · decide
    · exact hzero
  · rw [← hglobal]
    exact hfits.patch

/-- For every manifest that a root writes: the block of a valid snapshot with the root's header has the
length predicted, which is the length that the layout of its record gives, apart from records of many
lengths. The plan of the reader refuses no such block, and it accepts no other length for one. -/
theorem restart_sizes_agree {root : RestartSnapshot} (hroot : root.valid = true) {size maximumRanks : UInt32}
    {records : List RankRecord} (hsize : size ≠ 0 ∧ size ≤ maximumRanks) (hcount : size.toNat = records.length)
    (hrecords : ∀ record ∈ records, RecordFits root.globalCells record ∨
      ∃ s data, Written root s data ∧ record = rankRecordOf s data) :
    ∃ m rest, parseManifest (encodeManifest root.common root.format size records) maximumRanks = .value m rest ∧
      m.ranks = records ∧
      (∀ s : RestartSnapshot, s.valid = true → s.signed = root.signed →
        (∀ memory size rank maximumBytes,
          encodeRankBlock memory s size rank maximumBytes ≠ .error (.status ⟨.invalidPlan, kRestartRankFile⟩)) ∧
        (∀ n, rankBlockSize s = some n → n ≤ kMaximumVectorBytes → ∃ layout,
          readLayout m ⟨s.patch.begin, s.patch.cells, {}, {}⟩ false = some layout ∧ layout.encoded + unknownBytes s = n) ∧
        ∀ data, Written root s data → rankBlockSize s = some data.length ∧
          (∃ source, sourceLayout m (rankRecordOf s data) = .ok source ∧ source.encoded = data.length) ∧
          ∀ capacity target retained limit report more,
            (planReadBulk m capacity target retained limit report more).1 = {} →
            m.formatVersion ≠ kVariableCellRecordFormatVersion → ∀ record ∈ records, record.begin = s.patch.begin →
              record.cells = s.patch.cells → record.bytes.toNat = data.length) ∧
      ((∀ record ∈ records, ∃ s data, Written root s data ∧ record = rankRecordOf s data) →
        ∀ capacity target retained limit report more,
          (planReadBulk m capacity target retained limit report more).1 = {} ∨
          (planReadBulk m capacity target retained limit report more).1 = budgetFailure) := by
  obtain ⟨hfits, hheader⟩ := valid_fits hroot
  have hglobal : validGlobalPatch root.common.globalCells ⟨{}, root.common.globalCells, {}, {}⟩ = true := by
    have hpatch := hfits.patch
    change validGlobalPatch root.globalCells ⟨{}, root.globalCells, {}, {}⟩ = true
    unfold validGlobalPatch at hpatch ⊢
    split_ifs at hpatch with hbad
    simp only [Bool.or_eq_true, decide_eq_true_eq, not_or, not_le, not_lt] at hbad
    rw [if_neg (by simp [hbad])]
    simp
  have hagree : ∀ s : RestartSnapshot, s.valid = true → s.signed = root.signed →
      HeaderOf s { decodedCommon root.format root.common { rankCount := size } with ranks := records } := by
    intro s hs hsigned
    obtain ⟨-, hcommon⟩ := decodedCommon_of_signed (valid_fits hs).2 hheader hsigned { rankCount := size }
    rw [← hcommon]
    exact headerOf_decoded s _ records
  have hfit : ∀ record ∈ records, RecordFits root.common.globalCells record := by
    intro record hrecord
    rcases hrecords record hrecord with hfit | ⟨s, data, hwritten, rfl⟩
    · exact hfit
    · have hs := (hagree s hwritten.valid hwritten.signed).globalCells
      rw [(hagree root hroot rfl).globalCells] at hs
      exact recordFits_written hwritten hs.symm
  obtain ⟨rest, hparse⟩ := parseManifest_encodeManifest hheader (format_known root) hsize hcount hglobal hfit
  generalize hranks : ({ decodedCommon root.format root.common { rankCount := size } with ranks := records } : Manifest) = m
    at hparse hagree
  have hranks : m.ranks = records := by rw [← hranks]
  refine ⟨m, rest, hparse, hranks, fun s hs hsigned => ?_, fun hall capacity target retained limit report more => ?_⟩
  · obtain ⟨hsFits, hsHeader⟩ := valid_fits hs
    have hm := hagree s hs hsigned
    refine ⟨fun memory size rank maximumBytes => (encodeRankBlock_length hsFits memory size rank maximumBytes).1,
      fun n hn hle => ?_, fun data hwritten => ?_⟩
    · obtain ⟨layout, hlayout, hlength, -⟩ := source_layout hsFits hsHeader hm hn hle
      exact ⟨layout, hlayout, hlength⟩
    · obtain ⟨memory, size', rank, maximumBytes, hencoded⟩ := hwritten.encoded
      obtain ⟨hpredicted, hlong, -⟩ := (encodeRankBlock_length hsFits memory size' rank maximumBytes).2 data hencoded
      have hbound : kMaximumVectorBytes = 2 ^ 63 - 1 := rfl
      refine ⟨hpredicted, ?_, fun capacity target retained limit report more hok hfixed record hrecord hbegin hcells => ?_⟩
      · obtain ⟨source, hsource⟩ := sourceLayout_written hwritten hm
        refine ⟨source, hsource, (sourceLayout_ok hsource).1.trans (UInt64.toNat_ofNat_of_lt' ?_)⟩
        change data.length < 2 ^ 64
        omega
      · rcases planReadBulk_cases m capacity target retained limit more report with ⟨-, hall⟩ | hbudget | ⟨refused, -, herror⟩
        · obtain ⟨source, hsource⟩ := hall record (by rwa [hranks])
          obtain ⟨-, layout, hlayout, -, hexact⟩ := sourceLayout_ok hsource
          obtain ⟨layout', hlayout', hlength, -⟩ := source_layout hsFits hsHeader hm hpredicted hlong
          rw [hbegin, hcells, hlayout'] at hlayout
          obtain rfl := some.inj hlayout
          have hunknown : unknownBytes s = 0 := if_neg (by rw [← hm.version]; exact hfixed)
          rw [hexact hfixed]
          omega
        · rw [hok] at hbudget
          exact nomatch hbudget
        · rw [hok] at herror
          exact nomatch sourceLayout_error herror
  · rcases planReadBulk_cases m capacity target retained limit more report with ⟨hok, -⟩ | hbudget | ⟨record, hrecord, herror⟩
    · exact .inl hok
    · exact .inr hbudget
    · obtain ⟨s, data, hwritten, rfl⟩ := hall record (by rwa [← hranks])
      obtain ⟨source, hsource⟩ := sourceLayout_written hwritten (hagree s hwritten.valid hwritten.signed)
      rw [hsource] at herror
      exact nomatch herror

/-- A field of one cell. -/
def oneCell (field components : ℕ) : FieldView where
  base := some ⟨0, 0, 0⟩
  interior := ⟨1, 1, 1⟩
  components := components
  strideY := 1
  strideZ := 1
  componentStride := 1
  field := field
  revision := 1

def oneFace (axis : CartesianAxis) (extents : Int3) : FaceFieldView where
  base := some ⟨.external 0, 0⟩
  extents := extents
  strideY := 2
  strideZ := 4
  axis := axis
  storageIdentity := 1
  revisionDomain := 1

def oneCertificate : FaceFluxCertificate where
  revision := 1
  authority := 1
  storage := 1
  revisionDomain := 1
  xBase := some ⟨.external 0, 0⟩
  yBase := some ⟨.external 0, 0⟩
  zBase := some ⟨.external 0, 0⟩
  xStrideY := 2
  xStrideZ := 4
  yStrideY := 2
  yStrideZ := 4
  zStrideY := 2
  zStrideZ := 4
  cells := ⟨1, 1, 1⟩

def oneSnapshot : RestartSnapshot where
  globalCells := ⟨1, 1, 1⟩
  patch := { cells := ⟨1, 1, 1⟩ }
  plan := 1
  schema := 1
  geometry := 1
  dt := ⟨0x3ff0000000000000⟩
  step := 1
  fields := .of [{ role := .velocity, values := oneCell 1 3 }, { role := .pressureAbsolute, values := oneCell 2 1 },
    { role := .enthalpy, values := oneCell 3 1 }]
  finalMassFlux := ⟨oneFace .x ⟨2, 1, 1⟩, oneFace .y ⟨1, 2, 1⟩, oneFace .z ⟨1, 1, 2⟩, 1, oneCertificate⟩

theorem restart_sizes_agree_one : oneSnapshot.valid = true ∧ rankBlockSize oneSnapshot = some 280 ∧
      ∃ m rest, parseManifest (encodeManifest oneSnapshot.common oneSnapshot.format 1 [⟨{}, ⟨1, 1, 1⟩, 280, 1⟩]) 4 =
        .value m rest ∧ m.ranks = [⟨{}, ⟨1, 1, 1⟩, 280, 1⟩] := by
  have hvalid : oneSnapshot.valid = true := by decide +kernel
  have hfits : RecordFits oneSnapshot.globalCells ⟨{}, ⟨1, 1, 1⟩, 280, 1⟩ :=
    ⟨by unfold Int3Fits; decide, by unfold Int3Fits; decide, by decide, by decide, by decide⟩
  have hsize : (1 : UInt32) ≠ 0 ∧ (1 : UInt32) ≤ 4 := by decide
  have hcount : (1 : UInt32).toNat = [(⟨{}, ⟨1, 1, 1⟩, 280, 1⟩ : RankRecord)].length := rfl
  obtain ⟨m, rest, hparse, hranks, -⟩ := restart_sizes_agree hvalid hsize hcount (fun record hrecord => .inl (by
    rw [mem_singleton.mp hrecord]
    exact hfits))
  exact ⟨hvalid, by decide +kernel, m, rest, hparse, hranks⟩

end HundunFlow.Proofs
