import HundunFlow.RestartFormat

/-!
# The restart decoders are exact

Every reader takes the bytes that the encoder makes of its value.
-/

namespace HundunFlow.Proofs

open Lib Lib.Decoder Restart List

variable {P : ℕ → Prop}

/-- What the parsers may allocate: catalogs of at most 64 entries, whatever the bytes left, and
otherwise as many elements as the bytes left hold, with one more offset than there are records. -/
def AllowedArray (a : Allocation RestartArray) : Prop :=
  match a.what with
  | .fieldMeta | .rateMeta | .imageFields => a.count ≤ 64
  | .recordOffsets => a.count ≤ a.remaining / 4 + 1
  | .rankDirectory | .values | .recordLengths | .recordBytes => a.count * a.width ≤ a.remaining

variable (version maximumRanks : UInt32)

variable (manifest : Manifest) (cells : ℕ) (global : Int3)

variable (patch : MeshPatch) (recordBytes : UInt32)

lemma integer_takes (count : ℕ) : Takes AllowedArray P (Reader.integer count) fun v taken =>
    leBytes count v = taken ∧ v < 256 ^ count := by
  refine Takes.bind (bytes_takes count ()) ?_
  rintro l taken ⟨rfl, rfl⟩
  refine Takes.pure ⟨?_, leValue_lt l⟩
  rw [append_nil]
  exact leBytes_leValue l

lemma u8_takes : Takes AllowedArray P Reader.u8 fun v taken => taken = Encoder.u8 v := by
  refine Takes.bind (integer_takes 1) ?_
  rintro wide taken ⟨rfl, hlt⟩
  refine Takes.pure ?_
  rw [append_nil, Encoder.u8, UInt8.toNat_ofNat', Nat.mod_eq_of_lt (by simpa using hlt)]

lemma u16_takes : Takes AllowedArray P Reader.u16 fun v taken => taken = Encoder.u16 v := by
  refine Takes.bind (integer_takes 2) ?_
  rintro wide taken ⟨rfl, hlt⟩
  refine Takes.pure ?_
  rw [append_nil, Encoder.u16, UInt16.toNat_ofNat', Nat.mod_eq_of_lt (by simpa using hlt)]

lemma u32_takes : Takes AllowedArray P Reader.u32 fun v taken => taken = Encoder.u32 v := by
  refine Takes.bind (integer_takes 4) ?_
  rintro wide taken ⟨rfl, hlt⟩
  refine Takes.pure ?_
  rw [append_nil, Encoder.u32, UInt32.toNat_ofNat', Nat.mod_eq_of_lt (by simpa using hlt)]

lemma u64_takes : Takes AllowedArray P Reader.u64 fun v taken => taken = Encoder.u64 v := by
  refine Takes.bind (integer_takes 8) ?_
  rintro wide taken ⟨rfl, hlt⟩
  refine Takes.pure ?_
  rw [append_nil, Encoder.u64, UInt64.toNat_ofNat', Nat.mod_eq_of_lt (by simpa using hlt)]

lemma i32_takes : Takes AllowedArray P Reader.i32 fun v taken => taken = Encoder.i32 v := by
  refine Takes.bind (integer_takes 4) ?_
  rintro bits taken ⟨rfl, hlt⟩
  refine Takes.pure ?_
  have hbits : ((if bits < 2 ^ 31 then (bits : ℤ) else (bits : ℤ) - 2 ^ 32) % 2 ^ 32).toNat = bits := by
    norm_num at hlt
    split_ifs <;> omega
  rw [append_nil, Encoder.i32, hbits]

lemma real_takes : Takes AllowedArray P Reader.real fun v taken => taken = Encoder.real v := by
  refine Takes.bind u64_takes ?_
  rintro bits taken rfl
  exact Takes.pure (append_nil _)

lemma int3_takes : Takes AllowedArray P Reader.int3 fun v taken => taken = Encoder.int3 v := by
  refine Takes.bind i32_takes ?_
  rintro x taken rfl
  refine Takes.bind i32_takes ?_
  rintro y taken rfl
  refine Takes.bind i32_takes ?_
  rintro z taken rfl
  refine Takes.pure ?_
  simp only [Encoder.int3, append_nil, append_assoc]

lemma finite_takes : Takes AllowedArray P Reader.finite fun v taken => taken = Encoder.real v ∧ True := by
  refine Takes.bind real_takes ?_
  rintro value taken rfl
  exact Takes.require fun _ => Takes.pure ⟨append_nil _, trivial⟩

lemma ofRaw_toRaw {raw : UInt8} {role : RestartFieldRole} (h : RestartFieldRole.ofRaw raw = some role) :
    role.toRaw = raw := by
  have hcodes : ∀ i < 12, ((RestartFieldRole.all[i]?).all fun role => role.toRaw.toNat = i) = true := by decide
  have hlt : raw.toNat < 12 := (List.getElem?_eq_some_iff.mp h).1
  have hcode := hcodes raw.toNat hlt
  have hrole : RestartFieldRole.all[raw.toNat]? = some role := h
  rw [hrole, Option.all_some, decide_eq_true_eq] at hcode
  exact UInt8.toNat_inj.mp hcode

lemma fieldMeta_takes (rates : Bool) :
    Takes AllowedArray P (Reader.fieldMeta rates) fun v taken => taken = Encoder.fieldMeta v ∧ True := by
  refine Takes.bind u8_takes ?_
  rintro raw taken rfl
  refine Takes.bind u16_takes ?_
  rintro field taken rfl
  refine Takes.bind u8_takes ?_
  rintro components taken rfl
  cases hrole : RestartFieldRole.ofRaw raw with
  | none => exact Takes.refuse _ _
  | some role =>
    refine Takes.require fun _ => Takes.pure ⟨?_, trivial⟩
    simp only [Encoder.fieldMeta, ofRaw_toRaw hrole, append_nil, append_assoc]

lemma rankRecord_takes (globalCells : Int3) : Takes AllowedArray P (Reader.rankRecord globalCells) fun v taken =>
    taken = Encoder.rankRecord v ∧ True := by
  refine Takes.bind int3_takes ?_
  rintro begin taken rfl
  refine Takes.bind int3_takes ?_
  rintro cells taken rfl
  refine Takes.bind u64_takes ?_
  rintro bytes taken rfl
  refine Takes.bind u64_takes ?_
  rintro hash taken rfl
  refine Takes.require fun _ => Takes.pure ⟨?_, trivial⟩
  simp only [Encoder.rankRecord, append_nil, append_assoc]

/-- A manifest with the fields that `decodeHistory` reads. -/
def withHistory (manifest : Manifest) (previous target : Binary64) (final prior : UInt64) (rates : List FieldMeta) :
    Manifest :=
  { manifest with
    previousPressureReference := previous
    closedMassTarget := target
    finalMassFluxRevision := final
    previousMassFluxRevision := prior
    rateFields := rates }

def encodeHistory (manifest : Manifest) : List UInt8 :=
  Encoder.real manifest.previousPressureReference ++ Encoder.real manifest.closedMassTarget ++
    Encoder.u64 manifest.finalMassFluxRevision ++ Encoder.u64 manifest.previousMassFluxRevision ++
    Encoder.u32 (UInt32.ofNat manifest.rateFields.length) ++ manifest.rateFields.flatMap Encoder.fieldMeta

lemma decodeHistory_takes (hrates : manifest.rateFields.length ≤ 64) :
    Takes AllowedArray P (decodeHistory version manifest) fun m taken =>
      (∃ previous target final prior rates, m = withHistory manifest previous target final prior rates) ∧
        taken = (if hasTemporalHistory version then encodeHistory m else []) ∧ m.rateFields.length ≤ 64 := by
  unfold decodeHistory
  split_ifs with hhistory
  · refine Takes.bind real_takes ?_
    rintro previous taken rfl
    refine Takes.bind real_takes ?_
    rintro target taken rfl
    refine Takes.bind u64_takes ?_
    rintro final taken rfl
    refine Takes.bind u64_takes ?_
    rintro prior taken rfl
    refine Takes.bind u32_takes ?_
    rintro rateCount taken rfl
    refine Takes.require fun hchecks => ?_
    have hcount : rateCount.toNat ≤ 64 := by
      simp only [Bool.and_eq_true, decide_eq_true_eq] at hchecks
      exact UInt32.le_iff_toNat_le.mp hchecks.1.1.1.1.1.1.1.2
    refine Takes.allocate (fun _ _ => hcount) (Takes.bind (times_takes (fieldMeta_takes true) _) ?_)
    rintro rates taken ⟨rfl, hlength, -⟩
    refine Takes.pure ⟨⟨previous, target, final, prior, rates, rfl⟩, ?_, hlength.trans_le hcount⟩
    simp only [encodeHistory, hlength, UInt32.ofNat_toNat, append_nil, append_assoc]
  · exact Takes.require fun _ => Takes.pure ⟨⟨_, _, _, _, _, rfl⟩, rfl, hrates⟩

lemma decodeSignature_takes : Takes AllowedArray P (decodeSignature version manifest) fun m taken =>
      (∃ signature, m = { manifest with methodHistorySignature := signature }) ∧
        taken = if hasMethodSignature version then Encoder.u64 m.methodHistorySignature else [] := by
  unfold decodeSignature
  split_ifs with hsignature
  · refine Takes.bind u64_takes ?_
    rintro signature taken rfl
    exact Takes.require fun _ => Takes.pure ⟨⟨signature, rfl⟩, append_nil _⟩
  · exact Takes.pure ⟨⟨_, rfl⟩, rfl⟩

lemma decodeCellRecord_takes : Takes AllowedArray P (decodeCellRecord version manifest) fun m taken =>
      (∃ identity bytes, m = { manifest with cellRecordIdentity := identity, cellRecordBytes := bytes }) ∧
        taken = if kCellRecordFormatVersion ≤ version then
          Encoder.u64 m.cellRecordIdentity ++ Encoder.u32 m.cellRecordBytes else [] := by
  unfold decodeCellRecord
  by_cases hrecords : kCellRecordFormatVersion ≤ version
  · simp only [hrecords, if_true]
    refine Takes.bind u64_takes ?_
    rintro identity taken rfl
    refine Takes.bind u32_takes ?_
    rintro bytes taken rfl
    exact Takes.require fun _ => Takes.pure ⟨⟨identity, bytes, rfl⟩, by rw [append_nil]⟩
  · simp only [hrecords, if_false]
    refine Takes.pure ?_
    exact ⟨⟨manifest.cellRecordIdentity, manifest.cellRecordBytes, rfl⟩, rfl⟩

/-- What `decodeCommon` promises of the manifest it fills in. -/
structure CommonTaken (version : UInt32) (manifest m : Manifest) (taken : List UInt8) : Prop where
  encoded : taken = encodeCommon m version
  version : m.formatVersion = version
  rankCount : m.rankCount = manifest.rankCount
  fields : m.fields.length ≤ 64
  rateFields : m.rateFields.length ≤ 64

lemma decodeCommon_takes (hrates : manifest.rateFields.length ≤ 64) :
    Takes AllowedArray P (decodeCommon version manifest) (CommonTaken version manifest) := by
  refine Takes.bind int3_takes ?_
  rintro globalCells taken rfl
  refine Takes.bind u64_takes ?_
  rintro plan taken rfl
  refine Takes.bind u64_takes ?_
  rintro schema taken rfl
  refine Takes.bind u64_takes ?_
  rintro geometry taken rfl
  refine Takes.bind real_takes ?_
  rintro time taken rfl
  refine Takes.bind real_takes ?_
  rintro dt taken rfl
  refine Takes.bind real_takes ?_
  rintro pressureReference taken rfl
  refine Takes.bind u64_takes ?_
  rintro step taken rfl
  refine Takes.bind u64_takes ?_
  rintro controllerState taken rfl
  refine Takes.bind u32_takes ?_
  rintro fieldCount taken rfl
  refine Takes.require fun hchecks => ?_
  have hcount : fieldCount.toNat ≤ 64 := by
    simp only [Bool.and_eq_true, decide_eq_true_eq] at hchecks
    exact UInt32.le_iff_toNat_le.mp hchecks.1.1.1.1.1.1.1.1.2
  refine Takes.allocate (fun _ _ => hcount) (Takes.bind (times_takes (fieldMeta_takes false) _) ?_)
  rintro fields taken ⟨rfl, hlength, -⟩
  refine Takes.bind (decodeHistory_takes version _ hrates) ?_
  rintro m taken ⟨⟨previous, target, final, prior, rates, rfl⟩, rfl, hrates'⟩
  refine Takes.bind (decodeSignature_takes version _) ?_
  rintro m taken ⟨⟨signature, rfl⟩, rfl⟩
  refine (decodeCellRecord_takes version _).mono ?_
  rintro m taken ⟨⟨identity, bytes, rfl⟩, rfl⟩
  refine ⟨?_, rfl, rfl, hlength.trans_le hcount, hrates'⟩
  simp only [encodeCommon, encodeHistory, withHistory, hlength, UInt32.ofNat_toNat, append_assoc]

def Ends {κ E α : Type} (p : Decoder κ E α) : Prop := ∀ s a s', p s = .value a s' → s'.rest = []

lemma Ends.bind {κ E α β : Type} {p : Decoder κ E α} {q : α → Decoder κ E β} (h : ∀ a, Ends (q a)) : Ends (p >>= q) := by
  intro s b s' hrun
  change Decoder.bind p q s = .value b s' at hrun
  unfold Decoder.bind at hrun
  cases hp : p s with
  | value a s'' =>
    rw [hp] at hrun
    exact h a s'' b s' hrun
  | refused e s'' =>
    rw [hp] at hrun
    exact nomatch hrun
  | overrun =>
    rw [hp] at hrun
    exact nomatch hrun

lemma Ends.refusing {κ E E' α : Type} {p : Decoder κ E α} (h : Ends p) (e : E') : Ends (p.refusing e) := by
  intro s a s' hrun
  unfold Decoder.refusing at hrun
  cases hp : p s with
  | value b s'' =>
    rw [hp] at hrun
    obtain ⟨rfl, rfl⟩ := Decoded.value.inj hrun
    exact h s b s'' hp
  | refused e s'' =>
    rw [hp] at hrun
    exact nomatch hrun
  | overrun =>
    rw [hp] at hrun
    exact nomatch hrun

lemma ends_of_none_left {κ E α : Type} (e : E) (a : α) : Ends (do
    let left ← remaining
    require (left = 0) e
    return a : Decoder κ E α) := by
  intro s b s' hrun
  by_cases hleft : s.rest.length = 0
  · have hvalue : (Decoded.value a s : Decoded κ E α) = .value b s' := by
      rw [← hrun]
      change _ = Decoder.bind (require (decide (s.rest.length = 0)) e) (fun _ => Decoder.pure a) s
      rw [hleft]
      rfl
    obtain ⟨-, rfl⟩ := Decoded.value.inj hvalue
    exact eq_nil_of_length_eq_zero hleft
  · have hrefused : (Decoded.refused e s : Decoded κ E α) = .value b s' := by
      rw [← hrun]
      change _ = Decoder.bind (require (decide (s.rest.length = 0)) e) (fun _ => Decoder.pure a) s
      simp only [hleft, decide_false]
      rfl
    exact nomatch hrefused

lemma appendIntegrity_of_verified {body : List UInt8} {word : UInt64}
    (h : verifiedIntegrity (body ++ Encoder.u64 word) = true) :
    Encoder.appendIntegrity body = body ++ Encoder.u64 word := by
  have hlength : (body ++ Encoder.u64 word).length - 8 = body.length := by
    simp [Encoder.u64]
  unfold verifiedIntegrity at h
  split_ifs at h
  rw [decide_eq_true_eq, hlength, drop_left, take_left, Encoder.u64, leValue_leBytes] at h
  have hword : UInt64.ofNat (word.toNat % 256 ^ 8) = word := by
    rw [Nat.mod_eq_of_lt (by simpa using word.toNat_lt), UInt64.ofNat_toNat]
  rw [Encoder.appendIntegrity, ← h, hword]

lemma manifestReader_takes : Takes AllowedArray P (manifestReader maximumRanks)
    fun m taken => ∃ word, taken = kManifestMagic ++ Encoder.u32 m.formatVersion ++ Encoder.u32 m.rankCount ++
      encodeCommon m m.formatVersion ++ m.ranks.flatMap Encoder.rankRecord ++ Encoder.u64 word := by
  refine Takes.bind (bytes_takes 8 ()) ?_
  rintro magic taken ⟨rfl, -⟩
  refine Takes.require fun hmagic => ?_
  obtain rfl := of_decide_eq_true hmagic
  refine Takes.bind u32_takes ?_
  rintro version taken rfl
  refine Takes.require fun _ => Takes.bind u32_takes ?_
  rintro rankCount taken rfl
  refine Takes.require fun _ => Takes.bind (decodeCommon_takes version _ (Nat.zero_le _)) ?_
  rintro candidate taken hcand
  refine Takes.require fun _ => Takes.remaining fun left _ => Takes.require fun hleft => ?_
  simp only [Bool.and_eq_true, decide_eq_true_eq] at hleft
  refine Takes.allocate ?_ (Takes.bind (times_takes (rankRecord_takes _) _) ?_)
  · intro n hn
    change rankCount.toNat * 40 ≤ n
    omega
  rintro ranks taken ⟨rfl, -, -⟩
  refine Takes.bind u64_takes ?_
  rintro word taken rfl
  refine Takes.remaining fun _ _ => Takes.require fun _ => Takes.pure ⟨word, ?_⟩
  obtain ⟨rfl, rfl, hrankCount, -, -⟩ := hcand
  simp only [hrankCount, append_nil, append_assoc]
  rfl

lemma manifestReader_ends : Ends (manifestReader maximumRanks) :=
  Ends.bind fun _ => Ends.bind fun _ => Ends.bind fun _ => Ends.bind fun _ => Ends.bind fun _ => Ends.bind fun _ =>
    Ends.bind fun _ => Ends.bind fun _ => Ends.bind fun _ => Ends.bind fun _ => Ends.bind fun _ => Ends.bind fun _ =>
      Ends.bind fun _ => ends_of_none_left _ _

lemma decodeValues_takes (expected : Option ℕ) :
    Takes AllowedArray P (decodeValues expected) fun l taken => taken = Encoder.values l ∧ True := by
  cases expected with
  | none => exact Takes.refuse _ _
  | some count =>
    refine Takes.bind u64_takes ?_
    rintro stored taken rfl
    refine Takes.require fun hstored => Takes.remaining fun left _ => Takes.require fun hroom => ?_
    obtain rfl := of_decide_eq_true hstored
    rw [decide_eq_true_eq] at hroom
    refine Takes.allocate ?_ ((times_takes finite_takes _).mono ?_)
    · intro n hn
      change stored.toNat * 8 ≤ n
      omega
    · rintro l taken ⟨rfl, hlength, -⟩
      rw [Encoder.values, hlength, UInt64.ofNat_toNat]
      exact ⟨rfl, trivial⟩

lemma decodeField_takes (entry : FieldMeta) : Takes AllowedArray P (decodeField cells entry)
    fun field taken => taken = Encoder.values field.values ∧ True := by
  refine Takes.bind (decodeValues_takes _) ?_
  rintro values taken ⟨rfl, -⟩
  exact Takes.pure ⟨append_nil _, trivial⟩

lemma decodeFields_takes {metadata : List FieldMeta} (hlength : metadata.length ≤ 64) :
    Takes AllowedArray P (decodeFields cells metadata) fun fs taken =>
      taken = (fs.map (·.values)).flatMap Encoder.values := by
  refine Takes.allocate (fun _ _ => hlength) ?_
  refine (forEach_takes metadata fun entry _ => decodeField_takes cells entry).mono ?_
  rintro fs taken ⟨rfl, -⟩
  rw [flatMap_map]

lemma decodeFlux_takes :
    Takes AllowedArray P (decodeFlux global patch) fun ls taken => taken = ls.flatMap Encoder.values := by
  refine (forEach_takes axes fun axis _ => decodeValues_takes _).mono ?_
  rintro ls taken ⟨rfl, -⟩
  rfl

lemma decodeHistoryFields_takes {common : Manifest} (hfields : common.fields.length ≤ 64)
    (hrates : common.rateFields.length ≤ 64) :
    Takes AllowedArray P (decodeHistoryFields version cells common) fun h taken =>
      taken = if hasTemporalHistory version then (h.1.map (·.values)).flatMap Encoder.values ++
        (h.2.1.map (·.values)).flatMap Encoder.values ++ (h.2.2.map (·.values)).flatMap Encoder.values else [] := by
  unfold decodeHistoryFields
  split_ifs with hhistory
  · refine Takes.bind (decodeFields_takes cells hfields) ?_
    rintro previous taken rfl
    refine Takes.bind (decodeFields_takes cells hrates) ?_
    rintro accepted taken rfl
    refine Takes.bind (decodeFields_takes cells hrates) ?_
    rintro rates taken rfl
    refine Takes.pure ?_
    simp only [append_nil, append_assoc]
  · exact Takes.pure rfl

lemma decodePreviousFlux_takes : Takes AllowedArray P (decodePreviousFlux version global patch) fun ls taken =>
      taken = if hasTemporalHistory version then ls.flatMap Encoder.values else [] := by
  unfold decodePreviousFlux
  split_ifs with hhistory
  · exact decodeFlux_takes global patch
  · exact Takes.pure rfl

lemma length_takes : Takes AllowedArray P Reader.u32 fun length taken => taken = Encoder.u32 length ∧ True :=
  u32_takes.mono fun _ _ h => ⟨h, trivial⟩

lemma decodeLengths_takes : Takes AllowedArray P (decodeLengths version cells recordBytes) fun found taken =>
      taken = if version = kVariableCellRecordFormatVersion then found.1.flatMap Encoder.u32 else [] := by
  unfold decodeLengths
  split_ifs with hvariable
  · refine Takes.remaining fun left _ => Takes.require fun hroom => ?_
    rw [decide_eq_true_eq] at hroom
    refine Takes.allocate ?_ (Takes.allocate ?_ (Takes.bind (times_takes length_takes cells) ?_))
    · intro n hn
      change cells * 4 ≤ n
      omega
    · intro n hn
      change cells + 1 ≤ n / 4 + 1
      omega
    · rintro lengths taken ⟨rfl, -⟩
      exact Takes.pure (append_nil _)
  · exact Takes.pure rfl

lemma decodeBytes_takes (encodedBytes : UInt64) (expectedBytes : Option ℕ) :
    Takes AllowedArray P (decodeBytes encodedBytes expectedBytes) fun l taken =>
      taken = l ∧ encodedBytes = UInt64.ofNat l.length := by
  cases expectedBytes with
  | none => exact Takes.refuse _ _
  | some count =>
    refine Takes.remaining fun left _ => Takes.require fun hchecks => ?_
    simp only [Bool.and_eq_true, decide_eq_true_eq] at hchecks
    refine Takes.allocate ?_ ((bytes_takes count ()).mono ?_)
    · intro n hn
      change count * 1 ≤ n
      omega
    · rintro l taken ⟨rfl, hlength⟩
      rw [hlength, ← hchecks.1, UInt64.ofNat_toNat]
      exact ⟨rfl, rfl⟩

lemma decodeCellRecords_takes : Takes AllowedArray P (decodeCellRecords version cells recordBytes) fun r taken =>
      taken = if kCellRecordFormatVersion ≤ version then Encoder.u64 (UInt64.ofNat r.1.length) ++
        (if version = kVariableCellRecordFormatVersion then r.2.1.flatMap Encoder.u32 else []) ++ r.1 else [] := by
  unfold decodeCellRecords
  by_cases hrecords : kCellRecordFormatVersion ≤ version
  · simp only [hrecords, if_true]
    refine Takes.bind u64_takes ?_
    rintro encodedBytes taken rfl
    refine Takes.bind (decodeLengths_takes version cells recordBytes) ?_
    rintro found taken rfl
    refine Takes.bind (decodeBytes_takes encodedBytes _) ?_
    rintro records taken ⟨rfl, rfl⟩
    refine Takes.pure ?_
    simp only [append_nil, append_assoc]
  · simp only [hrecords, if_false]
    exact Takes.pure rfl

/-- What `rankHeader` promises. -/
structure HeaderTaken (block : RankBlock) (taken : List UInt8) : Prop where
  encoded : taken = kRankMagic ++ Encoder.u32 block.common.formatVersion ++ Encoder.u32 block.rankCount ++
    Encoder.u32 block.rank ++ encodeCommon block.common block.common.formatVersion ++ Encoder.int3 block.patch.begin ++
    Encoder.int3 block.patch.cells
  fields : block.common.fields.length ≤ 64
  rateFields : block.common.rateFields.length ≤ 64

lemma rankHeader_takes : Takes AllowedArray P rankHeader HeaderTaken := by
  refine Takes.bind (bytes_takes 8 ()) ?_
  rintro magic taken ⟨rfl, -⟩
  refine Takes.require fun hmagic => ?_
  obtain rfl := of_decide_eq_true hmagic
  refine Takes.bind u32_takes ?_
  rintro version taken rfl
  refine Takes.require fun _ => Takes.bind u32_takes ?_
  rintro rankCount taken rfl
  refine Takes.require fun _ => Takes.bind u32_takes ?_
  rintro rank taken rfl
  refine Takes.require fun _ => Takes.bind (decodeCommon_takes version _ (Nat.zero_le _)) ?_
  rintro common taken ⟨rfl, rfl, -, hfields, hrates⟩
  refine Takes.bind int3_takes ?_
  rintro begin taken rfl
  refine Takes.bind int3_takes ?_
  rintro cells taken rfl
  refine Takes.require fun _ => Takes.pure ⟨?_, hfields, hrates⟩
  simp only [append_nil, append_assoc]

def blockBody (block : RankBlock) : List UInt8 :=
  rankBlockBody block.common.formatVersion block.rankCount block.rank block.common block.patch {
    fields := block.fields.map (·.values)
    previousFields := block.previousFields.map (·.values)
    acceptedRateFields := block.acceptedRateFields.map (·.values)
    previousRateFields := block.previousRateFields.map (·.values)
    flux := block.flux
    previousFlux := block.previousFlux
    lengths := block.cellRecordLengths
    records := block.cellRecords }

lemma rankPayload_takes {candidate : RankBlock} {header : List UInt8} (h : HeaderTaken candidate header) :
    Takes AllowedArray P (rankPayload candidate) fun block taken =>
      ∃ word, header ++ taken = blockBody block ++ Encoder.u64 word := by
  unfold rankPayload
  cases hcells : cellCount candidate.patch.cells with
  | none => exact Takes.refuse _ _
  | some cells =>
    refine Takes.bind (decodeFields_takes cells h.fields) ?_
    rintro fields taken rfl
    refine Takes.bind (decodeHistoryFields_takes _ cells h.fields h.rateFields) ?_
    rintro history taken rfl
    refine Takes.bind (decodeFlux_takes _ _) ?_
    rintro flux taken rfl
    refine Takes.bind (decodePreviousFlux_takes _ _ _) ?_
    rintro previousFlux taken rfl
    refine Takes.bind (decodeCellRecords_takes _ cells _) ?_
    rintro records taken rfl
    refine Takes.bind u64_takes ?_
    rintro word taken rfl
    refine Takes.remaining fun _ _ => Takes.require fun _ => Takes.pure ⟨word, ?_⟩
    rw [h.encoded]
    simp only [blockBody, rankBlockBody, append_nil, append_assoc]

lemma rankPayload_ends (candidate : RankBlock) : Ends (rankPayload candidate) := by
  unfold rankPayload
  cases cellCount candidate.patch.cells with
  | none => exact fun s a s' h => absurd h (by simp [refuse])
  | some cells =>
    exact Ends.bind fun _ => Ends.bind fun _ => Ends.bind fun _ => Ends.bind fun _ => Ends.bind fun _ =>
      Ends.bind fun _ => ends_of_none_left _ _

lemma rankParser_takes {expected : Manifest} {source : ℕ} (hsource : source < expected.ranks.length) :
    Takes AllowedArray P (rankParser expected source) fun block taken =>
      ∃ word, taken = blockBody block ++ Encoder.u64 word := by
  refine Takes.bind (rankHeader_takes.refusing _) ?_
  rintro candidate header hheader
  have hrecord : Takes AllowedArray (fun _ => True) (expectedRecord expected source) fun _ taken => taken = [] := by
    intro s _ hallowed
    simp only [expectedRecord, List.getElem?_eq_getElem hsource]
    exact ⟨⟨[], rfl, rfl⟩, hallowed⟩
  refine Takes.bind hrecord ?_
  rintro record taken rfl
  exact Takes.require fun _ => (rankPayload_takes hheader).refusing _

lemma rankParser_ends (expected : Manifest) (source : ℕ) : Ends (rankParser expected source) :=
  Ends.bind fun _ => Ends.bind fun _ => Ends.bind fun _ => (rankPayload_ends _).refusing _

/-- The parser stays within the string and its allocations are allowed; a string it accepts is the
encoding of the value returned. -/
def ParsesExactly {α : Type} (bytes : List UInt8) (encode : α → List UInt8) : Decoded RestartArray Status α → Prop
  | .value a s => encode a = bytes ∧ s.rest = [] ∧ ∀ x ∈ s.allocations, AllowedArray x
  | .refused _ s => ∀ x ∈ s.allocations, AllowedArray x
  | .overrun => False

lemma parsesExactly {E α : Type} {p : Decoder RestartArray E α} {body : α → List UInt8} (encode : α → List UInt8)
    {bytes : List UInt8}
    (htakes : Takes AllowedArray (fun _ => True) p fun a taken => ∃ word, taken = body a ++ Encoder.u64 word)
    (hends : Ends p) (hverified : verifiedIntegrity bytes = true)
    (hencode : ∀ a, encode a = Encoder.appendIntegrity (body a)) : match p ⟨bytes, []⟩ with
    | .value a s => encode a = bytes ∧ s.rest = [] ∧ ∀ x ∈ s.allocations, AllowedArray x
    | .refused _ s => ∀ x ∈ s.allocations, AllowedArray x
    | .overrun => False := by
  have hrun := htakes ⟨bytes, []⟩ trivial (by simp)
  cases hp : p ⟨bytes, []⟩ with
  | value a s =>
    rw [hp] at hrun
    obtain ⟨⟨taken, hrest, word, rfl⟩, hlog⟩ := hrun
    have hnone := hends _ _ _ hp
    dsimp only at hrest
    rw [hnone, append_nil] at hrest
    refine ⟨?_, hnone, hlog⟩
    rw [hencode, hrest]
    rw [hrest] at hverified
    exact appendIntegrity_of_verified hverified
  | refused e s =>
    rw [hp] at hrun
    exact hrun
  | overrun =>
    rw [hp] at hrun
    exact hrun

theorem restart_decoders_exact (bytes : List UInt8) (maximumRanks : UInt32) {expected : Manifest} {source : ℕ}
    (hsource : source < expected.ranks.length) :
    ParsesExactly bytes Manifest.encode (parseManifest bytes maximumRanks) ∧
      ParsesExactly bytes RankBlock.encode (parseRankBlock bytes expected source) := by
  by_cases hverified : verifiedIntegrity bytes = true
  · constructor
    · have hparse := parsesExactly Manifest.encode
        ((manifestReader_takes maximumRanks).refusing (⟨.ioFailure, kRestartManifest⟩ : Status))
        ((manifestReader_ends maximumRanks).refusing _) hverified fun _ => rfl
      rw [parseManifest, if_neg (by simp [hverified])]
      generalize (manifestReader maximumRanks).refusing _ _ = r at hparse ⊢
      cases r <;> exact hparse
    · have hparse := parsesExactly RankBlock.encode (rankParser_takes hsource) (rankParser_ends expected source)
        hverified fun _ => rfl
      rw [parseRankBlock, if_neg (by simp [hverified])]
      generalize rankParser expected source _ = r at hparse ⊢
      cases r <;> exact hparse
  · have hrefused : (!verifiedIntegrity bytes) = true := by simpa using hverified
    rw [parseManifest, parseRankBlock, if_pos hrefused, if_pos hrefused]
    exact ⟨nofun, nofun⟩

/-- A manifest of one rank and one cell, without history. -/
def smallManifest : Manifest where
  rankCount := 1
  globalCells := ⟨1, 1, 1⟩
  plan := 1
  schema := 1
  geometry := 1
  dt := ⟨0x3ff0000000000000⟩
  step := 1
  fields := [⟨.velocity, 0, 3⟩, ⟨.pressureAbsolute, 1, 1⟩, ⟨.enthalpy, 2, 1⟩]
  ranks := [⟨{}, ⟨1, 1, 1⟩, 216, 1⟩]

theorem restart_decoders_exact_small : ∃ s, parseManifest smallManifest.encode 1 = .value smallManifest s ∧
    s.rest = [] ∧ ∀ x ∈ s.allocations, AllowedArray x := by
  have hsource : 0 < smallManifest.ranks.length := by decide
  have hvalue : ∃ s, parseManifest smallManifest.encode 1 = .value smallManifest s :=
    ⟨⟨[], [⟨.fieldMeta, 3, 4, 60⟩, ⟨.rankDirectory, 1, 40, 48⟩]⟩, by decide +kernel⟩
  generalize smallManifest.encode = bytes at hvalue ⊢
  obtain ⟨s, hs⟩ := hvalue
  have hparse := (restart_decoders_exact bytes 1 hsource).1
  rw [hs] at hparse
  exact ⟨s, hs, hparse.2⟩

/-- A header that promises 64 fields, and nothing after it but the checksum. -/
def hollowManifest : List UInt8 :=
  Encoder.appendIntegrity (kManifestMagic ++ Encoder.u32 1 ++ Encoder.u32 1 ++ Encoder.int3 ⟨1, 1, 1⟩ ++
    Encoder.u64 1 ++ Encoder.u64 1 ++ Encoder.u64 1 ++ Encoder.real {} ++ Encoder.real ⟨0x3ff0000000000000⟩ ++
    Encoder.real {} ++ Encoder.u64 1 ++ Encoder.u64 0 ++ Encoder.u32 64)

/-- The catalog is allocated before its bytes are counted. -/
theorem hollow_catalog_allocated : ∃ s, parseManifest hollowManifest 1 = .refused ⟨.ioFailure, kRestartManifest⟩ s ∧
    ∃ a ∈ s.allocations, a.remaining < a.count :=
  ⟨⟨[211, 129, 118, 44], [⟨.fieldMeta, 64, 4, 8⟩]⟩, by decide +kernel, ⟨.fieldMeta, 64, 4, 8⟩, by decide, by decide⟩

end HundunFlow.Proofs
