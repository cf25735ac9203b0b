import HundunFlow.LocatedMaximum
import HundunFlow.Proofs.HaloContract
import HundunFlow.Proofs.ReductionVerdict

/-!
# Agreement on located maxima

Entries of different ranks are never tied, so that every order of combining them ends with the same
entry.
-/

namespace HundunFlow.Proofs

open Lib LocatingEngine List Option Finset

variable {F : Type} [DoubleNumber F] {n : ℕ}

def locationKey (entry : ReductionMaximumLocation F) : ℚ ×ₗ ℕᵒᵈ ×ₗ ℤᵒᵈ :=
  toLex (DoubleNumber.number entry.value,
    toLex (OrderDual.toDual entry.globalLocation.toNat, OrderDual.toDual entry.rank))

lemma better_iff {candidate selected : ReductionMaximumLocation F} :
    betterMaximumLocation candidate selected = true ↔
      candidate.valid = true ∧ (selected.valid = true → locationKey selected < locationKey candidate) := by
  rw [locationKey, locationKey, Prod.Lex.toLex_lt_toLex, Prod.Lex.toLex_lt_toLex, OrderDual.toDual_lt_toDual,
    OrderDual.toDual_lt_toDual, OrderDual.toDual_inj, UInt64.toNat_inj, ← UInt64.lt_iff_toNat_lt]
  simp only [betterMaximumLocation, Bool.and_eq_true, Bool.or_eq_true, Bool.not_eq_true', decide_eq_true_eq]
  cases selected.valid
  · simp
  · simp only [Bool.true_eq_false, false_or, forall_const]
    rw [eq_comm (a := DoubleNumber.number candidate.value), eq_comm (a := candidate.globalLocation)]

/-- The best of some entries: it is one of them, and valid and not worse than any valid one if there are any. -/
structure BestOf (entry : Fin n → ReductionMaximumLocation F) (s : Multiset (Fin n))
    (best : ReductionMaximumLocation F) : Prop where
  mem : ∃ i ∈ s, best = entry i
  best : ∀ i ∈ s, (entry i).valid = true → best.valid = true ∧ locationKey (entry i) ≤ locationKey best

lemma bestOf_combine {entry : Fin n → ReductionMaximumLocation F} {s t : Multiset (Fin n)}
    {a b : ReductionMaximumLocation F} (ha : BestOf entry s a) (hb : BestOf entry t b) :
    BestOf entry (s + t) (combineMaximumLocation a b) := by
  obtain ⟨i, hi, hai⟩ := ha.mem
  obtain ⟨j, hj, hbj⟩ := hb.mem
  unfold combineMaximumLocation
  split_ifs with hbetter
  · obtain ⟨hvalid, hnot⟩ := better_iff.mp hbetter
    refine ⟨⟨i, Multiset.mem_add.mpr (.inl hi), hai⟩, fun k hk hkvalid => ?_⟩
    rcases Multiset.mem_add.mp hk with hk | hk
    · exact ha.best k hk hkvalid
    · obtain ⟨hbvalid, hkb⟩ := hb.best k hk hkvalid
      exact ⟨hvalid, hkb.trans (hnot hbvalid).le⟩
  · refine ⟨⟨j, Multiset.mem_add.mpr (.inr hj), hbj⟩, fun k hk hkvalid => ?_⟩
    rcases Multiset.mem_add.mp hk with hk | hk
    · obtain ⟨havalid, hka⟩ := ha.best k hk hkvalid
      have hnot : b.valid = true ∧ locationKey a ≤ locationKey b := by
        by_contra habsurd
        exact hbetter (better_iff.mpr ⟨havalid, fun hbvalid => lt_of_not_ge fun hab => habsurd ⟨hbvalid, hab⟩⟩)
      exact ⟨hnot.1, hka.trans hnot.2⟩
    · exact hb.best k hk hkvalid

lemma bestOf_tree (entry : Fin n → ReductionMaximumLocation F) (tree : CombinationTree (Fin n)) :
    BestOf entry tree.parties (tree.eval combineMaximumLocation entry) := by
  apply CombinationTree.eval_induction
  · intro i
    refine ⟨⟨i, Multiset.mem_singleton_self i, rfl⟩, fun k hk hvalid => ?_⟩
    rw [Multiset.mem_singleton.mp hk] at hvalid ⊢
    exact ⟨hvalid, le_rfl⟩
  · intro s t a b _ _ ha hb
    exact bestOf_combine ha hb

/-- The valid entry of the greatest value, ties going to the smallest location and then to the smallest rank. -/
def LocatedMaximum (entry : Fin n → ReductionMaximumLocation F) (best : ReductionMaximumLocation F) : Prop :=
  best.valid = true ∧ (∃ i, best = entry i) ∧ ∀ i, (entry i).valid = true →
    DoubleNumber.number (entry i).value < DoubleNumber.number best.value ∨
      DoubleNumber.number (entry i).value = DoubleNumber.number best.value ∧
        (best.globalLocation < (entry i).globalLocation ∨
          best.globalLocation = (entry i).globalLocation ∧ best.rank ≤ (entry i).rank)

variable {entry : Fin n → ReductionMaximumLocation F} {a b : ReductionMaximumLocation F}

lemma bestOf_located (h : BestOf entry univ.val a) (hsome : ∃ i, (entry i).valid = true) : LocatedMaximum entry a := by
  obtain ⟨i, hi⟩ := hsome
  obtain ⟨j, -, hj⟩ := h.mem
  refine ⟨(h.best i (mem_univ_val i) hi).1, ⟨j, hj⟩, fun k hk => ?_⟩
  have hle := (h.best k (mem_univ_val k) hk).2
  rw [locationKey, locationKey, Prod.Lex.toLex_le_toLex, Prod.Lex.toLex_le_toLex, OrderDual.toDual_lt_toDual,
    OrderDual.toDual_le_toDual, OrderDual.toDual_inj, UInt64.toNat_inj, ← UInt64.lt_iff_toNat_lt] at hle
  rwa [eq_comm (a := a.globalLocation)]

section Transport

variable {hn : 0 < n} {entries : Fin n → List (ReductionMaximumLocation F)} {count : ℕ}

/-- Entry `k` of every rank. -/
def entriesAt (entries : Fin n → List (ReductionMaximumLocation F)) (k : ℕ) (i : Fin n) : ReductionMaximumLocation F :=
  (entries i).getD k .default

variable {messages : List (List (ReductionMaximumLocation F))} {receive : List (ReductionMaximumLocation F)}

lemma gather_equal {send : List (ReductionMaximumLocation F)} (h : ∀ message ∈ messages, message.length = count)
    (hsend : send.length = count) : gatherLocations count messages send receive =
      some (messages.foldl (fun inout message => combineMaximumLocations message inout) receive) := by
  induction messages generalizing send receive with
  | nil => rfl
  | cons message rest ih =>
    have hmessage := h message mem_cons_self
    rw [gatherLocations, if_neg (by omega), foldl_cons, hmessage, ← hsend, drop_length, append_nil]
    rw [hsend]
    exact ih (fun m hm => h m (mem_cons_of_mem _ hm)) hmessage

lemma gather_fits {send gathered : List (ReductionMaximumLocation F)}
    (h : gatherLocations count messages send receive = some gathered) : ∀ message ∈ messages, message.length ≤ count := by
  induction messages generalizing send receive with
  | nil => simp
  | cons message rest ih =>
    rw [gatherLocations] at h
    split_ifs at h with hlong
    intro m hm
    rcases mem_cons.mp hm with rfl | hm
    · omega
    · exact ih h m hm

lemma foldl_combine_getD (h : ∀ message ∈ messages, message.length = count) (hreceive : receive.length = count) :
    (messages.foldl (fun inout message => combineMaximumLocations message inout) receive).length = count ∧
    ∀ k < count, (messages.foldl (fun inout message => combineMaximumLocations message inout) receive).getD k .default =
      messages.foldl (fun inout message => combineMaximumLocation (message.getD k .default) inout)
        (receive.getD k .default) := by
  induction messages generalizing receive with
  | nil => exact ⟨hreceive, fun k _ => rfl⟩
  | cons message rest ih =>
    have hmessage := h message mem_cons_self
    have hcomb : (combineMaximumLocations message receive).length = count := by
      rw [combineMaximumLocations, length_zipWith, hmessage, hreceive, Nat.min_self]
    obtain ⟨hlength, hget⟩ := ih (fun m hm => h m (mem_cons_of_mem _ hm)) hcomb
    refine ⟨hlength, fun k hk => ?_⟩
    rw [foldl_cons, foldl_cons, hget k hk]
    congr 1
    rw [combineMaximumLocations, getD_eq_getElem _ _ (by rw [← combineMaximumLocations, hcomb]; exact hk),
      getElem_zipWith, getD_eq_getElem _ _ (by omega), getD_eq_getElem _ _ (by omega)]

def ReceivesBest (entries : Fin n → List (ReductionMaximumLocation F)) (count : ℕ)
    (storage : List (ReductionMaximumLocation F)) : Prop :=
  storage.length = count ∧ ∀ k < count, BestOf (entriesAt entries k) univ.val (storage.getD k .default)

lemma exchange_equal {mode : ReductionMode} {ends : Fin n → MaximumTransport F}
    (h : MaximumExchange hn entries mode ends) (hcount : ∀ i, (entries i).length = count) (i : Fin n) :
    ∃ storage, ends i = .received storage ∧ ReceivesBest entries count storage := by
  cases h with
  | mpiAllreduce count' hcount' tree hparties =>
    obtain rfl : count' = count := (hcount' ⟨0, hn⟩).symm.trans (hcount ⟨0, hn⟩)
    refine ⟨_, rfl, by simp, fun k hk => ?_⟩
    rw [getD_eq_getElem _ _ (by simpa using hk), getElem_map, getElem_range, ← hparties i k]
    exact bestOf_tree (entriesAt entries k) (tree i k)
  | reproducibleTree =>
    have hmsg : ∀ message ∈ (finRange n).tail.map entries, message.length = count := by
      intro message hmessage
      obtain ⟨j, -, rfl⟩ := List.mem_map.mp hmessage
      exact hcount j
    obtain ⟨hlength, hget⟩ := foldl_combine_getD hmsg (hcount ⟨0, hn⟩)
    refine ⟨_, ?_, hlength, fun k hk => ?_⟩
    · rw [reproducibleTransport, hcount, gather_equal hmsg (hcount ⟨0, hn⟩)]
      dsimp only
      rw [hcount, if_neg (lt_irrefl _), ite_self]
    · have htree := bestOf_tree (entriesAt entries k) (.overRanks hn)
      rw [CombinationTree.parties_overRanks, CombinationTree.overRanks, CombinationTree.eval_chain] at htree
      rw [hget k hk, foldl_map]
      exact htree

lemma exists_exchange (hn : 0 < n) (mode : ReductionMode) (hcount : ∀ i, (entries i).length = count) :
    ∃ ends, MaximumExchange hn entries mode ends := by
  cases mode with
  | mpiAllreduce =>
    exact ⟨_, .mpiAllreduce count hcount (fun _ _ => .overRanks hn) fun _ _ => CombinationTree.parties_overRanks hn⟩
  | reproducibleTree => exact ⟨_, .reproducibleTree⟩

end Transport

lemma maximumStatus_ok {engine : LocatingEngine} {call : MaximumCall F} (h : (engine.maximumStatus call).isOk = true) :
    call.localSpan.values.length = call.localSpan.size ∧
      ∀ entry ∈ call.localSpan.values, engine.validLocal entry = true := by
  unfold maximumStatus at h
  dsimp only at h
  split_ifs at h with hsupp hnull hsize hcapacity hoverlap hvalid
  · rw [h] at hsupp
    cases hsupp
  · simp at h
  · simp at h
  · simp at h
  · simp at h
  · simp at h
  · simp only [Bool.or_eq_true, not_or, Bool.not_eq_true] at hnull
    refine ⟨(Span.size_eq_length fun habsurd => ?_).symm, ?_⟩
    · rw [hnull.1.1] at habsurd
      cases habsurd
    · simpa using hvalid

section Job

variable {hn : 0 < n} {engine : Fin n → LocatingEngine} {call : Fin n → MaximumCall F}

/-- Entry `k` of every rank. -/
def calledAt (call : Fin n → MaximumCall F) : ℕ → Fin n → ReductionMaximumLocation F :=
  entriesAt fun i => (call i).localSpan.values

/-- All ranks return one status. On success they hold the located maximum of every index, and else their
global spans are unchanged. -/
def MaximumAgreed (call : Fin n → MaximumCall F) (result : Fin n → Option (MaximumResult F)) : Prop :=
  ∃ status : Status, ∀ i, ∃ r, result i = some r ∧ r.status = status ∧
    (status.isOk = true → r.output.length = (call i).localSpan.size ∧
      ∀ k < (call i).localSpan.size, LocatedMaximum (calledAt call k) (r.output.getD k .default)) ∧
    (status.isOk = false → r.output = (call i).globalSpan.values)

variable (hengine : EnginesAgree fun i => (engine i).toReductionEngine)
  (hok : ∀ i, ((engine i).maximumStatus (call i)).isOk = true)

variable {i : Fin n} {k : ℕ} {storage : List (ReductionMaximumLocation F)}
  {result : Fin n → Option (MaximumResult F)}

include hok in
lemma calledAt_valid (h : (calledAt call k i).valid = true) :
    finiteLocation (calledAt call k i) = true ∧ (calledAt call k i).rank = (engine i).rank := by
  have hmem : calledAt call k i ∈ (call i).localSpan.values := by
    rw [calledAt, entriesAt, getD_eq_getElem?_getD] at h ⊢
    cases hget : (call i).localSpan.values[k]? with
    | none =>
      rw [hget] at h
      cases h
    | some entry => exact mem_of_getElem? hget
  have hvalid := (maximumStatus_ok (hok i)).2 _ hmem
  simpa [validLocal, h] using hvalid

include hengine hok in
lemma calledAt_rank (h : (calledAt call k i).valid = true) : (calledAt call k i).rank = (i : ℕ) := by
  rw [(calledAt_valid hok h).2]
  exact congrArg Nat.cast (hengine.rank i)

include hengine hok in
lemma bestOf_validGlobal {best : ReductionMaximumLocation F} (h : BestOf (calledAt call k) univ.val best)
    (i : Fin n) : (engine i).validGlobal best = true ↔ ∃ j, (calledAt call k j).valid = true := by
  constructor
  · intro hvalid
    obtain ⟨j, -, rfl⟩ := h.mem
    refine ⟨j, ?_⟩
    simp only [validGlobal, Bool.and_eq_true] at hvalid
    exact hvalid.1.1.1
  · rintro ⟨j, hj⟩
    have hbest := (h.best j (mem_univ_val j) hj).1
    obtain ⟨m, -, rfl⟩ := h.mem
    have hsize : (engine i).size = n := hengine.size i
    simp only [validGlobal, Bool.and_eq_true, decide_eq_true_eq]
    rw [calledAt_rank hengine hok hbest, hsize]
    exact ⟨⟨⟨hbest, (calledAt_valid hok hbest).1⟩, Nat.cast_nonneg _⟩, Nat.cast_lt.mpr m.isLt⟩

include hengine hok in
lemma finish_received (h : ReceivesBest (fun j => (call j).localSpan.values) (call i).localSpan.size storage) :
    ((∃ k < (call i).localSpan.size, ∀ j, (calledAt call k j).valid = false) ∧
      finishMaximum (engine i) (call i) (.received storage) =
        some ⟨⟨.numericalFailure, kNonFiniteGlobal⟩, (call i).globalSpan.values, engine i⟩) ∨
    (¬(∃ k < (call i).localSpan.size, ∀ j, (calledAt call k j).valid = false) ∧
      finishMaximum (engine i) (call i) (.received storage) =
        match (engine i).nextMaximumCounters (call i).localSpan.size (call i).elapsed with
        | none => some ⟨⟨.invalidPlan, kCounterOverflow⟩, (call i).globalSpan.values, engine i⟩
        | some next => some ⟨{}, storage, next⟩) := by
  obtain ⟨hlength, hbest⟩ := h
  have htake : storage.take (call i).localSpan.size = storage := take_of_length_le hlength.le
  have hall : storage.all (engine i).validGlobal = true ↔
      ¬∃ k < (call i).localSpan.size, ∀ j, (calledAt call k j).valid = false := by
    rw [List.all_eq_true, List.forall_mem_iff_getElem]
    push Not
    constructor
    · intro hvalid k hk
      have hkvalid := hvalid k (hlength ▸ hk)
      rw [← getD_eq_getElem _ .default, bestOf_validGlobal hengine hok (hbest k hk)] at hkvalid
      obtain ⟨j, hj⟩ := hkvalid
      exact ⟨j, by rw [hj]; decide⟩
    · intro hsome k hk
      rw [hlength] at hk
      obtain ⟨j, hj⟩ := hsome k hk
      rw [← getD_eq_getElem _ .default, bestOf_validGlobal hengine hok (hbest k hk)]
      exact ⟨j, by simpa using hj⟩
  rw [finishMaximum, htake]
  by_cases hvalid : storage.all (engine i).validGlobal = true
  · refine .inr ⟨hall.mp hvalid, ?_⟩
    rw [hvalid]
    rfl
  · refine .inl ⟨not_not.mp (mt hall.mpr hvalid), ?_⟩
    rw [Bool.eq_false_iff.mpr hvalid]
    rfl

/-- No rank has a valid entry for some index of rank zero. -/
def EntryMissing (hn : 0 < n) (call : Fin n → MaximumCall F) : Prop :=
  ∃ k < (call ⟨0, hn⟩).localSpan.size, ∀ i, (calledAt call k i).valid = false

/-- The counters of all ranks have room for the call, or those of none have. -/
def CountersAgree (engine : Fin n → LocatingEngine) (call : Fin n → MaximumCall F) : Prop :=
  ∀ i j, ((engine i).nextMaximumCounters (call i).localSpan.size (call i).elapsed).isSome =
    ((engine j).nextMaximumCounters (call j).localSpan.size (call j).elapsed).isSome

include hengine hok in
lemma checked_equal (hsame : ∀ i j, (call i).localSpan.size = (call j).localSpan.size)
    (h : CheckedMaxLocations hn engine call result) : (EntryMissing hn call ∧ ∀ i, result i =
      some ⟨⟨.numericalFailure, kNonFiniteGlobal⟩, (call i).globalSpan.values, engine i⟩) ∨
    (¬EntryMissing hn call ∧ ∀ i, ∃ storage,
      ReceivesBest (fun j => (call j).localSpan.values) (call i).localSpan.size storage ∧ result i =
        match (engine i).nextMaximumCounters (call i).localSpan.size (call i).elapsed with
        | none => some ⟨⟨.invalidPlan, kCounterOverflow⟩, (call i).globalSpan.values, engine i⟩
        | some next => some ⟨{}, storage, next⟩) := by
  cases h with
  | refused status lowest h =>
    obtain ⟨hstatus, hfailed⟩ := haloConsensus_some h
    rw [← hstatus, hok lowest] at hfailed
    cases hfailed
  | exchanged ends h hends =>
    have hreceived : ∀ i, ∃ storage, ends i = .received storage ∧
        ReceivesBest (fun j => (call j).localSpan.values) (call i).localSpan.size storage := fun i =>
      exchange_equal hends (fun j => (maximumStatus_ok (hok j)).1.trans (hsame j i)) i
    by_cases hmissing : EntryMissing hn call
    · refine .inl ⟨hmissing, fun i => ?_⟩
      obtain ⟨storage, hend, hstorage⟩ := hreceived i
      dsimp only
      rw [hend]
      rcases finish_received hengine hok hstorage with ⟨-, hfinish⟩ | ⟨hsome, -⟩
      · exact hfinish
      · rw [hsame i ⟨0, hn⟩] at hsome
        exact absurd hmissing hsome
    · refine .inr ⟨hmissing, fun i => ?_⟩
      obtain ⟨storage, hend, hstorage⟩ := hreceived i
      refine ⟨storage, hstorage, ?_⟩
      dsimp only
      rw [hend]
      rcases finish_received hengine hok hstorage with ⟨hnone, -⟩ | ⟨-, hfinish⟩
      · rw [hsame i ⟨0, hn⟩] at hnone
        exact absurd hnone hmissing
      · exact hfinish

include hengine hok in
lemma agreed_of_equal (hsame : ∀ i j, (call i).localSpan.size = (call j).localSpan.size)
    (h : CheckedMaxLocations hn engine call result) :
    MaximumAgreed call result ↔ EntryMissing hn call ∨ CountersAgree engine call := by
  rcases checked_equal hengine hok hsame h with ⟨hmissing, hresult⟩ | ⟨hcompl, hresult⟩
  · refine ⟨fun _ => .inl hmissing, fun _ => ⟨⟨.numericalFailure, kNonFiniteGlobal⟩, fun i => ?_⟩⟩
    exact ⟨_, hresult i, rfl, fun habsurd => (by cases habsurd), fun _ => rfl⟩
  · constructor
    · rintro ⟨status, hagreed⟩
      right
      have hstatus : ∀ i, ((engine i).nextMaximumCounters (call i).localSpan.size (call i).elapsed).isSome =
          status.isOk := by
        intro i
        obtain ⟨storage, -, hi⟩ := hresult i
        obtain ⟨r, hr, hrstatus, -⟩ := hagreed i
        rw [hr] at hi
        cases hnext : (engine i).nextMaximumCounters (call i).localSpan.size (call i).elapsed with
        | none =>
          rw [hnext] at hi
          rw [← hrstatus, some.inj hi]
          rfl
        | some next =>
          rw [hnext] at hi
          rw [← hrstatus, some.inj hi]
          rfl
      intro i j
      rw [hstatus, hstatus]
    · intro hcnt
      have hagree := hcnt.resolve_left hcompl
      cases hfirst : ((engine ⟨0, hn⟩).nextMaximumCounters (call ⟨0, hn⟩).localSpan.size (call ⟨0, hn⟩).elapsed).isSome with
      | false =>
        refine ⟨⟨.invalidPlan, kCounterOverflow⟩, fun i => ?_⟩
        obtain ⟨storage, -, hi⟩ := hresult i
        have hnone := (hagree i ⟨0, hn⟩).trans hfirst
        rw [isSome_eq_false_iff, isNone_iff_eq_none] at hnone
        rw [hnone] at hi
        exact ⟨_, hi, rfl, fun habsurd => (by cases habsurd), fun _ => rfl⟩
      | true =>
        refine ⟨{}, fun i => ?_⟩
        obtain ⟨storage, ⟨hlength, hbest⟩, hi⟩ := hresult i
        obtain ⟨next, hnext⟩ := isSome_iff_exists.mp ((hagree i ⟨0, hn⟩).trans hfirst)
        rw [hnext] at hi
        refine ⟨_, hi, rfl, fun _ => ⟨hlength, fun k hk => bestOf_located (hbest k hk) ?_⟩, fun habsurd => by cases habsurd⟩
        by_contra hinvalid
        push Not at hinvalid
        rw [hsame i ⟨0, hn⟩] at hk
        exact hcompl ⟨k, hk, fun j => by simpa using hinvalid j⟩

lemma finish_status {engine : LocatingEngine} {call : MaximumCall F} {r : MaximumResult F}
    (h : finishMaximum engine call (.received storage) = some r) :
    r.status ≠ ⟨.mpiFailure, kCollectiveFailure⟩ := by
  rw [finishMaximum] at h
  split_ifs at h with hvalid
  · rw [← some.inj h]
    simp
  · cases hnext : engine.nextMaximumCounters call.localSpan.size call.elapsed with
    | none =>
      rw [hnext] at h
      rw [← some.inj h]
      simp
    | some next =>
      rw [hnext] at h
      rw [← some.inj h]
      exact (by decide : ({} : Status) ≠ ⟨.mpiFailure, kCollectiveFailure⟩)

lemma mem_tail_finRange (h : i ≠ ⟨0, hn⟩) : i ∈ (finRange n).tail := by
  have hmem := mem_finRange i
  cases n with
  | zero => exact absurd hn (lt_irrefl 0)
  | succ m =>
    rw [finRange_succ] at hmem ⊢
    exact (mem_cons.mp hmem).resolve_left h

include hok in
lemma not_agreed_of_different (hdifferent : ¬∀ i j, (call i).localSpan.size = (call j).localSpan.size) :
    ¬((∃ result, CheckedMaxLocations hn engine call result) ∧
      ∀ result, CheckedMaxLocations hn engine call result → MaximumAgreed call result) := by
  rintro ⟨hexists, hall⟩
  have hnone : rawConsensus (fun i => (engine i).maximumStatus (call i)) = none := haloConsensus_eq_none.mpr hok
  have hlength : ∀ i, (call i).localSpan.values.length = (call i).localSpan.size := fun i =>
    (maximumStatus_ok (hok i)).1
  obtain ⟨x, hx⟩ : ∃ x, (call x).localSpan.size ≠ (call ⟨0, hn⟩).localSpan.size := by
    by_contra hsame
    push Not at hsame
    exact hdifferent fun i j => (hsame i).trans (hsame j).symm
  have hxzero : x ≠ ⟨0, hn⟩ := by
    rintro rfl
    exact hx rfl
  cases hmode : (engine ⟨0, hn⟩).mode with
  | mpiAllreduce =>
    obtain ⟨result, hresult⟩ := hexists
    cases hresult with
    | refused status lowest h =>
      rw [hnone] at h
      cases h
    | exchanged ends h hends =>
      rw [hmode] at hends
      cases hends with
      | mpiAllreduce count hcount tree hparties =>
        exact hx (by rw [← hlength, ← hlength, hcount, hcount])
  | reproducibleTree =>
    have hrun := CheckedMaxLocations.exchanged _ hnone (hmode ▸ MaximumExchange.reproducibleTree)
    obtain ⟨status, hagreed⟩ := hall _ hrun
    obtain ⟨r, hr, hrstatus, -⟩ := hagreed x
    obtain ⟨rzero, hrzero, hzerostatus, -⟩ := hagreed ⟨0, hn⟩
    cases hgather : gatherLocations (call ⟨0, hn⟩).localSpan.values.length
        ((finRange n).tail.map fun i => (call i).localSpan.values) (call ⟨0, hn⟩).localSpan.values
        (call ⟨0, hn⟩).localSpan.values with
    | none =>
      simp only [reproducibleTransport, hgather, if_neg hxzero, finishMaximum] at hr
      cases hr
    | some gathered =>
      have hfits := gather_fits hgather _ (List.mem_map_of_mem (mem_tail_finRange hxzero))
      have hshort : (call x).localSpan.values.length < (call ⟨0, hn⟩).localSpan.values.length := by
        have hne := hx
        rw [← hlength, ← hlength] at hne
        omega
      simp only [reproducibleTransport, hgather, if_neg hxzero, if_pos hshort, finishMaximum] at hr
      simp only [reproducibleTransport, hgather, if_pos] at hrzero
      apply finish_status hrzero
      rw [hzerostatus, ← hrstatus, ← some.inj hr]

include hengine in
/-- The ranks agree on located maxima exactly when one of them fails beforehand, or all have brought the same
number of entries and their counters do not part them. -/
theorem max_locations_agree_iff (hn : 0 < n) : ((∃ result, CheckedMaxLocations hn engine call result) ∧
      ∀ result, CheckedMaxLocations hn engine call result → MaximumAgreed call result) ↔
    (∃ i, ((engine i).maximumStatus (call i)).isOk = false) ∨
      (∀ i j, (call i).localSpan.size = (call j).localSpan.size) ∧
        (EntryMissing hn call ∨ CountersAgree engine call) := by
  by_cases hok : ∀ i, ((engine i).maximumStatus (call i)).isOk = true
  · have hnone : rawConsensus (fun i => (engine i).maximumStatus (call i)) = none := haloConsensus_eq_none.mpr hok
    have hnofail : ¬∃ i, ((engine i).maximumStatus (call i)).isOk = false := by
      rintro ⟨i, hi⟩
      rw [hok i] at hi
      cases hi
    by_cases hsame : ∀ i j, (call i).localSpan.size = (call j).localSpan.size
    · obtain ⟨ends, hends⟩ := exists_exchange hn (engine ⟨0, hn⟩).mode fun i =>
        (maximumStatus_ok (hok i)).1.trans (hsame i ⟨0, hn⟩)
      have hrun := CheckedMaxLocations.exchanged ends hnone hends
      constructor
      · rintro ⟨-, hall⟩
        exact .inr ⟨hsame, (agreed_of_equal hengine hok hsame hrun).mp (hall _ hrun)⟩
      · rintro (hfail | ⟨-, hcondition⟩)
        · exact absurd hfail hnofail
        · exact ⟨⟨_, hrun⟩, fun result h => (agreed_of_equal hengine hok hsame h).mpr hcondition⟩
    · refine ⟨fun h => absurd h (not_agreed_of_different hok hsame), ?_⟩
      rintro (hfail | ⟨habsurd, -⟩)
      · exact absurd hfail hnofail
      · exact absurd habsurd hsame
  · push Not at hok
    obtain ⟨i, hi⟩ := hok
    cases hconsensus : rawConsensus fun i => (engine i).maximumStatus (call i) with
    | none => exact absurd (haloConsensus_eq_none.mp hconsensus i) hi
    | some refusal =>
      refine ⟨fun _ => .inl ⟨i, Bool.eq_false_iff.mpr hi⟩, fun _ => ⟨⟨_, .refused _ _ hconsensus⟩, fun result h => ?_⟩⟩
      cases h with
      | refused status lowest h =>
        have hfailed := (haloConsensus_some h).2
        refine ⟨status, fun i => ⟨_, rfl, rfl, fun hstatus => ?_, fun _ => rfl⟩⟩
        rw [hfailed] at hstatus
        cases hstatus
      | exchanged ends h hends =>
        rw [hconsensus] at h
        cases h

end Job

def locatingPair (i : Fin 2) : LocatingEngine where
  rank := i
  size := 2
  mode := .reproducibleTree
  maximumScalars := 4
  bounded := by decide

/-- Rank `i` brings `count i` entries. -/
def pairCall (count : Fin 2 → ℕ) (i : Fin 2) : MaximumCall ℚ where
  localSpan := .of (replicate (count i) ⟨true, i, 5, i, []⟩)
  globalSpan := .of (replicate (count i) ⟨false, 0, 0, -1, []⟩)
  overlap := false
  supplied := {}
  elapsed := 7

lemma locatingPair_agree : EnginesAgree fun i => (locatingPair i).toReductionEngine :=
  ⟨fun _ => rfl, fun _ => rfl, fun _ _ => rfl, fun _ _ => rfl⟩

theorem max_locations_agree_pair :
    (∃ result, CheckedMaxLocations (by decide) locatingPair (pairCall fun _ => 2) result) ∧
      ∀ result, CheckedMaxLocations (by decide) locatingPair (pairCall fun _ => 2) result →
        MaximumAgreed (pairCall fun _ => 2) result :=
  (max_locations_agree_iff locatingPair_agree (by decide)).mpr
    (.inr ⟨by decide, .inr (by unfold CountersAgree; decide +kernel)⟩)

lemma not_agreed_of_status {call : Fin n → MaximumCall F} {result : Fin n → Option (MaximumResult F)} {i j : Fin n}
    {first second : Status} (hi : (result i).map (·.status) = some first)
    (hj : (result j).map (·.status) = some second) (hne : first ≠ second) : ¬MaximumAgreed call result := by
  rintro ⟨status, hagreed⟩
  obtain ⟨r, hr, hrstatus, -⟩ := hagreed i
  obtain ⟨r', hr', hrstatus', -⟩ := hagreed j
  rw [hr, map_some, some.injEq, hrstatus] at hi
  rw [hr', map_some, some.injEq, hrstatus'] at hj
  exact hne (hi.symm.trans hj)

/-- Rank zero has two entries and rank one has one: rank zero succeeds, and rank one is sent more than it asked for. -/
theorem max_locations_disagree :
    ∃ result, CheckedMaxLocations (by decide) locatingPair (pairCall ![2, 1]) result ∧
      (result 0).map (·.status) = some {} ∧
      (result 1).map (·.status) = some ⟨.mpiFailure, kCollectiveFailure⟩ ∧
      ¬MaximumAgreed (pairCall ![2, 1]) result := by
  have hnone : rawConsensus (fun i => (locatingPair i).maximumStatus (pairCall ![2, 1] i)) = none := by
    decide +kernel
  have hexchange : MaximumExchange (by decide : 0 < 2) (fun i => (pairCall ![2, 1] i).localSpan.values)
      (locatingPair 0).mode _ := .reproducibleTree
  have hrun := CheckedMaxLocations.exchanged _ hnone hexchange
  have hzero : (finishMaximum (locatingPair 0) (pairCall ![2, 1] 0) (reproducibleTransport (by decide)
      (fun i => (pairCall ![2, 1] i).localSpan.values) 0)).map (·.status) = some {} := by decide +kernel
  have hone : (finishMaximum (locatingPair 1) (pairCall ![2, 1] 1) (reproducibleTransport (by decide)
      (fun i => (pairCall ![2, 1] i).localSpan.values) 1)).map (·.status) = some ⟨.mpiFailure, kCollectiveFailure⟩ := by
    decide +kernel
  exact ⟨_, hrun, hzero, hone, not_agreed_of_status hzero hone (by decide)⟩

end HundunFlow.Proofs
