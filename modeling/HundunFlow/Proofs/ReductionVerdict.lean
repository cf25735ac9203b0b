import HundunFlow.Proofs.ReductionTree

/-!
# The verdict of a reduction

All ranks read one verdict out of the combined packet, and it is about the ranks and not about
the order in which their packets met.
-/

namespace HundunFlow.Proofs

open Lib ReductionEngine Finset

variable {F : Type} {n : ℕ}

variable {packets : Fin n → Packet F} {mode : ReductionMode} {packet : Packet F} {hn : 0 < n} {op : F → F → F}
  {v : Fin n → F} {k : ℕ} {status : Fin n → Status}

lemma combined_tree (h : CombinedPacket op hn packets mode packet) :
    ∃ tree : CombinationTree (Fin n), tree.parties = univ.val ∧
      packet = tree.eval (Packet.combinePackets op) packets := by
  cases h with
  | mpiAllreduce tree hparties => exact ⟨tree, hparties, rfl⟩
  | reproducibleTree =>
    refine ⟨.overRanks hn, CombinationTree.parties_overRanks hn, ?_⟩
    rw [CombinationTree.overRanks, CombinationTree.eval_chain]
    rfl

lemma combined_value {R : Multiset (Fin n) → F → Prop} (hpackets : ∀ i, (packets i).values[k]? = some (v i))
    (hleaf : ∀ i, R {i} (v i)) (hnode : ∀ s t a b, R s a → R t b → R (s + t) (op b a))
    (h : CombinedPacket op hn packets mode packet) :
    ∃ x, packet.values[k]? = some x ∧ R univ.val x := by
  obtain ⟨tree, hparties, rfl⟩ := combined_tree h
  rw [← hparties]
  apply CombinationTree.eval_induction (P := fun s (p : Packet F) => ∃ x, p.values[k]? = some x ∧ R s x)
  · intro i
    exact ⟨v i, hpackets i, hleaf i⟩
  · rintro s t a b - - ⟨x, hx, hs⟩ ⟨y, hy, ht⟩
    refine ⟨op y x, ?_, hnode s t x y hs ht⟩
    rw [Packet.combinePackets, List.getElem?_zipWith, hx, hy]

/-- What a rank contributes to number `k`. -/
def contribution [Zero F] (status : Status) (span : Span F) (k : ℕ) : F :=
  if status.isOk then span.values.getD k 0 else 0

lemma combined_sum [AddCommMonoid F] (hpackets : ∀ i, (packets i).values[k]? = some (v i))
    (h : CombinedPacket (· + ·) hn packets mode packet) : packet.values[k]? = some (∑ i, v i) := by
  obtain ⟨x, hx, hsum⟩ := combined_value (R := fun s x => x = (s.map v).sum) hpackets (by simp) (by
    intro s t a b ha hb
    rw [Multiset.map_add, Multiset.sum_add, ← ha, ← hb]
    exact add_comm _ _) h
  rw [hx, hsum]
  rfl

lemma combined_maximum [LinearOrder F] (hpackets : ∀ i, (packets i).values[k]? = some (v i))
    (h : CombinedPacket max hn packets mode packet) :
    ∃ x, packet.values[k]? = some x ∧ IsGreatest (Set.range v) x := by
  obtain ⟨x, hx, hmem, hall⟩ := combined_value
    (R := fun s x => (∃ i ∈ s, v i = x) ∧ ∀ i ∈ s, v i ≤ x) hpackets (by simp) (by
      rintro s t a b ⟨⟨i, hi, hia⟩, ha⟩ ⟨⟨j, hj, hjb⟩, hb⟩
      constructor
      · cases max_choice b a with
        | inl hmax => exact ⟨j, Multiset.mem_add.mpr (.inr hj), hjb.trans hmax.symm⟩
        | inr hmax => exact ⟨i, Multiset.mem_add.mpr (.inl hi), hia.trans hmax.symm⟩
      · intro l hl
        cases Multiset.mem_add.mp hl with
        | inl hl => exact (ha l hl).trans (le_max_right _ _)
        | inr hl => exact (hb l hl).trans (le_max_left _ _)) h
  refine ⟨x, hx, ?_, ?_⟩
  · obtain ⟨i, -, hi⟩ := hmem
    exact ⟨i, hi⟩
  · rintro _ ⟨i, rfl⟩
    exact hall i (mem_univ i)

section Rank

variable {engine : ReductionEngine} {isFinite : F → Bool} {call : ReductionCall F}

lemma span_of_packetStatus (h : (engine.packetStatus isFinite call).isOk = true) :
    call.localSpan.isNull = false ∧ call.localSpan.size ≤ engine.maximumScalars := by
  have hlocal : (engine.localStatus isFinite call).isOk = true := by
    unfold packetStatus at h
    by_cases hok : (engine.localStatus isFinite call).isOk = true
    · exact hok
    · rw [Bool.not_eq_true] at hok
      simp [hok] at h
  unfold localStatus at hlocal
  dsimp only at hlocal
  split_ifs at hlocal with hsupp hnull hsize hcapacity hoverlap hfinite
  · rw [Bool.not_eq_true'] at hsupp
    rw [hsupp] at hlocal
    exact nomatch hlocal
  · exact nomatch hlocal
  · exact nomatch hlocal
  · exact nomatch hlocal
  · exact nomatch hlocal
  · exact nomatch hlocal
  · simp only [Bool.or_eq_true, decide_eq_true_eq, not_or, Bool.not_eq_true] at hnull
    exact ⟨hnull.1.2, not_lt.mp hcapacity⟩

lemma sizeAsDouble_of_packetStatus (h : (engine.packetStatus isFinite call).isOk = true) :
    sizeAsDouble call.localSpan.size = call.localSpan.size := by
  have hfits := (span_of_packetStatus h).2
  have hbounded := engine.bounded
  unfold sizeAsDouble
  rw [if_pos]
  unfold maxInt at hbounded
  omega

lemma packetValues_get [Zero F] {k : ℕ} (hk : k < engine.maximumScalars) :
    (engine.packetValues 0 call.localSpan (engine.packetStatus isFinite call))[k]? =
      some (contribution (engine.packetStatus isFinite call) call.localSpan k) := by
  unfold packetValues contribution
  by_cases hok : (engine.packetStatus isFinite call).isOk = true
  · obtain ⟨hnull, hfits⟩ := span_of_packetStatus hok
    have hlength : call.localSpan.size = call.localSpan.values.length := Span.size_eq_length (by simp [hnull])
    rw [if_pos (by simp [hok, hnull, hfits]), if_pos hok, List.getD_eq_getElem?_getD]
    by_cases hin : k < call.localSpan.values.length
    · rw [List.getElem?_append_left hin, List.getElem?_eq_getElem hin]
      rfl
    · rw [List.getElem?_append_right (not_lt.mp hin), List.getElem?_eq_none (not_lt.mp hin),
        List.getElem?_replicate, if_pos (by omega)]
      rfl
  · rw [Bool.not_eq_true] at hok
    rw [if_neg (by simp [hok]), if_neg (by simp [hok]), List.getElem?_replicate, if_pos hk]

end Rank

def SpeaksAgainst (hn : 0 < n) (status : Fin n → Status) (size : Fin n → ℕ) (i : Fin n) : Prop :=
  (status i).isOk = false ∨ size i ≠ size ⟨0, hn⟩

inductive ReductionDecided (hn : 0 < n) (status : Fin n → Status) (size : Fin n → ℕ) : ReductionVerdict → Prop where
  | success (h : ∀ i, ¬ SpeaksAgainst hn status size i) : ReductionDecided hn status size {}
  | failure (k : Fin n) (hk : SpeaksAgainst hn status size k) (hfirst : ∀ j < k, ¬ SpeaksAgainst hn status size j) :
      ReductionDecided hn status size ⟨ownFailure status k, k⟩

def verdictOf (status : Fin n → Status) : WithTop (Fin n) → ReductionVerdict
  | ⊤ => {}
  | (k : Fin n) => ⟨ownFailure status k, k⟩

lemma decided_verdictOf (hn : 0 < n) (status : Fin n → Status) (size : Fin n → ℕ) : ReductionDecided hn status size
      (verdictOf status (lowestFailing status size (size ⟨0, hn⟩) univ.val)) := by
  by_cases hspeaks : ∃ i, SpeaksAgainst hn status size i
  · obtain ⟨k, hk, hleast⟩ := WellFounded.has_min wellFounded_lt {i | SpeaksAgainst hn status size i} hspeaks
    have hlowest : lowestFailing status size (size ⟨0, hn⟩) univ.val = k := by
      apply le_antisymm
      · exact lowestFailing_le (mem_univ_val k) hk
      · exact le_lowestFailing.mpr fun j _ hj => WithTop.coe_le_coe.mpr (not_lt.mp (hleast j hj))
    rw [hlowest]
    exact .failure k hk fun j hj hspeaks => hleast j hspeaks hj
  · have hall : ∀ i, ¬ SpeaksAgainst hn status size i := fun i hi => hspeaks ⟨i, hi⟩
    have hlowest : lowestFailing status size (size ⟨0, hn⟩) univ.val = ⊤ := by
      apply top_le_iff.mp
      exact le_lowestFailing.mpr fun j _ hj => absurd hj (hall j)
    rw [hlowest]
    exact .success hall

lemma lowestFailing_sizeAsDouble (hn : 0 < n) {size : Fin n → ℕ}
    (hexact : ∀ i, (status i).isOk = true → sizeAsDouble (size i) = size i) :
    lowestFailing status (fun i => sizeAsDouble (size i)) (sizeAsDouble (size ⟨0, hn⟩)) univ.val =
      lowestFailing status size (size ⟨0, hn⟩) univ.val := by
  by_cases hzero : (status ⟨0, hn⟩).isOk = true
  · unfold lowestFailing
    congr 2
    apply Multiset.filter_congr
    intro i _
    rw [hexact _ hzero]
    by_cases hok : (status i).isOk = true
    · simp only [hexact i hok]
    · rw [Bool.not_eq_true] at hok
      simp [hok]
  · rw [Bool.not_eq_true] at hzero
    have hbottom : ∀ counts count, lowestFailing status counts count univ.val = (⟨0, hn⟩ : Fin n) := by
      intro counts count
      apply le_antisymm
      · exact lowestFailing_le (mem_univ_val _) (.inl hzero)
      · exact le_lowestFailing.mpr fun j _ _ => WithTop.coe_le_coe.mpr (Nat.zero_le _)
    rw [hbottom, hbottom]

lemma toWire_le_ioFailure (c : StatusCode) : c.toWire ≤ StatusCode.ioFailure.toWire := by
  cases c <;> decide

lemma packetVerdict_eq {engine : ReductionEngine} {p : Packet F} {lowest : WithTop (Fin n)}
    (hranks : engine.size = n) (hsize : p.size = engine.maximumScalars + kPacketWords)
    (h : failureIn p = failureOf status lowest) : engine.packetVerdict p = verdictOf status lowest := by
  have hrank : p.failureRank = (failureOf status lowest).1 := congrArg Prod.fst h
  have hcode : p.failureCode = (failureOf status lowest).2.1 := congrArg (fun f => f.2.1) h
  have hdetail : p.failureDetail = (failureOf status lowest).2.2 := congrArg (fun f => f.2.2) h
  unfold packetVerdict
  rw [hsize, hrank, hcode, hdetail, hranks]
  cases lowest with
  | top => simp [failureOf, verdictOf, StatusCode.toWire]
  | coe k =>
    have hle := toWire_le_ioFailure (ownFailure status k).code
    have hbits := (ownFailure status k).detail.toNat_lt
    have hk := k.isLt
    have hnames : failureOf status k = (↑k, (ownFailure status k).code.toWire, (ownFailure status k).detail.toNat) := rfl
    have hguard : ¬ (decide (engine.maximumScalars + kPacketWords ≠ engine.maximumScalars + kPacketWords) ||
        decide (n < (failureOf status k).1) || decide (StatusCode.ioFailure.toWire < (failureOf status k).2.1) ||
        decide (2 ^ 32 - 1 < (failureOf status k).2.2)) = true := by
      simp only [hnames, Bool.or_eq_true, decide_eq_true_eq, ne_eq, not_true_eq_false, false_or]
      omega
    rw [if_neg hguard]
    simp [hnames, verdictOf]

/-- The engines that `compile` has built for one job. -/
structure EnginesAgree (engine : Fin n → ReductionEngine) : Prop where
  rank : ∀ i, (engine i).rank = i
  size : ∀ i, (engine i).size = n
  maximumScalars : ∀ i j, (engine i).maximumScalars = (engine j).maximumScalars
  mode : ∀ i j, (engine i).mode = (engine j).mode

section Job

variable {engine : Fin n → ReductionEngine} (hengine : EnginesAgree engine) (isFinite : F → Bool)
  (call : Fin n → ReductionCall F)

def jobPackets [Zero F] (engine : Fin n → ReductionEngine) (isFinite : F → Bool) (call : Fin n → ReductionCall F)
    (i : Fin n) : Packet F :=
  (engine i).initializePacket 0 (call i).localSpan ((engine i).packetStatus isFinite (call i))

include hengine

lemma initializePacket_summarizes [Zero F] (status : Fin n → Status) (i : Fin n) :
    Summarizes status (fun j => sizeAsDouble (call j).localSpan.size) {i}
      ((engine i).initializePacket 0 (call i).localSpan (status i)) i := by
  have hlowest : lowestFailing status (fun j => sizeAsDouble (call j).localSpan.size)
      (sizeAsDouble (call i).localSpan.size) {i} = if (status i).isOk then ⊤ else ↑i := by
    unfold lowestFailing
    by_cases hok : (status i).isOk = true
    · rw [Multiset.filter_singleton, if_neg (by simp [hok]), if_pos hok]
      rfl
    · rw [Bool.not_eq_true] at hok
      rw [Multiset.filter_singleton, if_pos (.inl hok), if_neg (by simp [hok]), Multiset.map_singleton,
        Multiset.inf_singleton]
  refine ⟨Multiset.mem_singleton_self i, fun j hj => (Multiset.mem_singleton.mp hj).ge, hengine.rank i, rfl, ?_⟩
  rw [hlowest]
  unfold initializePacket failureIn
  by_cases hok : (status i).isOk = true
  · simp only [hok, if_true, hengine.size i]
    rfl
  · rw [Bool.not_eq_true] at hok
    simp only [hok, Bool.false_eq_true, if_false, hengine.rank i, failureOf, failureWith, ownFailure]

lemma combined_summarizes [Zero F] {op : F → F → F} {hn : 0 < n} {mode : ReductionMode} {packet : Packet F}
    (h : CombinedPacket op hn (jobPackets engine isFinite call) mode packet) :
    packet.size = (engine ⟨0, hn⟩).maximumScalars + kPacketWords ∧
      ∃ m, Summarizes (fun i => (engine i).packetStatus isFinite (call i))
        (fun j => sizeAsDouble (call j).localSpan.size) univ.val packet m := by
  obtain ⟨tree, hparties, rfl⟩ := combined_tree h
  rw [← hparties]
  apply CombinationTree.eval_induction (P := fun s (p : Packet F) =>
    p.size = (engine ⟨0, hn⟩).maximumScalars + kPacketWords ∧
      ∃ m, Summarizes (fun i => (engine i).packetStatus isFinite (call i))
        (fun j => sizeAsDouble (call j).localSpan.size) s p m)
  · intro i
    exact ⟨congrArg (· + kPacketWords) (hengine.maximumScalars i _), i,
      initializePacket_summarizes hengine call (fun i => (engine i).packetStatus isFinite (call i)) i⟩
  · rintro s t a b - - ⟨-, m, hm⟩ ⟨hsize, k, hk⟩
    have hheader := combineHeaders_summarizes hm hk
    have hkept : (Packet.combineHeaders a b).size = b.size := by
      unfold Packet.combineHeaders Packet.selectCountMismatch Packet.selectFailure
      dsimp only
      split_ifs <;> rfl
    exact ⟨hkept.trans hsize, _, hheader.mem, hheader.least, hheader.referenceRank, hheader.referenceCount,
      hheader.failure⟩

end Job

/-- Whatever the tree and the order of the operands, all ranks read the same verdict from the
combined packet. It names the lowest rank that has failed or brings a span of another size than
rank zero, and it is a success when there is no such rank. The numbers are the sums or the
maxima over all ranks. -/
theorem reduction_independent_of_tree [AddCommMonoid F] [LinearOrder F] (hn : 0 < n)
    {engine : Fin n → ReductionEngine} (hengine : EnginesAgree engine) (isFinite : F → Bool)
    (call : Fin n → ReductionCall F) :
    (∃ verdict, ReductionDecided hn (fun i => (engine i).packetStatus isFinite (call i))
        (fun i => (call i).localSpan.size) verdict ∧
      ∀ (op : F → F → F) mode packet, CombinedPacket op hn (jobPackets engine isFinite call) mode packet →
        ∀ i, (engine i).packetVerdict packet = verdict) ∧
    (∀ mode packet, CombinedPacket (· + ·) hn (jobPackets engine isFinite call) mode packet →
      ∀ i k, k < (engine i).maximumScalars → packet.values[k]? =
        some (∑ j, contribution ((engine j).packetStatus isFinite (call j)) (call j).localSpan k)) ∧
    (∀ mode packet, CombinedPacket max hn (jobPackets engine isFinite call) mode packet →
      ∀ i k, k < (engine i).maximumScalars → ∃ x, packet.values[k]? = some x ∧
        IsGreatest (Set.range fun j => contribution ((engine j).packetStatus isFinite (call j)) (call j).localSpan k)
          x) := by
  have hvalues : ∀ i k, k < (engine i).maximumScalars → ∀ j, (jobPackets engine isFinite call j).values[k]? =
      some (contribution ((engine j).packetStatus isFinite (call j)) (call j).localSpan k) := by
    intro i k hk j
    rw [hengine.maximumScalars i j] at hk
    exact packetValues_get hk
  refine ⟨⟨_, decided_verdictOf hn _ _, fun op mode packet h i => ?_⟩, fun mode packet h i k hk => ?_,
    fun mode packet h i k hk => ?_⟩
  · obtain ⟨hsize, m, hm⟩ := combined_summarizes hengine isFinite call h
    have hzero : m = ⟨0, hn⟩ := le_antisymm (hm.least _ (mem_univ_val _)) (Nat.zero_le _)
    have hfailure := hm.failure
    rw [hzero, lowestFailing_sizeAsDouble hn fun i hi => sizeAsDouble_of_packetStatus hi] at hfailure
    rw [hengine.maximumScalars _ i] at hsize
    exact packetVerdict_eq (hengine.size i) hsize hfailure
  · exact combined_sum (hvalues i k hk) h
  · exact combined_maximum (hvalues i k hk) h

def pairEngine (i : Fin 2) : ReductionEngine where
  rank := i
  size := 2
  mode := .mpiAllreduce
  maximumScalars := 2
  bounded := by decide

def pairSpans (i : Fin 2) : ReductionCall ℤ where
  localSpan := .of (if i = 0 then [4, 5] else [6])
  globalSize := if i = 0 then 2 else 1
  globalIsNull := false
  overlap := false
  supplied := {}

theorem reduction_independent_of_tree_pair :
    ∃ verdict, ReductionDecided (n := 2) (by decide) (fun i => (pairEngine i).packetStatus (fun _ => true) (pairSpans i))
        (fun i => (pairSpans i).localSpan.size) verdict ∧
      ∀ (op : ℤ → ℤ → ℤ) mode packet, CombinedPacket (n := 2) op (by decide)
        (jobPackets pairEngine (fun _ => true) pairSpans) mode packet →
        ∀ i, (pairEngine i).packetVerdict packet = verdict :=
  (reduction_independent_of_tree (n := 2) (by decide) ⟨fun _ => rfl, fun _ => rfl, fun _ _ => rfl, fun _ _ => rfl⟩
    (fun _ => true) pairSpans).1

end HundunFlow.Proofs
