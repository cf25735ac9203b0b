import HundunFlow.Proofs.ScatterDelivery

/-!
# The stages of a scatter exchange

The ranks settle local results, lay out an exchange and carry it out.
-/

namespace HundunFlow.Proofs

open Lib List

variable {F E S α : Type} {n : ℕ} {hn : 0 < n}

def handedIn (input : Fin n → Span α) : Multiset α := ∑ i, ((input i).values : Multiset α)

lemma mem_handedIn {input : Fin n → Span α} {a : α} : a ∈ handedIn input ↔ ∃ i, a ∈ (input i).values := by
  unfold handedIn
  rw [Multiset.mem_sum]
  simp

/-- A consensus of all ranks: it passes when every rank brings an ok status, and fails otherwise
with one failure for all. -/
structure Consensus (hn : 0 < n) (agree : Fin n → S → ScatterStage F E Unit) (isOk : S → Bool)
    (verdict : E → Prop) : Prop where
  passes (s : Fin n → S) (h : ∀ i, isOk (s i) = true) :
    ∃ trace, (mpiJob hn).Run (fun i => agree i (s i)) trace fun _ => .ok ()
  fails (s : Fin n → S) (h : ¬ ∀ i, isOk (s i) = true) :
    ∃ trace e, verdict e ∧ (mpiJob hn).Run (fun i => agree i (s i)) trace fun _ => .failed e

lemma minima_eq_maxima_iff (v : Fin n → List ℕ) (count : ℕ) (hv : ∀ i, (v i).length = count) :
    ((range count).map fun k => rankMin hn fun j => (v j).getD k 0) =
        ((range count).map fun k => rankMax hn fun j => (v j).getD k 0) ↔
      ∀ i j, v i = v j := by
  constructor
  · intro h i j
    apply ext_getElem ((hv i).trans (hv j).symm)
    intro k hi hj
    have hk := map_inj_left.mp h k (mem_range.mpr ((hv i) ▸ hi))
    have heq := eq_of_rankMin_eq_rankMax hn hk i j
    rwa [getD_eq_getElem _ _ hi, getD_eq_getElem _ _ hj] at heq
  · intro h
    apply map_congr_left
    intro k _
    have hconst : (fun j => (v j).getD k 0) = fun _ => (v ⟨0, hn⟩).getD k 0 := by
      funext j
      rw [h j ⟨0, hn⟩]
    rw [hconst]
    have : Nonempty (Fin n) := ⟨⟨0, hn⟩⟩
    simp only [rankMin, rankMax, Finset.inf'_const, Finset.sup'_const]

variable (hn) in
lemma compareAll_run (mpiFailure mismatch : E) (v : Fin n → List ℕ) (count : ℕ) (hv : ∀ i, (v i).length = count) :
    ∃ trace, (mpiJob hn).Run (fun i => compareAll (F := F) mpiFailure mismatch (v i)) trace fun _ =>
      if ∀ i j, v i = v j then .ok () else .failed mismatch := by
  have hmin := job_allreduceMany_min (W := Lane F) (D := Unit) hn v count hv
  have hmax := job_allreduceMany_max (W := Lane F) (D := Unit) hn v count hv
  refine ⟨[.allreduceMany .min count] ++ ([.allreduceMany .max count] ++ []), ?_⟩
  refine Network.Run.bind hmin ?_
  refine Network.Run.bind hmax ?_
  by_cases hsame : ∀ i j, v i = v j
  · simp only [(minima_eq_maxima_iff v count hv).mpr hsame, if_pos hsame, ne_eq, not_true_eq_false, if_false]
    exact .done _
  · simp only [ne_eq, mt (minima_eq_maxima_iff v count hv).mp hsame, not_false_eq_true, if_true, if_neg hsame]
    exact .done _

section Agree

variable {agree : Fin n → S → ScatterStage F E Unit} {isOk : S → Bool} {verdict : E → Prop}
  (hagree : Consensus hn agree isOk verdict)

include hagree

section Settle

variable {brought : Fin n → Option (S × α)} {s : Fin n → S} {a : Fin n → α}

lemma settle_run_ok (h : ∀ i, brought i = some (s i, a i)) (hok : ∀ i, isOk (s i) = true) : ∃ trace,
    (mpiJob hn).Run (fun i => settle (agree i) (brought i)) trace fun i => .ok (a i) := by
  obtain ⟨trace, hcons⟩ := hagree.passes s hok
  refine ⟨trace ++ [], ?_⟩
  simp only [settle, h]
  exact Network.Run.andThen_ok hcons (.done _)

lemma settle_run_failed (h : ∀ i, brought i = some (s i, a i)) (hbad : ¬ ∀ i, isOk (s i) = true) :
    ∃ trace e, verdict e ∧
      (mpiJob hn).Run (fun i => settle (agree i) (brought i)) trace fun _ => .failed e := by
  obtain ⟨trace, e, he, hcons⟩ := hagree.fails s hbad
  refine ⟨trace ++ [], e, he, ?_⟩
  simp only [settle, h]
  exact Network.Run.andThen_failed hcons

end Settle

section Exchange

variable (mpiFailure : E) {accepted refused : S} (haccepted : isOk accepted = true)
  (hrefused : isOk refused = false) {destination : α → ℕ} {items : Fin n → List α} {lanes : ℕ}
  {capacity : Fin n → ℕ} {before after : Fin n → ℕ → ℕ → Bool}
  (hcapacity : ∀ i, capacity i * lanes ≤ maxInt)
  (hbefore : ∀ i r received, received ≤ capacity i → (before i r received = true ↔ capacity i < received + r))
  (hafter : ∀ i sent received, sent * lanes ≤ maxInt → received ≤ capacity i → after i sent received = false)
  (hdest : ∀ j, ∀ a ∈ items j, destination a < n) (hitems : ∀ i, (items i).length * lanes ≤ maxInt)

omit hagree
include hcapacity hbefore hafter hdest hitems

lemma layoutLoop_counts (i : Fin n) : layoutLoop lanes (before i) (after i) (pairsFor destination items i) 0 0 =
      if (routed items destination i).length ≤ capacity i then
        .ok (scatterSlots lanes destination items i, (routed items destination i).length)
      else .error .refused := by
  have hspec := layoutLoop_spec (hcapacity i) (hbefore i) (hafter i) (pairsFor destination items i) 0 0
    (Nat.zero_le _) (by rw [pairsFor_fst, Nat.zero_add, sum_countsFor (hdest i)]; exact hitems i)
  rw [hspec, pairsFor_snd, sum_receivesFor, Nat.zero_add]
  rfl

include hagree

section Accepted

include haccepted

lemma exchangeCounts_run_ok (refused : S) (hfits : ∀ i : Fin n, (routed items destination i).length ≤ capacity i) : ∃ trace,
    (mpiJob hn).Run
      (fun i => exchangeCounts mpiFailure (agree i) accepted refused lanes (before i) (after i)
        (countsFor n destination (items i))) trace
      fun i => .ok (scatterSlots lanes destination items i, (routed items destination i).length) := by
  have hcounts := job_alltoall (W := Lane F) (D := Unit) hn fun i => countsFor n destination (items i)
  simp only [alltoall_counts] at hcounts
  obtain ⟨trace, hcons⟩ := hagree.passes (fun _ => accepted) fun _ => haccepted
  refine ⟨_, Network.Run.bind (u := trace ++ []) hcounts ?_⟩
  have hlayout : ∀ i, layoutLoop lanes (before i) (after i)
      ((countsFor n destination (items i)).zip (receivesFor destination items i)) 0 0 =
      .ok (scatterSlots lanes destination items i, (routed items destination i).length) := by
    intro i
    have h := layoutLoop_counts hcapacity hbefore hafter hdest hitems i
    rw [if_pos (hfits i)] at h
    exact h
  simp only [hlayout, agreeOnLayout]
  exact Network.Run.andThen_ok hcons (.done _)

end Accepted

include hrefused

lemma exchangeCounts_run_failed (accepted : S)
    (hfull : ¬ ∀ i : Fin n, (routed items destination i).length ≤ capacity i) :
    ∃ trace e, verdict e ∧ (mpiJob hn).Run
      (fun i => exchangeCounts mpiFailure (agree i) accepted refused lanes (before i) (after i)
        (countsFor n destination (items i))) trace fun _ => .failed e := by
  have hcounts := job_alltoall (W := Lane F) (D := Unit) hn fun i => countsFor n destination (items i)
  simp only [alltoall_counts] at hcounts
  let s : Fin n → S := fun i => if (routed items destination i).length ≤ capacity i then accepted else refused
  have hbad : ¬ ∀ i, isOk (s i) = true := by
    intro h
    apply hfull
    intro i
    by_contra hi
    have hok := h i
    simp only [s, if_neg hi, hrefused] at hok
    exact Bool.false_ne_true hok
  obtain ⟨trace, e, he, hcons⟩ := hagree.fails s hbad
  let rest : Fin n → Unit → ScatterStage F E (List Slot × ℕ) := fun i _ =>
    if (routed items destination i).length ≤ capacity i then
      .done (.ok (scatterSlots lanes destination items i, (routed items destination i).length))
    else .done .fault
  refine ⟨_, e, he, Network.Run.bind (u := trace ++ []) hcounts ?_⟩
  have hprogram : ∀ i, agreeOnLayout (agree i) accepted refused
      (layoutLoop lanes (before i) (after i)
        ((countsFor n destination (items i)).zip (receivesFor destination items i)) 0 0) =
      (agree i (s i)).andThen (rest i) := by
    intro i
    have hlayout := layoutLoop_counts hcapacity hbefore hafter hdest hitems i
    rw [pairsFor] at hlayout
    rw [hlayout]
    by_cases hi : (routed items destination i).length ≤ capacity i
    · simp only [if_pos hi, s, rest, agreeOnLayout]
    · simp only [if_neg hi, s, rest, agreeOnLayout]
  simp only [hprogram]
  exact Network.Run.andThen_failed hcons

end Exchange

end Agree

section Deliver

variable {destination : α → ℕ} {items : Fin n → List α}

lemma sendPacked_run (mpiFailure : E) {lanes : ℕ} {encode : α → List (Lane F)} (hencode : ∀ a, (encode a).length = lanes)
    (hdest : ∀ j, ∀ a ∈ items j, destination a < n) {send receive : Fin n → List (Lane F)}
    (hsend : ∀ i, (items i).length * lanes ≤ (send i).length)
    (hreceive : ∀ i : Fin n, (routed items destination i).length * lanes ≤ (receive i).length) :
    ∃ (trace : _) (packed arrived : Fin n → List (Lane F)),
    (mpiJob hn).Run
      (fun i => sendPacked mpiFailure lanes destination encode (items i) (send i) (receive i)
        (scatterSlots lanes destination items i)) trace (fun i => .ok (packed i, arrived i)) ∧
    (∀ i, (packed i).length = (send i).length) ∧ (∀ i, (arrived i).length = (receive i).length) ∧
    ∀ i, rows lanes (arrived i) (routed items destination i).length =
      (routed items destination i).map encode := by
  choose packed moved hpack hlength hload using
    fun i => pack_scatter lanes hencode hdest i (send i) (hsend i)
  let message : Fin n → ScatterMessage (Lane F) := fun i =>
    ⟨packed i, (scatterSlots lanes destination items i).map (·.sendCount),
      (scatterSlots lanes destination items i).map (·.sendOffset), receive i,
      (scatterSlots lanes destination items i).map (·.receiveCount),
      (scatterSlots lanes destination items i).map (·.receiveOffset)⟩
  have hdeliv := fun i => deliver_scatter (D := Unit) lanes hencode message hload i rfl rfl (hreceive i)
  have hrun := job_alltoallv (D := Unit) hn message
  simp only [hdeliv] at hrun
  refine ⟨[.alltoallv] ++ [], packed, fun i => ((routed items destination i).map encode).flatten ++
    (receive i).drop ((routed items destination i).length * lanes), ?_, hlength, ?_, ?_⟩
  · simp only [sendPacked, hpack]
    exact Network.Run.bind hrun (.done _)
  · intro i
    have hflat : (((routed items destination i).map encode).flatten).length =
        (routed items destination i).length * lanes := by
      rw [← flatMap_def, length_flatMap]
      simp only [hencode, map_const', sum_replicate, smul_eq_mul]
    have := hreceive i
    rw [length_append, hflat, length_drop]
    omega
  · intro i
    have hrows := rows_flatten ((routed items destination i).map encode)
      (fun row hrow => by
        obtain ⟨a, -, rfl⟩ := mem_map.mp hrow
        exact hencode a)
      ((receive i).drop ((routed items destination i).length * lanes))
    rw [length_map] at hrows
    exact hrows

end Deliver

variable {agree : Fin n → S → ScatterStage F E Unit} {isOk : S → Bool} {verdict : E → Prop}
  (hagree : Consensus hn agree isOk verdict) (mpiFailure : E) (accepted refused : S)
  (haccepted : isOk accepted = true) (hrefused : isOk refused = false) {destination : α → ℕ}
  {items : Fin n → List α} {lanes : ℕ} {capacity : Fin n → ℕ} {before : Fin n → ℕ → ℕ → Bool} (after : Fin n → ℕ → ℕ → Bool)
  (hcapacity : ∀ i, capacity i * lanes ≤ maxInt)
  (hbefore : ∀ i r received, received ≤ capacity i → (before i r received = true ↔ capacity i < received + r))
  (hafter : ∀ i sent received, sent * lanes ≤ maxInt → received ≤ capacity i → after i sent received = false)
  (hdest : ∀ j, ∀ a ∈ items j, destination a < n) (hitems : ∀ i, (items i).length * lanes ≤ maxInt)
  {send receive : Fin n → List (Lane F)}

include hagree hcapacity hbefore hafter hdest hitems

section Accepted

include haccepted

lemma exchangeItems_run_ok {encode : α → List (Lane F)} (hencode : ∀ a, (encode a).length = lanes)
    (hsend : ∀ i, (items i).length * lanes ≤ (send i).length)
    (hreceive : ∀ i, capacity i * lanes ≤ (receive i).length)
    (hfits : ∀ i : Fin n, (routed items destination i).length ≤ capacity i) :
    ∃ (trace : _) (done : Fin n → Exchanged F),
    (mpiJob hn).Run
      (fun i => exchangeItems mpiFailure (exchangeCounts mpiFailure (agree i) accepted refused lanes (before i)
        (after i) (countsFor n destination (items i))) lanes destination encode (items i) (send i) (receive i))
      trace (fun i => .ok (done i)) ∧
    ∀ i : Fin n, (done i).received = (routed items destination i).length ∧
      (done i).send.length = (send i).length ∧ (done i).receive.length = (receive i).length ∧
      rows lanes (done i).receive (done i).received = (routed items destination i).map encode := by
  obtain ⟨trace, hcounts⟩ := exchangeCounts_run_ok hagree mpiFailure haccepted hcapacity hbefore hafter hdest hitems
    refused hfits
  obtain ⟨trace', packed, arrived, hdelivery, hpacked, harrived, hrows⟩ :=
    sendPacked_run (n := n) mpiFailure hencode hdest hsend
      fun i => (Nat.mul_le_mul_right lanes (hfits i)).trans (hreceive i)
  refine ⟨_, fun i => ⟨_, _, packed i, arrived i⟩, Network.Run.andThen_ok hcounts
    (Network.Run.andThen_ok hdelivery (.done _)), fun i => ⟨rfl, hpacked i, harrived i, hrows i⟩⟩

end Accepted

include hrefused

lemma exchangeItems_run_failed (encode : α → List (Lane F)) (send receive : Fin n → List (Lane F))
    (hfull : ¬ ∀ i : Fin n, (routed items destination i).length ≤ capacity i) :
    ∃ trace e, verdict e ∧ (mpiJob hn).Run
      (fun i => exchangeItems mpiFailure (exchangeCounts mpiFailure (agree i) accepted refused lanes (before i)
        (after i) (countsFor n destination (items i))) lanes destination encode (items i) (send i) (receive i))
      trace fun _ => .failed e := by
  obtain ⟨trace, e, he, hcounts⟩ := exchangeCounts_run_failed hagree mpiFailure hrefused hcapacity hbefore hafter hdest
    hitems accepted hfull
  exact ⟨_, e, he, Network.Run.andThen_failed hcounts⟩

end HundunFlow.Proofs
