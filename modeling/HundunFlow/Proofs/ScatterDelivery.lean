import HundunFlow.ScatterExchange
import HundunFlow.Lib.Replies

/-!
# What a scatter exchange delivers

The layouts of all ranks fit together: the stretch one rank packs for another is the stretch
the other expects, so every rank receives exactly the items that are meant for it.
-/

namespace HundunFlow.Proofs

open Lib List Function

section

section Tally

variable {α : Type}

def countsFor (ranks : ℕ) (destination : α → ℕ) (items : List α) : List ℕ :=
  (range ranks).map (countFor destination items)

variable {ranks : ℕ} (f : ℕ → ℕ) (destination : α → ℕ)

lemma getD_map_range {r : ℕ} (hr : r < ranks) : ((range ranks).map f).getD r 0 = f r := by
  rw [getD_eq_getElem _ _ (by simpa using hr)]
  simp

lemma getElem?_map_range (f : ℕ → ℕ) {ranks r : ℕ} (hr : r < ranks) :
    ((range ranks).map f)[r]? = some (f r) := by
  rw [List.getElem?_map, List.getElem?_range hr]
  rfl

lemma set_map_range {d : ℕ} (hd : d < ranks) : ((range ranks).map f).set d (f d + 1) =
      (range ranks).map fun r => f r + if d = r then 1 else 0 := by
  apply ext_getElem?
  intro k
  rw [List.getElem?_set]
  by_cases hk : d = k
  · subst hk
    rw [if_pos rfl, if_pos (by simpa using hd), getElem?_map_range _ hd, if_pos rfl]
  · rw [if_neg hk]
    by_cases hlt : k < ranks
    · rw [getElem?_map_range _ hlt, getElem?_map_range _ hlt, if_neg hk, Nat.add_zero]
    · rw [List.getElem?_eq_none (by simpa using hlt), List.getElem?_eq_none (by simpa using hlt)]

lemma map_range_countFor_cons (f : ℕ → ℕ) (ranks : ℕ) (a : α) (rest : List α) :
    ((range ranks).map fun r => (f r + if destination a = r then 1 else 0) + countFor destination rest r) =
      (range ranks).map fun r => f r + countFor destination (a :: rest) r := by
  apply map_congr_left
  intro r _
  rw [countFor_cons]
  omega

lemma tallyLoop_map {β : Type} (f : β → α) (items : List β) (counts : List ℕ) :
    tallyLoop destination (items.map f) counts = tallyLoop (destination ∘ f) items counts := by
  induction items generalizing counts with
  | nil => rfl
  | cons b rest ih =>
    rw [map_cons, tallyLoop, tallyLoop]
    simp only [comp_apply, ih]

lemma tallyLoop_spec {destination : α → ℕ} (items : List α) (hdest : ∀ a ∈ items, destination a < ranks) (f : ℕ → ℕ) :
    tallyLoop destination items ((range ranks).map f) =
      some ((range ranks).map fun r => f r + countFor destination items r) := by
  induction items generalizing f with
  | nil => simp [tallyLoop, countFor]
  | cons a rest ih =>
    have ha : destination a < ranks := hdest a (by simp)
    rw [tallyLoop, getElem?_map_range _ ha]
    simp only
    rw [set_map_range _ ha, ih fun b hb => hdest b (by simp [hb]), map_range_countFor_cons]

lemma tally_spec {destination : α → ℕ} {items : List α} (hdest : ∀ a ∈ items, destination a < ranks) :
    tally ranks destination items = some (countsFor ranks destination items) := by
  have hzero : replicate ranks 0 = (range ranks).map fun _ => 0 := by
    rw [map_const', length_range]
  rw [tally, hzero, tallyLoop_spec items hdest, countsFor]
  simp only [Nat.zero_add]

end Tally

def slotsFrom (lanes : ℕ) : List (ℕ × ℕ) → ℕ → ℕ → List Slot
  | [], _, _ => []
  | (s, r) :: rest, sent, received =>
    ⟨sent * lanes, received * lanes, s * lanes, r * lanes⟩ :: slotsFrom lanes rest (sent + s) (received + r)

lemma layoutLoop_spec {lanes capacity : ℕ} {before after : ℕ → ℕ → Bool} (hcapacity : capacity * lanes ≤ maxInt)
    (hbefore : ∀ r received, received ≤ capacity → (before r received = true ↔ capacity < received + r))
    (hafter : ∀ sent received, sent * lanes ≤ maxInt → received ≤ capacity → after sent received = false)
    (pairs : List (ℕ × ℕ)) (sent received : ℕ) (hreceived : received ≤ capacity)
    (hsent : (sent + (pairs.map Prod.fst).sum) * lanes ≤ maxInt) :
    layoutLoop lanes before after pairs sent received =
      if received + (pairs.map Prod.snd).sum ≤ capacity then
        .ok (slotsFrom lanes pairs sent received, received + (pairs.map Prod.snd).sum)
      else .error .refused := by
  induction pairs generalizing sent received with
  | nil => simp [layoutLoop, slotsFrom, hreceived]
  | cons pair rest ih =>
    obtain ⟨s, r⟩ := pair
    simp only [map_cons, sum_cons] at hsent ⊢
    have hint : ∀ x y, y * lanes ≤ maxInt → x ≤ y → asInt (x * lanes) = some (x * lanes) := by
      intro x y hy hxy
      exact if_pos ((Nat.mul_le_mul_right lanes hxy).trans hy)
    rw [layoutLoop]
    by_cases hfull : capacity < received + r
    · rw [if_pos ((hbefore r received hreceived).mpr hfull), if_neg (by omega)]
    · rw [if_neg (mt (hbefore r received hreceived).mp hfull), hint sent _ hsent (by omega),
        hint received _ hcapacity hreceived]
      simp only
      have hsum : (sent + s) * lanes ≤ maxInt := (Nat.mul_le_mul_right lanes (by omega)).trans hsent
      rw [hafter _ _ hsum (by omega), hint s _ hsent (by omega), hint r _ hcapacity (by omega)]
      simp only [Bool.false_eq_true, if_false]
      rw [ih (sent + s) (received + r) (by omega) (by rwa [Nat.add_assoc])]
      by_cases hfits : received + r + (rest.map Prod.snd).sum ≤ capacity
      · rw [if_pos hfits, if_pos (by omega), slotsFrom, Nat.add_assoc]
      · rw [if_neg hfits, if_neg (by omega)]

section Slots

variable (lanes : ℕ) (pairs : List (ℕ × ℕ)) (sent received : ℕ)

lemma slotsFrom_sendCount :
    (slotsFrom lanes pairs sent received).map (·.sendCount) = pairs.map fun p => p.1 * lanes := by
  induction pairs generalizing sent received with
  | nil => rfl
  | cons pair rest ih => rw [slotsFrom, map_cons, map_cons, ih]

lemma slotsFrom_receiveCount :
    (slotsFrom lanes pairs sent received).map (·.receiveCount) = pairs.map fun p => p.2 * lanes := by
  induction pairs generalizing sent received with
  | nil => rfl
  | cons pair rest ih => rw [slotsFrom, map_cons, map_cons, ih]

lemma slotsFrom_sendOffset :
    (slotsFrom lanes pairs sent received).map (·.sendOffset) = (range pairs.length).map fun k =>
      sent * lanes + sumBefore (pairs.map fun p => p.1 * lanes) k := by
  induction pairs generalizing sent received with
  | nil => rfl
  | cons pair rest ih =>
    rw [slotsFrom, map_cons, ih, length_cons, range_succ_eq_map, map_cons, map_map]
    congr 1
    apply map_congr_left
    intro k _
    simp only [sumBefore, comp_apply, map_cons, take_succ_cons, sum_cons]
    rw [Nat.add_mul, Nat.add_assoc]

lemma slotsFrom_receiveOffset :
    (slotsFrom lanes pairs sent received).map (·.receiveOffset) = (range pairs.length).map fun k =>
      received * lanes + sumBefore (pairs.map fun p => p.2 * lanes) k := by
  induction pairs generalizing sent received with
  | nil => rfl
  | cons pair rest ih =>
    rw [slotsFrom, map_cons, ih, length_cons, range_succ_eq_map, map_cons, map_map]
    congr 1
    apply map_congr_left
    intro k _
    simp only [sumBefore, comp_apply, map_cons, take_succ_cons, sum_cons]
    rw [Nat.add_mul, Nat.add_assoc]

end Slots

section Pieces

variable {W D : Type} {n : ℕ}

/-- Pieces that come from all ranks in turn are laid one after the other. -/
theorem place_incoming (message : Fin n → ScatterMessage W) (i : Fin n) (pieces : Fin n → List W)
    (hstretch : ∀ j, load (message j).send ((message j).sendOffsets.getD i 0) ((message j).sendCounts.getD i 0) =
      some (pieces j))
    (hcounts : (message i).receiveCounts = (ofFn pieces).map length)
    (hoffsets : (message i).receiveOffsets = (range n).map (sumBefore ((ofFn pieces).map length)))
    (hreceive : (ofFn pieces).flatten.length ≤ (message i).receive.length) :
    place (incoming (D := D) (fun j => .alltoallv (message j)) i (message i).receiveCounts
        (message i).receiveOffsets) (message i).receive =
      some ((ofFn pieces).flatten ++ (message i).receive.drop (ofFn pieces).flatten.length) := by
  have hincoming : incoming (D := D) (fun j => .alltoallv (message j)) i (message i).receiveCounts
      (message i).receiveOffsets = contiguous 0 (ofFn pieces) := by
    apply ext_getElem?
    intro k
    rw [getElem?_contiguous, incoming, List.getElem?_map]
    by_cases hk : k < n
    · have hfin : (finRange n)[k]? = some ⟨k, hk⟩ := by
        rw [List.getElem?_eq_getElem (by simpa using hk)]
        simp
      have hpiece : (ofFn pieces)[k]? = some (pieces ⟨k, hk⟩) := by
        rw [List.getElem?_ofFn, dif_pos hk]
      rw [hfin, hpiece, Option.map_some, Option.map_some, hoffsets, getD_map_range _ hk, hcounts, Nat.zero_add]
      congr 2
      · rw [getD_eq_getElem?_getD, List.getElem?_map, hpiece]
        rfl
      · exact hstretch ⟨k, hk⟩
    · rw [List.getElem?_eq_none (by simpa using hk), List.getElem?_eq_none (by simpa using hk)]
      rfl
  rw [hincoming, place_contiguous 0 (ofFn pieces) _ (by rw [Nat.zero_add]; exact hreceive), take_zero,
    nil_append, Nat.zero_add]

end Pieces

section Deliver

variable {α W : Type} {n : ℕ} (lanes : ℕ) (destination : α → ℕ) (items : Fin n → List α)

/-- The counts rank `i` gets in the exchange of counts. -/
def receivesFor (i : Fin n) : List ℕ := ofFn fun j => countFor destination (items j) i

/-- The send and receive counts of rank `i`, one pair for each rank. -/
def pairsFor (i : Fin n) : List (ℕ × ℕ) :=
  (countsFor n destination (items i)).zip (receivesFor destination items i)

/-- The layout rank `i` arrives at. -/
def scatterSlots (i : Fin n) : List Slot := slotsFrom lanes (pairsFor destination items i) 0 0

variable (i : Fin n)

lemma length_countsFor (list : List α) : (countsFor n destination list).length = n := by
  rw [countsFor, length_map, length_range]

lemma length_receivesFor : (receivesFor destination items i).length = n := by
  rw [receivesFor, length_ofFn]

lemma length_pairsFor : (pairsFor destination items i).length = n := by
  rw [pairsFor, length_zip, length_countsFor, length_receivesFor, Nat.min_self]

lemma pairsFor_fst : (pairsFor destination items i).map Prod.fst = countsFor n destination (items i) :=
  map_fst_zip (by rw [length_countsFor, length_receivesFor])

lemma pairsFor_snd : (pairsFor destination items i).map Prod.snd = receivesFor destination items i :=
  map_snd_zip (by rw [length_countsFor, length_receivesFor])

lemma scatterSlots_sendCount : (scatterSlots lanes destination items i).map (·.sendCount) =
      (countsFor n destination (items i)).map (· * lanes) := by
  rw [scatterSlots, slotsFrom_sendCount, ← pairsFor_fst destination items i, map_map]
  rfl

lemma scatterSlots_receiveCount : (scatterSlots lanes destination items i).map (·.receiveCount) =
      (receivesFor destination items i).map (· * lanes) := by
  rw [scatterSlots, slotsFrom_receiveCount, ← pairsFor_snd destination items i, map_map]
  rfl

lemma scatterSlots_sendOffset : (scatterSlots lanes destination items i).map (·.sendOffset) =
      (range n).map (sumBefore ((countsFor n destination (items i)).map (· * lanes))) := by
  rw [scatterSlots, slotsFrom_sendOffset, length_pairsFor, ← slotsFrom_sendCount lanes _ 0 0, ← scatterSlots,
    scatterSlots_sendCount]
  simp only [Nat.zero_mul, Nat.zero_add]

lemma scatterSlots_receiveOffset : (scatterSlots lanes destination items i).map (·.receiveOffset) =
      (range n).map (sumBefore ((receivesFor destination items i).map (· * lanes))) := by
  rw [scatterSlots, slotsFrom_receiveOffset, length_pairsFor, ← slotsFrom_receiveCount lanes _ 0 0, ← scatterSlots,
    scatterSlots_receiveCount]
  simp only [Nat.zero_mul, Nat.zero_add]

lemma alltoall_counts :
    (ofFn fun j => (countsFor n destination (items j)).getD i 0) = receivesFor destination items i := by
  rw [receivesFor]
  congr 1
  funext j
  exact getD_map_range _ i.isLt

lemma sum_receivesFor : (receivesFor destination items i).sum = (routed items destination i).length := by
  rw [receivesFor, length_routed, ofFn_eq_map]
  rfl

variable {destination items}

lemma sum_countsFor {list : List α} (h : ∀ a ∈ list, destination a < n) :
    (countsFor n destination list).sum = list.length := by
  have hsum : (countsFor n destination list).sum = ∑ r ∈ Finset.range n, countFor destination list r := rfl
  have hcard := congrArg Multiset.card (sum_filter_destination (list : Multiset α) h)
  rw [hsum, Finset.sum_range, ← Multiset.coe_card, ← hcard, Multiset.card_sum]
  apply Finset.sum_congr rfl
  intro r _
  rw [Multiset.filter_coe, Multiset.coe_card, countFor, countP_eq_length_filter]

variable {encode : α → List W} (hlanes : ∀ a, (encode a).length = lanes)

include hlanes

/-- Packing by the layout leaves for each rank the stretch of its items. -/
theorem pack_scatter (hdest : ∀ j, ∀ a ∈ items j, destination a < n) (i : Fin n) (send : List W)
    (hsend : (items i).length * lanes ≤ send.length) :
    ∃ packed moved,
      pack lanes destination encode (items i) send
        ((scatterSlots lanes destination items i).map (·.sendOffset)) = some (packed, moved) ∧
      packed.length = send.length ∧
      ∀ r < n, load packed (((scatterSlots lanes destination items i).map (·.sendOffset)).getD r 0)
          (((scatterSlots lanes destination items i).map (·.sendCount)).getD r 0) =
        some (((items i).filter fun a => destination a = r).flatMap encode) := by
  have hcounts : (scatterSlots lanes destination items i).map (·.sendCount) =
      (range n).map fun r => lanes * countFor destination (items i) r := by
    rw [scatterSlots_sendCount, countsFor, map_map]
    apply map_congr_left
    intro r _
    exact Nat.mul_comm _ _
  have hoffsets : (scatterSlots lanes destination items i).map (·.sendOffset) =
      (range n).map (sumBefore ((scatterSlots lanes destination items i).map (·.sendCount))) := by
    rw [scatterSlots_sendOffset, scatterSlots_sendCount]
  have hsum : ((scatterSlots lanes destination items i).map (·.sendCount)).sum = (items i).length * lanes := by
    rw [hcounts, sum_map_mul_left, Nat.mul_comm]
    congr 1
    exact sum_countsFor (hdest i)
  obtain ⟨packed, moved, hpack, hlength, hload⟩ := pack_from_starts hlanes (items i) send
    ((scatterSlots lanes destination items i).map (·.sendCount))
    (by rw [hcounts, length_map]; exact length_range)
    (fun r hr => by rw [hcounts, getD_map_range _ hr]) (hdest i) (by rw [hsum]; exact hsend)
  rw [← hoffsets] at hpack
  refine ⟨packed, moved, hpack, hlength, fun r hr => ?_⟩
  have hr' := hload r hr
  rw [hoffsets, getD_map_range _ hr]
  exact hr'

/-- What arrives: the items of all senders for this rank, in the order of the ranks. -/
theorem deliver_scatter {D : Type} (message : Fin n → ScatterMessage W)
    (hsends : ∀ j, ∀ r < n, load (message j).send ((message j).sendOffsets.getD r 0)
      ((message j).sendCounts.getD r 0) =
        some (((items j).filter fun a => destination a = r).flatMap encode))
    (i : Fin n)
    (hcounts : (message i).receiveCounts = (scatterSlots lanes destination items i).map (·.receiveCount))
    (hoffsets : (message i).receiveOffsets = (scatterSlots lanes destination items i).map (·.receiveOffset))
    (hreceive : (routed items destination i).length * lanes ≤ (message i).receive.length) :
    place (incoming (D := D) (fun j => .alltoallv (message j)) i (message i).receiveCounts
        (message i).receiveOffsets) (message i).receive =
      some (((routed items destination i).map encode).flatten ++
        (message i).receive.drop ((routed items destination i).length * lanes)) := by
  let pieces : Fin n → List W := fun j => ((items j).filter fun a => destination a = (i : ℕ)).flatMap encode
  have hlength : ∀ list : List α, (list.flatMap encode).length = list.length * lanes := by
    intro list
    rw [length_flatMap]
    simp only [hlanes, map_const', sum_replicate, smul_eq_mul]
  have hpieces : (ofFn pieces).map length = (receivesFor destination items i).map (· * lanes) := by
    rw [receivesFor, ofFn_eq_map, ofFn_eq_map, map_map, map_map]
    apply map_congr_left
    intro j _
    simp only [comp_apply, pieces, hlength, countFor, countP_eq_length_filter]
  have hflatten : (ofFn pieces).flatten = ((routed items destination i).map encode).flatten := by
    rw [ofFn_eq_map, ← flatMap_def, ← flatMap_def, routed, flatMap_assoc]
  have hreceiveCount : (scatterSlots lanes destination items i).map (·.receiveCount) =
      (ofFn pieces).map length := by
    rw [scatterSlots_receiveCount, hpieces]
  have hreceiveOffset : (scatterSlots lanes destination items i).map (·.receiveOffset) =
      (range n).map (sumBefore ((ofFn pieces).map length)) := by
    rw [scatterSlots_receiveOffset, hpieces]
  have htotal : (ofFn pieces).flatten.length = (routed items destination i).length * lanes := by
    rw [hflatten, ← flatMap_def, hlength]
  have hplace := place_incoming (D := D) message i pieces (fun j => hsends j i i.isLt)
    (hcounts.trans hreceiveCount) (hoffsets.trans hreceiveOffset) (by rw [htotal]; exact hreceive)
  rwa [htotal, hflatten] at hplace

end Deliver

end

/-! ### Replies to a scatter exchange -/

variable {α W D : Type} {n : ℕ} {lanes : ℕ} {destination : α → ℕ} {items : Fin n → List α} {reply : α → List W}
  (hreply : ∀ a, (reply a).length = lanes)

include hreply

lemma length_flatMap_reply (list : List α) : (list.flatMap reply).length = list.length * lanes := by
  rw [length_flatMap]
  simp only [hreply, map_const', sum_replicate, smul_eq_mul]

omit hreply in
lemma flatten_replies (r : ℕ) :
    (ofFn fun j => ((items j).filter fun a => destination a = r).flatMap reply).flatten =
      (routed items destination r).flatMap reply := by
  rw [ofFn_eq_map, ← flatMap_def, routed, flatMap_assoc]

lemma length_replies (r : Fin n) :
    (ofFn fun j => ((items j).filter fun a => destination a = r).flatMap reply).map length =
      (receivesFor destination items r).map (· * lanes) := by
  rw [receivesFor, ofFn_eq_map, ofFn_eq_map, map_map, map_map]
  apply map_congr_left
  intro j _
  simp only [Function.comp_apply, length_flatMap_reply hreply, countFor, countP_eq_length_filter]

/-- What comes back to rank `i`. -/
theorem deliver_reply (message : Fin n → ScatterMessage W) (rest : Fin n → List W)
    (hsend : ∀ r : Fin n, (message r).send = (routed items destination r).flatMap reply ++ rest r)
    (hsendCounts : ∀ r, (message r).sendCounts = (receivesFor destination items r).map (· * lanes))
    (hsendOffsets : ∀ r, (message r).sendOffsets =
      (range n).map (sumBefore ((receivesFor destination items r).map (· * lanes))))
    (hreceiveCounts : ∀ i, (message i).receiveCounts = (countsFor n destination (items i)).map (· * lanes))
    (hrecv : ∀ i, (message i).receiveOffsets =
      (range n).map (sumBefore ((countsFor n destination (items i)).map (· * lanes))))
    (hdest : ∀ j, ∀ a ∈ items j, destination a < n)
    (hreceive : ∀ i, (items i).length * lanes ≤ (message i).receive.length) (i : Fin n) :
    ∃ returned, place (incoming (D := D) (fun j => .alltoallv (message j)) i (message i).receiveCounts
        (message i).receiveOffsets) (message i).receive = some returned ∧
      returned.length = (message i).receive.length ∧
      ∀ r < n, load returned ((message i).receiveOffsets.getD r 0) (lanes * countFor destination (items i) r) =
        some (((items i).filter fun a => destination a = r).flatMap reply) := by
  let pieces : Fin n → List W := fun r => ((items i).filter fun a => destination a = (r : ℕ)).flatMap reply
  have hcounts : (ofFn pieces).map length = (countsFor n destination (items i)).map (· * lanes) := by
    rw [ofFn_eq_map, map_map, countsFor, map_map, ← map_coe_finRange_eq_range, map_map]
    apply map_congr_left
    intro r _
    simp only [Function.comp_apply, pieces, length_flatMap_reply hreply, countFor, countP_eq_length_filter]
  have htotal : (ofFn pieces).flatten.length = (items i).length * lanes := by
    rw [length_flatten, hcounts, sum_map_mul_right, map_id', sum_countsFor (hdest i)]
  have hstretch : ∀ r : Fin n, load (message r).send ((message r).sendOffsets.getD i 0)
      ((message r).sendCounts.getD i 0) = some (pieces r) := by
    intro r
    have hpiece : (ofFn fun j => ((items j).filter fun a => destination a = (r : ℕ)).flatMap reply)[(i : ℕ)]? =
        some (pieces r) := by
      rw [List.getElem?_ofFn, dif_pos i.isLt]
    have hfound := load_flatten _ (rest r) hpiece
    rw [flatten_replies, length_replies hreply] at hfound
    have hcount : ((receivesFor destination items r).map (· * lanes)).getD i 0 = (pieces r).length := by
      rw [← length_replies hreply r, getD_eq_getElem?_getD, List.getElem?_map, hpiece]
      rfl
    rw [hsend, hsendOffsets, getD_map_range _ i.isLt, hsendCounts, hcount]
    exact hfound
  refine ⟨_, place_incoming message i pieces hstretch ((hreceiveCounts i).trans hcounts.symm)
    (by rw [hrecv, hcounts]) (by rw [htotal]; exact hreceive i), ?_, fun r hr => ?_⟩
  · have := hreceive i
    rw [length_append, htotal, length_drop]
    omega
  · have hpiece : (ofFn pieces)[r]? = some (pieces ⟨r, hr⟩) := by
      rw [List.getElem?_ofFn, dif_pos hr]
    have hfound := load_flatten (ofFn pieces) ((message i).receive.drop (ofFn pieces).flatten.length) hpiece
    have hcount : (pieces ⟨r, hr⟩).length = lanes * countFor destination (items i) r := by
      rw [length_flatMap_reply hreply, countFor, countP_eq_length_filter, Nat.mul_comm]
    rw [hcounts, hcount] at hfound
    rw [hrecv, getD_map_range _ hr]
    exact hfound

end HundunFlow.Proofs
