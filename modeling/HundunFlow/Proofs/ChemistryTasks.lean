import HundunFlow.ChemistryBatch
import HundunFlow.Proofs.ParcelRows
import HundunFlow.Proofs.ScatterDelivery

/-!
# The loops of the chemistry batch

What the local loops between the collectives do: the slots of the hot cells and their layout, the
integration of what arrives, the cold cells, and the copy of the results to their cells.
-/

namespace HundunFlow.Proofs

open Lib ChemistryBatch Option

section Slots

variable {F : Type} {iw : ℕ} {target : ℕ × ℕ → ℕ} {row : ℕ → List F}

lemma fillTasks_spec (items : List (ℕ × ℕ)) (position indices : List ℕ) (send : List F)
    {filled moved : List ℕ} {packed : List F} {moved' : List ℕ}
    (hindices : pack 1 target (fun item => [item.1]) items indices position = some (filled, moved))
    (hsend : pack iw target (fun item => row item.1) items send (position.map (· * iw)) = some (packed, moved')) :
    fillTasks iw target row items position indices send = some (filled, packed) := by
  induction items generalizing position indices send with
  | nil =>
    simp only [pack, some.injEq, Prod.mk.injEq] at hindices hsend
    rw [fillTasks, hindices.1, hsend.1]
  | cons item rest ih =>
    rw [pack] at hindices hsend
    rw [List.getElem?_map] at hsend
    rw [fillTasks]
    cases hposition : position[target item]? with
    | none =>
      rw [hposition] at hindices
      cases hindices
    | some slot =>
      rw [hposition] at hindices hsend
      simp only [map_some] at hindices hsend ⊢
      cases hcell : store indices slot [item.1] with
      | none =>
        rw [hcell] at hindices
        cases hindices
      | some indices' =>
        cases hrow : store send (slot * iw) (row item.1) with
        | none =>
          rw [hrow] at hsend
          cases hsend
        | some send' =>
          rw [hcell] at hindices
          rw [hrow] at hsend
          simp only at hindices hsend ⊢
          apply ih _ _ _ hindices
          rw [List.map_set, Nat.add_mul, Nat.one_mul]
          exact hsend

end Slots

section Layouts

variable (received : List ℕ)

lemma offsetsLoop_fits (number : ℕ) (h : number + received.sum ≤ maxInt) : offsetsLoop received number =
      ((List.range received.length).map fun r => number + sumBefore received r, number + received.sum, false) := by
  induction received generalizing number with
  | nil => rfl
  | cons count rest ih =>
    rw [List.sum_cons] at h
    rw [offsetsLoop, if_neg (by omega), ih (number + count) (by omega)]
    simp only [List.length_cons, List.range_succ_eq_map, List.map_cons, List.map_map, List.sum_cons, sumBefore_zero,
      Nat.add_zero, Nat.add_assoc]
    rfl

lemma offsetsLoop_breaks (number : ℕ) (hnumber : number ≤ maxInt)
    (h : maxInt < number + received.sum) : (offsetsLoop received number).2.2 = true := by
  induction received generalizing number with
  | nil =>
    rw [List.sum_nil] at h
    omega
  | cons count rest ih =>
    rw [List.sum_cons] at h
    rw [offsetsLoop]
    by_cases hcount : maxInt - number < count
    · rw [if_pos hcount]
    · rw [if_neg hcount]
      exact ih (number + count) (by omega) (by omega)

lemma slotsFrom_eq_map (lanes : ℕ) (pairs : List (ℕ × ℕ)) (sent received : ℕ) :
    slotsFrom lanes pairs sent received = (List.range pairs.length).map fun r =>
      ⟨(sent + sumBefore (pairs.map Prod.fst) r) * lanes, (received + sumBefore (pairs.map Prod.snd) r) * lanes,
        (pairs.map Prod.fst).getD r 0 * lanes, (pairs.map Prod.snd).getD r 0 * lanes⟩ := by
  induction pairs generalizing sent received with
  | nil => rfl
  | cons pair rest ih =>
    rw [slotsFrom, ih, List.length_cons, List.range_succ_eq_map, List.map_cons, List.map_map]
    congr 1
    apply List.map_congr_left
    intro r _
    simp [sumBefore, Nat.add_assoc]

section Scatter

variable {α : Type} {n : ℕ} (destination : α → ℕ) (items : Fin n → List α)

lemma taskSlots_eq (i : Fin n) (h : (receivesFor destination items i).sum ≤ maxInt) :
    taskSlots (countsFor n destination (items i))
        ((List.range (countsFor n destination (items i)).length).map (sumBefore (countsFor n destination (items i))))
        (receivesFor destination items i) (offsetsLoop (receivesFor destination items i) 0).1 =
      scatterSlots 1 destination items i := by
  rw [scatterSlots, slotsFrom_eq_map, length_pairsFor, pairsFor_fst, pairsFor_snd,
    offsetsLoop_fits _ _ (by rw [Nat.zero_add]; exact h), taskSlots, length_countsFor, length_receivesFor]
  apply List.map_congr_left
  intro r hr
  have hr := List.mem_range.mp hr
  rw [getD_map_range _ hr, getD_map_range _ hr]
  simp only [Nat.zero_add, Nat.mul_one]

lemma scaleSlots_spec (width : ℕ) (i : Fin n) (hsent : (countsFor n destination (items i)).sum * width ≤ maxInt)
    (hreceived : (receivesFor destination items i).sum * width ≤ maxInt) :
    (scatterSlots 1 destination items i).mapM (scaleSlot width) = some (scatterSlots width destination items i) := by
  have hscale : ∀ (pairs : List (ℕ × ℕ)) (sent received : ℕ),
      (sent + (pairs.map Prod.fst).sum) * width ≤ maxInt → (received + (pairs.map Prod.snd).sum) * width ≤ maxInt →
      (slotsFrom 1 pairs sent received).mapM (scaleSlot width) = some (slotsFrom width pairs sent received) := by
    intro pairs
    induction pairs with
    | nil =>
      intro sent received _ _
      rfl
    | cons pair rest ih =>
      intro sent received hsent hreceived
      obtain ⟨s, r⟩ := pair
      simp only [List.map_cons, List.sum_cons, Nat.add_mul] at hsent hreceived
      have hint : ∀ value, value * width ≤ maxInt → asInt (value * 1 * width) = some (value * width) := by
        intro value hvalue
        rw [Nat.mul_one]
        exact if_pos hvalue
      have hslot : scaleSlot width ⟨sent * 1, received * 1, s * 1, r * 1⟩ =
          some ⟨sent * width, received * width, s * width, r * width⟩ := by
        simp only [scaleSlot]
        rw [hint s (by omega), hint r (by omega), hint sent (by omega), hint received (by omega)]
      rw [slotsFrom, List.mapM_cons, hslot,
        ih (sent + s) (received + r) (by simp only [Nat.add_mul]; omega) (by simp only [Nat.add_mul]; omega), slotsFrom]
      rfl
  apply hscale
  · rw [pairsFor_fst, Nat.zero_add]
    exact hsent
  · rw [pairsFor_snd, Nat.zero_add]
    exact hreceived

lemma unscaleSlots_spec {width : ℕ} (hwidth : 0 < width) (i : Fin n) :
    (scatterSlots width destination items i).map (unscaleSlot width) = scatterSlots 1 destination items i := by
  rw [scatterSlots, scatterSlots, slotsFrom_eq_map, slotsFrom_eq_map, List.map_map]
  apply List.map_congr_left
  intro r _
  simp only [Function.comp_apply, unscaleSlot, Nat.mul_div_cancel _ hwidth, Nat.mul_one]

end Scatter

end Layouts

section Evaluation

variable {F : Type} [Field F] [LinearOrder F] [FloorRing F] (b : ChemistryBatch F) (provider : GasAdvanceProvider F)

omit [LinearOrder F] [FloorRing F] in
lemma length_evaluate {row words : List F} {duration : F} (h : b.evaluate provider row duration = some words) :
    words.length = b.outputWidth := by
  rw [evaluate, map_eq_some_iff] at h
  obtain ⟨out, -, rfl⟩ := h
  simp only [List.length_append, List.length_map, List.length_range, tail, List.length_cons, List.length_nil, outputWidth]
  omega

def taskResult (row : List F) : List F :=
  (b.evaluate provider row b.dt).getD (List.replicate b.outputWidth 0)

omit [LinearOrder F] [FloorRing F] in
@[simp] lemma length_taskResult (row : List F) : (taskResult b provider row).length = b.outputWidth := by
  unfold taskResult
  cases h : b.evaluate provider row b.dt with
  | none => rw [getD_none, List.length_replicate]
  | some words => exact length_evaluate b provider h

def taskFails (row : List F) : Bool := (b.evaluate provider row b.dt).isNone

omit [LinearOrder F] [FloorRing F] in
lemma integrate_spec (rows : List (List F)) (i : ℕ) (result : List F) (bad : Bool)
    (hrecv : ∀ k, ∀ hk : k < rows.length, load b.recv ((i + k) * b.inputWidth) b.inputWidth = some rows[k])
    (hresult : (i + rows.length) * b.outputWidth ≤ result.length) :
    ∃ filled, b.integrate provider i rows.length result bad =
        some (filled, bad || rows.any (taskFails b provider)) ∧
      (rows.any (taskFails b provider) = false →
        filled = result.take (i * b.outputWidth) ++ rows.flatMap (taskResult b provider) ++
          result.drop ((i + rows.length) * b.outputWidth)) := by
  induction rows generalizing i result bad with
  | nil =>
    refine ⟨result, by simp [integrate], fun _ => ?_⟩
    simp
  | cons row rest ih =>
    have hload := hrecv 0 (by simp)
    rw [Nat.add_zero, List.getElem_cons_zero] at hload
    have hrest : ∀ k, ∀ hk : k < rest.length,
        load b.recv ((i + 1 + k) * b.inputWidth) b.inputWidth = some rest[k] := by
      intro k hk
      have hnext := hrecv (k + 1) (by simpa using hk)
      rwa [List.getElem_cons_succ, ← Nat.add_assoc, Nat.add_right_comm] at hnext
    have hend : i + 1 + rest.length = i + (row :: rest).length := by
      rw [List.length_cons]
      omega
    rw [← hend] at hresult
    cases hwords : b.evaluate provider row b.dt with
    | none =>
      have hfails : taskFails b provider row = true := by rw [taskFails, hwords]; rfl
      obtain ⟨filled, hloop, -⟩ := ih (i + 1) result true hrest hresult
      refine ⟨filled, ?_, fun h => ?_⟩
      · rw [List.length_cons, integrate, hload]
        simp only [hwords]
        rw [hloop, List.any_cons, hfails]
        simp
      · rw [List.any_cons, hfails] at h
        exact nomatch h
    | some words =>
      have hlength := length_evaluate b provider hwords
      have hfails : taskFails b provider row = false := by rw [taskFails, hwords]; rfl
      have hresultRow : taskResult b provider row = words := by rw [taskResult, hwords]; rfl
      obtain ⟨stored, hstored⟩ := exists_store (show i * b.outputWidth + words.length ≤ result.length by
        rw [hlength]
        rw [Nat.add_mul, Nat.succ_mul] at hresult
        omega)
      obtain ⟨filled, hloop, hfilled⟩ := ih (i + 1) stored bad hrest (by rwa [length_store hstored])
      refine ⟨filled, ?_, fun h => ?_⟩
      · rw [List.length_cons, integrate, hload]
        simp only [hwords, hstored]
        rw [hloop, List.any_cons, hfails, Bool.false_or]
      · rw [List.any_cons, hfails, Bool.false_or] at h
        rw [hfilled h, take_store_row hlength hstored, drop_store_row hlength hstored (by omega), hend,
          List.flatMap_cons, hresultRow]
        simp only [List.append_assoc]

def coldWords (i : ℕ) : Option (List F) :=
  if 0 < (b.samples.getD i noSample).density then some (b.coldRow (b.inputRow i) (b.samples.getD i noSample))
  else b.evaluate provider (b.inputRow i) 0

omit [FloorRing F] in
lemma length_coldWords {i : ℕ} {words : List F} (h : coldWords b provider i = some words) :
    words.length = b.outputWidth := by
  unfold coldWords at h
  split_ifs at h with hsample
  · rw [← some.inj h]
    simp only [coldRow, numbers, tail, List.length_append, List.length_map, List.length_range, List.length_replicate,
      List.length_cons, List.length_nil, outputWidth]
    omega
  · exact length_evaluate b provider h

def coldFails (i : ℕ) : Bool := !b.hot.getD i false && (coldWords b provider i).isNone

omit [FloorRing F] in
lemma fillCold_succ (i count : ℕ) (output : List F) (bad : Bool) : b.fillCold provider i (count + 1) output bad =
      if b.hot.getD i false then b.fillCold provider (i + 1) count output bad
      else
        match coldWords b provider i with
        | none => b.fillCold provider (i + 1) count output true
        | some words =>
          match store output (i * b.outputWidth) words with
          | none => none
          | some output => b.fillCold provider (i + 1) count output bad := rfl

omit [FloorRing F] in
lemma fillCold_spec (i count : ℕ) (output : List F) (bad : Bool)
    (houtput : (i + count) * b.outputWidth ≤ output.length) :
    ∃ filled, b.fillCold provider i count output bad =
        some (filled, bad || (List.range' i count).any (coldFails b provider)) ∧
      filled.length = output.length ∧
      (∀ k, i ≤ k → k < i + count → b.hot.getD k false = false → ∀ words, coldWords b provider k = some words →
        slice filled (k * b.outputWidth) b.outputWidth = words) ∧
      ∀ k < i, slice filled (k * b.outputWidth) b.outputWidth = slice output (k * b.outputWidth) b.outputWidth := by
  induction count generalizing i output bad with
  | zero => exact ⟨output, by simp [fillCold], rfl, fun k hi hk => absurd hk (by omega), fun k _ => rfl⟩
  | succ count ih =>
    have hend : i + 1 + count = i + (count + 1) := by omega
    rw [← hend] at houtput
    rw [List.range'_succ, List.any_cons, fillCold_succ]
    by_cases hhot : b.hot.getD i false = true
    · have hfails : coldFails b provider i = false := by rw [coldFails, hhot]; rfl
      obtain ⟨filled, hloop, hlength, hcold, hframe⟩ := ih (i + 1) output bad houtput
      refine ⟨filled, ?_, hlength, fun k hi hk hkcold => ?_, fun k hk => hframe k (by omega)⟩
      · rw [if_pos hhot, hloop, hfails, Bool.false_or]
      · have hne : i ≠ k := by
          rintro rfl
          rw [hkcold] at hhot
          exact nomatch hhot
        exact hcold k (by omega) (by omega) hkcold
    · rw [if_neg hhot]
      cases hwords : coldWords b provider i with
      | none =>
        have hfails : coldFails b provider i = true := by
          rw [coldFails, hwords, Bool.eq_false_of_not_eq_true hhot]
          rfl
        obtain ⟨filled, hloop, hlength, hcold, hframe⟩ := ih (i + 1) output true houtput
        refine ⟨filled, ?_, hlength, fun k hi hk hkcold words hk' => ?_, fun k hk => hframe k (by omega)⟩
        · simp only
          rw [hloop, hfails]
          simp
        · have hne : i ≠ k := by
            rintro rfl
            exact absurd hk' (by simp [hwords])
          exact hcold k (by omega) (by omega) hkcold words hk'
      | some words =>
        have hwidth := length_coldWords b provider hwords
        have hfails : coldFails b provider i = false := by
          rw [coldFails, hwords, Bool.eq_false_of_not_eq_true hhot]
          rfl
        obtain ⟨stored, hstored⟩ := exists_store (show i * b.outputWidth + words.length ≤ output.length by
          rw [hwidth]
          rw [Nat.add_mul, Nat.succ_mul] at houtput
          omega)
        obtain ⟨filled, hloop, hlength, hcold, hframe⟩ := ih (i + 1) stored bad (by rwa [length_store hstored])
        refine ⟨filled, ?_, hlength.trans (length_store hstored), fun k hi hk hkcold words' hk' => ?_, fun k hk => ?_⟩
        · simp only [hstored]
          rw [hloop, hfails, Bool.false_or]
        · by_cases hne : i = k
          · subst hne
            rw [hwords] at hk'
            have hzero : slice stored (i * b.outputWidth) (0 + words.length) =
                slice output (i * b.outputWidth) 0 ++ words := slice_store_append rfl hstored
            rw [slice_zero, List.nil_append, Nat.zero_add, hwidth] at hzero
            rw [hframe i (by omega), hzero, some.inj hk']
          · exact hcold k (by omega) (by omega) hkcold words' hk'
        · rw [hframe k (by omega)]
          apply slice_store_of_disjoint hstored
          have hrow := Nat.mul_le_mul_right b.outputWidth hk
          rw [Nat.succ_mul] at hrow
          exact .inl hrow

end Evaluation

variable {F α : Type} {ow : ℕ} {cell : α → ℕ}

lemma copyResults_eq_collect (returned : List F) (i : ℕ) (items : List α) (output : List F) :
    copyResults ow returned i (items.map cell) output =
      collect ow (fun _ => 0) cell items returned [i * ow] output := by
  induction items generalizing i output with
  | nil => rfl
  | cons a rest ih =>
    rw [List.map_cons, copyResults, collect, List.getElem?_cons_zero]
    cases hload : load returned (i * ow) ow with
    | none => simp [hload]
    | some words =>
      cases hstore : store output (cell a * ow) words with
      | none => simp [hload, hstore]
      | some stored =>
        have hrest := ih (i + 1) stored
        rw [Nat.succ_mul] at hrest
        simp [hload, hstore, hrest]

lemma copyResults_spec {reply : α → List F} (hreply : ∀ a, (reply a).length = ow) (items : List α) (output : List F)
    (hcells : (items.map cell).Nodup) (houtput : ∀ a ∈ items, cell a * ow + ow ≤ output.length) :
    ∃ copied, copyResults ow (items.flatMap reply) 0 (items.map cell) output = some copied ∧
      copied.length = output.length ∧ (∀ a ∈ items, slice copied (cell a * ow) ow = reply a) ∧
      ∀ k, (∀ a ∈ items, cell a ≠ k) → slice copied (k * ow) ow = slice output (k * ow) ow := by
  have hlength : (items.flatMap reply).length = ow * items.length := by
    rw [length_flatMap_reply hreply, Nat.mul_comm]
  rw [copyResults_eq_collect, Nat.zero_mul]
  apply collect_spec hreply items (items.flatMap reply) [0] output rfl (fun _ _ => Nat.zero_lt_one) _ hcells houtput
  intro r hr
  have hzero : r = 0 := Nat.lt_one_iff.mp hr
  subst hzero
  have hcount : countFor (fun _ : α => 0) items 0 = items.length := by simp [countFor]
  have hall : items.filter (fun _ => decide (0 = 0)) = items := by simp
  rw [hcount, hall, List.getD_cons_zero, load, if_pos (by rw [Nat.zero_add, hlength]), slice, List.drop_zero, ← hlength,
    List.take_length]

end HundunFlow.Proofs
