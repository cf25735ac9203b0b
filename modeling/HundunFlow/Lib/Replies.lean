import HundunFlow.Lib.Buffer
import Mathlib.Algebra.Group.Action.Defs

/-!
# Replies to packed items

Items that were packed by destination are answered in the order in which they were packed. The
loop that collects the replies runs over the items once more, with one cursor for each
destination, and puts every reply into the slot of its item.
-/

namespace HundunFlow.Lib

open List

variable {W α : Type}

section Load

variable {buffer : List W} {offset : ℕ}

lemma load_fits {count : ℕ} {words : List W} (h : load buffer offset count = some words) :
    offset + count ≤ buffer.length ∧ words.length = count ∧ slice buffer offset count = words := by
  unfold load at h
  split_ifs at h with hfits
  have hslice := Option.some.inj h
  exact ⟨hfits, by rw [← hslice, length_slice hfits], hslice⟩

lemma load_append {first second : List W}
    (h : load buffer offset (first.length + second.length) = some (first ++ second)) :
    load buffer offset first.length = some first ∧
      load buffer (offset + first.length) second.length = some second := by
  obtain ⟨hfits, -, hslice⟩ := load_fits h
  have hfirst : slice buffer offset first.length = first := by
    have htake := congrArg (take first.length) hslice
    rwa [slice, take_take, Nat.min_eq_left (Nat.le_add_right _ _), take_left] at htake
  have hsecond : slice buffer (offset + first.length) second.length = second := by
    have hdrop := congrArg (drop first.length) hslice
    rwa [slice, drop_take, drop_drop, Nat.add_sub_cancel_left, drop_left] at hdrop
  exact ⟨by rw [load, if_pos (by omega), hfirst], by rw [load, if_pos (by omega), hsecond]⟩

lemma take_store_row {result stored words : List W} {i lanes : ℕ} (hlength : words.length = lanes)
    (h : store result (i * lanes) words = some stored) :
    stored.take ((i + 1) * lanes) = result.take (i * lanes) ++ words := by
  have hfits := store_fits h
  have hbefore : (result.take (i * lanes) ++ words).length = (i + 1) * lanes := by
    rw [length_append, length_take, hlength, Nat.succ_mul]
    omega
  rw [store, if_pos hfits] at h
  rw [← Option.some.inj h, ← hbefore, take_left]

lemma drop_store_row {result stored words : List W} {i k lanes : ℕ} (hlength : words.length = lanes)
    (h : store result (i * lanes) words = some stored) (hk : i < k) :
    stored.drop (k * lanes) = result.drop (k * lanes) := by
  apply ext_getElem?
  intro m
  have hrow := Nat.mul_le_mul_right lanes hk
  rw [Nat.succ_mul] at hrow
  rw [List.getElem?_drop, List.getElem?_drop, getElem?_store h, if_neg (by omega)]

lemma eq_flatten_of_loads {lengths : List ℕ} {piece : ℕ → List W}
    (hload : ∀ r < lengths.length, load buffer (sumBefore lengths r) (lengths.getD r 0) = some (piece r))
    (hsum : buffer.length = lengths.sum) : buffer = ((range lengths.length).map piece).flatten := by
  have hprefix : ∀ k ≤ lengths.length, buffer.take (sumBefore lengths k) = ((range k).map piece).flatten := by
    intro k
    induction k with
    | zero =>
      intro _
      rfl
    | succ k ih =>
      intro hk
      obtain ⟨-, -, hpiece⟩ := load_fits (hload k hk)
      rw [sumBefore_succ, take_add, ih (by omega), range_succ, map_append, flatten_append,
        map_singleton, flatten_singleton, ← hpiece, slice]
  have hall := hprefix lengths.length le_rfl
  rwa [sumBefore_length, ← hsum, take_length] at hall

/-- Pieces laid one after the other are found where the pieces before them end. -/
lemma load_flatten (pieces : List (List W)) (rest : List W) {k : ℕ} {piece : List W} (hk : pieces[k]? = some piece) :
    load (pieces.flatten ++ rest) (sumBefore (pieces.map length) k) piece.length = some piece := by
  induction pieces generalizing k with
  | nil => simp at hk
  | cons words more ih =>
    cases k with
    | zero =>
      rw [List.getElem?_cons_zero, Option.some.injEq] at hk
      subst hk
      rw [sumBefore_zero, load, if_pos (by simp), slice, drop_zero, flatten_cons,
        append_assoc, take_left]
    | succ k =>
      rw [List.getElem?_cons_succ] at hk
      have hfound := ih hk
      obtain ⟨hfits, -, hslice⟩ := load_fits hfound
      have hoffset : sumBefore ((words :: more).map length) (k + 1) =
          words.length + sumBefore (more.map length) k := by
        simp [sumBefore]
      rw [hoffset, load, if_pos (by
        rw [flatten_cons, append_assoc, length_append]
        omega), slice, flatten_cons, append_assoc, ← drop_drop, drop_left]
      exact congrArg some hslice

lemma load_row {lanes : ℕ} (rows : List (List W)) (hrows : ∀ row ∈ rows, row.length = lanes) {k : ℕ}
    (hk : k < rows.length) : load rows.flatten (k * lanes) lanes = some rows[k] := by
  have hlengths : rows.map length = replicate rows.length lanes := by
    rw [eq_replicate_iff]
    refine ⟨by simp, fun length hlength => ?_⟩
    obtain ⟨row, hrow, rfl⟩ := mem_map.mp hlength
    exact hrows row hrow
  have hfound := load_flatten rows [] (List.getElem?_eq_getElem hk)
  have hoffset : sumBefore (rows.map length) k = k * lanes := by
    rw [hlengths, sumBefore, take_replicate, sum_replicate, smul_eq_mul, Nat.min_eq_left hk.le]
  rwa [hoffset, hrows _ (getElem_mem hk), append_nil] at hfound

end Load

variable (lanes : ℕ) (destination slot : α → ℕ)

/-- The reply to every item is read at the cursor of its destination and stored in the slot of
the item, in slots of `lanes` words. -/
def collect : List α → List W → List ℕ → List W → Option (List W)
  | [], _, _, output => some output
  | a :: rest, returned, cursor, output =>
    match cursor[destination a]? with
    | none => none
    | some offset =>
      match load returned offset lanes with
      | none => none
      | some reply =>
        match store output (slot a * lanes) reply with
        | none => none
        | some output => collect rest returned (cursor.set (destination a) (offset + lanes)) output

lemma collect_map {β : Type} (f : β → α) (items : List β) (returned : List W) (cursor : List ℕ) (output : List W) :
    collect lanes destination slot (items.map f) returned cursor output =
      collect lanes (destination ∘ f) (slot ∘ f) items returned cursor output := by
  induction items generalizing cursor output with
  | nil => rfl
  | cons b rest ih =>
    rw [map_cons, collect, collect]
    simp only [Function.comp_apply, ih]

variable {lanes destination slot}

/-- When the stretch of each destination holds the replies to its items in their order, every
slot ends up with the reply to its item. -/
theorem collect_spec {reply : α → List W} (hreply : ∀ a, (reply a).length = lanes) {ranks : ℕ}
    (items : List α) (returned : List W) (cursor : List ℕ) (output : List W) (hcursor : cursor.length = ranks)
    (hdest : ∀ a ∈ items, destination a < ranks)
    (hret : ∀ r < ranks, load returned (cursor.getD r 0) (lanes * countFor destination items r) =
      some ((items.filter fun a => destination a = r).flatMap reply))
    (hslots : (items.map slot).Nodup) (houtput : ∀ a ∈ items, slot a * lanes + lanes ≤ output.length) :
    ∃ collected, collect lanes destination slot items returned cursor output = some collected ∧
      collected.length = output.length ∧
      (∀ a ∈ items, slice collected (slot a * lanes) lanes = reply a) ∧
      ∀ k, (∀ a ∈ items, slot a ≠ k) → slice collected (k * lanes) lanes = slice output (k * lanes) lanes := by
  induction items generalizing cursor output with
  | nil => exact ⟨output, rfl, rfl, nofun, fun k _ => rfl⟩
  | cons a rest ih =>
    have hd : destination a < ranks := hdest a (by simp)
    have hget : cursor[destination a]? = some (cursor.getD (destination a) 0) := by
      rw [getD_eq_getElem?_getD, List.getElem?_eq_getElem (by omega)]
      rfl
    have hcount : (((rest.filter fun b => destination b = destination a).flatMap reply)).length =
        lanes * countFor destination rest (destination a) := by
      rw [length_flatMap, countFor, countP_eq_length_filter]
      simp only [hreply, map_const', sum_replicate, smul_eq_mul]
      exact Nat.mul_comm _ _
    have hfirst := hret (destination a) hd
    rw [countFor_cons, if_pos rfl, Nat.mul_add, Nat.mul_one, Nat.add_comm, filter_cons_of_pos (by simp),
      flatMap_cons, ← hcount, ← hreply a] at hfirst
    obtain ⟨hload, htail⟩ := load_append hfirst
    rw [hreply a] at hload htail
    obtain ⟨stored, hstored⟩ := exists_store (show slot a * lanes + (reply a).length ≤ output.length by
      rw [hreply]
      exact houtput a (by simp))
    have hmoved : ∀ r, (cursor.set (destination a) (cursor.getD (destination a) 0 + lanes)).getD r 0 =
        if destination a = r then cursor.getD r 0 + lanes else cursor.getD r 0 := by
      intro r
      rw [getD_eq_getElem?_getD, List.getElem?_set]
      by_cases hr : destination a = r
      · rw [if_pos hr, if_pos (by omega), if_pos hr, hr]
        rfl
      · rw [if_neg hr, if_neg hr, getD_eq_getElem?_getD]
    rw [map_cons, nodup_cons] at hslots
    obtain ⟨collected, hcollect, hlength, hslices, hothers⟩ := ih
      (cursor.set (destination a) (cursor.getD (destination a) 0 + lanes)) stored
      (by rw [length_set, hcursor]) (fun b hb => hdest b (by simp [hb]))
      (fun r hr => by
        rw [hmoved]
        by_cases hdr : destination a = r
        · subst hdr
          rw [if_pos rfl, ← hcount]
          exact htail
        · have hother := hret r hr
          rw [countFor_cons, if_neg hdr, Nat.add_zero, filter_cons_of_neg (by simpa using hdr)] at hother
          rw [if_neg hdr]
          exact hother)
      hslots.2 (fun b hb => by
        rw [length_store hstored]
        exact houtput b (by simp [hb]))
    have hdisj : ∀ k, slot a ≠ k → k * lanes + lanes ≤ slot a * lanes ∨
        slot a * lanes + (reply a).length ≤ k * lanes := by
      intro k hk
      rw [hreply, ← Nat.succ_mul, ← Nat.succ_mul]
      rcases Nat.lt_or_gt_of_ne hk with hlt | hgt
      · exact .inr (Nat.mul_le_mul_right lanes hlt)
      · exact .inl (Nat.mul_le_mul_right lanes hgt)
    refine ⟨collected, ?_, hlength.trans (length_store hstored), fun b hb => ?_, fun k hk => ?_⟩
    · rw [collect, hget]
      simp only [hload, hstored]
      exact hcollect
    · by_cases hmem : b ∈ rest
      · exact hslices b hmem
      · have hab : b = a := (mem_cons.mp hb).resolve_right hmem
        subst hab
        rw [hothers (slot b) fun c hc heq => hslots.1 (heq ▸ mem_map_of_mem hc)]
        have hzero : slice stored (slot b * lanes) (0 + (reply b).length) =
            slice output (slot b * lanes) 0 ++ reply b := slice_store_append rfl hstored
        rwa [slice_zero, nil_append, Nat.zero_add, hreply] at hzero
    · rw [hothers k fun b hb => hk b (by simp [hb])]
      exact slice_store_of_disjoint hstored (hdisj k (hk a (by simp)))

end HundunFlow.Lib
