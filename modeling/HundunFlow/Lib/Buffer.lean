import Mathlib.Algebra.Order.BigOperators.Group.List
import Mathlib.Algebra.GroupWithZero.Nat
import Mathlib.Data.List.GetD

/-!
# Buffers of words

Reading and storing stretches of a buffer, and the three loops of an exchange: items are
packed into one stretch for each destination, the stretches that arrive are laid one after
the other into a receive buffer, and the receive buffer is read back row by row. A store
that would leave the buffer has no result.
-/

namespace HundunFlow.Lib

open List

section

variable {W α : Type}

/-- The `count` words from `offset` on. -/
def slice (buffer : List W) (offset count : ℕ) : List W := (buffer.drop offset).take count

/-- The words from `offset` on, when the buffer holds that many. -/
def load (buffer : List W) (offset count : ℕ) : Option (List W) :=
  if offset + count ≤ buffer.length then some (slice buffer offset count) else none

/-- The buffer with `words` stored from `offset` on. -/
def store (buffer : List W) (offset : ℕ) (words : List W) : Option (List W) :=
  if offset + words.length ≤ buffer.length then
    some (buffer.take offset ++ words ++ buffer.drop (offset + words.length))
  else none

lemma getElem?_slice (buffer : List W) (offset count k : ℕ) :
    (slice buffer offset count)[k]? = if k < count then buffer[offset + k]? else none := by
  rw [slice, List.getElem?_take, List.getElem?_drop]

lemma length_slice {buffer : List W} {offset count : ℕ} (h : offset + count ≤ buffer.length) :
    (slice buffer offset count).length = count := by
  rw [slice, length_take, length_drop]
  omega

@[simp] lemma slice_zero (buffer : List W) (offset : ℕ) : slice buffer offset 0 = [] := take_zero

section Store

variable {buffer stored : List W} {offset : ℕ} {words : List W}

lemma store_fits (h : store buffer offset words = some stored) : offset + words.length ≤ buffer.length := by
  unfold store at h
  split_ifs at h with hfits
  exact hfits

lemma exists_store (h : offset + words.length ≤ buffer.length) :
    ∃ stored, store buffer offset words = some stored := ⟨_, if_pos h⟩

lemma length_store (h : store buffer offset words = some stored) : stored.length = buffer.length := by
  have hfits := store_fits h
  rw [store, if_pos hfits] at h
  rw [← Option.some.inj h]
  simp only [length_append, length_take, length_drop]
  omega

lemma getElem?_store (h : store buffer offset words = some stored) (k : ℕ) :
    stored[k]? = if offset ≤ k ∧ k < offset + words.length then words[k - offset]? else buffer[k]? := by
  have hfits := store_fits h
  rw [store, if_pos hfits] at h
  rw [← Option.some.inj h, append_assoc]
  have htake : (buffer.take offset).length = offset := by
    rw [length_take]
    omega
  by_cases hlow : k < offset
  · rw [if_neg (by omega), List.getElem?_append_left (by omega), List.getElem?_take, if_pos hlow]
  · rw [List.getElem?_append_right (by omega), htake]
    by_cases hhigh : k < offset + words.length
    · rw [if_pos ⟨by omega, hhigh⟩, List.getElem?_append_left (by omega)]
    · rw [if_neg (by omega), List.getElem?_append_right (by omega), List.getElem?_drop]
      congr 1
      omega

lemma slice_store_of_disjoint (h : store buffer offset words = some stored) {start count : ℕ}
    (hd : start + count ≤ offset ∨ offset + words.length ≤ start) :
    slice stored start count = slice buffer start count := by
  apply ext_getElem?
  intro k
  rw [getElem?_slice, getElem?_slice]
  by_cases hk : k < count
  · rw [if_pos hk, if_pos hk, getElem?_store h, if_neg (by omega)]
  · rw [if_neg hk, if_neg hk]

lemma slice_store_append {start count : ℕ} (hoffset : offset = start + count)
    (h : store buffer offset words = some stored) :
    slice stored start (count + words.length) = slice buffer start count ++ words := by
  have hfits := store_fits h
  have hlength : (slice buffer start count).length = count := length_slice (by omega)
  apply ext_getElem?
  intro k
  rw [getElem?_slice, getElem?_store h]
  by_cases hold : k < count
  · rw [if_pos (by omega), if_neg (by omega), List.getElem?_append_left (by omega), getElem?_slice,
      if_pos hold]
  · rw [List.getElem?_append_right (by omega), hlength]
    by_cases hnew : k < count + words.length
    · rw [if_pos hnew, if_pos (by omega)]
      congr 1
      omega
    · rw [if_neg hnew, eq_comm, List.getElem?_eq_none_iff]
      omega

end Store

/-! ### Packing by destination -/

section Pack

variable (lanes : ℕ) (destination : α → ℕ) (encode : α → List W)

/-- Every item is stored at the cursor of its destination, which moves on by `lanes`. -/
def pack : List α → List W → List ℕ → Option (List W × List ℕ)
  | [], buffer, cursor => some (buffer, cursor)
  | a :: rest, buffer, cursor =>
    match cursor[destination a]? with
    | none => none
    | some offset =>
      match store buffer offset (encode a) with
      | none => none
      | some buffer => pack rest buffer (cursor.set (destination a) (offset + lanes))

variable (counts : List ℕ)

lemma pack_map {β : Type} (f : β → α) (items : List β) (buffer : List W) (cursor : List ℕ) :
    pack lanes destination encode (items.map f) buffer cursor =
      pack lanes (destination ∘ f) (encode ∘ f) items buffer cursor := by
  induction items generalizing buffer cursor with
  | nil => rfl
  | cons b rest ih =>
    rw [map_cons, pack, pack]
    simp only [Function.comp_apply, ih]

/-- How many items have destination `r`. -/
def countFor (items : List α) (r : ℕ) : ℕ := items.countP fun a => destination a = r

variable {lanes destination encode}

lemma countFor_cons (a : α) (rest : List α) (r : ℕ) : countFor destination (a :: rest) r =
      countFor destination rest r + if destination a = r then 1 else 0 := by
  unfold countFor
  rw [countP_cons]
  by_cases h : destination a = r <;> simp [h]

/-- When each destination has room between its cursor and the region of the next one, the
packing loop appends to each region the items of that destination. -/
theorem pack_spec (hlanes : ∀ a, (encode a).length = lanes) {ranks : ℕ} {base : ℕ → ℕ}
    (hmono : ∀ r s, r ≤ s → s ≤ ranks → base r ≤ base s) (items : List α) (buffer : List W)
    (cursor : List ℕ) (hcursor : cursor.length = ranks) (hdest : ∀ a ∈ items, destination a < ranks)
    (hbase : ∀ r < ranks, base r ≤ cursor.getD r 0)
    (hroom : ∀ r < ranks, cursor.getD r 0 + lanes * countFor destination items r ≤ base (r + 1))
    (hbuffer : base ranks ≤ buffer.length) :
    ∃ packed moved, pack lanes destination encode items buffer cursor = some (packed, moved) ∧
      packed.length = buffer.length ∧
      ∀ r < ranks,
        slice packed (base r) (cursor.getD r 0 - base r + lanes * countFor destination items r) =
          slice buffer (base r) (cursor.getD r 0 - base r) ++
            (items.filter fun a => destination a = r).flatMap encode := by
  induction items generalizing buffer cursor with
  | nil => exact ⟨buffer, cursor, rfl, rfl, fun r _ => by simp [countFor]⟩
  | cons a rest ih =>
    have hd : destination a < ranks := hdest a (by simp)
    have hget : cursor[destination a]? = some (cursor.getD (destination a) 0) := by
      rw [getD_eq_getElem?_getD, List.getElem?_eq_getElem (by omega)]
      rfl
    have hroomd := hroom _ hd
    rw [countFor_cons, if_pos rfl, Nat.mul_add, Nat.mul_one] at hroomd
    have htop := hmono (destination a + 1) ranks (by omega) le_rfl
    obtain ⟨stored, hstored⟩ := exists_store (show cursor.getD (destination a) 0 + (encode a).length ≤
      buffer.length by rw [hlanes]; omega)
    have hmoved : ∀ r, (cursor.set (destination a) (cursor.getD (destination a) 0 + lanes)).getD r 0 =
        if destination a = r then cursor.getD r 0 + lanes else cursor.getD r 0 := by
      intro r
      rw [getD_eq_getElem?_getD, List.getElem?_set]
      by_cases hr : destination a = r
      · rw [if_pos hr, if_pos (by omega), if_pos hr, hr]
        rfl
      · rw [if_neg hr, if_neg hr, getD_eq_getElem?_getD]
    obtain ⟨packed, moved, hpack, hlength, hslices⟩ := ih stored
      (cursor.set (destination a) (cursor.getD (destination a) 0 + lanes))
      (by rw [length_set, hcursor]) (fun b hb => hdest b (by simp [hb]))
      (fun r hr => by
        have := hbase r hr
        rw [hmoved]
        split <;> omega)
      (fun r hr => by
        have := hroom r hr
        rw [countFor_cons] at this
        rw [hmoved]
        split at this
        · rw [Nat.mul_add, Nat.mul_one] at this
          rw [if_pos ‹_›]
          omega
        · rw [if_neg ‹_›]
          exact this)
      (by rw [length_store hstored]; exact hbuffer)
    refine ⟨packed, moved, ?_, hlength.trans (length_store hstored), fun r hr => ?_⟩
    · rw [pack, hget]
      simp only [hstored]
      exact hpack
    have hslice := hslices r hr
    rw [hmoved] at hslice
    have hbaser := hbase r hr
    by_cases hdr : destination a = r
    · subst hdr
      rw [if_pos rfl] at hslice
      rw [countFor_cons, if_pos rfl, filter_cons_of_pos (by simp), flatMap_cons,
        ← append_assoc]
      have hlast : slice stored (base (destination a))
          (cursor.getD (destination a) 0 - base (destination a) + (encode a).length) =
          slice buffer (base (destination a)) (cursor.getD (destination a) 0 - base (destination a)) ++
            encode a := slice_store_append (by omega) hstored
      rw [hlanes] at hlast
      rw [← hlast]
      have hsplit : cursor.getD (destination a) 0 + lanes - base (destination a) =
        cursor.getD (destination a) 0 - base (destination a) + lanes := by omega
      rw [hsplit] at hslice
      rw [← hslice]
      congr 1
      rw [Nat.mul_add, Nat.mul_one]
      omega
    · rw [if_neg hdr] at hslice
      rw [countFor_cons, if_neg hdr, Nat.add_zero, filter_cons_of_neg (by simpa using hdr), hslice]
      congr 1
      apply slice_store_of_disjoint hstored
      rw [hlanes]
      have hroomr := hroom r hr
      rcases Nat.lt_or_gt_of_ne hdr with hlt | hgt
      · right
        have := hmono (destination a + 1) r (by omega) (by omega)
        omega
      · left
        have := hmono (r + 1) (destination a) (by omega) (by omega)
        have := hbase (destination a) hd
        omega

/-- The sum of the entries before position `r`. -/
def sumBefore (counts : List ℕ) (r : ℕ) : ℕ := (counts.take r).sum

@[simp] lemma sumBefore_zero : sumBefore counts 0 = 0 := rfl

lemma sumBefore_succ (r : ℕ) : sumBefore counts (r + 1) = sumBefore counts r + counts.getD r 0 := by
  unfold sumBefore
  by_cases h : r < counts.length
  · rw [take_succ_eq_append_getElem h, sum_append, sum_singleton,
      getD_eq_getElem _ _ h]
  · rw [take_of_length_le (by omega), take_of_length_le (by omega),
      getD_eq_default _ _ (by omega), Nat.add_zero]

lemma sumBefore_length : sumBefore counts counts.length = counts.sum := by
  rw [sumBefore, take_length]

lemma sumBefore_mono {r s : ℕ} (h : r ≤ s) : sumBefore counts r ≤ sumBefore counts s := by
  induction s, h using Nat.le_induction with
  | base => exact le_rfl
  | succ s _ ih =>
    rw [sumBefore_succ]
    omega

/-- Packing from the start of each region: region `r` begins where the regions before it end. -/
theorem pack_from_starts (hlanes : ∀ a, (encode a).length = lanes) {ranks : ℕ} (items : List α)
    (buffer : List W) (counts : List ℕ) (hlength : counts.length = ranks)
    (hcounts : ∀ r < ranks, counts.getD r 0 = lanes * countFor destination items r)
    (hdest : ∀ a ∈ items, destination a < ranks) (hbuffer : counts.sum ≤ buffer.length) :
    ∃ packed moved,
      pack lanes destination encode items buffer ((range ranks).map (sumBefore counts)) =
        some (packed, moved) ∧
      packed.length = buffer.length ∧
      ∀ r < ranks, load packed (sumBefore counts r) (counts.getD r 0) =
        some ((items.filter fun a => destination a = r).flatMap encode) := by
  have hcursor : ∀ r < ranks, ((range ranks).map (sumBefore counts)).getD r 0 = sumBefore counts r := by
    intro r hr
    rw [getD_eq_getElem _ _ (by simpa using hr)]
    simp
  have hend : sumBefore counts ranks = counts.sum := by rw [← hlength, sumBefore_length]
  obtain ⟨packed, moved, hpack, hpacked, hslices⟩ := @pack_spec _ _ _ _ _ hlanes _ (sumBefore counts)
    (fun r s hrs _ => sumBefore_mono counts hrs) items buffer ((range ranks).map (sumBefore counts))
    (by simp) hdest (fun r hr => (hcursor r hr).ge)
    (fun r hr => by rw [hcursor r hr, sumBefore_succ, hcounts r hr]) (by rw [hend]; exact hbuffer)
  refine ⟨packed, moved, hpack, hpacked, fun r hr => ?_⟩
  have hslice := hslices r hr
  rw [hcursor r hr, Nat.sub_self, Nat.zero_add, slice_zero, nil_append, ← hcounts r hr] at hslice
  rw [load, hslice, if_pos]
  have := sumBefore_mono counts (r := r + 1) (s := ranks) (by omega)
  rw [sumBefore_succ, hend] at this
  omega

end Pack

/-! ### Laying out what arrives -/

/-- A piece of a message: where the receiver wants it, how long it expects it to be, and the
words the sender has for it, if its send buffer holds them. -/
structure Piece (W : Type) where
  offset : ℕ
  count : ℕ
  words : Option (List W)

/-- Stores one piece after the other. A piece of another length than expected has no place. -/
def place : List (Piece W) → List W → Option (List W)
  | [], buffer => some buffer
  | piece :: rest, buffer =>
    match piece.words with
    | none => none
    | some words =>
      if words.length ≠ piece.count then none
      else
        match store buffer piece.offset words with
        | none => none
        | some buffer => place rest buffer

def contiguous : ℕ → List (List W) → List (Piece W)
  | _, [] => []
  | start, words :: rest => ⟨start, words.length, some words⟩ :: contiguous (start + words.length) rest

lemma getElem?_contiguous (start : ℕ) (pieces : List (List W)) (k : ℕ) :
    (contiguous start pieces)[k]? = pieces[k]?.map fun words =>
      ⟨start + sumBefore (pieces.map length) k, words.length, some words⟩ := by
  induction pieces generalizing start k with
  | nil => simp [contiguous]
  | cons words rest ih =>
    cases k with
    | zero => simp [contiguous]
    | succ k =>
      rw [contiguous, List.getElem?_cons_succ, List.getElem?_cons_succ, ih]
      simp [sumBefore, Nat.add_assoc]

theorem place_contiguous (start : ℕ) (pieces : List (List W)) (buffer : List W)
    (h : start + pieces.flatten.length ≤ buffer.length) : place (contiguous start pieces) buffer =
      some (buffer.take start ++ pieces.flatten ++ buffer.drop (start + pieces.flatten.length)) := by
  induction pieces generalizing start buffer with
  | nil => simp [contiguous, place]
  | cons words rest ih =>
    rw [flatten_cons, length_append] at h
    have hstart : (buffer.take start).length = start := by
      rw [length_take]
      omega
    have hstore : store buffer start words =
        some (buffer.take start ++ words ++ buffer.drop (start + words.length)) := if_pos (by omega)
    have hlength : (buffer.take start ++ words ++ buffer.drop (start + words.length)).length =
        buffer.length := length_store hstore
    rw [contiguous, place]
    simp only [ne_eq, not_true_eq_false, if_false, hstore]
    rw [ih _ _ (by omega)]
    congr 1
    have hfront : (buffer.take start ++ words).length = start + words.length := by
      rw [length_append, hstart]
    have htake : (buffer.take start ++ words ++ buffer.drop (start + words.length)).take
        (start + words.length) = buffer.take start ++ words := by
      rw [← hfront, take_left]
    have hdrop : (buffer.take start ++ words ++ buffer.drop (start + words.length)).drop
        (start + words.length + rest.flatten.length) =
        buffer.drop (start + words.length + rest.flatten.length) := by
      rw [← hfront, ← drop_drop, drop_left, drop_drop, hfront]
    rw [htake, hdrop, flatten_cons, length_append, Nat.add_assoc]
    simp only [append_assoc]

/-! ### Reading rows -/

/-- The first `count` rows of `lanes` words. -/
def rows (lanes : ℕ) (buffer : List W) (count : ℕ) : List (List W) :=
  (range count).map fun i => slice buffer (i * lanes) lanes

theorem rows_flatten {lanes : ℕ} (encoded : List (List W)) (h : ∀ row ∈ encoded, row.length = lanes)
    (rest : List W) : rows lanes (encoded.flatten ++ rest) encoded.length = encoded := by
  unfold rows
  induction encoded with
  | nil => rfl
  | cons row more ih =>
    have hrow : row.length = lanes := h row (by simp)
    rw [length_cons, range_succ_eq_map, map_cons, map_map]
    congr 1
    · rw [Nat.zero_mul, slice, drop_zero, flatten_cons, append_assoc, ← hrow, take_left]
    · conv_rhs => rw [← ih fun r hr => h r (by simp [hr])]
      apply map_congr_left
      intro i _
      rw [Function.comp_apply, slice, slice, flatten_cons, append_assoc, Nat.succ_mul,
        Nat.add_comm, ← drop_drop, ← hrow, drop_left]

lemma mapM_map_eq_some {β : Type} {encode : α → β} {decode : β → Option α} {l : List α}
    (h : ∀ a ∈ l, decode (encode a) = some a) : (l.map encode).mapM decode = some l := by
  induction l with
  | nil => rfl
  | cons a rest ih =>
    rw [map_cons, mapM_cons, h a (by simp), ih fun b hb => h b (by simp [hb])]
    rfl

end

/-! ### Lists grown at their end, and the blocks of a concatenation -/

variable {α : Type}

variable {blocks : List (List α)}

lemma snoc_eq_split {l before after : List α} {a c : α} : l ++ [a] = before ++ c :: after ↔
      (after = [] ∧ before = l ∧ c = a) ∨ ∃ rest, after = rest ++ [a] ∧ l = before ++ c :: rest := by
  rcases eq_nil_or_concat after with rfl | ⟨rest, x, rfl⟩
  · constructor
    · intro h
      obtain ⟨hl, ha⟩ := append_inj' h rfl
      exact .inl ⟨rfl, hl.symm, (List.cons.inj ha).1.symm⟩
    · rintro (⟨-, rfl, rfl⟩ | ⟨rest, hrest, -⟩)
      · rfl
      · exact absurd hrest (by simp)
  · rw [concat_eq_append]
    constructor
    · intro h
      have hsplit : l ++ [a] = (before ++ c :: rest) ++ [x] := by
        rw [h, append_assoc, cons_append]
      obtain ⟨hl, ha⟩ := append_inj' hsplit rfl
      obtain rfl := (List.cons.inj ha).1
      exact .inr ⟨rest, rfl, hl⟩
    · rintro (⟨hnil, -⟩ | ⟨other, hother, rfl⟩)
      · exact absurd hnil (by simp)
      · rw [hother, append_assoc, cons_append]

/-- Where block `i` of a concatenation starts. -/
def blockStart (blocks : List (List α)) (i : ℕ) : ℕ := (blocks.take i).flatten.length

lemma blockStart_snoc {i : ℕ} (h : i ≤ blocks.length) (last : List α) :
    blockStart (blocks ++ [last]) i = blockStart blocks i := by
  rw [blockStart, take_append_of_le_length h, blockStart]

lemma blockStart_length (blocks : List (List α)) : blockStart blocks blocks.length = blocks.flatten.length := by
  rw [blockStart, take_length]

lemma blockStart_cons_succ (block : List α) (blocks : List (List α)) (i : ℕ) :
    blockStart (block :: blocks) (i + 1) = block.length + blockStart blocks i := by
  rw [blockStart, take_succ_cons, flatten_cons, length_append, blockStart]

lemma slice_flatten {i : ℕ} {block : List α} (h : blocks[i]? = some block) :
    slice blocks.flatten (blockStart blocks i) block.length = block := by
  obtain ⟨hi, rfl⟩ := List.getElem?_eq_some_iff.mp h
  have hsplit : blocks.flatten = (blocks.take i).flatten ++ (blocks[i] ++ (blocks.drop (i + 1)).flatten) := by
    rw [← flatten_cons, ← drop_eq_getElem_cons hi, ← flatten_append, take_append_drop]
  rw [slice, hsplit, blockStart, drop_left, take_left]

lemma block_of_index {n : ℕ} (h : n < blocks.flatten.length) :
    ∃! i, ∃ block, blocks[i]? = some block ∧ blockStart blocks i ≤ n ∧ n < blockStart blocks i + block.length := by
  induction blocks generalizing n with
  | nil => exact absurd h (Nat.not_lt_zero n)
  | cons first blocks ih =>
    by_cases hn : n < first.length
    · refine ⟨0, ⟨first, rfl, Nat.zero_le n, ?_⟩, ?_⟩
      · change n < ([] : List α).length + first.length
        rw [length_nil, Nat.zero_add]
        exact hn
      · rintro (- | i) ⟨block, -, hstart, -⟩
        · rfl
        · rw [blockStart_cons_succ] at hstart
          omega
    · rw [flatten_cons, length_append] at h
      obtain ⟨i, ⟨block, hblock, hstart, hend⟩, honly⟩ := ih (n := n - first.length) (by omega)
      refine ⟨i + 1, ⟨block, by rwa [List.getElem?_cons_succ], ?_, ?_⟩, ?_⟩
      · rw [blockStart_cons_succ]
        omega
      · rw [blockStart_cons_succ]
        omega
      · rintro (- | j) ⟨other, hother, hstart', hend'⟩
        · rw [List.getElem?_cons_zero] at hother
          obtain rfl := Option.some.inj hother
          have hzero : blockStart (first :: blocks) 0 = 0 := rfl
          rw [hzero, Nat.zero_add] at hend'
          exact absurd hend' hn
        · rw [blockStart_cons_succ] at hstart' hend'
          rw [List.getElem?_cons_succ] at hother
          exact congrArg Nat.succ (honly j ⟨other, hother, by omega, by omega⟩)

end HundunFlow.Lib
