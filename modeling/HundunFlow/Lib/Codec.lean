import Mathlib.Data.List.Forall2
import Mathlib.Tactic.Ring

/-!
# Decoders of byte strings

A decoder reads a byte string from its front. It refuses the string, or it runs over the end when
it reads a byte that is not there. What it allocates is recorded together with the number of bytes
that were left. `Takes` says of a decoder that it never runs over the end, which bytes stand behind
a value, and that every allocation was allowed; it has one rule for each way to build a decoder.
`Yields` says the converse: which value stands for the bytes.
-/

namespace HundunFlow.Lib

open List

section

/-! ### Little-endian words -/

/-- The lowest `n` bytes of a number, the lowest first. -/
def leBytes : ℕ → ℕ → List UInt8
  | 0, _ => []
  | n + 1, v => UInt8.ofNat v :: leBytes n (v / 256)

def leValue : List UInt8 → ℕ
  | [] => 0
  | b :: rest => b.toNat + 256 * leValue rest

variable (l : List UInt8)

@[simp] lemma length_leBytes (n v : ℕ) : (leBytes n v).length = n := by
  induction n generalizing v with
  | zero => rfl
  | succ n ih => rw [leBytes, length_cons, ih]

lemma leValue_lt : leValue l < 256 ^ l.length := by
  induction l with
  | nil => decide
  | cons b rest ih =>
    have hb : b.toNat < 256 := b.toNat_lt
    rw [leValue, length_cons, pow_succ]
    omega

lemma leBytes_leValue : leBytes l.length (leValue l) = l := by
  induction l with
  | nil => rfl
  | cons b rest ih =>
    have hb : b.toNat < 256 := b.toNat_lt
    have hdiv : (b.toNat + 256 * leValue rest) / 256 = leValue rest := by omega
    have hlow : UInt8.ofNat (b.toNat + 256 * leValue rest) = b := by
      apply UInt8.toNat_inj.mp
      rw [UInt8.toNat_ofNat']
      omega
    rw [length_cons, leValue, leBytes, hdiv, hlow, ih]

lemma leValue_leBytes (n v : ℕ) : leValue (leBytes n v) = v % 256 ^ n := by
  induction n generalizing v with
  | zero => rw [leBytes, leValue, pow_zero, Nat.mod_one]
  | succ n ih =>
    rw [leBytes, leValue, ih, UInt8.toNat_ofNat', show 256 ^ (n + 1) = 256 * 256 ^ n from pow_succ' 256 n, Nat.mod_mul]

/-! ### Decoders -/

/-- A request for `count` elements of `width` encoded bytes each, with `remaining` bytes left. -/
structure Allocation (κ : Type) where
  what : κ
  count : ℕ
  width : ℕ
  remaining : ℕ
  deriving DecidableEq

structure DecoderState (κ : Type) where
  rest : List UInt8
  allocations : List (Allocation κ) := []
  deriving DecidableEq

inductive Decoded (κ E α : Type) where
  | value (a : α) (s : DecoderState κ)
  | refused (e : E) (s : DecoderState κ)
  | overrun
  deriving DecidableEq

def Decoder (κ E α : Type) : Type := DecoderState κ → Decoded κ E α

namespace Decoder

variable {κ E E' α β γ : Type}

protected def pure (a : α) : Decoder κ E α := fun s => .value a s

protected def bind (p : Decoder κ E α) (q : α → Decoder κ E β) : Decoder κ E β := fun s =>
  match p s with
  | .value a s => q a s
  | .refused e s => .refused e s
  | .overrun => .overrun

instance : Monad (Decoder κ E) where
  pure := Decoder.pure
  bind := Decoder.bind

def refuse (e : E) : Decoder κ E α := fun s => .refused e s

/-- `if (!condition) return e`. -/
def require (condition : Bool) (e : E) : Decoder κ E Unit := if condition then pure () else refuse e

def refusing (p : Decoder κ E α) (e : E') : Decoder κ E' α := fun s =>
  match p s with
  | .value a s => .value a s
  | .refused _ s => .refused e s
  | .overrun => .overrun

def remaining : Decoder κ E ℕ := fun s => .value s.rest.length s

def allocate (what : κ) (count width : ℕ) : Decoder κ E Unit := fun s =>
  .value () { s with allocations := s.allocations ++ [⟨what, count, width, s.rest.length⟩] }

def byte : Decoder κ E UInt8 := fun s =>
  match s.rest with
  | [] => .overrun
  | b :: rest => .value b { s with rest := rest }

def times (p : Decoder κ E α) : ℕ → Decoder κ E (List α)
  | 0 => pure []
  | n + 1 => do
    let a ← p
    let rest ← times p n
    return a :: rest

def forEach (p : γ → Decoder κ E α) : List γ → Decoder κ E (List α)
  | [] => pure []
  | c :: cs => do
    let a ← p c
    let rest ← forEach p cs
    return a :: rest

/-- `count` bytes, when that many are left. -/
def bytes (count : ℕ) (e : E) : Decoder κ E (List UInt8) := do
  let left ← remaining
  require (count ≤ left) e
  times byte count

/-! ### What decoders take -/

/-- From a state with a number of bytes left that meets `P`: the decoder does not run over the
end, a value and the bytes taken for it meet `Q`, and all allocations are allowed. -/
def Takes (allowed : Allocation κ → Prop) (P : ℕ → Prop) (p : Decoder κ E α) (Q : α → List UInt8 → Prop) : Prop :=
  ∀ s : DecoderState κ, P s.rest.length → (∀ a ∈ s.allocations, allowed a) →
    match p s with
    | .value a s' => (∃ taken, s.rest = taken ++ s'.rest ∧ Q a taken) ∧ ∀ a ∈ s'.allocations, allowed a
    | .refused _ s' => ∀ a ∈ s'.allocations, allowed a
    | .overrun => False

section Rules

variable {allowed : Allocation κ → Prop} {P : ℕ → Prop}

variable {Q : α → List UInt8 → Prop} {p : Decoder κ E α} {q : Unit → Decoder κ E β} {encode : α → List UInt8}

theorem Takes.mono {Q' : α → List UInt8 → Prop} (h : Takes allowed P p Q)
    (hQ : ∀ a taken, Q a taken → Q' a taken) : Takes allowed P p Q' := by
  intro s hs hallowed
  have hp := h s hs hallowed
  cases hrun : p s with
  | value a s' =>
    rw [hrun] at hp
    obtain ⟨⟨taken, hrest, hq⟩, hlog⟩ := hp
    exact ⟨⟨taken, hrest, hQ a taken hq⟩, hlog⟩
  | refused e s' =>
    rw [hrun] at hp
    exact hp
  | overrun =>
    rw [hrun] at hp
    exact hp

theorem Takes.weaken {P' : ℕ → Prop} (h : Takes allowed P p Q) (hP : ∀ n, P' n → P n) : Takes allowed P' p Q :=
  fun s hs hallowed => h s (hP _ hs) hallowed

theorem Takes.pure {a : α} (h : Q a []) : Takes allowed P (pure a : Decoder κ E α) Q :=
  fun _ _ hallowed => ⟨⟨[], rfl, h⟩, hallowed⟩

theorem Takes.refuse (e : E) (Q : α → List UInt8 → Prop) : Takes allowed P (refuse e : Decoder κ E α) Q :=
  fun _ _ hallowed => hallowed

/-- One decoder after another. -/
theorem Takes.bind {q : α → Decoder κ E β} {R : α → List UInt8 → Prop} {Q : β → List UInt8 → Prop}
    (hp : Takes allowed P p R)
    (hq : ∀ a taken, R a taken → Takes allowed (fun _ => True) (q a) fun b taken' => Q b (taken ++ taken')) :
    Takes allowed P (p >>= q) Q := by
  intro s hs hallowed
  have hp := hp s hs hallowed
  change match Decoder.bind p q s with
    | .value a s' => (∃ taken, s.rest = taken ++ s'.rest ∧ Q a taken) ∧ ∀ a ∈ s'.allocations, allowed a
    | .refused _ s' => ∀ a ∈ s'.allocations, allowed a
    | .overrun => False
  unfold Decoder.bind
  cases hrun : p s with
  | value a s' =>
    rw [hrun] at hp
    obtain ⟨⟨taken, hrest, hr⟩, hlog⟩ := hp
    have hq := hq a taken hr s' trivial hlog
    dsimp only
    cases hnext : q a s' with
    | value b s'' =>
      rw [hnext] at hq
      obtain ⟨⟨taken', hrest', hb⟩, hlog'⟩ := hq
      exact ⟨⟨taken ++ taken', by rw [hrest, hrest', append_assoc], hb⟩, hlog'⟩
    | refused e s'' =>
      rw [hnext] at hq
      exact hq
    | overrun =>
      rw [hnext] at hq
      exact hq
  | refused e s' =>
    rw [hrun] at hp
    exact hp
  | overrun =>
    rw [hrun] at hp
    exact hp

/-- A check reads nothing, so what is known of the bytes left stays known. -/
theorem Takes.require {condition : Bool} {e : E} {Q : β → List UInt8 → Prop}
    (hq : condition = true → Takes allowed P (q ()) Q) : Takes allowed P (require condition e >>= q) Q := by
  unfold Decoder.require
  by_cases h : condition = true
  · rw [if_pos h]
    exact hq h
  · rw [if_neg h]
    exact fun s _ hallowed => hallowed

theorem Takes.remaining {q : ℕ → Decoder κ E β} {Q : β → List UInt8 → Prop}
    (hq : ∀ n, P n → Takes allowed (fun left => left = n) (q n) Q) : Takes allowed P (remaining >>= q) Q :=
  fun s hs hallowed => hq s.rest.length hs s rfl hallowed

theorem Takes.allocate {what : κ} {count width : ℕ} {Q : β → List UInt8 → Prop}
    (hallow : ∀ left, P left → allowed ⟨what, count, width, left⟩) (hq : Takes allowed P (q ()) Q) :
    Takes allowed P (allocate what count width >>= q) Q := by
  intro s hs hallowed
  refine hq { s with allocations := s.allocations ++ [⟨what, count, width, s.rest.length⟩] } hs ?_
  intro a ha
  rcases mem_append.mp ha with ha | ha
  · exact hallowed a ha
  · rw [mem_singleton.mp ha]
    exact hallow _ hs

theorem Takes.refusing (h : Takes allowed P p Q) (e : E') : Takes allowed P (p.refusing e) Q := by
  intro s hs hallowed
  have hp := h s hs hallowed
  unfold Decoder.refusing
  cases hrun : p s with
  | value a s' =>
    rw [hrun] at hp
    exact hp
  | refused e' s' =>
    rw [hrun] at hp
    exact hp
  | overrun =>
    rw [hrun] at hp
    exact hp

lemma bytes_takes (count : ℕ) (e : E) : Takes allowed P (bytes count e : Decoder κ E (List UInt8))
    fun l taken => l = taken ∧ taken.length = count := by
  unfold bytes
  refine Takes.remaining fun n _ => Takes.require fun hle => ?_
  rw [decide_eq_true_eq] at hle
  have hsucc : ∀ (count : ℕ), times (byte : Decoder κ E UInt8) (count + 1) =
      Decoder.bind byte fun a => Decoder.bind (times byte count) fun rest => Decoder.pure (a :: rest) := fun _ => rfl
  have hrun : ∀ (count : ℕ) (s : DecoderState κ), count ≤ s.rest.length →
      times (byte : Decoder κ E UInt8) count s = .value (s.rest.take count) { s with rest := s.rest.drop count } := by
    intro count
    induction count with
    | zero => intro s _; rfl
    | succ count ih =>
      rintro ⟨rest, log⟩ hlength
      cases rest with
      | nil => exact nomatch hlength
      | cons b rest =>
        have hnext := ih ⟨rest, log⟩ (by simpa using hlength)
        simp only [hsucc, Decoder.bind, byte, hnext, Decoder.pure, take_succ_cons, drop_succ_cons]
  intro s hs hallowed
  rw [hrun count s (hle.trans hs.ge)]
  refine ⟨⟨s.rest.take count, (take_append_drop _ _).symm, rfl, ?_⟩, hallowed⟩
  rw [length_take]
  omega

/-- A loop, when each turn takes what `encode` makes of its value. -/
lemma forEach_takes {p : γ → Decoder κ E α} {R : γ → α → Prop} (l : List γ)
    (h : ∀ c ∈ l, Takes allowed (fun _ => True) (p c) fun a taken => taken = encode a ∧ R c a) :
    Takes allowed P (forEach p l) fun as taken => taken = as.flatMap encode ∧ Forall₂ R l as := by
  induction l generalizing P with
  | nil => exact Takes.pure ⟨rfl, Forall₂.nil⟩
  | cons c cs ih =>
    refine Takes.bind ((h c mem_cons_self).weaken fun _ _ => trivial) ?_
    rintro a taken ⟨rfl, ha⟩
    refine Takes.bind (ih fun c' hc' => h c' (mem_cons_of_mem _ hc')) ?_
    rintro as taken ⟨rfl, has⟩
    exact Takes.pure ⟨by rw [append_nil, flatMap_cons], Forall₂.cons ha has⟩

lemma times_takes {R : α → Prop} (h : Takes allowed (fun _ => True) p fun a taken => taken = encode a ∧ R a) (n : ℕ) :
    Takes allowed P (times p n) fun as taken => taken = as.flatMap encode ∧ as.length = n ∧ ∀ a ∈ as, R a := by
  induction n generalizing P with
  | zero => exact Takes.pure ⟨rfl, rfl, by simp⟩
  | succ n ih =>
    refine Takes.bind (h.weaken fun _ _ => trivial) ?_
    rintro a taken ⟨rfl, ha⟩
    refine Takes.bind ih ?_
    rintro as taken ⟨rfl, hlength, has⟩
    refine Takes.pure ⟨by rw [append_nil, flatMap_cons], by rw [length_cons, hlength], ?_⟩
    exact forall_mem_cons.mpr ⟨ha, has⟩

end Rules

/-! ### What decoders yield -/

/-- Before `rest`, the decoder reads exactly the bytes `l` and returns `a`. -/
def Yields (p : Decoder κ E α) (l rest : List UInt8) (a : α) : Prop :=
  ∀ log, ∃ log', p ⟨l ++ rest, log⟩ = .value a ⟨rest, log'⟩

variable {rest : List UInt8} {p : Decoder κ E α} {a : α} {b : β} {q : Unit → Decoder κ E β}

theorem Yields.unique {l : List UInt8} {b : α} (ha : Yields p l rest a) (hb : Yields p l rest b) : a = b := by
  obtain ⟨_, ha⟩ := ha []
  obtain ⟨_, hb⟩ := hb []
  rw [ha] at hb
  exact (Decoded.value.inj hb).1

theorem Yields.pure (rest : List UInt8) (a : α) : Yields (pure a : Decoder κ E α) [] rest a :=
  fun log => ⟨log, rfl⟩

theorem Yields.bind {q : α → Decoder κ E β} {l l' : List UInt8} (hp : Yields p l (l' ++ rest) a)
    (hq : Yields (q a) l' rest b) : Yields (p >>= q) (l ++ l') rest b := by
  intro log
  obtain ⟨log', hp⟩ := hp log
  obtain ⟨log'', hq⟩ := hq log'
  refine ⟨log'', ?_⟩
  change Decoder.bind p q _ = _
  rw [Decoder.bind, append_assoc, hp]
  exact hq

theorem Yields.map {l : List UInt8} (f : α → β) (hp : Yields p l rest a) :
    Yields (p >>= fun a => Pure.pure (f a)) l rest (f a) := by
  have hbind : Yields (p >>= fun a => Pure.pure (f a)) (l ++ []) rest (f a) := Yields.bind hp (Yields.pure rest (f a))
  rwa [append_nil] at hbind

theorem Yields.require {condition : Bool} {e : E} {l : List UInt8} (h : condition = true)
    (hq : Yields (q ()) l rest b) : Yields (require condition e >>= q) l rest b := by
  rw [Decoder.require, if_pos h]
  exact hq

theorem Yields.remaining {q : ℕ → Decoder κ E β} {l : List UInt8}
    (hq : Yields (q (l ++ rest).length) l rest b) : Yields (remaining >>= q) l rest b := hq

theorem Yields.allocate {what : κ} {count width : ℕ} {l : List UInt8}
    (hq : Yields (q ()) l rest b) : Yields (allocate what count width >>= q) l rest b :=
  fun _ => hq _

theorem Yields.refusing {l : List UInt8} (h : Yields p l rest a) (e : E') : Yields (p.refusing e) l rest a := by
  intro log
  obtain ⟨log', h⟩ := h log
  refine ⟨log', ?_⟩
  rw [Decoder.refusing, h]

lemma times_yields {encode : α → List UInt8} {as : List α} (h : ∀ a ∈ as, ∀ rest, Yields p (encode a) rest a)
    (rest : List UInt8) : Yields (times p as.length) (as.flatMap encode) rest as := by
  induction as with
  | nil => exact Yields.pure _ _
  | cons a as ih =>
    exact (h a mem_cons_self _).bind ((ih fun b hb => h b (mem_cons_of_mem _ hb)).map (a :: ·))

lemma byte_yields (b : UInt8) (rest : List UInt8) : Yields (byte : Decoder κ E UInt8) [b] rest b :=
  fun log => ⟨log, rfl⟩

lemma bytes_yields {l : List UInt8} {count : ℕ} (h : l.length = count) (e : E) (rest : List UInt8) :
    Yields (bytes count e : Decoder κ E (List UInt8)) l rest l := by
  refine Yields.remaining (Yields.require ?_ ?_)
  · rw [decide_eq_true_eq, length_append]
    omega
  · have hbytes : Yields (times (byte : Decoder κ E UInt8) l.length) (l.flatMap fun b => [b]) rest l :=
      times_yields (fun b _ rest => byte_yields b rest) rest
    rwa [flatMap_singleton', h] at hbytes

end Decoder

end

/-! ### Records of words of fixed widths -/

def writeWords : List ℕ → List ℕ → List UInt8
  | n :: layout, v :: words => leBytes n v ++ writeWords layout words
  | _, _ => []

def readWords : List ℕ → List UInt8 → List ℕ
  | [], _ => []
  | n :: layout, bytes => leValue (bytes.take n) :: readWords layout (bytes.drop n)

def WordsFit (layout words : List ℕ) : Prop := Forall₂ (fun n v => v < 256 ^ n) layout words

variable {layout : List ℕ} {bytes : List UInt8}

variable {words : List ℕ}

lemma length_writeWords (h : words.length = layout.length) : (writeWords layout words).length = layout.sum := by
  induction layout generalizing words with
  | nil => rfl
  | cons n layout ih =>
    cases words with
    | nil => cases h
    | cons v words =>
      rw [writeWords, length_append, length_leBytes, sum_cons, ih (Nat.succ.inj h)]

lemma readWords_writeWords (h : WordsFit layout words) : readWords layout (writeWords layout words) = words := by
  induction h with
  | nil => rfl
  | @cons n v layout words hv _ ih =>
    rw [writeWords, readWords, take_left' (length_leBytes n v), drop_left' (length_leBytes n v), ih,
      leValue_leBytes, Nat.mod_eq_of_lt hv]

lemma readWords_fit (h : bytes.length = layout.sum) : WordsFit layout (readWords layout bytes) := by
  induction layout generalizing bytes with
  | nil => exact Forall₂.nil
  | cons n layout ih =>
    rw [sum_cons] at h
    refine Forall₂.cons ?_ (ih (by rw [length_drop]; omega))
    have hlength : (bytes.take n).length = n := length_take_of_le (by omega)
    have hlt := leValue_lt (bytes.take n)
    rwa [hlength] at hlt

lemma length_readWords (layout : List ℕ) (bytes : List UInt8) : (readWords layout bytes).length = layout.length := by
  induction layout generalizing bytes with
  | nil => rfl
  | cons n layout ih => exact congrArg Nat.succ (ih _)

lemma map_getD_range (words : List ℕ) : (range words.length).map (fun i => words.getD i 0) = words := by
  refine ext_getElem (by rw [length_map, length_range]) fun i hi hlt => ?_
  rw [getElem_map, getElem_range, getD_eq_getElem?_getD, List.getElem?_eq_getElem hlt]
  rfl

lemma writeWords_readWords (h : bytes.length = layout.sum) :
    writeWords layout (readWords layout bytes) = bytes := by
  induction layout generalizing bytes with
  | nil => exact (eq_nil_of_length_eq_zero h).symm
  | cons n layout ih =>
    rw [sum_cons] at h
    have hlength : (bytes.take n).length = n := length_take_of_le (by omega)
    rw [readWords, writeWords, ih (by rw [length_drop]; omega)]
    calc leBytes n (leValue (bytes.take n)) ++ bytes.drop n
        = leBytes (bytes.take n).length (leValue (bytes.take n)) ++ bytes.drop n := by rw [hlength]
      _ = bytes.take n ++ bytes.drop n := by rw [leBytes_leValue]
      _ = bytes := take_append_drop n bytes

/-- The record of number `i` in a sequence of records of one length. -/
def recordAt (width : ℕ) (bytes : List UInt8) (i : ℕ) : List UInt8 := (bytes.drop (i * width)).take width

lemma recordAt_flatMap {α : Type} {width : ℕ} {f : α → List UInt8} {l : List α}
    (hf : ∀ a ∈ l, (f a).length = width) {i : ℕ} {a : α} (h : l[i]? = some a) : recordAt width (l.flatMap f) i = f a := by
  induction l generalizing i with
  | nil => cases h
  | cons b l ih =>
    have hb := hf b mem_cons_self
    rw [recordAt, flatMap_cons]
    cases i with
    | zero =>
      rw [List.getElem?_cons_zero] at h
      cases h
      rw [Nat.zero_mul, drop_zero, take_left' hb]
    | succ i =>
      rw [List.getElem?_cons_succ] at h
      have hdrop : (f b ++ l.flatMap f).drop ((i + 1) * width) = (l.flatMap f).drop (i * width) := by
        rw [Nat.succ_mul, Nat.add_comm, ← drop_drop, drop_left' hb]
      rw [hdrop]
      exact ih (fun a ha => hf a (mem_cons_of_mem _ ha)) h

end HundunFlow.Lib
