import Mathlib.Order.Lattice.Nat

/-!
# Programs that meet in collective operations

Every rank of a message-passing job runs its own sequential program and meets the other
ranks only in collective calls. A `Prog` is one rank's program, a `Network` says what a
collective hands back, and `Run` is the execution of a whole family of ranks: it moves on
only when all of them stand at calls with one signature. A family for which some rank
skips or adds a collective has no `Run` at all, so the existence of a `Run` is the
statement that the ranks match.
-/

namespace HundunFlow.Lib

open Finset

/-- One rank's program: return, or enter a collective and continue with its reply. -/
inductive Prog (Req Rep : Type) (α : Type) where
  | done (a : α)
  | call (q : Req) (k : Rep → Prog Req Rep α)

namespace Prog

variable {Req Rep α β γ : Type}

def bind : Prog Req Rep α → (α → Prog Req Rep β) → Prog Req Rep β
  | .done a, f => f a
  | .call q k, f => .call q fun r => (k r).bind f

instance : Monad (Prog Req Rep) where
  pure := .done
  bind := bind

variable (p : Prog Req Rep α)

variable (f : α → Prog Req Rep β)

@[simp] lemma bind_done (a : α) (f : α → Prog Req Rep β) : (done a : Prog Req Rep α).bind f = f a := rfl

@[simp] lemma bind_call (q : Req) (k : Rep → Prog Req Rep α) (f : α → Prog Req Rep β) :
    (call q k).bind f = .call q fun r => (k r).bind f := rfl

@[simp] lemma bind_done_right : p.bind .done = p := by
  induction p with
  | done a => rfl
  | call q k ih => simp only [bind_call, ih]


/-! ### One rank alone

`Local ok p a`: the program `p` can return `a` when every collective answers with some reply
that `ok` allows for the request. This is what a single rank can rely on. -/
inductive Local (ok : Req → Rep → Prop) : Prog Req Rep α → α → Prop where
  | done (a : α) : Local ok (.done a) a
  | call (q : Req) (k : Rep → Prog Req Rep α) (r : Rep) (a : α) (hr : ok q r)
      (h : Local ok (k r) a) : Local ok (.call q k) a

variable {ok : Req → Rep → Prop}

@[simp] lemma local_done_iff (a b : α) : Local ok (.done a : Prog Req Rep α) b ↔ b = a := by
  constructor
  · intro h
    cases h
    rfl
  · rintro rfl
    exact .done b

lemma local_call_iff (q : Req) (k : Rep → Prog Req Rep α) (a : α) :
    Local ok (.call q k) a ↔ ∃ r, ok q r ∧ Local ok (k r) a := by
  constructor
  · intro h
    cases h with
    | call _ _ r _ hr h => exact ⟨r, hr, h⟩
  · rintro ⟨r, hr, h⟩
    exact .call q k r a hr h

lemma local_bind_iff (b : β) : Local ok (p.bind f) b ↔ ∃ a, Local ok p a ∧ Local ok (f a) b := by
  induction p with
  | done a => simp
  | call q k ih =>
    simp only [bind_call, local_call_iff, ih]
    constructor
    · rintro ⟨r, hr, a, ha, hb⟩
      exact ⟨a, ⟨r, hr, ha⟩, hb⟩
    · rintro ⟨a, ⟨r, hr, ha⟩, hb⟩
      exact ⟨r, hr, a, ha, hb⟩

end Prog

structure Network (ι Req Rep Sig : Type) where
  sig : Req → Sig
  reply : (ι → Req) → ι → Rep

namespace Network

variable {ι Req Rep Sig α β γ : Type}

/-- All ranks execute the collectives `t`, in this order, and return `a`. -/
inductive Run (N : Network ι Req Rep Sig) : (ι → Prog Req Rep α) → List Sig → (ι → α) → Prop where
  | done (a : ι → α) : Run N (fun i => .done (a i)) [] a
  | call (q : ι → Req) (k : ι → Rep → Prog Req Rep α) (s : Sig) (t : List Sig) (a : ι → α)
      (hs : ∀ i, N.sig (q i) = s) (h : Run N (fun i => k i (N.reply q i)) t a) :
      Run N (fun i => .call (q i) (k i)) (s :: t) a

variable {N : Network ι Req Rep Sig}

variable {p : ι → Prog Req Rep α} {a : ι → α}

theorem Run.bind {f : ι → α → Prog Req Rep β} {t u : List Sig} {b : ι → β} (hp : Run N p t a)
    (hf : Run N (fun i => f i (a i)) u b) : Run N (fun i => (p i).bind (f i)) (t ++ u) b := by
  induction hp with
  | done a => simpa using hf
  | call q k s t a hs _ ih => exact .call q _ s _ b hs (ih hf)

section Inversion

variable [Nonempty ι]

variable {p : ι → Prog Req Rep α} {f : ι → α → Prog Req Rep β} {a : ι → α} {b : ι → β}

lemma run_done_iff (a b : ι → α) (t : List Sig) : Run N (fun i => .done (a i)) t b ↔ t = [] ∧ b = a := by
  constructor
  · intro h
    generalize hg : (fun i => Prog.done (a i) : ι → Prog Req Rep α) = g at h
    cases h with
    | done c => exact ⟨rfl, funext fun i => by simpa using (congrFun hg i).symm⟩
    | call q k s t c hs h => exact nomatch congrFun hg (Classical.arbitrary ι)
  · rintro ⟨rfl, rfl⟩
    exact .done b

lemma run_call_iff (q : ι → Req) (k : ι → Rep → Prog Req Rep α) (t : List Sig) (a : ι → α) :
    Run N (fun i => .call (q i) (k i)) t a ↔
      ∃ s u, t = s :: u ∧ (∀ i, N.sig (q i) = s) ∧ Run N (fun i => k i (N.reply q i)) u a := by
  constructor
  · intro h
    generalize hg : (fun i => Prog.call (q i) (k i)) = g at h
    cases h with
    | done c => exact nomatch congrFun hg (Classical.arbitrary ι)
    | call q' k' s u c hs h =>
      have hqk : ∀ i, q i = q' i ∧ k i = k' i := fun i => by simpa using congrFun hg i
      obtain rfl : q = q' := funext fun i => (hqk i).1
      obtain rfl : k = k' := funext fun i => (hqk i).2
      exact ⟨s, u, rfl, hs, h⟩
  · rintro ⟨s, u, rfl, hs, h⟩
    exact .call q k s u a hs h

/-- A run of a sequence whose first part is known to run splits at that part. -/
theorem Run.bind_right {t t' : List Sig} (hp : Run N p t a) (h : Run N (fun i => (p i).bind (f i)) t' b) :
    ∃ u, t' = t ++ u ∧ Run N (fun i => f i (a i)) u b := by
  induction hp generalizing t' with
  | done a => exact ⟨t', rfl, h⟩
  | call q k s t a hs _ ih =>
    simp only [Prog.bind_call] at h
    obtain ⟨s', u', rfl, hs', h'⟩ := (run_call_iff _ _ _ _).mp h
    obtain ⟨u, rfl, hr⟩ := ih h'
    have hss : s = s' := (hs (Classical.arbitrary ι)).symm.trans (hs' _)
    exact ⟨u, by rw [hss]; rfl, hr⟩

/-- A sequence whose first part is known to run is matched when the rest is. -/
theorem Run.bind_iff {t : List Sig} (hp : Run N p t a) :
    (∃ u, Run N (fun i => (p i).bind (f i)) u b) ↔ ∃ u, Run N (fun i => f i (a i)) u b := by
  constructor
  · rintro ⟨u, h⟩
    obtain ⟨v, -, hrest⟩ := hp.bind_right h
    exact ⟨v, hrest⟩
  · rintro ⟨u, h⟩
    exact ⟨t ++ u, hp.bind h⟩

/-- The collectives and the results of a run are determined by the programs. -/
theorem Run.unique {t t' : List Sig} {a' : ι → α} (h : Run N p t a) (h' : Run N p t' a') : t = t' ∧ a = a' := by
  have hb : Run N (fun i => (p i).bind .done) t' a' := by simpa using h'
  obtain ⟨u, rfl, hr⟩ := h.bind_right hb
  obtain ⟨rfl, rfl⟩ := (run_done_iff _ _ _).mp hr
  exact ⟨(List.append_nil t).symm, rfl⟩

end Inversion

/-- Where one rank is done, all ranks are. -/
theorem Run.all_done {t : List Sig} (h : Run N p t a) {i : ι} {b : α}
    (hi : p i = .done b) : t = [] ∧ p = fun j => .done (a j) := by
  cases h with
  | done a => exact ⟨rfl, rfl⟩
  | call q k s t a hs h => exact nomatch hi

/-- The result of a run, changed locally. -/
theorem run_map_iff (p : ι → Prog Req Rep α) (g : ι → α → β) (t : List Sig) (b : ι → β) :
    Run N (fun i => (p i).bind fun a => .done (g i a)) t b ↔ ∃ a, Run N p t a ∧ b = fun i => g i (a i) := by
  constructor
  · intro h
    generalize hf : (fun i => (p i).bind fun a => Prog.done (g i a)) = f at h
    induction h generalizing p with
    | done b =>
      have hdone : ∀ i, ∃ a, p i = .done a ∧ g i a = b i := by
        intro i
        have hi := congrFun hf i
        cases hp : p i with
        | done a =>
          rw [hp] at hi
          exact ⟨a, rfl, Prog.done.inj hi⟩
        | call q k =>
          rw [hp] at hi
          exact nomatch hi
      choose a hp hg using hdone
      obtain rfl : p = fun i => .done (a i) := funext hp
      exact ⟨a, .done a, funext fun i => (hg i).symm⟩
    | call q k s t b hs _ ih =>
      have hcall : ∀ i, ∃ k', p i = .call (q i) k' ∧ (fun r => (k' r).bind fun a => .done (g i a)) = k i := by
        intro i
        have hi := congrFun hf i
        cases hp : p i with
        | done a =>
          rw [hp] at hi
          exact nomatch hi
        | call q' k' =>
          rw [hp, Prog.bind_call, Prog.call.injEq] at hi
          rw [← hi.1]
          exact ⟨k', rfl, hi.2⟩
      choose k' hp hk using hcall
      obtain rfl : p = fun i => .call (q i) (k' i) := funext hp
      obtain ⟨a, hrun, hb⟩ := ih (fun i => k' i (N.reply q i)) (funext fun i => congrFun (hk i) _)
      exact ⟨a, .call q k' s t a hs hrun, hb⟩
  · rintro ⟨a, h, rfl⟩
    have hrun := Run.bind (f := fun i a => .done (g i a)) h (.done fun i => g i (a i))
    rwa [List.append_nil] at hrun

/-- Each rank of a run is a local execution under any relation the network respects. -/
theorem Run.toLocal {ok : ι → Req → Rep → Prop} (hok : ∀ q i, ok i (q i) (N.reply q i)) {p : ι → Prog Req Rep α}
    {t : List Sig} {a : ι → α} (h : Run N p t a) (i : ι) : (p i).Local (ok i) (a i) := by
  induction h with
  | done a => exact .done _
  | call q k s t a _ _ ih => exact .call _ _ _ _ (hok q i) ih

end Network

/-! ### Minimum over the ranks -/

variable {n : ℕ}

lemma nonempty_ranks (hn : 0 < n) : (univ : Finset (Fin n)).Nonempty := ⟨⟨0, hn⟩, mem_univ _⟩

/-- The least of the values the ranks contribute. -/
def rankMin (hn : 0 < n) (v : Fin n → ℕ) : ℕ :=
  haveI : Nonempty (Fin n) := ⟨⟨0, hn⟩⟩
  univ.inf' univ_nonempty v

def rankMax (hn : 0 < n) (v : Fin n → ℕ) : ℕ :=
  haveI : Nonempty (Fin n) := ⟨⟨0, hn⟩⟩
  univ.sup' univ_nonempty v

variable {v : Fin n → ℕ}

lemma rankMin_le (hn : 0 < n) (v : Fin n → ℕ) (i : Fin n) : rankMin hn v ≤ v i :=
  inf'_le v (mem_univ i)

lemma le_rankMax (hn : 0 < n) (v : Fin n → ℕ) (i : Fin n) : v i ≤ rankMax hn v :=
  le_sup' v (mem_univ i)

lemma exists_rankMin (hn : 0 < n) (v : Fin n → ℕ) : ∃ i, rankMin hn v = v i := by
  have : Nonempty (Fin n) := ⟨⟨0, hn⟩⟩
  obtain ⟨i, -, hi⟩ := exists_mem_eq_inf' (univ_nonempty (α := Fin n)) v
  exact ⟨i, hi⟩

lemma rankMin_eq_of_forall (hn : 0 < n) (v : Fin n → ℕ) (c : ℕ) (h : ∀ i, v i = c) : rankMin hn v = c := by
  obtain ⟨i, hi⟩ := exists_rankMin hn v
  rw [hi, h i]

lemma rankMin_eq_iff (hn : 0 < n) (v : Fin n → ℕ) (c : ℕ) : rankMin hn v = c ↔ (∃ i, v i = c) ∧ ∀ i, c ≤ v i := by
  constructor
  · rintro rfl
    obtain ⟨i, hi⟩ := exists_rankMin hn v
    exact ⟨⟨i, hi.symm⟩, rankMin_le hn v⟩
  · rintro ⟨⟨i, rfl⟩, h⟩
    obtain ⟨j, hj⟩ := exists_rankMin hn v
    exact le_antisymm (rankMin_le hn v i) (hj ▸ h j)

lemma eq_of_rankMin_eq_rankMax (hn : 0 < n) (h : rankMin hn v = rankMax hn v) (i j : Fin n) : v i = v j := by
  have hi := rankMin_le hn v i
  have hi' := le_rankMax hn v i
  have hj := rankMin_le hn v j
  have hj' := le_rankMax hn v j
  omega

lemma rankMin_eq_rankMax_iff (hn : 0 < n) : rankMin hn v = rankMax hn v ↔ ∀ i j, v i = v j := by
  constructor
  · intro h
    exact eq_of_rankMin_eq_rankMax hn h
  · intro h
    have : Nonempty (Fin n) := ⟨⟨0, hn⟩⟩
    obtain ⟨j, -, hj⟩ := exists_mem_eq_sup' (univ_nonempty (α := Fin n)) v
    rw [rankMin_eq_of_forall hn v (v j) fun i => h i j]
    exact hj.symm

end HundunFlow.Lib
