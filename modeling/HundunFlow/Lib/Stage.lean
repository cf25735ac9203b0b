import HundunFlow.Lib.Collective

/-!
# Programs in stages

A stage of a rank's program ends with a value, with a failure that ends the whole program, or
in a fault, when the program has no defined behaviour. Stages are chained by `andThen`. When
every stage either succeeds on all ranks or fails on all ranks, the ranks stay matched.
-/

namespace HundunFlow.Lib

inductive Stage (E α : Type) where
  | fault
  | failed (e : E)
  | ok (a : α)
  deriving DecidableEq

variable {ι Req Rep Sig E α β : Type}

def Stage.isOk : Stage E α → Bool
  | .ok _ => true
  | _ => false

/-- Goes on with `f` when the first stage succeeds. -/
def Prog.andThen (p : Prog Req Rep (Stage E α)) (f : α → Prog Req Rep (Stage E β)) :
    Prog Req Rep (Stage E β) :=
  p.bind fun
  | .fault => .done .fault
  | .failed e => .done (.failed e)
  | .ok a => f a

lemma Prog.local_andThen_failed {ok : Req → Rep → Prop} {p : Prog Req Rep (Stage E α)}
    {f : α → Prog Req Rep (Stage E β)} {e : E} (h : Prog.Local ok (p.andThen f) (.failed e)) :
    Prog.Local ok p (.failed e) ∨ ∃ a, Prog.Local ok p (.ok a) ∧ Prog.Local ok (f a) (.failed e) := by
  rw [Prog.andThen, Prog.local_bind_iff] at h
  obtain ⟨stage, hp, hf⟩ := h
  cases stage with
  | fault => simp at hf
  | failed e' =>
    rw [Prog.local_done_iff, Stage.failed.injEq] at hf
    rw [hf]
    exact .inl hp
  | ok a => exact .inr ⟨a, hp, hf⟩

namespace Network

variable {N : Network ι Req Rep Sig} {p : ι → Prog Req Rep (Stage E α)}
  {f : ι → α → Prog Req Rep (Stage E β)} {t u : List Sig}

theorem Run.andThen_ok {a : ι → α} {b : ι → Stage E β} (hp : Run N p t fun i => .ok (a i))
    (hf : Run N (fun i => f i (a i)) u b) : Run N (fun i => (p i).andThen (f i)) (t ++ u) b :=
  Run.bind hp hf

theorem Run.andThen_failed {e : ι → E} (hp : Run N p t fun i => .failed (e i)) :
    Run N (fun i => (p i).andThen (f i)) (t ++ []) fun i => .failed (e i) :=
  Run.bind hp (.done _)

lemma Run.exists_ok {r : ι → Stage E α} (h : Run N p t r) (hok : ∀ i, (r i).isOk = true) :
    ∃ a : ι → α, Run N p t fun i => .ok (a i) := by
  have hvalue : ∀ i, ∃ a, r i = .ok a := by
    intro i
    have hi := hok i
    cases hr : r i with
    | ok a => exact ⟨a, rfl⟩
    | failed e => exact absurd hi (by simp [hr, Stage.isOk])
    | fault => exact absurd hi (by simp [hr, Stage.isOk])
  choose a ha using hvalue
  rw [funext ha] at h
  exact ⟨a, h⟩

/-! ### Stages that all ranks leave in one way -/

/-- The ranks match. Under `ok` every rank ends with its value, and otherwise all ranks end with
one failure, which is `bad`. -/
def Together (N : Network ι Req Rep Sig) (p : ι → Prog Req Rep (Stage E α)) (ok : Prop) (bad : E → Prop)
    (a : ι → α) : Prop :=
  ∃ t r, Run N p t r ∧ (ok → r = fun i => .ok (a i)) ∧ (¬ ok → ∃ e, bad e ∧ r = fun _ => .failed e)

variable {ok ok' : Prop} {bad : E → Prop} {a : ι → α} {b : ι → β}

theorem Together.done : Together N (fun i => .done (.ok (a i))) True bad a :=
  ⟨[], _, .done _, fun _ => rfl, fun h => absurd trivial h⟩

/-- A collective before a stage. -/
theorem Together.after {γ : Type} {q : ι → Prog Req Rep γ} {g : ι → γ → Prog Req Rep (Stage E α)} {c : ι → γ}
    (hq : Run N q t c) (h : Together N (fun i => g i (c i)) ok bad a) :
    Together N (fun i => (q i).bind (g i)) ok bad a := by
  obtain ⟨u, r, hrun, hok, hbad⟩ := h
  exact ⟨t ++ u, r, Run.bind hq hrun, hok, hbad⟩

/-- A run that all ranks end well. -/
theorem Run.together (h : Run N p t fun i => .ok (a i)) : Together N p True bad a :=
  ⟨t, _, h, fun _ => rfl, fun hnot => absurd trivial hnot⟩

/-- A run that all ranks end well before a stage. -/
theorem Run.andThen_together (hp : Run N p t fun i => .ok (a i))
    (hf : Together N (fun i => f i (a i)) ok bad b) : Together N (fun i => (p i).andThen (f i)) ok bad b :=
  Together.after hp hf

theorem Together.andThen (hp : Together N p ok bad a) (hf : ok → Together N (fun i => f i (a i)) ok' bad b) :
    Together N (fun i => (p i).andThen (f i)) (ok ∧ ok') bad b := by
  obtain ⟨t, r, hrun, hok, hbad⟩ := hp
  by_cases h : ok
  · obtain ⟨u, r', hrun', hok', hbad'⟩ := hf h
    rw [hok h] at hrun
    refine ⟨t ++ u, r', Run.andThen_ok hrun hrun', fun hboth => hok' hboth.2, fun hnot => ?_⟩
    exact hbad' fun hsecond => hnot ⟨h, hsecond⟩
  · obtain ⟨e, he, hr⟩ := hbad h
    rw [hr] at hrun
    exact ⟨t ++ [], _, Run.andThen_failed hrun, fun hboth => absurd hboth.1 h, fun _ => ⟨e, he, rfl⟩⟩

/-- A stage that fails is the end of the program. -/
theorem Together.andThen_failed (hp : Together N p ok bad a) (h : ¬ ok) :
    Together N (fun i => (p i).andThen (f i)) False bad b := by
  obtain ⟨t, r, hrun, -, hbad⟩ := hp
  obtain ⟨e, he, hr⟩ := hbad h
  rw [hr] at hrun
  exact ⟨t ++ [], _, Run.andThen_failed hrun, False.elim, fun _ => ⟨e, he, rfl⟩⟩

theorem Together.congr (h : Together N p ok bad a) (hiff : ok ↔ ok') : Together N p ok' bad a := by
  rwa [← propext hiff]

/-- A last step without collectives. -/
theorem Together.finish {g : ι → α → β} (hp : Together N p ok bad a) (h : ok → ∀ i, g i (a i) = b i) :
    Together N (fun i => (p i).andThen fun x => .done (.ok (g i x))) ok bad b := by
  refine Together.congr (hp.andThen fun hok => ?_) (and_iff_left trivial)
  simp only [h hok]
  exact Together.done

end Network

end HundunFlow.Lib
