import HundunFlow.Proofs.MassJob
import HundunFlow.Proofs.LegacyFrames

/-!
# The pressure of a closed mass, in arrays and in fields

All ranks agree on an outcome, which is that of their cells and sound.
-/

namespace HundunFlow.Proofs

open Lib ClosedMass

variable {F : Type} [Field F] [LinearOrder F]

section Partitions

variable {n m : ℕ} {plan : ClosedMassPlan F} {gas : Thermodynamics F} {target pressure : F}
  {cells : Fin n → List (Cell F)} {others : Fin m → List (Cell F)} {o o' : Status × Option (ClosedMassResult F)}

/-- A refused job leaves the output alone and has the status of a cell. -/
def RefusedByCell (gas : Thermodynamics F) (cells : Fin n → List (Cell F)) (pressure : F)
    (o : Status × Option (ClosedMassResult F)) : Prop :=
  o.2 = none ∧ ∃ i, ∃ cell ∈ cells i, cellCoefficients gas pressure cell = .error o.1

variable {status : Status}

lemma FirstRefusal.not_fine {i : Fin n} (h : FirstRefusal gas pressure (cells i) status)
    (hsame : allCells cells = allCells others) : ¬ ∀ j, ∀ cell ∈ others j, ¬ CellRefused gas pressure cell := by
  intro hfine
  obtain ⟨cell, hcell, hstatus⟩ := h.exists_cell
  obtain ⟨j, hj⟩ := mem_allCells.mp (hsame ▸ mem_allCells.mpr ⟨i, hcell⟩)
  exact hfine j cell hj ⟨_, hstatus⟩

lemma CellsOutcome.partition (h : CellsOutcome plan gas target pressure cells o)
    (h' : CellsOutcome plan gas target pressure others o') (hsame : allCells cells = allCells others) :
    o = o' ∨ RefusedByCell gas cells pressure o ∧ RefusedByCell gas others pressure o' := by
  cases h with
  | refused i status _ hfirst =>
    cases h' with
    | refused j status' _ hfirst' => exact .inr ⟨⟨rfl, i, hfirst.exists_cell⟩, ⟨rfl, j, hfirst'.exists_cell⟩⟩
    | settled hfine => exact absurd hfine (hfirst.not_fine hsame)
  | settled hfine =>
    cases h' with
    | refused j status _ hfirst => exact absurd hfine (hfirst.not_fine hsame.symm)
    | settled => exact .inl (by rw [hsame])

lemma CellsOutcome.unique (h : CellsOutcome plan gas target pressure cells o)
    (h' : CellsOutcome plan gas target pressure cells o') : o = o' := by
  cases h with
  | refused i status hlower hfirst =>
    cases h' with
    | refused i' status' hlower' hfirst' =>
      obtain ⟨cell, hcell, hstatus⟩ := hfirst.exists_cell
      obtain ⟨cell', hcell', hstatus'⟩ := hfirst'.exists_cell
      rcases lt_trichotomy i i' with hlt | rfl | hlt
      · exact absurd ⟨_, hstatus⟩ (hlower' i hlt cell hcell)
      · rw [← hfirst.scan .zero, ← hfirst'.scan .zero]
      · exact absurd ⟨_, hstatus'⟩ (hlower i' hlt cell' hcell')
    | settled hfine => exact absurd hfine (hfirst.not_fine rfl)
  | settled hfine =>
    cases h' with
    | refused i status _ hfirst => exact absurd hfine (hfirst.not_fine rfl)
    | settled => rfl

structure MassFound (plan : ClosedMassPlan F) (gas : Thermodynamics F) (target pressure : F) (cells : Multiset (Cell F))
    (r : ClosedMassResult F) : Prop where
  positive : 0 < r.pressureReference
  absolute : AbsolutePositive cells r.pressureReference
  mass : r.mass = totalMass gas pressure cells r.pressureReference
  tolerance : |r.mass - target| ≤ plan.relativeTolerance * target
  residual : r.residual = r.mass - target
  iterations : r.iterations ≤ plan.maximumIterations
  tried : r.pressureReference = triedPressure plan gas target pressure cells (r.iterations - 1)

/-- What is known of a job that has come to an end. -/
structure JobSound (plan : ClosedMassPlan F) (gas : Thermodynamics F) (cells : Fin n → List (Cell F))
    (target pressure : Fin n → F) (o : Status × Option (ClosedMassResult F)) : Prop where
  written_iff : o.2.isSome = true ↔ o.1.isOk = true
  found : ∀ r i, o.2 = some r → MassFound plan gas (target i) (pressure i) (allCells cells) r

lemma JobSound.none (hstatus : status.isOk = false) (target pressure : Fin n → F) :
    JobSound plan gas cells target pressure (status, none) := by
  refine ⟨?_, fun r i hr => by cases hr⟩
  rw [hstatus]
  exact ⟨fun h => Bool.noConfusion h, fun h => Bool.noConfusion h⟩

lemma CellsOutcome.sound [IsStrictOrderedRing F] (htarget : 0 < target) (hpres : 0 < pressure)
    (h : CellsOutcome plan gas target pressure cells o) :
    JobSound plan gas cells (fun _ => target) (fun _ => pressure) o := by
  cases h with
  | refused i status hlower hfirst =>
    obtain ⟨cell, -, hstatus⟩ := hfirst.exists_cell
    exact .none (cellCoefficients_not_ok hstatus) _ _
  | settled hfine =>
    have hexit : MassExit plan gas target pressure (allCells cells) (massOutcome plan gas target pressure (allCells cells)) :=
      massOutcome_exit htarget hpres fun cell hcell =>
        let ⟨i, hi⟩ := mem_allCells.mp hcell
        hfine i cell hi
    generalize massOutcome plan gas target pressure (allCells cells) = outcome at hexit ⊢
    cases hexit with
    | inactive => exact .none rfl _ _
    | limit => exact .none rfl _ _
    | absolute => exact .none rfl _ _
    | solved k hk _ hfit hpos h0 =>
      refine ⟨⟨fun _ => rfl, fun _ => rfl⟩, fun r _ hr => ?_⟩
      obtain rfl := Option.some.inj hr
      exact ⟨hpos, h0, rfl, hfit, rfl, hk, rfl⟩

end Partitions

variable {n : ℕ} (hn : 0 < n) (hsize : n < 2 ^ 31) {plan : ClosedMassPlan F} {gas : Thermodynamics F}

/-- The cells of a rank that calls `solve_fields`. -/
def fieldCells (view : ClosedMassFieldView F) (independent : ℕ) : List (Cell F) :=
  match view.geometry with
  | none => []
  | some geometry => view.cells geometry independent

def geometryFingerprint (view : ClosedMassFieldView F) : ℕ :=
  match view.geometry with
  | none => 0
  | some geometry => geometry.fingerprint

/-- All ranks run to an outcome, and to no other. -/
def Agree {α : Type} (p : Fin n → MassProg F α) (o : α) : Prop :=
  Together hn p o ∧ ∀ t a, (massNetwork hn).Run p t a → a = fun _ => o

lemma Together.agree {α : Type} {p : Fin n → MassProg F α} {o : α} (h : Together hn p o) : Agree hn p o := by
  refine ⟨h, fun t a ha => ?_⟩
  have : Nonempty (Fin n) := ⟨⟨0, hn⟩⟩
  obtain ⟨t', ht'⟩ := h
  exact (ha.unique ht').2

inductive JobOutcome (plan : ClosedMassPlan F) (gas : Thermodynamics F) (refuses : Fin n → Prop)
    (identity : Fin n → JobIdentity F) (cells : Fin n → List (Cell F)) : Status × Option (ClosedMassResult F) → Prop where
  | refused (i : Fin n) : refuses i → JobOutcome plan gas refuses identity cells (⟨.invalidPlan, kClosedMassInput⟩, none)
  | different (i j : Fin n) : (∀ i, ¬ refuses i) → identity i ≠ identity j →
      JobOutcome plan gas refuses identity cells (⟨.invalidPlan, kClosedMassCollective⟩, none)
  | cells (i : Fin n) (o : Status × Option (ClosedMassResult F)) : (∀ i, ¬ refuses i) →
      (∀ j k, identity j = identity k) → CellsOutcome plan gas (identity i).target (identity i).pressure cells o →
      JobOutcome plan gas refuses identity cells o

/-- The outcome of `solve`. -/
def SolveOutcome (plan : ClosedMassPlan F) (gas : Thermodynamics F) (view : Fin n → ClosedMassCellView F)
    (target pressure : Fin n → F) : Status × Option (ClosedMassResult F) → Prop :=
  JobOutcome plan gas (fun i => SolveRefuses plan gas (view i) (target i) (pressure i))
    (fun i => ⟨[gas.fingerprint, plan.fingerprint], target i, pressure i⟩)
    fun i => (view i).cells gas.independentSpeciesCount

/-- The outcome of `solve_fields`. -/
def SolveFieldsOutcome (plan : ClosedMassPlan F) (gas : Thermodynamics F) (view : Fin n → ClosedMassFieldView F)
    (target pressure : Fin n → F) : Status × Option (ClosedMassResult F) → Prop :=
  JobOutcome plan gas (fun i => SolveFieldsRefuses plan gas (view i) (target i) (pressure i))
    (fun i => ⟨[gas.fingerprint, plan.fingerprint, geometryFingerprint (view i)], target i, pressure i⟩)
    fun i => fieldCells (view i) gas.independentSpeciesCount

variable [IsStrictOrderedRing F]

lemma agree_job (plan : ClosedMassPlan F) (gas : Thermodynamics F) (refuses : Fin n → Prop) [DecidablePred refuses]
    (identity : Fin n → JobIdentity F) (cells : Fin n → List (Cell F))
    (rest : Fin n → Status → MassProg F (Status × Option (ClosedMassResult F)))
    {p : Fin n → MassProg F (Status × Option (ClosedMassResult F))} (again : Bool) (count : ℕ)
    (hp : p = fun i => (collectiveFailure (jobComm hsize i)
      (if refuses i then ⟨.invalidPlan, kClosedMassInput⟩ else {})).bind fun status =>
        if !status.isOk then .done (status, none) else rest i status)
    (hrest : ∀ i, ¬ refuses i → rest i {} = (compareIdentity (identity i)).bind fun status =>
      if !status.isOk then .done (status, none)
      else solveCells (jobComm hsize i) plan again gas (cells i) (identity i).target (identity i).pressure)
    (hcount : ∀ i, (identity i).words.length = count)
    (hpos : ∀ i, ¬ refuses i → 0 < (identity i).target ∧ 0 < (identity i).pressure) :
    ∃ o, Agree hn p o ∧ JobOutcome plan gas refuses identity cells o ∧
      JobSound plan gas cells (fun i => (identity i).target) (fun i => (identity i).pressure) o := by
  have hfailure := together_collectiveFailure (F := F) hn hsize fun i =>
    if refuses i then ⟨.invalidPlan, kClosedMassInput⟩ else {}
  subst hp
  by_cases hrefused : ∃ i, refuses i
  · obtain ⟨j, hj⟩ := hrefused
    have hok : (agreed fun i => if refuses i then (⟨.invalidPlan, kClosedMassInput⟩ : Status) else {}).1.isOk = false := by
      refine Bool.eq_false_iff.mpr fun h => ?_
      have hfine := agreed_isOk_iff.mp h j
      rw [if_pos hj] at hfine
      cases hfine
    obtain ⟨i, hi, hfailed, -⟩ := agreed_failed hok
    split at hi
    · refine ⟨_, Together.agree hn (Together.bind hn hfailure ?_), .refused j hj, .none rfl _ _⟩
      rw [hok, hi]
      exact together_done hn _
    · rw [if_neg ‹_›] at hfailed
      cases hfailed
  · have hadmits : ∀ i, ¬ refuses i := fun i hi => hrefused ⟨i, hi⟩
    have hok : (agreed fun i => if refuses i then (⟨.invalidPlan, kClosedMassInput⟩ : Status) else {}).1.isOk = true :=
      agreed_isOk_iff.mpr fun i => by rw [if_neg (hadmits i)]; rfl
    have hrests : (fun i => rest i {}) = _ := funext fun i => hrest i (hadmits i)
    have hcompare := together_compareIdentity hn identity hcount
    rw [agreed_eq_of_isOk hok] at hfailure
    by_cases hsame : ∀ i j, identity i = identity j
    · rw [if_pos hsame] at hcompare
      let i₀ : Fin n := ⟨0, hn⟩
      obtain ⟨o, ho, hrun⟩ := together_solveCells hn hsize plan gas (identity i₀).target (identity i₀).pressure cells
      refine ⟨o, Together.agree hn (Together.bind hn hfailure ?_), .cells i₀ o hadmits hsame ho, ?_⟩
      · change Together hn (fun i => rest i {}) o
        rw [hrests]
        refine Together.bind hn hcompare ?_
        have hsolve : (fun i => solveCells (jobComm hsize i) plan again gas (cells i) (identity i).target
            (identity i).pressure) = fun i => solveCells (jobComm hsize i) plan again gas (cells i) (identity i₀).target
              (identity i₀).pressure := funext fun i => by rw [hsame i i₀]
        exact hsolve ▸ hrun again
      · have hsound := ho.sound (hpos i₀ (hadmits i₀)).1 (hpos i₀ (hadmits i₀)).2
        exact ⟨hsound.written_iff, fun r i hr => hsame i i₀ ▸ hsound.found r i hr⟩
    · rw [if_neg hsame] at hcompare
      push Not at hsame
      obtain ⟨i, j, hij⟩ := hsame
      refine ⟨_, Together.agree hn (Together.bind hn hfailure ?_), .different i j hadmits hij, .none rfl _ _⟩
      change Together hn (fun i => rest i {}) _
      rw [hrests]
      exact Together.bind hn hcompare (together_done hn _)

lemma agree_solve (plan : ClosedMassPlan F) (gas : Thermodynamics F) (view : Fin n → ClosedMassCellView F)
    (target pressure : Fin n → F) :
    ∃ o, Agree hn (fun i => plan.solve (jobComm hsize i) gas (view i) (target i) (pressure i)) o ∧
      SolveOutcome plan gas view target pressure o ∧
      JobSound plan gas (fun i => (view i).cells gas.independentSpeciesCount) target pressure o := by
  refine agree_job hn hsize plan gas (fun i => SolveRefuses plan gas (view i) (target i) (pressure i))
    (fun i => ⟨[gas.fingerprint, plan.fingerprint], target i, pressure i⟩)
    (fun i => (view i).cells gas.independentSpeciesCount) (fun i _ => _) true 2 rfl
    (fun i _ => rfl) (fun _ => rfl) fun i h => ?_
  simp only [not_or, not_le] at h
  exact ⟨h.2.2.1, h.2.2.2.1⟩

omit [IsStrictOrderedRing F] in
lemma SolveFieldsRefuses.geometry {view : ClosedMassFieldView F} {target pressure : F}
    (h : ¬ SolveFieldsRefuses plan gas view target pressure) : ∃ geometry, view.geometry = some geometry := by
  cases hgeom : view.geometry with
  | none =>
    refine absurd ?_ h
    simp only [SolveFieldsRefuses, ClosedMassFieldView.patchValid, hgeom, true_or, or_true]
  | some geometry => exact ⟨geometry, rfl⟩

lemma agree_solveFields (plan : ClosedMassPlan F) (gas : Thermodynamics F) (view : Fin n → ClosedMassFieldView F)
    (target pressure : Fin n → F) :
    ∃ o, Agree hn (fun i => plan.solveFields (jobComm hsize i) gas (view i) (target i) (pressure i)) o ∧
      SolveFieldsOutcome plan gas view target pressure o ∧
      JobSound plan gas (fun i => fieldCells (view i) gas.independentSpeciesCount) target pressure o := by
  refine agree_job hn hsize plan gas (fun i => SolveFieldsRefuses plan gas (view i) (target i) (pressure i))
    (fun i => ⟨[gas.fingerprint, plan.fingerprint, geometryFingerprint (view i)], target i, pressure i⟩)
    (fun i => fieldCells (view i) gas.independentSpeciesCount)
    (fun i status => match (view i).geometry with
      | none => .done (status, none)
      | some geometry =>
        (compareIdentity ⟨[gas.fingerprint, plan.fingerprint, geometry.fingerprint], target i, pressure i⟩).bind fun status =>
          if !status.isOk then .done (status, none)
          else solveCells (jobComm hsize i) plan false gas ((view i).cells geometry gas.independentSpeciesCount)
            (target i) (pressure i)) false 3 rfl (fun i h => ?_) (fun _ => rfl) fun i h => ?_
  · obtain ⟨geometry, hgeom⟩ := SolveFieldsRefuses.geometry h
    simp only [hgeom, geometryFingerprint, fieldCells]
  · simp only [not_or, not_le] at h
    exact ⟨h.2.2.1, h.2.2.2.1⟩

end HundunFlow.Proofs
