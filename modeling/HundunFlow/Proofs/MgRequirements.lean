import HundunFlow.Proofs.MgCoarsening

/-!
# Agreement on the multigrid hierarchy

The level loop of all ranks together: what is voted on keeps the ranks together; what a rank finds out
about its own storage does not.
-/

namespace HundunFlow.Proofs

open Lib MgWorkspace List

abbrev LoopResult : Type := Stage Status (List MgWorkspaceLevelRequirements × ℕ)

section Levels

variable {n : ℕ} (hn : 0 < n) (p : Fin n → LevelPlan)

def vote (s : Fin n → LevelState) : AxisMask :=
  ⟨∀ i, (localMask (p i) (s i)).x = true, ∀ i, (localMask (p i) (s i)).y = true,
    ∀ i, (localMask (p i) (s i)).z = true⟩

variable {actual : AxisMask} {s : Fin n → LevelState} {remaining : Fin n → ℕ} {r : Fin n → LoopResult}
  {t : List JobSignature}

lemma vote_has (s : Fin n → LevelState) (axis : Axis) :
    (vote p s).has axis = true ↔ ∀ i, (localMask (p i) (s i)).has axis = true := by
  cases axis <;> exact decide_eq_true_iff

lemma rankMin_toNat (b : Fin n → Bool) : rankMin hn (fun i => (b i).toNat) ≠ 0 ↔ ∀ i, b i = true := by
  constructor
  · intro h i
    by_contra hi
    have hle := rankMin_le hn (fun i => (b i).toNat) i
    simp only [Bool.eq_false_of_not_eq_true hi, Bool.toNat_false, Nat.le_zero] at hle
    exact h hle
  · intro h
    rw [rankMin_eq_of_forall hn _ 1 fun i => by rw [h i]; rfl]
    exact Nat.one_ne_zero

def Overflows (p : LevelPlan) (s : LevelState) (actual : AxisMask) : Prop :=
  appendStorage (makeLevel p s actual) s.cursor = none

def EndsLevels (p : LevelPlan) (s : LevelState) (actual : AxisMask) : Prop :=
  actual = .none ∨ s.levels.length + 1 = p.maximumLevels

/-- With this level the arena is complete and fits an `int`. -/
def FitsArena (p : LevelPlan) (s : LevelState) (actual : AxisMask) : Prop :=
  ∃ level cursor, appendStorage (makeLevel p s actual) s.cursor = some (level, cursor) ∧
    2 ≤ s.levels.length + 1 ∧ cursor ≠ 0 ∧ cursor ≤ maxInt32

instance (p : LevelPlan) (s : LevelState) (actual : AxisMask) : Decidable (Overflows p s actual) :=
  inferInstanceAs (Decidable (appendStorage _ _ = none))

instance (p : LevelPlan) (s : LevelState) (actual : AxisMask) : Decidable (EndsLevels p s actual) :=
  inferInstanceAs (Decidable (_ ∨ _))

lemma fitsArena_iff (p : LevelPlan) (s : LevelState) (actual : AxisMask) : FitsArena p s actual ↔
    ∃ appended ∈ appendStorage (makeLevel p s actual) s.cursor,
      2 ≤ s.levels.length + 1 ∧ appended.2 ≠ 0 ∧ appended.2 ≤ maxInt32 := by
  simp only [FitsArena, Prod.exists, Option.mem_def]

instance (p : LevelPlan) (s : LevelState) (actual : AxisMask) : Decidable (FitsArena p s actual) :=
  decidable_of_iff' _ (fitsArena_iff p s actual)

def following (p : LevelPlan) (s : LevelState) (actual : AxisMask) : LevelState :=
  match appendStorage (makeLevel p s actual) s.cursor with
  | none => s
  | some (level, cursor) => ⟨votedGrid p s actual, cursor, s.levels ++ [level]⟩

def stopped (p : LevelPlan) (s : LevelState) (actual : AxisMask) : LoopResult :=
  match appendStorage (makeLevel p s actual) s.cursor with
  | none => .failed plan
  | some (level, cursor) => .ok (s.levels ++ [level], cursor)

/-- No coordinate of this rank leaves `int`. -/
def Computes (p : LevelPlan) (s : LevelState) : Prop := (ballot p s).isSome

instance (p : LevelPlan) (s : LevelState) : Decidable (Computes p s) := inferInstanceAs (Decidable (_ = true))

inductive LevelRun : (Fin n → LevelState) → (Fin n → LoopResult) → Prop where
  | stop {s : Fin n → LevelState} (hcomputes : ∀ i, Computes (p i) (s i))
      (hstop : ∀ i, Overflows (p i) (s i) (vote p s) ∨ EndsLevels (p i) (s i) (vote p s)) :
      LevelRun s fun i => stopped (p i) (s i) (vote p s)
  | next {s : Fin n → LevelState} {r : Fin n → LoopResult}
      (hcomputes : ∀ i, Computes (p i) (s i))
      (hgo : ∀ i, ¬ (Overflows (p i) (s i) (vote p s) ∨ EndsLevels (p i) (s i) (vote p s)))
      (h : LevelRun (fun i => following (p i) (s i) (vote p s)) r) : LevelRun s r

/-- Level by level, the ranks go on together or end together; at the end the arenas fit on all of
them or on none. -/
inductive LevelAgreement : (Fin n → LevelState) → Prop where
  | stop {s : Fin n → LevelState} (hcomputes : ∀ i, Computes (p i) (s i))
      (hstop : ∀ i, Overflows (p i) (s i) (vote p s) ∨ EndsLevels (p i) (s i) (vote p s))
      (hsame : ∀ i j, FitsArena (p i) (s i) (vote p s) ↔ FitsArena (p j) (s j) (vote p s)) : LevelAgreement s
  | next {s : Fin n → LevelState} (hcomputes : ∀ i, Computes (p i) (s i))
      (hgo : ∀ i, ¬ (Overflows (p i) (s i) (vote p s) ∨ EndsLevels (p i) (s i) (vote p s)))
      (h : LevelAgreement fun i => following (p i) (s i) (vote p s)) : LevelAgreement s

def afterVote (p : LevelPlan) (remaining : ℕ) : LevelEnd → JobProg Unit Unit LoopResult
  | .failed status => .done (.failed status)
  | .last levels cursor => .done (.ok (levels, cursor))
  | .next s => levelLoop p remaining s

lemma afterVote_stop {p : LevelPlan} {s : LevelState} (h : Overflows p s actual ∨ EndsLevels p s actual)
    (remaining : ℕ) (next : Grid) :
    afterVote p remaining (finishLevel p s actual next) = .done (stopped p s actual) := by
  unfold finishLevel stopped
  cases happend : appendStorage (makeLevel p s actual) s.cursor with
  | none => rfl
  | some appended =>
    obtain ⟨level, cursor⟩ := appended
    have hends : EndsLevels p s actual := by
      apply h.resolve_left
      rw [Overflows, happend]
      simp
    have hlast : actual = .none ∨ (s.levels ++ [level]).length = p.maximumLevels := by
      rw [length_append]
      exact hends
    simp only
    rw [if_pos hlast]
    rfl

lemma afterVote_next {p : LevelPlan} {s : LevelState} (h : ¬ (Overflows p s actual ∨ EndsLevels p s actual))
    (remaining : ℕ) : afterVote p remaining (finishLevel p s actual (votedGrid p s actual)) =
      levelLoop p remaining (following p s actual) := by
  rw [not_or] at h
  unfold finishLevel following
  cases happend : appendStorage (makeLevel p s actual) s.cursor with
  | none => exact absurd happend h.1
  | some appended =>
    obtain ⟨level, cursor⟩ := appended
    have hlast : ¬ (actual = .none ∨ (s.levels ++ [level]).length = p.maximumLevels) := by
      rw [length_append]
      exact h.2
    simp only
    rw [if_neg hlast]
    rfl

lemma levelLoop_done {p : LevelPlan} {s : LevelState} {remaining : ℕ} {result : LoopResult}
    (h : levelLoop p (remaining + 1) s = .done result) : result = .fault := by
  rw [levelLoop] at h
  cases hballot : ballot p s with
  | none =>
    rw [hballot] at h
    exact (Prog.done.inj h).symm
  | some voted =>
    rw [hballot] at h
    exact absurd h (by simp [Job.allreduceMany])

lemma levelLoop_vote (hcomputes : ∀ i, Computes (p i) (s i)) (remaining : Fin n → ℕ) (i : Fin n) :
    ∃ k, levelLoop (p i) (remaining i + 1) (s i) = (Job.allreduceMany .min
        [(localMask (p i) (s i)).x.toNat, (localMask (p i) (s i)).y.toNat, (localMask (p i) (s i)).z.toNat]).bind k ∧
      k (some ((range 3).map fun axis => rankMin hn fun j =>
        [(localMask (p j) (s j)).x.toNat, (localMask (p j) (s j)).y.toNat,
          (localMask (p j) (s j)).z.toNat].getD axis 0)) =
        afterVote (p i) (remaining i) (finishLevel (p i) (s i) (vote p s) (votedGrid (p i) (s i) (vote p s))) := by
  obtain ⟨next, hballot, hnext, hloop⟩ := nextGrid_eq (hcomputes i) fun axis h => (vote_has p s axis).mp h i
  rw [levelLoop, hballot]
  refine ⟨_, rfl, ?_⟩
  have hactual : (⟨rankMin hn (fun j => (localMask (p j) (s j)).x.toNat) ≠ 0,
      rankMin hn (fun j => (localMask (p j) (s j)).y.toNat) ≠ 0,
      rankMin hn (fun j => (localMask (p j) (s j)).z.toNat) ≠ 0⟩ : AxisMask) = vote p s := by
    simp only [rankMin_toNat, vote]
  simp only [range, range.loop, map_cons, map_nil, getD_cons_zero, getD_cons_succ, hactual, hnext]
  rfl

structure Remaining (s : Fin n → LevelState) (remaining : Fin n → ℕ) : Prop where
  levels : ∀ i, remaining i + (s i).levels.length = (p i).maximumLevels
  positive : ∀ i, 0 < remaining i

variable {p}

lemma Remaining.succ (h : Remaining p s remaining) :
    ∃ rest : Fin n → ℕ, remaining = fun i => rest i + 1 := by
  refine ⟨fun i => remaining i - 1, funext fun i => ?_⟩
  exact (Nat.sub_add_cancel (h.positive i)).symm

lemma length_following {p : LevelPlan} {s : LevelState} (h : ¬ Overflows p s actual) :
    (following p s actual).levels.length = s.levels.length + 1 := by
  unfold following
  cases happend : appendStorage (makeLevel p s actual) s.cursor with
  | none => exact absurd happend h
  | some appended =>
    simp only
    rw [length_append]
    rfl

lemma Remaining.next {s : Fin n → LevelState} {rest : Fin n → ℕ} (h : Remaining p s fun i => rest i + 1)
    (hgo : ∀ i, ¬ (Overflows (p i) (s i) (vote p s) ∨ EndsLevels (p i) (s i) (vote p s))) :
    Remaining p (fun i => following (p i) (s i) (vote p s)) rest := by
  constructor
  · intro i
    have hlevels := h.levels i
    rw [length_following (not_or.mp (hgo i)).1]
    omega
  · intro i
    have hlevels := h.levels i
    have hlast := (not_or.mp (hgo i)).2
    rw [EndsLevels, not_or] at hlast
    omega

lemma levelLoop_run (h : LevelRun p s r) (hrem : Remaining p s remaining) :
    ∃ t, (mpiJob hn).Run (fun i => levelLoop (p i) (remaining i) (s i)) t r := by
  induction h generalizing remaining with
  | @stop s hcomputes hstop =>
    obtain ⟨rest, rfl⟩ := hrem.succ
    choose k hloop hk using levelLoop_vote hn p hcomputes rest
    rw [funext hloop]
    refine ⟨[.allreduceMany .min 3] ++ [], Network.Run.bind (job_allreduceMany_min hn _ 3 fun _ => rfl) ?_⟩
    simp only [hk, afterVote_stop (hstop _)]
    exact .done _
  | @next s r hcomputes hgo _ ih =>
    obtain ⟨rest, rfl⟩ := hrem.succ
    choose k hloop hk using levelLoop_vote hn p hcomputes rest
    obtain ⟨t, hrun⟩ := ih (hrem.next hgo)
    rw [funext hloop]
    refine ⟨[.allreduceMany .min 3] ++ t, Network.Run.bind (job_allreduceMany_min hn _ 3 fun _ => rfl) ?_⟩
    simp only [hk, afterVote_next (hgo _)]
    exact hrun

include hn in
lemma computes_of_run {rest : Fin n → ℕ} {q : Fin n → JobProg Unit Unit LoopResult} (hrun : (mpiJob hn).Run q t r)
    (hfault : ∀ i, r i ≠ .fault) {i : Fin n} (hq : q i = levelLoop (p i) (rest i + 1) (s i)) : Computes (p i) (s i) := by
  rw [Computes, Option.isSome_iff_ne_none]
  intro hnone
  rw [levelLoop, hnone] at hq
  have hdone := congrFun (hrun.all_done hq).2 i
  rw [hq, Prog.done.injEq] at hdone
  exact hfault i hdone.symm

include hn in
lemma levelRun_of_run (hrem : Remaining p s remaining)
    (hrun : (mpiJob hn).Run (fun i => levelLoop (p i) (remaining i) (s i)) t r) (hfault : ∀ i, r i ≠ .fault) :
    LevelRun p s r := by
  have : Nonempty (Fin n) := ⟨⟨0, hn⟩⟩
  generalize hfuel : remaining ⟨0, hn⟩ = fuel
  induction fuel generalizing remaining s t with
  | zero =>
    have := hrem.positive ⟨0, hn⟩
    omega
  | succ fuel ih =>
    obtain ⟨rest, rfl⟩ := hrem.succ
    have hcomputes : ∀ i, Computes (p i) (s i) := fun i => computes_of_run hn hrun hfault rfl
    choose k hloop hk using levelLoop_vote hn p hcomputes rest
    rw [funext hloop] at hrun
    obtain ⟨u, -, hafter⟩ := (job_allreduceMany_min hn _ 3 fun _ => rfl).bind_right hrun
    simp only [hk] at hafter
    by_cases hall : ∀ i, Overflows (p i) (s i) (vote p s) ∨ EndsLevels (p i) (s i) (vote p s)
    · simp only [afterVote_stop (hall _)] at hafter
      obtain ⟨-, rfl⟩ := (Network.run_done_iff _ _ _).mp hafter
      exact .stop hcomputes hall
    · by_cases hgo : ∀ i, ¬ (Overflows (p i) (s i) (vote p s) ∨ EndsLevels (p i) (s i) (vote p s))
      · simp only [afterVote_next (hgo _)] at hafter
        exact .next hcomputes hgo (ih (hrem.next hgo) hafter (by simpa using hfuel))
      · -- some ranks are done and others go on to a level, where they call or fault
        exfalso
        push Not at hall hgo
        obtain ⟨j, hj⟩ := hall
        obtain ⟨i, hi⟩ := hgo
        have hdone := (hafter.all_done (afterVote_stop hi _ _)).2
        have hlevels := hrem.levels j
        have hlast := hj.2
        have hrest : rest j = rest j - 1 + 1 := by
          rw [EndsLevels, not_or] at hlast
          omega
        have hprogram := congrFun hdone j
        rw [afterVote_next (not_or.mpr hj), hrest] at hprogram
        exact hfault j (levelLoop_done hprogram)

def arenaStatus : LoopResult → Option Status
  | .fault => none
  | .failed e => some e
  | .ok (levels, cursor) => if levels.length < 2 ∨ cursor = 0 ∨ maxInt32 < cursor then some plan else some {}

lemma arenaStatus_stopped (p : LevelPlan) (s : LevelState) (actual : AxisMask) :
    arenaStatus (stopped p s actual) = if FitsArena p s actual then some {} else some plan := by
  by_cases hfits : FitsArena p s actual
  · rw [if_pos hfits]
    obtain ⟨level, cursor, happend, hcount, hzero, hmax⟩ := hfits
    simp only [stopped, happend, arenaStatus, length_append, length_cons, length_nil]
    exact if_neg (by omega)
  · rw [if_neg hfits]
    unfold stopped
    cases happend : appendStorage (makeLevel p s actual) s.cursor with
    | none => rfl
    | some appended =>
      obtain ⟨level, cursor⟩ := appended
      simp only [arenaStatus, length_append, length_cons, length_nil]
      apply if_pos
      by_contra hgood
      exact hfits ⟨level, cursor, happend, by omega, by omega, by omega⟩

include hn in
lemma levelAgreement_iff :
    LevelAgreement p s ↔ ∃ r, LevelRun p s r ∧ ∃ status, ∀ i, arenaStatus (r i) = some status := by
  constructor
  · intro h
    induction h with
    | @stop s hcomputes hstop hsame =>
      refine ⟨_, .stop hcomputes hstop, ?_⟩
      simp only [arenaStatus_stopped]
      by_cases hfits : FitsArena (p ⟨0, hn⟩) (s ⟨0, hn⟩) (vote p s)
      · exact ⟨{}, fun i => if_pos ((hsame i ⟨0, hn⟩).mpr hfits)⟩
      · exact ⟨plan, fun i => if_neg (mt (hsame i ⟨0, hn⟩).mp hfits)⟩
    | next hcomputes hgo _ ih =>
      obtain ⟨r, hrun, hstatus⟩ := ih
      exact ⟨r, .next hcomputes hgo hrun, hstatus⟩
  · rintro ⟨r, hrun, status, hstatus⟩
    induction hrun with
    | @stop s hcomputes hstop =>
      refine .stop hcomputes hstop fun i j => ?_
      have hi := hstatus i
      have hj := hstatus j
      rw [arenaStatus_stopped] at hi hj
      have hne : (some {} : Option Status) ≠ some plan := by decide
      by_cases hfits : FitsArena (p i) (s i) (vote p s)
      · by_cases hfits' : FitsArena (p j) (s j) (vote p s)
        · exact ⟨fun _ => hfits', fun _ => hfits⟩
        · rw [if_pos hfits] at hi
          rw [if_neg hfits'] at hj
          exact absurd (hi.trans hj.symm) hne
      · by_cases hfits' : FitsArena (p j) (s j) (vote p s)
        · rw [if_neg hfits] at hi
          rw [if_pos hfits'] at hj
          exact absurd (hj.trans hi.symm) hne
        · exact ⟨fun h => absurd h hfits, fun h => absurd h hfits'⟩
    | next hcomputes hgo _ ih => exact .next hcomputes hgo (ih hstatus)

end Levels

variable {F : Type} [Field F] [LinearOrder F] [DoubleWord F] {n : ℕ} (hn : 0 < n) (hsize : n < 2 ^ 31)
  (geometry : Fin n → CartesianGeometryPlan F) (finestPatch : Fin n → MeshPatch)
  (policy : Fin n → MgHierarchyPolicy F) (executionRevision : Fin n → UInt64)

def statusOf {α : Type} : Stage Status α → Option Status
  | .fault => none
  | .failed e => some e
  | .ok _ => some {}

def requirementsOf (semantic executionRevision : UInt64) : LoopResult → Stage Status MgWorkspaceRequirements
  | .fault => .fault
  | .failed e => .failed e
  | .ok (levels, cursor) =>
    match makeRequirements semantic executionRevision levels cursor with
    | none => .failed plan
    | some requirements => .ok requirements

lemma statusOf_requirementsOf (semantic executionRevision : UInt64) (r : LoopResult) :
    statusOf (requirementsOf semantic executionRevision r) = arenaStatus r := by
  cases r with
  | fault => rfl
  | failed e => rfl
  | ok result =>
    obtain ⟨levels, cursor⟩ := result
    simp only [requirementsOf, arenaStatus, makeRequirements, Bool.or_eq_true, decide_eq_true_eq, or_assoc]
    split_ifs <;> rfl

def initialState (i : Fin n) : LevelState := { grid := ⟨(geometry i).globalCells, finestPatch i⟩ }

def levelPlans (i : Fin n) : LevelPlan := levelPlan (geometry i) (policy i)

/-- The arguments of all ranks are valid and have one fingerprint. -/
structure Admitted : Prop where
  valid : ∀ i, localValid (geometry i) (finestPatch i) (policy i) (executionRevision i) = true
  same : ∀ i j, semantic (geometry i) (policy i) (executionRevision i) =
    semantic (geometry j) (policy j) (executionRevision j)

variable {geometry finestPatch policy executionRevision}

lemma Admitted.remaining (h : Admitted geometry finestPatch policy executionRevision) :
    Remaining (levelPlans geometry policy) (initialState geometry finestPatch) fun i =>
      (policy i).maximumLevels.toNat := by
  constructor
  · intro i
    rfl
  · intro i
    have hvalid := h.valid i
    simp only [localValid, Bool.and_eq_true, decide_eq_true_eq] at hvalid
    have hlevels : (2 : UInt8) ≤ (policy i).maximumLevels := hvalid.1.1.1.2
    have hlevels' := UInt8.le_iff_toNat_le.mp hlevels
    exact lt_of_lt_of_le Nat.two_pos hlevels'

variable (geometry finestPatch policy executionRevision) in
def calls (i : Fin n) : JobProg Unit Unit (Stage Status MgWorkspaceRequirements) :=
  makeMgWorkspaceRequirements (.valid (jobComm hsize i)) (geometry i) (finestPatch i) (policy i) (executionRevision i)

omit [Field F] [LinearOrder F] in
lemma same_semantic_iff : rankMin hn (fun i => (semantic (geometry i) (policy i) (executionRevision i)).toNat) =
      rankMax hn (fun i => (semantic (geometry i) (policy i) (executionRevision i)).toNat) ↔
    ∀ i j, semantic (geometry i) (policy i) (executionRevision i) =
      semantic (geometry j) (policy j) (executionRevision j) := by
  simp only [rankMin_eq_rankMax_iff, UInt64.toNat_inj]

lemma calls_run_iff (h : Admitted geometry finestPatch policy executionRevision)
    (r : Fin n → Stage Status MgWorkspaceRequirements) :
    (∃ t, (mpiJob hn).Run (calls hsize geometry finestPatch policy executionRevision) t r) ↔
      ∃ t result, (mpiJob hn).Run (fun i => levelLoop (levelPlans geometry policy i)
          (policy i).maximumLevels.toNat (initialState geometry finestPatch i)) t result ∧
        r = fun i => requirementsOf (semantic (geometry i) (policy i) (executionRevision i)) (executionRevision i)
          (result i) := by
  have : Nonempty (Fin n) := ⟨⟨0, hn⟩⟩
  have hvalid := (rankMin_toNat hn _).mpr h.valid
  have hsame := (same_semantic_iff hn).mpr h.same
  unfold calls makeMgWorkspaceRequirements
  rw [(job_allreduce_min hn _).bind_iff]
  simp only [if_neg hvalid]
  rw [(job_allreduce_min hn _).bind_iff, (job_allreduce_max hn _).bind_iff]
  simp only [hsame, ne_eq, not_true_eq_false, if_false]
  have hmap : ∀ i, (levelLoop (levelPlan (geometry i) (policy i)) (policy i).maximumLevels.toNat
      { grid := ⟨(geometry i).globalCells, finestPatch i⟩ }).andThen (fun x =>
        match makeRequirements (semantic (geometry i) (policy i) (executionRevision i)) (executionRevision i) x.1
          x.2 with
        | none => .done (.failed plan)
        | some requirements => .done (.ok requirements)) =
      (levelLoop (levelPlans geometry policy i) (policy i).maximumLevels.toNat
        (initialState geometry finestPatch i)).bind fun result =>
          .done (requirementsOf (semantic (geometry i) (policy i) (executionRevision i)) (executionRevision i)
            result) := by
    intro i
    unfold Prog.andThen
    congr 1
    funext result
    cases result with
    | fault => rfl
    | failed e => rfl
    | ok result =>
      simp only [requirementsOf]
      cases makeRequirements (semantic (geometry i) (policy i) (executionRevision i)) (executionRevision i) result.1
        result.2 <;> rfl
  have hprogram := congrArg (fun q => ∃ t, (mpiJob hn).Run q t r) (funext hmap)
  refine (iff_of_eq hprogram).trans ?_
  simp only [Network.run_map_iff]

lemma calls_refused (h : ¬ Admitted geometry finestPatch policy executionRevision) :
    ∃ t, (mpiJob hn).Run (calls hsize geometry finestPatch policy executionRevision) t fun _ => .failed plan := by
  have : Nonempty (Fin n) := ⟨⟨0, hn⟩⟩
  unfold calls makeMgWorkspaceRequirements
  rw [(job_allreduce_min hn _).bind_iff]
  by_cases hvalid : ∀ i, localValid (geometry i) (finestPatch i) (policy i) (executionRevision i) = true
  · have hsame := mt (same_semantic_iff hn).mp fun hsame => h ⟨hvalid, hsame⟩
    simp only [if_neg ((rankMin_toNat hn _).mpr hvalid)]
    rw [(job_allreduce_min hn _).bind_iff, (job_allreduce_max hn _).bind_iff]
    simp only [ne_eq, hsame, not_false_eq_true, if_true]
    exact ⟨[], .done _⟩
  · have hzero := not_not.mp (mt (rankMin_toNat hn _).mp hvalid)
    simp only [if_pos hzero]
    exact ⟨[], .done _⟩

section Agreement

variable {F : Type} [Field F] [LinearOrder F] [DoubleWord F] {n : ℕ} (hn : 0 < n) (hsize : n < 2 ^ 31)
  (geometry : Fin n → CartesianGeometryPlan F) (finestPatch : Fin n → MeshPatch)
  (policy : Fin n → MgHierarchyPolicy F) (executionRevision : Fin n → UInt64)

end Agreement

lemma foldl_replicate {α : Type} {f : α → α → α} {a : α} (h : f a a = a) (count : ℕ) :
    (replicate count a).foldl f a = a := by
  induction count with
  | zero => rfl
  | succ count ih => rw [replicate_succ, foldl_cons, h, ih]

lemma foldl_add_replicate (count : ℕ) (sum : ℚ) : (replicate count (1 : ℚ)).foldl (· + ·) sum = sum + count := by
  induction count generalizing sum with
  | zero => simp
  | succ count ih =>
    rw [replicate_succ, foldl_cons, ih, Nat.cast_succ]
    ring

/-- An axis of `count` cells of width 1. -/
def unitAxis (count : ℕ) : AxisMetrics ℚ := ⟨.of (replicate count 1)⟩

lemma spacing_unitAxis (count : ℕ) : spacing (unitAxis (count + 1)) = ⟨some 1, 1, 1⟩ := by
  have hminimum : ∀ rest : ℕ, (replicate rest (1 : ℚ)).foldl
      (fun least width => some (least.elim width (min · width))) (some 1) = some 1 := by
    intro rest
    induction rest with
    | zero => rfl
    | succ rest ih =>
      rw [replicate_succ, foldl_cons, Option.elim_some, min_self]
      exact ih
  unfold spacing unitAxis
  rw [if_neg (by simp [Span.isNull, Span.values])]
  simp only [Span.values, foldl_add_replicate, replicate_succ, foldl_cons, Option.elim_none, hminimum]
  rw [max_eq_right zero_le_one, foldl_replicate (max_self 1), zero_add, length_cons, length_replicate,
    Nat.cast_succ, add_comm 1, div_self (Nat.cast_add_one_ne_zero count)]

/-- Numbers without special values; the bits are those of 4. -/
instance : DoubleWord ℚ where
  toBits _ := 0x4010000000000000
  isFinite _ := true

/-- A box of cells of width 1. -/
def unitGeometry (x y z : ℕ) : CartesianGeometryPlan ℚ where
  globalCells := ⟨x + 1, y + 1, z + 1⟩
  x := unitAxis (x + 1)
  y := unitAxis (y + 1)
  z := unitAxis (z + 1)
  fingerprint := 1

def samplePolicy : MgHierarchyPolicy ℚ where
  anisotropyThreshold := 4
  maximumLevels := 2

lemma levelPlan_unit (x y z : ℕ) : levelPlan (unitGeometry x y z) samplePolicy = ⟨2, 3, .all, .none⟩ := by
  have hstrong : strong (4 : ℚ) 1 ⟨some 1, 1, 1⟩ = false := by decide +kernel
  simp only [levelPlan, strategyMask, unitGeometry, samplePolicy, spacing_unitAxis, max_self, hstrong]
  rfl

/-- Two ranks that share a box along its first axis. -/
def halfPatch (global : Int3) (cut : ℤ) (i : Fin 2) : MeshPatch where
  begin := ⟨if i = 0 then 0 else cut, 0, 0⟩
  cells := ⟨if i = 0 then cut else global.x - cut, global.y, global.z⟩
  processGrid := ⟨2, 1, 1⟩
  processCoord := ⟨i, 0, 0⟩

lemma unit_admitted_of (x y z : ℕ) {n : ℕ} {finestPatch : Fin n → MeshPatch}
    (hpatch : ∀ i, positive (finestPatch i).cells = true) :
    Admitted (fun _ => unitGeometry x y z) finestPatch (fun _ => samplePolicy) fun _ => 1 := by
  refine ⟨fun i => ?_, fun _ _ => rfl⟩
  have hfinite : DoubleWord.isFinite samplePolicy.anisotropyThreshold = true := rfl
  have hlarge : (1 : ℚ) < samplePolicy.anisotropyThreshold := by norm_num [samplePolicy]
  have hglobal : positive (unitGeometry x y z).globalCells = true := by
    rw [positive_iff]
    intro axis
    cases axis <;> exact Int.natCast_succ_pos _
  simp only [localValid, hfinite, hlarge, hpatch, hglobal]
  rfl

lemma unit_admitted (x y z : ℕ) {cut : ℤ} (hcut : 0 < cut) (hcut' : cut < x + 1) :
    Admitted (fun _ : Fin 2 => unitGeometry x y z) (halfPatch ⟨x + 1, y + 1, z + 1⟩ cut) (fun _ => samplePolicy)
      fun _ => 1 := by
  apply unit_admitted_of
  intro i
  simp only [positive, halfPatch, Bool.and_eq_true, decide_eq_true_eq]
  refine ⟨⟨?_, by omega⟩, by omega⟩
  split_ifs <;> omega

end HundunFlow.Proofs
