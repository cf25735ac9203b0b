import HundunFlow.Proofs.MassIteration

/-!
# The pressure of a closed mass on all ranks

Every rank returns the same status and result.
-/

namespace HundunFlow.Proofs

open Lib ClosedMass Finset Multiset

variable {F : Type} [Field F] [LinearOrder F]

section Sums

variable [IsStrictOrderedRing F] {gas : Thermodynamics F} {pressure : F}

omit [IsStrictOrderedRing F]

variable {cell : Cell F} {status : Status} {cells : List (Cell F)}

lemma CompensatedSum.value_add (s : CompensatedSum F) (value : F) : (s.add value).value = s.value + value := by
  dsimp only [CompensatedSum.add, CompensatedSum.value]
  split <;> ring

def cellSlope (gas : Thermodynamics F) (pressure : F) (cell : Cell F) : F :=
  match cellCoefficients gas pressure cell with
  | .ok (some (slope, _)) => slope
  | _ => 0

def cellMass (gas : Thermodynamics F) (pressure reference : F) (cell : Cell F) : F :=
  cellSlope gas pressure cell * (reference + cell.pressurePerturbation)

def CellRefused (gas : Thermodynamics F) (pressure : F) (cell : Cell F) : Prop :=
  ∃ status, cellCoefficients gas pressure cell = .error status

lemma cell_cases (h : ¬ CellRefused gas pressure cell) :
    (cell.active = 0 ∧ cellSlope gas pressure cell = 0 ∧ cellCoefficients gas pressure cell = .ok none) ∨
    (cell.active ≠ 0 ∧ 0 < cellSlope gas pressure cell ∧ 0 < pressure + cell.pressurePerturbation ∧
      cellCoefficients gas pressure cell =
        .ok (some (cellSlope gas pressure cell, cell.pressurePerturbation * cellSlope gas pressure cell))) := by
  cases hcoef : cellCoefficients gas pressure cell with
  | error status => exact absurd ⟨status, hcoef⟩ h
  | ok coefficients =>
    have hslope : cellSlope gas pressure cell = (coefficients.map Prod.fst).getD 0 := by
      rw [cellSlope, hcoef]
      cases coefficients <;> rfl
    rw [hslope]
    clear hslope
    unfold cellCoefficients at hcoef
    split at hcoef
    · cases hcoef
    · split at hcoef
      · rename_i hactive
        obtain rfl := Except.ok.inj hcoef
        exact .inl ⟨hactive, rfl, rfl⟩
      · rename_i hactive
        split at hcoef
        · cases hcoef
        · rename_i h0
          split at hcoef
          · cases hcoef
          · dsimp only at hcoef
            split at hcoef
            · cases hcoef
            · rename_i hpos
              obtain rfl := Except.ok.inj hcoef
              exact .inr ⟨hactive, not_le.mp hpos, not_le.mp fun hle => h0 (.inr hle), rfl⟩

lemma cellCoefficients_not_ok (h : cellCoefficients gas pressure cell = .error status) : status.isOk = false := by
  unfold cellCoefficients at h
  split at h
  · obtain rfl := Except.error.inj h
    rfl
  · split at h
    · cases h
    · split at h
      · obtain rfl := Except.error.inj h
        rfl
      · split at h
        · rename_i refusal hrefused
          obtain rfl := Except.error.inj h
          exact gas.refused _ _ _ hrefused
        · dsimp only at h
          split at h
          · obtain rfl := Except.error.inj h
            rfl
          · cases h

def FirstRefusal (gas : Thermodynamics F) (pressure : F) (cells : List (Cell F)) (status : Status) : Prop :=
  ∃ before cell after, cells = before ++ cell :: after ∧ (∀ other ∈ before, ¬ CellRefused gas pressure other) ∧
    cellCoefficients gas pressure cell = .error status

lemma FirstRefusal.cons {cells : List (Cell F)} {status : Status} {cell : Cell F}
    (h : FirstRefusal gas pressure cells status) (hcell : ¬ CellRefused gas pressure cell) :
    FirstRefusal gas pressure (cell :: cells) status := by
  obtain ⟨before, other, after, rfl, hbefore, hstatus⟩ := h
  refine ⟨cell :: before, other, after, rfl, fun earlier hearlier => ?_, hstatus⟩
  rcases List.mem_cons.mp hearlier with rfl | hmem
  · exact hcell
  · exact hbefore earlier hmem

lemma FirstRefusal.exists_cell (h : FirstRefusal gas pressure cells status) :
    ∃ cell ∈ cells, cellCoefficients gas pressure cell = .error status := by
  obtain ⟨before, cell, after, rfl, -, hstatus⟩ := h
  exact ⟨cell, List.mem_append_right _ List.mem_cons_self, hstatus⟩

lemma FirstRefusal.scan (h : FirstRefusal gas pressure cells status)
    (sums : LocalSums F) : (scanCells gas pressure cells sums).1 = status := by
  obtain ⟨before, cell, after, rfl, hbefore, hstatus⟩ := h
  induction before generalizing sums with
  | nil => rw [List.nil_append, scanCells, hstatus]
  | cons first before ih =>
    have hrest := fun others => ih others fun other hother => hbefore other (List.mem_cons_of_mem _ hother)
    rw [List.cons_append, scanCells]
    rcases cell_cases (hbefore first List.mem_cons_self) with ⟨-, -, hfirst⟩ | ⟨-, -, -, hfirst⟩
    · rw [hfirst]
      exact hrest sums
    · rw [hfirst]
      exact hrest _

lemma scanCells_cases (gas : Thermodynamics F) (pressure : F) (cells : List (Cell F)) (sums : LocalSums F) :
    ((∀ cell ∈ cells, ¬ CellRefused gas pressure cell) ∧ (scanCells gas pressure cells sums).1 = {} ∧
      (scanCells gas pressure cells sums).2.slope.value =
        sums.slope.value + (cells.map (cellSlope gas pressure)).sum ∧
      (scanCells gas pressure cells sums).2.intercept.value =
        sums.intercept.value + (cells.map fun cell => cell.pressurePerturbation * cellSlope gas pressure cell).sum) ∨
    FirstRefusal gas pressure cells (scanCells gas pressure cells sums).1 := by
  induction cells generalizing sums with
  | nil => exact .inl ⟨fun _ h => absurd h List.not_mem_nil, rfl, (add_zero _).symm, (add_zero _).symm⟩
  | cons cell cells ih =>
    rw [List.map_cons, List.map_cons, List.sum_cons, List.sum_cons, scanCells]
    by_cases hrefused : CellRefused gas pressure cell
    · obtain ⟨status, hstatus⟩ := hrefused
      rw [hstatus]
      exact .inr ⟨[], cell, cells, rfl, fun other hother => absurd hother List.not_mem_nil, hstatus⟩
    · have hcons : (∀ other ∈ cells, ¬ CellRefused gas pressure other) →
          ∀ other ∈ cell :: cells, ¬ CellRefused gas pressure other :=
        fun hall other hother => (List.mem_cons.mp hother).elim (fun heq => heq ▸ hrefused) (hall other)
      rcases cell_cases hrefused with ⟨-, hzero, hcell⟩ | ⟨-, -, -, hcell⟩
      · rw [hcell, hzero]
        dsimp only
        rw [mul_zero, zero_add, zero_add]
        rcases ih sums with ⟨hall, hrest⟩ | hfirst
        · exact .inl ⟨hcons hall, hrest⟩
        · exact .inr (hfirst.cons hrefused)
      · rw [hcell]
        dsimp only
        rcases ih (sums.add (cellSlope gas pressure cell) (cell.pressurePerturbation * cellSlope gas pressure cell)) with
          ⟨hall, hok, hslope, hintercept⟩ | hfirst
        · refine .inl ⟨hcons hall, hok, ?_, ?_⟩
          · rw [hslope, LocalSums.add, CompensatedSum.value_add, add_assoc]
          · rw [hintercept, LocalSums.add, CompensatedSum.value_add, add_assoc]
        · exact .inr (hfirst.cons hrefused)

end Sums

section Collectives

variable {n : ℕ} (hn : 0 < n) (hsize : n < 2 ^ 31)

def Together {α : Type} (p : Fin n → MassProg F α) (o : α) : Prop :=
  ∃ t, (massNetwork hn).Run p t fun _ => o

lemma Together.bind {α β : Type} {p : Fin n → MassProg F α} {f : Fin n → α → MassProg F β} {a : α} {b : β}
    (hp : Together hn p a) (hf : Together hn (fun i => f i a) b) : Together hn (fun i => (p i).bind (f i)) b := by
  obtain ⟨t, ht⟩ := hp
  obtain ⟨u, hu⟩ := hf
  exact ⟨t ++ u, ht.bind hu⟩

lemma together_done {α : Type} (a : α) : Together hn (fun _ => (.done a : MassProg F α)) a := ⟨[], .done _⟩

lemma together_collectiveFailure (brought : Fin n → Status) :
    Together (F := F) hn (fun i => collectiveFailure (jobComm hsize i) (brought i)) (agreed brought).1 := by
  have hmax : n ≤ maxU64 := by
    unfold maxU64
    omega
  have hsel := rankMin_firstFailing hn brought hmax
  have hreply : ∀ i, (massNetwork (F := F) hn).reply
      (fun i => .allreduceMin (if (brought i).isOk then maxU64 else (jobComm hsize i).rank)) i =
        .value (rankMin hn fun i => if (brought i).isOk then maxU64 else i) :=
    fun _ => rfl
  unfold agreed
  cases h : firstFailing brought with
  | none =>
    refine ⟨_, .call _ _ .allreduceMin [] _ (fun _ => rfl) ?_⟩
    simp only [hreply, hsel, h, if_true]
    exact .done _
  | some k =>
    have hk : (k : ℕ) ≠ maxU64 := by
      have := k.isLt
      unfold maxU64
      omega
    have hlt : ∀ i, ¬ (jobComm hsize i).size ≤ (k : ℕ) := fun i => not_le.mpr k.isLt
    refine ⟨_, .call _ _ .allreduceMin [MassSignature.bcast k 2] _ (fun _ => rfl) ?_⟩
    simp only [hreply, hsel, h, hk, hlt, if_false]
    have hwire : ∀ i, (massNetwork (F := F) hn).reply
        (fun i => .bcast k (if (jobComm hsize i).rank = k then (brought i).toWire else [0, 0])) i =
          .words (brought k).toWire := by
      intro i
      have hroot : (if (jobComm hsize k).rank = (k : ℕ) then (brought k).toWire else [0, 0]) = (brought k).toWire := if_pos rfl
      refine (dif_pos k.isLt).trans ?_
      exact congrArg MassReply.words hroot
    refine .call _ _ (MassSignature.bcast k 2) [] _ (fun i => ?_) ?_
    · by_cases hi : (jobComm hsize i).rank = k
      · rw [if_pos hi]
        rfl
      · rw [if_neg hi]
        rfl
    · simp only [hwire, Status.ofWire_toWire, Option.getD_some]
      exact .done _

omit [Field F] in
lemma rankExtremes_eq_iff {v : Fin n → F} : rankMinDouble hn v = rankMaxDouble hn v ↔ ∀ i j, v i = v j := by
  have hnon : Nonempty (Fin n) := ⟨⟨0, hn⟩⟩
  have hmin : ∀ i, rankMinDouble hn v ≤ v i := rankMinDouble_le hn v
  have hmax : ∀ i, v i ≤ rankMaxDouble hn v := fun i => le_sup' v (mem_univ i)
  constructor
  · intro h i j
    refine le_antisymm ?_ ?_
    · exact ((hmax i).trans h.ge).trans (hmin j)
    · exact ((hmax j).trans h.ge).trans (hmin i)
  · intro h
    obtain ⟨i, -, hi⟩ := exists_mem_eq_inf' (univ_nonempty (α := Fin n)) v
    obtain ⟨j, -, hj⟩ := exists_mem_eq_sup' (univ_nonempty (α := Fin n)) v
    exact (hi.trans (h i j)).trans hj.symm

lemma together_compareIdentity (identity : Fin n → JobIdentity F) {count : ℕ}
    (hcount : ∀ i, (identity i).words.length = count) : Together hn (fun i => compareIdentity (identity i))
      (if ∀ i j, identity i = identity j then {} else collectiveStatus .invalidPlan) := by
  have hleast : ∀ i, (massNetwork hn).reply (fun i => .identity .min (identity i)) i =
      .identity (leastIdentity hn count identity) := fun i => by
    rw [← hcount i]
    rfl
  have hgreatest : ∀ i, (massNetwork hn).reply (fun i => .identity .max (identity i)) i =
      .identity (greatestIdentity hn count identity) := fun i => by
    rw [← hcount i]
    rfl
  have hiff : leastIdentity hn count identity = greatestIdentity hn count identity ↔ ∀ i j, identity i = identity j := by
    rw [leastIdentity, greatestIdentity, JobIdentity.mk.injEq, rankExtremes_eq_iff, rankExtremes_eq_iff, List.map_inj_left]
    simp only [rankMin_eq_rankMax_iff]
    constructor
    · rintro ⟨hwords, htarget, hpres⟩ i j
      have hlist : (identity i).words = (identity j).words := by
        refine List.ext_getElem ((hcount i).trans (hcount j).symm) fun k hi hj => ?_
        have hk := hwords k (List.mem_range.mpr (hcount i ▸ hi)) i j
        rwa [List.getD_eq_getElem?_getD, List.getD_eq_getElem?_getD, List.getElem?_eq_getElem hi,
          List.getElem?_eq_getElem hj] at hk
      have htargets := htarget i j
      have hpress := hpres i j
      cases hone : identity i
      cases hother : identity j
      rw [hone, hother] at hlist htargets hpress
      rw [JobIdentity.mk.injEq]
      exact ⟨hlist, htargets, hpress⟩
    · intro h
      refine ⟨fun k _ i j => by rw [h i j], fun i j => by rw [h i j], fun i j => by rw [h i j]⟩
  refine ⟨_, .call _ _ (MassSignature.identity .min count) [MassSignature.identity .max count] _ (fun i => ?_) ?_⟩
  · exact congrArg (MassSignature.identity .min) (hcount i)
  · refine .call _ _ (MassSignature.identity .max count) [] _ (fun i => ?_) ?_
    · exact congrArg (MassSignature.identity .max) (hcount i)
    · simp only [hleast, hgreatest, hiff]
      exact .done _

end Collectives

section Outcomes

variable {n : ℕ} {plan : ClosedMassPlan F} {gas : Thermodynamics F} {target pressure : F}

/-- The cells of all ranks, wherever they lie. -/
def allCells (cells : Fin n → List (Cell F)) : Multiset (Cell F) := ∑ i, (cells i : Multiset (Cell F))

variable {list : List (Cell F)} {reference : F}

omit [Field F] [LinearOrder F] in
lemma mem_allCells {cells : Fin n → List (Cell F)} {cell : Cell F} : cell ∈ allCells cells ↔ ∃ i, cell ∈ cells i := by
  rw [allCells, mem_sum]
  simp only [mem_univ, true_and, Multiset.mem_coe]

omit [LinearOrder F] in
lemma sum_allCells (cells : Fin n → List (Cell F)) (f : Cell F → F) :
    ∑ i, ((cells i).map f).sum = ((allCells cells).map f).sum :=
  (map_sum (sumAddMonoidHom.comp (mapAddMonoidHom f)) (fun i => (cells i : Multiset (Cell F)))
    univ).symm

variable (plan gas target pressure) (cells : Multiset (Cell F))

def totalSlope : F := (cells.map (cellSlope gas pressure)).sum

def totalIntercept : F := (cells.map fun cell => cell.pressurePerturbation * cellSlope gas pressure cell).sum

def totalMass (reference : F) : F := (cells.map (cellMass gas pressure reference)).sum

def triedPressure : ℕ → F :=
  pressureAt plan (totalSlope gas pressure cells) (totalIntercept gas pressure cells) target pressure

/-- The mass at the pressure tried in iteration `k` is within the tolerance. -/
def TriedFits (k : ℕ) : Prop :=
  |totalMass gas pressure cells (triedPressure plan gas target pressure cells k) - target| ≤ plan.relativeTolerance * target

def AbsolutePositive (reference : F) : Prop := ∀ cell ∈ cells, cell.active ≠ 0 → 0 < reference + cell.pressurePerturbation

noncomputable def massOutcome : Status × Option (ClosedMassResult F) :=
  open Classical in
  if totalSlope gas pressure cells ≤ 0 then (⟨.numericalFailure, kClosedMassInput⟩, none)
  else
    match iterate plan true (totalSlope gas pressure cells) (totalIntercept gas pressure cells) target
        plan.maximumIterations 0 pressure with
    | .error status => (status, none)
    | .ok found =>
      if AbsolutePositive cells found.pressure then
        ({}, some ⟨found.pressure, found.mass, found.mass - target, found.iterations, -1⟩)
      else (⟨.numericalFailure, kClosedMassConvergence⟩, none)

/-- How a job without refused cells ends. -/
inductive MassExit : Status × Option (ClosedMassResult F) → Prop where
  | inactive : (∀ cell ∈ cells, cell.active = 0) → MassExit (⟨.numericalFailure, kClosedMassInput⟩, none)
  | limit : (∀ k < plan.maximumIterations, ¬ TriedFits plan gas target pressure cells k) →
      MassExit (⟨.numericalFailure, kClosedMassConvergence⟩, none)
  | absolute (k : ℕ) : k < plan.maximumIterations → (∀ j < k, ¬ TriedFits plan gas target pressure cells j) →
      TriedFits plan gas target pressure cells k → ¬ AbsolutePositive cells (triedPressure plan gas target pressure cells k) →
      MassExit (⟨.numericalFailure, kClosedMassConvergence⟩, none)
  | solved (k : ℕ) : k < plan.maximumIterations → (∀ j < k, ¬ TriedFits plan gas target pressure cells j) →
      TriedFits plan gas target pressure cells k → 0 < triedPressure plan gas target pressure cells k →
      AbsolutePositive cells (triedPressure plan gas target pressure cells k) →
      MassExit ({}, some ⟨triedPressure plan gas target pressure cells k,
        totalMass gas pressure cells (triedPressure plan gas target pressure cells k),
        totalMass gas pressure cells (triedPressure plan gas target pressure cells k) - target, k + 1, -1⟩)

inductive CellsOutcome (cells : Fin n → List (Cell F)) : Status × Option (ClosedMassResult F) → Prop where
  | refused (i : Fin n) (status : Status) : (∀ j < i, ∀ cell ∈ cells j, ¬ CellRefused gas pressure cell) →
      FirstRefusal gas pressure (cells i) status → CellsOutcome cells (status, none)
  | settled : (∀ i, ∀ cell ∈ cells i, ¬ CellRefused gas pressure cell) →
      CellsOutcome cells (massOutcome plan gas target pressure (allCells cells))

variable {plan gas target pressure cells}

lemma totalMass_eq (reference : F) : totalMass gas pressure cells reference =
    reference * totalSlope gas pressure cells + totalIntercept gas pressure cells := by
  rw [totalMass, totalSlope, totalIntercept, ← sum_map_mul_left, ← sum_map_add]
  refine congrArg sum (Multiset.map_congr rfl fun cell _ => ?_)
  rw [cellMass]
  ring

variable [IsStrictOrderedRing F]

lemma start_of_active (hcells : ∀ cell ∈ cells, ¬ CellRefused gas pressure cell) :
    (∀ cell ∈ cells, cell.active = 0) ∧ totalSlope gas pressure cells = 0 ∨
      0 < totalSlope gas pressure cells ∧ 0 < totalMass gas pressure cells pressure := by
  have hcase := fun cell hcell => cell_cases (hcells cell hcell)
  have hsum : ∀ f : Cell F → F, (∀ cell ∈ cells, cellSlope gas pressure cell = 0 → f cell = 0) →
      (∀ cell ∈ cells, 0 < cellSlope gas pressure cell → 0 < pressure + cell.pressurePerturbation → 0 < f cell) →
      (∃ cell ∈ cells, cell.active ≠ 0) → 0 < (cells.map f).sum := by
    rintro f hzero hpos ⟨cell, hcell, hactive⟩
    have hnonneg : ∀ other ∈ cells, 0 ≤ f other := by
      intro other hother
      rcases hcase other hother with ⟨-, hslope, -⟩ | ⟨-, hslope, habs, -⟩
      · exact (hzero other hother hslope).ge
      · exact (hpos other hother hslope habs).le
    have hle : f cell ≤ (cells.map f).sum := by
      refine Multiset.single_le_sum (fun value hvalue => ?_) _ (mem_map_of_mem f hcell)
      obtain ⟨other, hother, rfl⟩ := mem_map.mp hvalue
      exact hnonneg other hother
    rcases hcase cell hcell with ⟨hoff, -⟩ | ⟨-, hslope, habs, -⟩
    · exact absurd hoff hactive
    · exact (hpos cell hcell hslope habs).trans_le hle
  by_cases hactive : ∃ cell ∈ cells, cell.active ≠ 0
  · refine .inr ⟨hsum _ (fun _ _ h => h) (fun _ _ h _ => h) hactive, hsum _ (fun cell _ h => ?_) (fun _ _ => mul_pos) hactive⟩
    rw [cellMass, h, zero_mul]
  · push Not at hactive
    refine .inl ⟨hactive, Multiset.sum_eq_zero fun value hvalue => ?_⟩
    obtain ⟨cell, hcell, rfl⟩ := mem_map.mp hvalue
    rcases hcase cell hcell with ⟨-, hzero, -⟩ | ⟨hne, -⟩
    · exact hzero
    · exact absurd (hactive cell hcell) hne

lemma massStart_of_fine (htarget : 0 < target) (hpres : 0 < pressure)
    (hcells : ∀ cell ∈ cells, ¬ CellRefused gas pressure cell) (hpos : 0 < totalSlope gas pressure cells) :
    MassStart (totalSlope gas pressure cells) (totalIntercept gas pressure cells) target pressure := by
  refine ⟨hpos, htarget, hpres, ?_⟩
  rcases start_of_active hcells with ⟨-, hzero⟩ | ⟨-, hmass⟩
  · exact absurd hzero hpos.ne'
  · rwa [totalMass_eq] at hmass

omit [IsStrictOrderedRing F] in
lemma iterate_again {derivative intercept : F} (hd : 0 < derivative) (again : Bool) (remaining iteration : ℕ) (start : F) :
    iterate plan again derivative intercept target remaining iteration start =
      iterate plan true derivative intercept target remaining iteration start := by
  induction remaining generalizing iteration start with
  | zero => rfl
  | succ remaining ih => simp only [iterate, ih, not_le.mpr hd, and_false]

lemma massOutcome_exit (htarget : 0 < target) (hpres : 0 < pressure)
    (hcells : ∀ cell ∈ cells, ¬ CellRefused gas pressure cell) :
    MassExit plan gas target pressure cells (massOutcome plan gas target pressure cells) := by
  rcases start_of_active hcells with ⟨hoff, hzero⟩ | ⟨hpos, -⟩
  · rw [massOutcome, if_pos hzero.le]
    exact .inactive hoff
  have hstart := massStart_of_fine htarget hpres hcells hpos
  have hfits : ∀ k, TriedFits plan gas target pressure cells k ↔
      WithinTolerance plan (totalSlope gas pressure cells) (totalIntercept gas pressure cells) target
        (pressureAt plan (totalSlope gas pressure cells) (totalIntercept gas pressure cells) target pressure (0 + k)) := by
    intro k
    rw [TriedFits, totalMass_eq, WithinTolerance, Nat.zero_add, triedPressure]
  rw [massOutcome, if_neg (not_le.mpr hpos)]
  rcases iterate_cases plan hstart true plan.maximumIterations 0 with
    ⟨hnone, herror⟩ | ⟨k, hk, hbefore, hwithin, hok⟩
  · rw [pressureAt] at herror
    rw [herror]
    exact .limit fun k hk hfit => hnone k hk ((hfits k).mp hfit)
  · rw [pressureAt, Nat.zero_add] at hok
    rw [hok, ← totalMass_eq]
    have hbefore' : ∀ j < k, ¬ TriedFits plan gas target pressure cells j := fun j hj hfit => hbefore j hj ((hfits j).mp hfit)
    dsimp only
    split
    · rename_i h0
      exact .solved k hk hbefore' ((hfits k).mpr hwithin) (hstart.at plan k).pressure_pos h0
    · rename_i hneg
      exact .absolute k hk hbefore' ((hfits k).mpr hwithin) hneg

omit [IsStrictOrderedRing F]

lemma finalStatus_isOk_iff : (finalStatus reference list).isOk = true ↔
    ∀ cell ∈ list, cell.active ≠ 0 → 0 < reference + cell.pressurePerturbation := by
  unfold finalStatus
  split
  · rename_i hany
    obtain ⟨cell, hcell, hbad⟩ := List.any_eq_true.mp hany
    rw [Bool.and_eq_true, decide_eq_true_eq, decide_eq_true_eq] at hbad
    refine ⟨fun h => Bool.noConfusion h, fun h => ?_⟩
    exact absurd (h cell hcell hbad.1) (not_lt.mpr hbad.2)
  · rename_i hnone
    refine ⟨fun _ cell hcell hactive => not_le.mp fun hle => hnone ?_, fun _ => rfl⟩
    refine List.any_eq_true.mpr ⟨cell, hcell, ?_⟩
    rw [Bool.and_eq_true, decide_eq_true_eq, decide_eq_true_eq]
    exact ⟨hactive, hle⟩

lemma finalStatus_failed (h : (finalStatus reference list).isOk = false) :
    finalStatus reference list = ⟨.numericalFailure, kClosedMassConvergence⟩ := by
  unfold finalStatus at h ⊢
  split at h
  · rename_i hany
    exact if_pos hany
  · cases h

end Outcomes

variable {n : ℕ} (hn : 0 < n) (hsize : n < 2 ^ 31)

lemma agreed_failed {brought : Fin n → Status} (h : (agreed brought).1.isOk = false) :
    ∃ i, (agreed brought).1 = brought i ∧ (brought i).isOk = false ∧ ∀ j < i, (brought j).isOk = true := by
  unfold agreed at h ⊢
  cases hfirst : firstFailing brought with
  | none =>
    rw [hfirst] at h
    cases h
  | some k => exact ⟨k, rfl, (firstFailing_some hfirst).1, (firstFailing_some hfirst).2⟩

lemma together_solveCells (plan : ClosedMassPlan F) (gas : Thermodynamics F) (target pressure : F)
    (cells : Fin n → List (Cell F)) :
    ∃ o, CellsOutcome plan gas target pressure cells o ∧ ∀ again,
      Together hn (fun i => solveCells (jobComm hsize i) plan again gas (cells i) target pressure) o := by
  have hfailure := together_collectiveFailure (F := F) hn hsize fun i => (scanCells gas pressure (cells i) .zero).1
  by_cases hok : (agreed fun i => (scanCells gas pressure (cells i) .zero).1).1.isOk = true
  · have hscan : ∀ i, (∀ cell ∈ cells i, ¬ CellRefused gas pressure cell) ∧
        (scanCells gas pressure (cells i) .zero).2.slope.value = ((cells i).map (cellSlope gas pressure)).sum ∧
        (scanCells gas pressure (cells i) .zero).2.intercept.value =
          ((cells i).map fun cell => cell.pressurePerturbation * cellSlope gas pressure cell).sum := by
      intro i
      have hi := agreed_isOk_iff.mp hok i
      have hzero : (CompensatedSum.zero : CompensatedSum F).value = 0 := add_zero 0
      rcases scanCells_cases gas pressure (cells i) .zero with ⟨hall, -, hslope, hintercept⟩ | hfirst
      · refine ⟨hall, hslope.trans ?_, hintercept.trans ?_⟩
        · rw [LocalSums.zero, hzero, zero_add]
        · rw [LocalSums.zero, hzero, zero_add]
      · obtain ⟨cell, -, hstatus⟩ := hfirst.exists_cell
        rw [cellCoefficients_not_ok hstatus] at hi
        cases hi
    have hreply : ∀ i, (massNetwork hn).reply (fun i => .sum (scanCells gas pressure (cells i) .zero).2.slope.value
        (scanCells gas pressure (cells i) .zero).2.intercept.value) i =
          .sums (totalSlope gas pressure (allCells cells)) (totalIntercept gas pressure (allCells cells)) := by
      intro i
      rw [totalSlope, totalIntercept, ← sum_allCells, ← sum_allCells]
      refine congrArg₂ MassReply.sums ?_ ?_
      · exact sum_congr rfl fun j _ => (hscan j).2.1
      · exact sum_congr rfl fun j _ => (hscan j).2.2
    refine ⟨_, .settled fun i => (hscan i).1, fun again => Together.bind hn hfailure ?_⟩
    rw [hok]
    obtain ⟨t, ht⟩ : Together hn (fun i => show MassProg F (Status × Option (ClosedMassResult F)) from
        if totalSlope gas pressure (allCells cells) ≤ 0 then .done (⟨.numericalFailure, kClosedMassInput⟩, none)
        else
          match iterate plan again (totalSlope gas pressure (allCells cells)) (totalIntercept gas pressure (allCells cells)) target
              plan.maximumIterations 0 pressure with
          | .error status => .done (status, none)
          | .ok found =>
            (collectiveFailure (jobComm hsize i) (finalStatus found.pressure (cells i))).bind fun status =>
              if !status.isOk then .done (status, none)
              else .done ({}, some ⟨found.pressure, found.mass, found.mass - target, found.iterations, -1⟩))
        (massOutcome plan gas target pressure (allCells cells)) := by
      rw [massOutcome]
      by_cases hslope : totalSlope gas pressure (allCells cells) ≤ 0
      · simp only [if_pos hslope]
        exact together_done hn _
      · simp only [if_neg hslope, iterate_again (not_le.mp hslope) again]
        cases iterate plan true (totalSlope gas pressure (allCells cells)) (totalIntercept gas pressure (allCells cells)) target
            plan.maximumIterations 0 pressure with
        | error status => exact together_done hn _
        | ok found =>
          refine Together.bind hn (together_collectiveFailure (F := F) hn hsize fun i => finalStatus found.pressure (cells i)) ?_
          have hall : (agreed fun i => finalStatus found.pressure (cells i)).1.isOk = true ↔
              AbsolutePositive (allCells cells) found.pressure := by
            rw [agreed_isOk_iff]
            refine ⟨fun h cell hcell => ?_, fun h i => finalStatus_isOk_iff.mpr fun cell hcell => h cell (mem_allCells.mpr ⟨i, hcell⟩)⟩
            obtain ⟨i, hi⟩ := mem_allCells.mp hcell
            exact finalStatus_isOk_iff.mp (h i) cell hi
          by_cases h0 : AbsolutePositive (allCells cells) found.pressure
          · rw [hall.mpr h0]
            simp only [if_pos h0]
            exact together_done hn _
          · have hagreed := Bool.eq_false_iff.mpr fun h => h0 (hall.mp h)
            obtain ⟨i, hi, hfailed, -⟩ := agreed_failed hagreed
            rw [hagreed, hi, finalStatus_failed hfailed]
            simp only [if_neg h0]
            exact together_done hn _
    refine ⟨.sum :: t, .call _ _ .sum t _ (fun _ => rfl) ?_⟩
    simp only [hreply]
    exact ht
  · rw [Bool.not_eq_true] at hok
    obtain ⟨i, hi, hfailed, hbelow⟩ := agreed_failed hok
    refine ⟨((agreed fun i => (scanCells gas pressure (cells i) .zero).1).1, none), ?_, fun again => ?_⟩
    · have hlower : ∀ j < i, ∀ cell ∈ cells j, ¬ CellRefused gas pressure cell := by
        intro j hj
        have hfine := hbelow j hj
        rcases scanCells_cases gas pressure (cells j) .zero with ⟨hall, -⟩ | hfirst
        · exact hall
        · obtain ⟨cell, -, hstatus⟩ := hfirst.exists_cell
          rw [cellCoefficients_not_ok hstatus] at hfine
          cases hfine
      rcases scanCells_cases gas pressure (cells i) .zero with ⟨-, hfine, -⟩ | hfirst
      · rw [hfine] at hfailed
        cases hfailed
      · rw [hi]
        exact .refused i _ hlower hfirst
    · refine Together.bind hn hfailure ?_
      rw [hok]
      exact together_done hn _

end HundunFlow.Proofs
