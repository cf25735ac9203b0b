import HundunFlow.Proofs.ClosedMassJob
import Mathlib.Tactic.FinCases

/-!
# Agreement on the pressure of a closed mass

`solve` and `solve_fields` have the same outcome on the same cells.
-/

namespace HundunFlow.Proofs

open Lib ClosedMass EBTopology List Option

variable {F : Type} [Field F] [LinearOrder F]

section Arrays

variable {plan : ClosedMassPlan F} {gas : Thermodynamics F} {target pressure : F}

def cellColumn {α : Type} (cells : List (Cell F)) (value : Cell F → α) (default : α) : ArrayView α :=
  ⟨some fun i => (cells.map value).getD i default, cells.length⟩

/-- The arrays with the cells of fields: products of widths as volumes, and ones where there is no mask. -/
def fieldArrays (view : ClosedMassFieldView F) (independent : ℕ) : ClosedMassCellView F :=
  let cells := fieldCells view independent
  { pressurePerturbation := cellColumn cells (·.pressurePerturbation) 0
    enthalpy := cellColumn cells (·.enthalpy) 0
    independentMassFractions :=
      ⟨some fun k => ((cells.map (·.composition)).getD (k % cells.length) []).getD (k / cells.length) 0,
        cells.length * independent⟩
    volume := cellColumn cells (·.volume) 0
    active := cellColumn cells (·.active) 0 }

section

omit [LinearOrder F]

variable {view : ClosedMassFieldView F} {independent : ℕ}

omit [Field F] in
lemma cellColumn_get {α : Type} [Zero α] {cells : List (Cell F)} {value : Cell F → α} {i : ℕ} (hi : i < cells.length) :
    (cellColumn cells value 0).get i = value cells[i] := by
  dsimp only [cellColumn, ArrayView.get, map_some, getD_some]
  rw [getD_eq_getElem?_getD, List.getElem?_map, List.getElem?_eq_getElem hi]
  rfl

lemma length_fieldCells {geometry : Geometry F} (h : view.geometry = some geometry) :
    (fieldCells view independent).length =
      view.patch.cells.x.toNat * view.patch.cells.y.toNat * view.patch.cells.z.toNat := by
  simp only [fieldCells, h, ClosedMassFieldView.cells, length_map, length_zipIdx, length_boxIndices]

lemma length_composition (hspecies : view.speciesValid independent = true) {cell : Cell F}
    (hcell : cell ∈ fieldCells view independent) : cell.composition.length = independent := by
  have hlength : ∀ index, (view.composition independent index).length = independent := by
    intro index
    rw [ClosedMassFieldView.speciesValid, Bool.and_eq_true] at hspecies
    have hdata := hspecies.2
    unfold ClosedMassFieldView.composition
    cases hspeciesData : view.independentMassFractions.data with
    | none =>
      rw [hspeciesData] at hdata
      exact (decide_eq_true_eq.mp hdata).symm
    | some data =>
      dsimp only
      rw [length_map, length_range]
  unfold fieldCells at hcell
  split at hcell
  · exact absurd hcell not_mem_nil
  · obtain ⟨entry, -, rfl⟩ := List.mem_map.mp hcell
    exact hlength _

lemma fieldArrays_cells (hspecies : view.speciesValid independent = true) :
    (fieldArrays view independent).cells independent = fieldCells view independent := by
  have hcount : (fieldArrays view independent).count = (fieldCells view independent).length := rfl
  refine ext_getElem ?_ fun i hi hi' => ?_
  · rw [ClosedMassCellView.cells, length_map, length_range, hcount]
  · simp only [ClosedMassCellView.cells, getElem_map, getElem_range]
    have hcomposition := length_composition hspecies (getElem_mem hi')
    have hfrac : (range independent).map (fun species =>
        (fieldArrays view independent).independentMassFractions.get (species * (fieldArrays view independent).count + i)) =
        (fieldCells view independent)[i].composition := by
      refine ext_getElem ?_ fun species hspecies hspecies' => ?_
      · rw [length_map, length_range, hcomposition]
      · simp only [getElem_map, getElem_range]
        rw [hcount]
        dsimp only [fieldArrays, ArrayView.get, map_some, getD_some]
        have hmod : (species * (fieldCells view independent).length + i) % (fieldCells view independent).length = i := by
          rw [Nat.mul_add_mod_self_right, Nat.mod_eq_of_lt hi']
        have hdiv : (species * (fieldCells view independent).length + i) / (fieldCells view independent).length = species := by
          rw [Nat.mul_comm, Nat.mul_add_div (by omega), Nat.div_eq_of_lt hi', Nat.add_zero]
        rw [hmod, hdiv, getD_eq_getElem?_getD, getD_eq_getElem?_getD, List.getElem?_map,
          List.getElem?_eq_getElem hi', map_some, getD_some, List.getElem?_eq_getElem hspecies',
          getD_some]
    have hcell : (fieldArrays view independent).cell independent i =
        { (fieldCells view independent)[i] with composition := (fieldCells view independent)[i].composition } := by
      rw [ClosedMassCellView.cell, hfrac]
      dsimp only [fieldArrays]
      rw [cellColumn_get hi', cellColumn_get hi', cellColumn_get hi', cellColumn_get hi']
    exact hcell

end

lemma SolveFieldsRefuses.arrays {view : ClosedMassFieldView F} (h : ¬ SolveFieldsRefuses plan gas view target pressure)
    (hsize : (fieldCells view gas.independentSpeciesCount).length * gas.independentSpeciesCount ≤ maxU64) :
    ¬ SolveRefuses plan gas (fieldArrays view gas.independentSpeciesCount) target pressure := by
  obtain ⟨geometry, hgeom⟩ := SolveFieldsRefuses.geometry h
  simp only [not_or] at h ⊢
  have hpos : 0 < (fieldCells view gas.independentSpeciesCount).length := by
    have hcount := h.2.2.2.2.1
    unfold ClosedMassFieldView.count at hcount
    rw [length_fieldCells hgeom]
    dsimp only at hcount
    split at hcount
    · rename_i hcells
      exact Nat.mul_pos (Nat.mul_pos (by omega) (by omega)) (by omega)
    · exact absurd rfl hcount
  refine ⟨h.1, h.2.1, h.2.2.1, h.2.2.2.1, ?_, ?_, ?_⟩
  · simp only [ClosedMassCellView.scalarShape, ClosedMassCellView.count, fieldArrays, cellColumn, decide_true, Bool.and_self,
      Bool.true_and, Bool.not_eq_false]
    exact decide_eq_true hpos
  · simp only [ClosedMassCellView.pointerShape, fieldArrays, cellColumn, isSome_some, Bool.and_self, Bool.or_true,
      Bool.true_eq_false, not_false_eq_true]
  · rw [Bool.not_eq_false]
    dsimp only [ClosedMassCellView.compositionShape, ClosedMassCellView.count, fieldArrays, cellColumn]
    split
    · rename_i hzero
      rw [hzero, Nat.mul_zero]
      rfl
    · rename_i hne
      rw [Bool.and_eq_true]
      exact ⟨decide_eq_true ((Nat.le_div_iff_mul_le (Nat.pos_of_ne_zero hne)).mpr hsize), decide_eq_true rfl⟩

end Arrays

section Outcomes

variable {n : ℕ} {plan : ClosedMassPlan F} {gas : Thermodynamics F} {refuses : Fin n → Prop}
  {identity : Fin n → JobIdentity F} {cells : Fin n → List (Cell F)} {o o' : Status × Option (ClosedMassResult F)}

lemma SolveFieldsOutcome.arrays {fields : Fin n → ClosedMassFieldView F} {target pressure : Fin n → F}
    (h : SolveFieldsOutcome plan gas fields target pressure o)
    (hadmits : ∀ i, ¬ SolveFieldsRefuses plan gas (fields i) (target i) (pressure i))
    (hsize : ∀ i, (fieldCells (fields i) gas.independentSpeciesCount).length * gas.independentSpeciesCount ≤ maxU64)
    (hgeom : ∀ i j, geometryFingerprint (fields i) = geometryFingerprint (fields j)) :
    SolveOutcome plan gas (fun i => fieldArrays (fields i) gas.independentSpeciesCount) target pressure o := by
  have hcells : (fun i => (fieldArrays (fields i) gas.independentSpeciesCount).cells gas.independentSpeciesCount) =
      fun i => fieldCells (fields i) gas.independentSpeciesCount := by
    refine funext fun i => fieldArrays_cells ?_
    have hi := hadmits i
    simp only [not_or, Bool.not_eq_false] at hi
    exact hi.2.2.2.2.2.2.2.2.1
  have harrays := fun i => SolveFieldsRefuses.arrays (hadmits i) (hsize i)
  unfold SolveOutcome
  rw [hcells]
  cases h with
  | refused i hrefused => exact absurd hrefused (hadmits i)
  | different i j _ hne =>
    refine .different i j harrays fun heq => hne ?_
    rw [JobIdentity.mk.injEq] at heq ⊢
    exact ⟨by rw [hgeom i j], heq.2⟩
  | cells i o _ hsame hcells =>
    refine .cells i o harrays (fun j k => ?_) hcells
    have hjk := hsame j k
    rw [JobIdentity.mk.injEq] at hjk ⊢
    exact ⟨rfl, hjk.2⟩

lemma JobOutcome.settled {target pressure : F} (h : JobOutcome plan gas refuses identity cells o)
    (hadmits : ∀ i, ¬ refuses i) (hsame : ∀ i j, identity i = identity j)
    (hvalues : ∀ i, (identity i).target = target ∧ (identity i).pressure = pressure) :
    CellsOutcome plan gas target pressure cells o := by
  cases h with
  | refused i hrefused => exact absurd hrefused (hadmits i)
  | different i j _ hne => exact absurd (hsame i j) hne
  | cells i o _ _ hcells =>
    rw [(hvalues i).1, (hvalues i).2] at hcells
    exact hcells

lemma JobOutcome.unique (h : JobOutcome plan gas refuses identity cells o)
    (h' : JobOutcome plan gas refuses identity cells o') : o = o' := by
  cases h with
  | refused i hrefused =>
    cases h' with
    | refused => rfl
    | different _ _ hadmits => exact absurd hrefused (hadmits i)
    | cells _ _ hadmits => exact absurd hrefused (hadmits i)
  | different i j hadmits hne =>
    cases h' with
    | refused k hrefused => exact absurd hrefused (hadmits k)
    | different => rfl
    | cells _ _ _ hsame => exact absurd (hsame i j) hne
  | cells i o hadmits hsame hcells =>
    cases h' with
    | refused k hrefused => exact absurd hrefused (hadmits k)
    | different j k _ hne => exact absurd (hsame j k) hne
    | cells j o' _ _ hcells' =>
      rw [hsame j i] at hcells'
      exact hcells.unique hcells'

end Outcomes

section ClosedMass

variable [IsStrictOrderedRing F]

/-- All ranks return one status and result, which is sound and the same for arrays and fields. On other ranks the same
cells give the same, or a cell is refused on both. The iteration goes monotonically towards the target. -/
theorem closed_mass_pressure {n m : ℕ} (hn : 0 < n) (hm : 0 < m) (hsize : n < 2 ^ 31) (hsize' : m < 2 ^ 31)
    (plan : ClosedMassPlan F) (gas : Thermodynamics F) :
    (∀ (view : Fin n → ClosedMassCellView F) (target pressure : Fin n → F),
      ∃ o, Agree hn (fun i => plan.solve (jobComm hsize i) gas (view i) (target i) (pressure i)) o ∧
        SolveOutcome plan gas view target pressure o ∧
        JobSound plan gas (fun i => (view i).cells gas.independentSpeciesCount) target pressure o) ∧
    (∀ (view : Fin n → ClosedMassFieldView F) (target pressure : Fin n → F),
      ∃ o, Agree hn (fun i => plan.solveFields (jobComm hsize i) gas (view i) (target i) (pressure i)) o ∧
        SolveFieldsOutcome plan gas view target pressure o ∧
        JobSound plan gas (fun i => fieldCells (view i) gas.independentSpeciesCount) target pressure o) ∧
    (∀ (view : Fin n → ClosedMassFieldView F) (target pressure : Fin n → F),
      (∀ i, ¬ SolveFieldsRefuses plan gas (view i) (target i) (pressure i)) →
      (∀ i, (fieldCells (view i) gas.independentSpeciesCount).length * gas.independentSpeciesCount ≤ maxU64) →
      (∀ i j, geometryFingerprint (view i) = geometryFingerprint (view j)) →
      ∃ o, Agree hn (fun i => plan.solveFields (jobComm hsize i) gas (view i) (target i) (pressure i)) o ∧
        Agree hn (fun i => plan.solve (jobComm hsize i) gas (fieldArrays (view i) gas.independentSpeciesCount)
          (target i) (pressure i)) o) ∧
    (∀ (view : Fin n → ClosedMassCellView F) (other : Fin m → ClosedMassCellView F) (target pressure : F),
      (∀ i, ¬ SolveRefuses plan gas (view i) target pressure) → (∀ i, ¬ SolveRefuses plan gas (other i) target pressure) →
      (allCells fun i => (view i).cells gas.independentSpeciesCount) =
        (allCells fun i => (other i).cells gas.independentSpeciesCount) →
      ∃ o o', Agree hn (fun i => plan.solve (jobComm hsize i) gas (view i) target pressure) o ∧
        Agree hm (fun i => plan.solve (jobComm hsize' i) gas (other i) target pressure) o' ∧
        (o = o' ∨ RefusedByCell gas (fun i => (view i).cells gas.independentSpeciesCount) pressure o ∧
          RefusedByCell gas (fun i => (other i).cells gas.independentSpeciesCount) pressure o')) ∧
    (∀ (view : Fin n → ClosedMassFieldView F) (other : Fin m → ClosedMassFieldView F) (target pressure : F),
      (∀ i, ¬ SolveFieldsRefuses plan gas (view i) target pressure) →
      (∀ i, ¬ SolveFieldsRefuses plan gas (other i) target pressure) →
      (∀ i j, geometryFingerprint (view i) = geometryFingerprint (view j)) →
      (∀ i j, geometryFingerprint (other i) = geometryFingerprint (other j)) →
      (allCells fun i => fieldCells (view i) gas.independentSpeciesCount) =
        (allCells fun i => fieldCells (other i) gas.independentSpeciesCount) →
      ∃ o o', Agree hn (fun i => plan.solveFields (jobComm hsize i) gas (view i) target pressure) o ∧
        Agree hm (fun i => plan.solveFields (jobComm hsize' i) gas (other i) target pressure) o' ∧
        (o = o' ∨ RefusedByCell gas (fun i => fieldCells (view i) gas.independentSpeciesCount) pressure o ∧
          RefusedByCell gas (fun i => fieldCells (other i) gas.independentSpeciesCount) pressure o')) ∧
    ∀ (cells : Multiset (Cell F)) (target pressure : F), 0 < target → 0 < pressure →
      (∀ cell ∈ cells, ¬ CellRefused gas pressure cell) → (∃ cell ∈ cells, cell.active ≠ 0) →
      MassExit plan gas target pressure cells (massOutcome plan gas target pressure cells) ∧
      ∃ root, totalMass gas pressure cells root = target ∧
        ∀ k, 0 < triedPressure plan gas target pressure cells k ∧
          0 < totalMass gas pressure cells (triedPressure plan gas target pressure cells k) ∧
          TowardsRoot plan.maximumRelativeStep root (triedPressure plan gas target pressure cells k)
            (triedPressure plan gas target pressure cells (k + 1)) := by
  refine ⟨agree_solve hn hsize plan gas, agree_solveFields hn hsize plan gas, ?_, ?_, ?_, ?_⟩
  · intro view target pressure hadmits hcount hgeometry
    obtain ⟨o, hagree, ho, -⟩ := agree_solveFields hn hsize plan gas view target pressure
    obtain ⟨o', hagree', ho', -⟩ := agree_solve hn hsize plan gas
      (fun i => fieldArrays (view i) gas.independentSpeciesCount) target pressure
    obtain rfl := JobOutcome.unique ho' (ho.arrays hadmits hcount hgeometry)
    exact ⟨o', hagree, hagree'⟩
  · intro view other target pressure hview hother hsame
    obtain ⟨o, hagree, ho, -⟩ := agree_solve hn hsize plan gas view (fun _ => target) fun _ => pressure
    obtain ⟨o', hagree', ho', -⟩ := agree_solve hm hsize' plan gas other (fun _ => target) fun _ => pressure
    have hcells := JobOutcome.settled ho hview (fun _ _ => rfl) fun _ => ⟨rfl, rfl⟩
    have hcells' := JobOutcome.settled ho' hother (fun _ _ => rfl) fun _ => ⟨rfl, rfl⟩
    exact ⟨o, o', hagree, hagree', hcells.partition hcells' hsame⟩
  · intro view other target pressure hview hother hgeometry hgeometry' hsame
    obtain ⟨o, hagree, ho, -⟩ := agree_solveFields hn hsize plan gas view (fun _ => target) fun _ => pressure
    obtain ⟨o', hagree', ho', -⟩ := agree_solveFields hm hsize' plan gas other (fun _ => target) fun _ => pressure
    have hcells := JobOutcome.settled ho hview (fun i j => by rw [hgeometry i j]) fun _ => ⟨rfl, rfl⟩
    have hcells' := JobOutcome.settled ho' hother (fun i j => by rw [hgeometry' i j]) fun _ => ⟨rfl, rfl⟩
    exact ⟨o, o', hagree, hagree', hcells.partition hcells' hsame⟩
  · intro cells target pressure htarget hpressure hcells hactive
    have hpos : 0 < totalSlope gas pressure cells := by
      rcases start_of_active hcells with ⟨hnone, -⟩ | ⟨hpos, -⟩
      · obtain ⟨cell, hcell, hne⟩ := hactive
        exact absurd (hnone cell hcell) hne
      · exact hpos
    have hstart := massStart_of_fine htarget hpressure hcells hpos
    refine ⟨massOutcome_exit htarget hpressure hcells,
      massRoot (totalSlope gas pressure cells) (totalIntercept gas pressure cells) target, ?_, fun k => ?_⟩
    · rw [totalMass_eq]
      exact massRoot_mass hpos.ne' _ _
    · have hk := hstart.at plan k
      rw [totalMass_eq]
      exact ⟨hk.pressure_pos, hk.mass_pos, nextPressure_towards plan _ _ hpos hk.pressure_pos⟩

end ClosedMass

def massPlan : ClosedMassPlan ℚ where
  authority := .closedMass
  relativeTolerance := 1 / 10
  maximumRelativeStep := 1 / 2
  maximumIterations := 4
  fingerprint := 1
  tolerance_pos := by norm_num
  tolerance_lt := by norm_num
  step_pos := by norm_num
  step_lt := by norm_num
  iterations := by decide

/-- A gas with the slope one, without independent species. -/
def massGas : Thermodynamics ℚ where
  fingerprint := 1
  independentSpeciesCount := 0
  evaluateThermal := fun _ _ => .ok 1
  refused := fun _ _ _ h => by cases h

def massView (active : ℕ) (volume : ℚ) : ClosedMassCellView ℚ where
  pressurePerturbation := ⟨some fun _ => 0, 1⟩
  enthalpy := ⟨some fun _ => 0, 1⟩
  independentMassFractions := {}
  volume := ⟨some fun _ => volume, 1⟩
  active := ⟨some fun _ => active, 1⟩

lemma massView_admits (active : ℕ) (volume : ℚ) : ¬ SolveRefuses massPlan massGas (massView active volume) 1 1 := by
  simp only [not_or]
  exact ⟨fun h => h rfl, by decide, by norm_num, by norm_num, fun h => Bool.noConfusion h, fun h => Bool.noConfusion h,
    fun h => Bool.noConfusion h⟩

lemma massPair_admits (active active' : ℕ) (volume volume' : ℚ) (i : Fin 2) :
    ¬ SolveRefuses massPlan massGas (![massView active volume, massView active' volume'] i) 1 1 := by
  fin_cases i
  · exact massView_admits active volume
  · exact massView_admits active' volume'

lemma massView_cells (active : ℕ) (volume : ℚ) :
    (massView active volume).cells 0 = [⟨active, volume, 0, 0, []⟩] := rfl

lemma massViews_allCells (a b : ClosedMassCellView ℚ) :
    (allCells fun i : Fin 2 => (![a, b] i).cells 0) = allCells fun i : Fin 2 => (![b, a] i).cells 0 := by
  rw [allCells, allCells, Fin.sum_univ_two, Fin.sum_univ_two]
  exact add_comm _ _

/-- Two cells that change their ranks. -/
theorem closed_mass_pressure_sample :
    ∃ o, Agree (by decide : 0 < 2) (fun i : Fin 2 => massPlan.solve (jobComm (by decide) i) massGas
        (![massView 1 1, massView 1 2] i) 1 1) o ∧
      Agree (by decide : 0 < 2) (fun i : Fin 2 => massPlan.solve (jobComm (by decide) i) massGas
        (![massView 1 2, massView 1 1] i) 1 1) o := by
  obtain ⟨o, o', ho, ho', heq | ⟨⟨-, i, cell, hcell, hbad⟩, -⟩⟩ :=
    (closed_mass_pressure (by decide : 0 < 2) (by decide : 0 < 2) (by decide) (by decide) massPlan massGas).2.2.2.1
      ![massView 1 1, massView 1 2] ![massView 1 2, massView 1 1] 1 1 (massPair_admits 1 1 1 2) (massPair_admits 1 1 2 1)
      (massViews_allCells _ _)
  · exact ⟨o, ho, heq ▸ ho'⟩
  · have hfine : ∀ volume : ℚ, 0 < volume → ∀ status,
        cellCoefficients massGas 1 ⟨1, volume, 0, 0, []⟩ ≠ .error status := by
      intro volume hvolume status
      have hok : cellCoefficients massGas 1 ⟨1, volume, 0, 0, []⟩ = .ok (some (volume, 0)) := by
        norm_num [cellCoefficients, massGas, not_le.mpr hvolume]
      rw [hok]
      exact fun h => (by cases h)
    fin_cases i
    · obtain rfl := mem_singleton.mp hcell
      exact absurd hbad (hfine 1 one_pos _)
    · obtain rfl := mem_singleton.mp hcell
      exact absurd hbad (hfine 2 two_pos _)

lemma massView_refused {active active' : ℕ} {volume volume' : ℚ} {status : Status}
    (hstatus : cellCoefficients massGas 1 ⟨active, volume, 0, 0, []⟩ = .error status) :
    Agree (by decide : 0 < 2) (fun i : Fin 2 => massPlan.solve (jobComm (by decide) i) massGas
      (![massView active volume, massView active' volume'] i) 1 1) (status, none) := by
  obtain ⟨o, hagree, ho, -⟩ := agree_solve (by decide : 0 < 2) (by decide) massPlan massGas
    ![massView active volume, massView active' volume'] (fun _ => 1) fun _ => 1
  have hcells := JobOutcome.settled ho
    (massPair_admits active active' volume volume') (fun _ _ => rfl) fun _ => ⟨rfl, rfl⟩
  have hfirst : FirstRefusal massGas 1 ((![massView active volume, massView active' volume'] 0).cells 0) status :=
    ⟨[], _, [], massView_cells active volume, fun other hother => absurd hother not_mem_nil, hstatus⟩
  obtain rfl := hcells.unique (.refused 0 status (fun j hj => absurd hj (Fin.not_lt_zero j)) hfirst)
  exact hagree

/-- A mask that is none and a volume of zero: which rank they lie on decides the status. -/
theorem refused_cells_change_ranks :
    ∃ view view' : Fin 2 → ClosedMassCellView ℚ,
      (allCells fun i => (view i).cells 0) = (allCells fun i => (view' i).cells 0) ∧
      Agree (by decide : 0 < 2) (fun i : Fin 2 => massPlan.solve (jobComm (by decide) i) massGas (view i) 1 1)
        (⟨.invalidPlan, kClosedMassInput⟩, none) ∧
      Agree (by decide : 0 < 2) (fun i : Fin 2 => massPlan.solve (jobComm (by decide) i) massGas (view' i) 1 1)
        (⟨.numericalFailure, kClosedMassInput⟩, none) := by
  refine ⟨![massView 2 1, massView 1 0], ![massView 1 0, massView 2 1], massViews_allCells _ _,
    massView_refused ?_, massView_refused ?_⟩
  · simp [cellCoefficients]
  · simp [cellCoefficients]

end HundunFlow.Proofs
