import HundunFlow.Proofs.BatchAudit

/-!
# The outcome of an exchange batch

`evaluate_impl` succeeds exactly when its input is accepted, and then reports every cell with
its own rows and the sum of every channel, whatever the order of the rows.
-/

namespace HundunFlow.Proofs

section Sums

open Lib ExchangeWorkspace OwnerExchangeRoutingPlan List

section Channels

variable {F : Type} [Field F]

namespace ExchangeDelta

instance : Zero (ExchangeDelta F) := ⟨.zero⟩

instance : Add (ExchangeDelta F) :=
  ⟨fun a b => ⟨a.mass + b.mass, a.momentumX + b.momentumX, a.momentumY + b.momentumY, a.momentumZ + b.momentumZ,
    a.thermochemicalEnthalpy + b.thermochemicalEnthalpy, a.kineticEnergy + b.kineticEnergy⟩⟩

instance : AddCommMonoid (ExchangeDelta F) where
  add_assoc a b c := by
    apply ExchangeDelta.ext <;> exact add_assoc _ _ _
  zero_add a := by
    apply ExchangeDelta.ext <;> exact zero_add _
  add_zero a := by
    apply ExchangeDelta.ext <;> exact add_zero _
  add_comm a b := by
    apply ExchangeDelta.ext <;> exact add_comm _ _
  nsmul := nsmulRec

end ExchangeDelta

def deltaOf (d : ParcelExchangeBudget F) : ExchangeDelta F :=
  ⟨d.massDelta, d.momentumDelta.x, d.momentumDelta.y, d.momentumDelta.z, d.thermochemicalEnthalpyDelta,
    d.kineticEnergyDelta⟩

def channelTotal (channel : ExchangeChannel) (rows : Multiset (ExchangeSegment F)) : ExchangeDelta F :=
  (rows.map fun s => if s.channel = channel then deltaOf s.delta else 0).sum

variable (channel : ExchangeChannel)

variable (rows : List (ExchangeSegment F))

lemma foldl_channel (start : ExchangeDelta F) :
    rows.foldl (fun sum s => if s.channel = channel then sum.add s.delta else sum) start =
      start + channelTotal channel rows := by
  induction rows generalizing start with
  | nil => exact (add_zero start).symm
  | cons s rest ih =>
    have hcons : channelTotal channel ((s :: rest : List (ExchangeSegment F)) : Multiset (ExchangeSegment F)) =
        (if s.channel = channel then deltaOf s.delta else 0) + channelTotal channel rest := by
      rw [channelTotal, ← Multiset.cons_coe, Multiset.map_cons, Multiset.sum_cons]
      rfl
    rw [foldl_cons, ih, hcons, ← add_assoc]
    congr 1
    by_cases hchannel : s.channel = channel
    · rw [if_pos hchannel, if_pos hchannel]
      rfl
    · rw [if_neg hchannel, if_neg hchannel, add_zero]

lemma channelSum_eq [LinearOrder F] : channelSum channel (sortOn deliveryKey rows) = channelTotal channel rows := by
  rw [channelSum, foldl_channel, Multiset.coe_eq_coe.mpr (sortOn_perm deliveryKey rows)]
  exact zero_add _

lemma channelTotal_sum {n : ℕ} (rows : Fin n → Multiset (ExchangeSegment F)) :
    ∑ i, channelTotal channel (rows i) = channelTotal channel (∑ i, rows i) := by
  have h := map_sum (Multiset.mapAddMonoidHom fun s : ExchangeSegment F =>
    if s.channel = channel then deltaOf s.delta else 0) rows Finset.univ
  rw [Multiset.coe_mapAddMonoidHom] at h
  simp only [channelTotal]
  rw [h, Multiset.sum_sum]

end Channels

variable {F : Type} [Field F] [LinearOrder F] {species : ℕ} {atol rtol : F}

def rowsOfCell (rows : List (ExchangeSegment F)) (cell : UInt64) : List (ExchangeSegment F) :=
  rows.filter fun s => s.globalCell.toNat = cell.toNat

variable {sorted : List (ExchangeSegment F)}

lemma finite_species (cell : ExchangeCell F) (mine : List (ExchangeSegment F)) :
    (exchangeCell species atol rtol cell mine).gasSpeciesMassDelta.all ExchangeReal.isFinite = true :=
  all_eq_true.mpr fun x _ => isFinite_exact x

omit [Field F] [LinearOrder F] in
lemma skip_rows (hsorted : sorted.Pairwise fun a b => a.globalCell.toNat ≤ b.globalCell.toNat) (cell : UInt64) :
    sorted.dropWhile (fun s => decide (s.globalCell < cell)) =
      sorted.filter fun s => decide (cell.toNat ≤ s.globalCell.toNat) := by
  simp only [UInt64.lt_iff_toNat_lt]
  exact dropWhile_lt_eq_filter _ hsorted

/-- The rows behind those of `cell`. -/
def rowsBehind (sorted : List (ExchangeSegment F)) (cell : UInt64) : List (ExchangeSegment F) :=
  (sorted.dropWhile fun s => decide (s.globalCell < cell)).dropWhile fun s => decide (s.globalCell = cell)

section Split

variable {sorted : List (ExchangeSegment F)}
  (hsorted : sorted.Pairwise fun a b => a.globalCell.toNat ≤ b.globalCell.toNat)

include hsorted

omit [LinearOrder F] [Field F]

lemma split_rows (cell : UInt64) :
    (sorted.dropWhile fun s => decide (s.globalCell < cell)).takeWhile (fun s => decide (s.globalCell = cell)) =
        rowsOfCell sorted cell ∧
      rowsBehind sorted cell = sorted.filter fun s => decide (cell.toNat < s.globalCell.toNat) := by
  have hsplit := takeWhile_eq_filter (k := cell.toNat)
    (hsorted.filter fun s => decide (cell.toNat ≤ s.globalCell.toNat)) fun s hs => by
      simpa using (mem_filter.mp hs).2
  rw [rowsBehind, skip_rows hsorted]
  simp only [← UInt64.toNat_inj]
  rw [hsplit.1, hsplit.2, filter_filter, filter_filter]
  constructor
  · apply filter_congr
    intro s _
    by_cases heq : s.globalCell.toNat = cell.toNat
    · simp [heq]
    · simp [heq]
  · apply filter_congr
    intro s _
    rw [Bool.eq_iff_iff]
    simp only [Bool.and_eq_true, decide_eq_true_eq]
    omega

lemma rowsOfCell_behind {cell later : UInt64} (hlater : cell < later) :
    rowsOfCell (rowsBehind sorted cell) later = rowsOfCell sorted later := by
  have hlt := UInt64.lt_iff_toNat_lt.mp hlater
  rw [(split_rows hsorted cell).2, rowsOfCell, rowsOfCell, filter_filter]
  apply filter_congr
  intro s _
  rw [Bool.eq_iff_iff]
  simp only [Bool.and_eq_true, decide_eq_true_eq]
  omega

end Split

lemma accumulate_eq_ok {cells : List (ExchangeCell F)} (hcells : AscendingCells cells) (i : ℕ)
    (hsorted : sorted.Pairwise fun a b => a.globalCell.toNat ≤ b.globalCell.toNat) (out : List (CellExchange F)) :
    accumulate species atol rtol i cells sorted = .ok out ↔
      (∀ c ∈ cells, (exchangeCell species atol rtol c (rowsOfCell sorted c.globalCell)).gas.succeeded = true) ∧
        out = cells.map fun c => exchangeCell species atol rtol c (rowsOfCell sorted c.globalCell) := by
  induction cells generalizing i sorted out with
  | nil =>
    rw [accumulate]
    constructor
    · intro h
      exact ⟨by simp, (Except.ok.inj h).symm⟩
    · intro h
      rw [h.2]
      rfl
  | cons c rest ih =>
    obtain ⟨hall, htail⟩ := pairwise_cons.mp hcells
    have hbehind : (rowsBehind sorted c.globalCell).Pairwise fun a b =>
        a.globalCell.toNat ≤ b.globalCell.toNat := by
      rw [(split_rows hsorted c.globalCell).2]
      exact hsorted.filter _
    have hrows : ∀ d ∈ rest, rowsOfCell (rowsBehind sorted c.globalCell) d.globalCell =
        rowsOfCell sorted d.globalCell := fun d hd => rowsOfCell_behind hsorted (hall d hd)
    have hrest : ∀ out, accumulate species atol rtol (i + 1) rest (rowsBehind sorted c.globalCell) = .ok out ↔
        (∀ d ∈ rest, (exchangeCell species atol rtol d (rowsOfCell sorted d.globalCell)).gas.succeeded = true) ∧
          out = rest.map fun d => exchangeCell species atol rtol d (rowsOfCell sorted d.globalCell) := by
      intro out
      rw [ih htail (i + 1) hbehind]
      constructor
      · rintro ⟨hgas, rfl⟩
        refine ⟨fun d hd => hrows d hd ▸ hgas d hd, map_congr_left fun d hd => by rw [hrows d hd]⟩
      · rintro ⟨hgas, rfl⟩
        refine ⟨fun d hd => (hrows d hd).symm ▸ hgas d hd, map_congr_left fun d hd => by rw [hrows d hd]⟩
    rw [accumulate]
    simp only [(split_rows hsorted c.globalCell).1, finite_species, Bool.not_true, Bool.false_eq_true, if_false]
    rw [forall_mem_cons, map_cons, ← rowsBehind]
    by_cases hok : (exchangeCell species atol rtol c (rowsOfCell sorted c.globalCell)).gas.succeeded = true
    · simp only [hok, Bool.not_true, Bool.false_eq_true, if_false, true_and]
      cases htotal : accumulate species atol rtol (i + 1) rest (rowsBehind sorted c.globalCell) with
      | error e =>
        simp only [htotal] at hrest
        refine ⟨nofun, fun h => ?_⟩
        exact nomatch (hrest _).mpr ⟨h.1, rfl⟩
      | ok exchanges =>
        obtain ⟨hsucceeded, rfl⟩ := (hrest exchanges).mp htotal
        simp only [Except.ok.injEq]
        exact ⟨fun h => ⟨hsucceeded, h.symm⟩, fun h => h.2.symm⟩
    · rw [Bool.not_eq_true] at hok
      simp [hok]

end Sums

open Lib ExchangeWorkspace OwnerExchangeRoutingPlan Option

variable {F : Type} [Field F] [LinearOrder F]

variable {cells : List (ExchangeCell F)} {e : Failure} {i species : ℕ} {revision : Revision} {atol rtol : F}
  {rows : List (ExchangeSegment F)}

variable {generation : ℕ}

lemma cellsFailure_status {previous : Option (ExchangeCell F)}
    (h : cellsFailure previous i cells = some e) : e.1 ≠ .success := by
  induction cells generalizing previous i with
  | nil => simp [cellsFailure] at h
  | cons c rest ih =>
    rw [cellsFailure] at h
    split_ifs at h with hbad
    · rw [← some.inj h]
      simp
    · exact ih h

lemma rowFailure_status {s : ExchangeSegment F} {status : Portable.Status}
    (h : rowFailure species revision cells atol rtol s = some status) : status ≠ .success := by
  unfold rowFailure at h
  split_ifs at h
  all_goals
    rw [← some.inj h]
    simp

lemma rowsFailure_status (h : rowsFailure species revision cells atol rtol i rows = some e) : e.1 ≠ .success := by
  induction rows generalizing i with
  | nil => simp [rowsFailure] at h
  | cons s rest ih =>
    rw [rowsFailure] at h
    cases hrow : rowFailure species revision cells atol rtol s with
    | none =>
      simp only [hrow] at h
      exact ih h
    | some status =>
      simp only [hrow, some.injEq] at h
      rw [← h]
      exact rowFailure_status hrow

lemma stencilWeight_status {j : ℕ} {a : ExchangeSegment F} {weight : F}
    (h : stencilWeight i a j rows weight = .error e) : e.1 ≠ .success := by
  induction rows generalizing j weight with
  | nil => simp [stencilWeight] at h
  | cons b rest ih =>
    rw [stencilWeight] at h
    split_ifs at h
    · exact ih h
    · rw [← Except.error.inj h]
      simp
    · rw [← Except.error.inj h]
      simp
    · rw [← Except.error.inj h]
      simp
    · exact ih h

lemma stencilsFailure_status {all : List (ExchangeSegment F)}
    (h : stencilsFailure all i rows = some e) : e.1 ≠ .success := by
  induction rows generalizing i with
  | nil => simp [stencilsFailure] at h
  | cons a rest ih =>
    rw [stencilsFailure] at h
    cases hweight : stencilWeight i a 0 all 0 with
    | error e' =>
      simp only [hweight, some.injEq] at h
      rw [← h]
      exact stencilWeight_status hweight
    | ok weight =>
      simp only [hweight] at h
      split_ifs at h
      · rw [← some.inj h]
        simp
      · exact ih h

lemma accumulate_status {sorted : List (ExchangeSegment F)}
    (h : accumulate species atol rtol i cells sorted = .error e) : e.1 ≠ .success := by
  induction cells generalizing i sorted with
  | nil => simp [accumulate] at h
  | cons c rest ih =>
    rw [accumulate] at h
    split_ifs at h
    · rw [← Except.error.inj h]
      simp
    · rw [← Except.error.inj h]
      simp
    · split at h
      · rename_i e' htail
        cases h
        exact ih htail
      · simp at h

def cellRows (rows : List (ExchangeSegment F)) (cell : UInt64) : List (ExchangeSegment F) :=
  rowsOfCell (sortOn deliveryKey rows) cell

structure BatchAccepted (species : ℕ) (revision : Revision) (cells : List (ExchangeCell F))
    (rows : List (ExchangeSegment F)) (atol rtol : F) (completeStencils : Bool) : Prop where
  tolerances : validTolerances atol rtol = true
  volumes : ∀ c ∈ cells, 0 < c.volume
  ascending : AscendingCells cells
  rowsPass : ∀ v ∈ rows, rowFailure species revision cells atol rtol v = none
  stencils : completeStencils = true → StencilsOk rows
  gas : ∀ c ∈ cells, (exchangeCell species atol rtol c (cellRows rows c.globalCell)).gas.succeeded = true

omit [Field F] [LinearOrder F] in
lemma sortOn_cells (rows : List (ExchangeSegment F)) :
    (sortOn deliveryKey rows).Pairwise fun a b => a.globalCell.toNat ≤ b.globalCell.toNat :=
  (sortOn_pairwise_le deliveryKey rows).imp fun h => Prod.Lex.monotone_fst _ _ h

def acceptedReport (generation species : ℕ) (revision : Revision) (cells : List (ExchangeCell F))
    (rows : List (ExchangeSegment F)) (atol rtol : F) : ExchangeBatchReport F where
  status := .success
  generation := generation
  revision := revision
  cells := cells.map fun c => exchangeCell species atol rtol c (cellRows rows c.globalCell)
  wall := channelTotal .wall rows
  outlet := channelTotal .outlet rows
  external := channelTotal .external rows
  available := true

lemma totals_accepted (hcells : AscendingCells cells)
    (hgas : ∀ c ∈ cells, (exchangeCell species atol rtol c (cellRows rows c.globalCell)).gas.succeeded = true) :
    totals generation species revision cells rows atol rtol =
      acceptedReport generation species revision cells rows atol rtol := by
  have hacc := (accumulate_eq_ok hcells 0 (sortOn_cells rows) _).mpr ⟨hgas, rfl⟩
  have hfinite : ∀ d : ExchangeDelta F, finiteExchange d = true := fun _ => rfl
  unfold totals
  simp only [hacc, hfinite, Bool.not_true, Bool.or_self, Bool.false_eq_true, if_false, channelSum_eq]
  rfl

lemma totals_refused (hcells : AscendingCells cells)
    (hgas : ¬ ∀ c ∈ cells, (exchangeCell species atol rtol c (cellRows rows c.globalCell)).gas.succeeded = true) :
    (totals generation species revision cells rows atol rtol).status ≠ .success := by
  unfold totals
  cases hacc : accumulate species atol rtol 0 cells (sortOn deliveryKey rows) with
  | error e =>
    simp only [hacc]
    exact accumulate_status hacc
  | ok exchanges => exact absurd ((accumulate_eq_ok hcells 0 (sortOn_cells rows) _).mp hacc).1 hgas

variable {w : ExchangeWorkspace} {revision : Revision} {cells : List (ExchangeCell F)}
  {rows : List (ExchangeSegment F)} {atol rtol : F} {completeStencils : Bool}
  (hcells : cells.length ≤ w.cellCapacity) (hrows : rows.length ≤ w.segmentCapacity)
  (hversion : revision.algorithmVersion = 1)

include hcells hrows hversion

lemma evaluateImpl_eq (htol : validTolerances atol rtol = true) :
    w.evaluateImpl revision (.of cells) (.of rows) atol rtol completeStencils =
      match cellsFailure none 0 cells with
      | some e => fail (w.generation + 1) revision e
      | none =>
        match rowsFailure w.species revision cells atol rtol 0 rows with
        | some e => fail (w.generation + 1) revision e
        | none =>
          match if completeStencils then stencilsFailure rows 0 rows else none with
          | some e => fail (w.generation + 1) revision e
          | none => totals (w.generation + 1) w.species revision cells rows atol rtol := by
  unfold evaluateImpl
  exact (if_neg (by simp [Span.size, not_lt.mpr hcells, not_lt.mpr hrows])).trans
    (if_neg (by simp [Span.isNull, hversion, htol]))

lemma evaluateImpl_accepted (h : BatchAccepted w.species revision cells rows atol rtol completeStencils) :
    w.evaluateImpl revision (.of cells) (.of rows) atol rtol completeStencils =
      acceptedReport (w.generation + 1) w.species revision cells rows atol rtol := by
  have hstencils : (if completeStencils then stencilsFailure rows 0 rows else none) = none := by
    cases completeStencils with
    | false => rfl
    | true => exact (stencilsFailure_iff rows).mpr (h.stencils rfl)
  rw [evaluateImpl_eq hcells hrows hversion h.tolerances,
    (cellsFailure_eq_none 0 cells).mpr ⟨h.volumes, h.ascending⟩,
    (rowsFailure_eq_none _ _ _ _ _ 0 rows).mpr h.rowsPass, hstencils]
  exact totals_accepted h.ascending h.gas

lemma evaluateImpl_refused (h : ¬ BatchAccepted w.species revision cells rows atol rtol completeStencils) :
    (w.evaluateImpl revision (.of cells) (.of rows) atol rtol completeStencils).status ≠ .success := by
  by_cases htol : validTolerances atol rtol = true
  · rw [evaluateImpl_eq hcells hrows hversion htol]
    cases hcell : cellsFailure none 0 cells with
    | some e => exact cellsFailure_status hcell
    | none =>
      obtain ⟨hvolumes, hasc⟩ := (cellsFailure_eq_none 0 cells).mp hcell
      cases hrow : rowsFailure w.species revision cells atol rtol 0 rows with
      | some e => exact rowsFailure_status hrow
      | none =>
        have hall := (rowsFailure_eq_none _ _ _ _ _ 0 rows).mp hrow
        cases hstencil : if completeStencils then stencilsFailure rows 0 rows else none with
        | some e =>
          cases completeStencils with
          | false => simp at hstencil
          | true => exact stencilsFailure_status hstencil
        | none =>
          apply totals_refused hasc
          intro hgas
          refine h ⟨htol, hvolumes, hasc, hall, fun hcompl => ?_, hgas⟩
          rw [hcompl] at hstencil
          exact (stencilsFailure_iff rows).mp hstencil
  · rw [Bool.not_eq_true] at htol
    unfold evaluateImpl
    simp only [Span.size, Span.isNull, Span.values, not_lt.mpr hcells, not_lt.mpr hrows, htol,
      decide_false, Bool.or_self, Bool.and_false, Bool.false_eq_true, if_false, Bool.not_false, Bool.or_true,
      if_true]
    simp [fail]

end HundunFlow.Proofs
