import HundunFlow.Proofs.DistributedExchange

/-!
# What an exchange batch conserves

A batch that succeeds hands every interphase row to one cell and to one species of it, and adds
every boundary row to one channel.
-/

namespace HundunFlow.Proofs

open Lib ExchangeWorkspace OwnerExchangeRoutingPlan List

variable {F : Type} [Field F]

def weightedSum (component : ParcelExchangeBudget F → F) (rows : List (ExchangeSegment F)) : F :=
  (rows.map fun s => s.depositionWeight * component s.delta).sum

def weightedBudget (rows : List (ExchangeSegment F)) : ParcelExchangeBudget F :=
  ⟨weightedSum (·.massDelta) rows,
    ⟨weightedSum (·.momentumDelta.x) rows, weightedSum (·.momentumDelta.y) rows, weightedSum (·.momentumDelta.z) rows⟩,
    weightedSum (·.thermochemicalEnthalpyDelta) rows, weightedSum (·.kineticEnergyDelta) rows,
    weightedSum (·.thermalExchangeToGas) rows⟩

def interphaseRows (rows : List (ExchangeSegment F)) : List (ExchangeSegment F) :=
  rows.filter fun s => s.channel = .interphase

def vaporRows (species : ℕ) (rows : List (ExchangeSegment F)) : List (ExchangeSegment F) :=
  rows.filter fun s => s.vaporSpeciesIndex.toNat = species

variable (component : ParcelExchangeBudget F → F) {rows : List (ExchangeSegment F)}

variable {rows' : List (ExchangeSegment F)}

lemma weighted_cons (s : ExchangeSegment F) (rows : List (ExchangeSegment F)) :
    weightedSum component (s :: rows) = s.depositionWeight * component s.delta + weightedSum component rows := by
  rw [weightedSum, map_cons, sum_cons]
  rfl

lemma weighted_perm (h : rows.Perm rows') : weightedSum component rows = weightedSum component rows' :=
  (h.map _).sum_eq

lemma weightedBudget_perm (h : rows.Perm rows') : weightedBudget rows = weightedBudget rows' := by
  simp only [weightedBudget, weighted_perm _ h]

lemma foldl_addRow (rows : List (ExchangeSegment F)) (start : ParcelExchangeBudget F) :
    rows.foldl addRow start = start.add (weightedBudget (interphaseRows rows)) 1 := by
  induction rows generalizing start with
  | nil => simp [ParcelExchangeBudget.add, weightedBudget, weightedSum, interphaseRows]
  | cons s rest ih =>
    rw [foldl_cons, ih, addRow]
    by_cases hchannel : s.channel = .interphase
    · have hrows : interphaseRows (s :: rest) = s :: interphaseRows rest :=
        filter_cons_of_pos (by simpa using hchannel)
      rw [if_pos hchannel, hrows]
      simp only [ParcelExchangeBudget.add, weightedBudget, weighted_cons, one_mul, add_assoc]
    · have hrows : interphaseRows (s :: rest) = interphaseRows rest :=
        filter_cons_of_neg (by simpa using hchannel)
      rw [if_neg hchannel, hrows]

lemma cell_budget (rows : List (ExchangeSegment F)) :
    rows.foldl addRow ParcelExchangeBudget.zero = weightedBudget (interphaseRows rows) := by
  rw [foldl_addRow]
  simp [ParcelExchangeBudget.add, ParcelExchangeBudget.zero, weightedBudget]

lemma length_foldl_addSpecies (rows : List (ExchangeSegment F)) (mass : List F) :
    (rows.foldl addSpecies mass).length = mass.length := by
  induction rows generalizing mass with
  | nil => rfl
  | cons s rest ih =>
    rw [foldl_cons, ih, addSpecies]
    split_ifs
    · exact length_set
    · rfl

lemma foldl_addSpecies (rows : List (ExchangeSegment F)) {mass : List F}
    (h : ∀ s ∈ rows, s.channel = .interphase → s.vaporSpeciesIndex.toNat < mass.length) (k : ℕ) :
    (rows.foldl addSpecies mass).getD k 0 =
      mass.getD k 0 - weightedSum (·.massDelta) (vaporRows k (interphaseRows rows)) := by
  induction rows generalizing mass with
  | nil => simp [weightedSum, vaporRows, interphaseRows]
  | cons s rest ih =>
    obtain ⟨hs, hrest⟩ := forall_mem_cons.mp h
    rw [foldl_cons, addSpecies]
    by_cases hchannel : s.channel = .interphase
    · have hrows : interphaseRows (s :: rest) = s :: interphaseRows rest :=
        filter_cons_of_pos (by simpa using hchannel)
      have hindex := hs hchannel
      rw [if_pos hchannel, hrows, ih (by simpa using hrest)]
      by_cases hk : s.vaporSpeciesIndex.toNat = k
      · have hvapor : vaporRows k (s :: interphaseRows rest) = s :: vaporRows k (interphaseRows rest) :=
          filter_cons_of_pos (by simpa using hk)
        rw [hvapor, weighted_cons, ← hk]
        simp only [getD_eq_getElem?_getD, List.getElem?_set_self hindex, Option.getD_some]
        ring
      · have hvapor : vaporRows k (s :: interphaseRows rest) = vaporRows k (interphaseRows rest) :=
          filter_cons_of_neg (by simpa using hk)
        rw [hvapor]
        simp only [getD_eq_getElem?_getD, List.getElem?_set_ne hk]
    · have hrows : interphaseRows (s :: rest) = interphaseRows rest :=
        filter_cons_of_neg (by simpa using hchannel)
      rw [if_neg hchannel, hrows, ih hrest]

lemma cell_species {species : ℕ} (h : ∀ s ∈ rows, s.channel = .interphase → s.vaporSpeciesIndex.toNat < species) :
    rows.foldl addSpecies (replicate species 0) =
      (range species).map fun k => -weightedSum (·.massDelta) (vaporRows k (interphaseRows rows)) := by
  apply ext_getElem
  · rw [length_foldl_addSpecies, length_replicate, length_map, length_range]
  · intro k hk hk'
    have hlength : ∀ s ∈ rows, s.channel = .interphase →
        s.vaporSpeciesIndex.toNat < (replicate species (0 : F)).length := by
      rwa [length_replicate]
    have hslot := foldl_addSpecies rows hlength k
    rw [getD_eq_getElem _ _ hk] at hslot
    rw [hslot, getElem_map, getElem_range]
    simp only [length_map, length_range] at hk'
    simp [hk']

lemma sum_by_key (key : ExchangeSegment F → ℕ) {keys : List ℕ} (hkeys : keys.Nodup) (h : ∀ s ∈ rows, key s ∈ keys) :
    (keys.map fun k => weightedSum component (rows.filter fun s => key s = k)).sum = weightedSum component rows := by
  induction rows with
  | nil => simp [weightedSum]
  | cons s rest ih =>
    obtain ⟨hs, hrest⟩ := forall_mem_cons.mp h
    have hsplit : ∀ k, weightedSum component ((s :: rest).filter fun s => key s = k) =
        (if key s = k then s.depositionWeight * component s.delta else 0) +
          weightedSum component (rest.filter fun s => key s = k) := by
      intro k
      by_cases hk : key s = k
      · rw [if_pos hk, filter_cons_of_pos (by simpa using hk), weighted_cons]
      · rw [if_neg hk, filter_cons_of_neg (by simpa using hk), zero_add]
    have hone : (keys.map fun k => if key s = k then s.depositionWeight * component s.delta else 0).sum =
        s.depositionWeight * component s.delta := by
      rw [sum_map_eq_nsmul_single (key s) _ fun k hk _ => if_neg hk.symm,
        count_eq_one_of_mem hkeys hs, if_pos rfl, one_nsmul]
    simp only [hsplit]
    rw [sum_map_add, ih hrest, hone, weighted_cons]

section Batch

variable [LinearOrder F] {w : ExchangeWorkspace} {revision : Revision} {cells : Span (ExchangeCell F)}
  {rows : Span (ExchangeSegment F)} {atol rtol : F}

lemma evaluate_values (hcells : cells.isNull = true → cells.size = 0) (hrows : rows.isNull = true → rows.size = 0) :
    w.evaluate revision cells rows atol rtol =
      w.evaluate revision (.of cells.values) (.of rows.values) atol rtol := by
  have hc : (decide (cells.size ≠ 0) && cells.isNull) = false := by
    cases hnull : cells.isNull with
    | true => simp [hcells hnull]
    | false => simp
  have hr : (decide (rows.size ≠ 0) && rows.isNull) = false := by
    cases hnull : rows.isNull with
    | true => simp [hrows hnull]
    | false => simp
  have hnone : ∀ {α : Type} (list : List α), (decide ((Span.of list).size ≠ 0) && (Span.of list).isNull) = false :=
    fun _ => Bool.and_false _
  unfold evaluate evaluateImpl
  rw [hc, hr, hnone, hnone, Span.size_eq_length hcells, Span.size_eq_length hrows]
  rfl

structure BatchReadable (w : ExchangeWorkspace) (revision : Revision) (cells : Span (ExchangeCell F))
    (rows : Span (ExchangeSegment F)) : Prop where
  cellsNull : cells.isNull = true → cells.size = 0
  rowsNull : rows.isNull = true → rows.size = 0
  cellRoom : cells.values.length ≤ w.cellCapacity
  rowRoom : rows.values.length ≤ w.segmentCapacity
  version : revision.algorithmVersion = 1

lemma evaluate_readable (h : (w.evaluate revision cells rows atol rtol).status = .success) :
    BatchReadable w revision cells rows := by
  have hroom : ¬ ((decide (w.cellCapacity < cells.size) || decide (w.segmentCapacity < rows.size)) = true) := by
    intro hfull
    rw [evaluate, evaluateImpl, if_pos hfull] at h
    exact absurd h (by simp [fail])
  have hinput : ¬ (((decide (cells.size ≠ 0) && cells.isNull) || (decide (rows.size ≠ 0) && rows.isNull) ||
      decide (revision.algorithmVersion ≠ 1) || !validTolerances atol rtol) = true) := by
    intro hbad
    rw [evaluate, evaluateImpl, if_neg hroom, if_pos hbad] at h
    exact absurd h (by simp [fail])
  simp only [Bool.or_eq_true, Bool.and_eq_true, decide_eq_true_eq, not_or, not_lt, not_and, ne_eq, not_not]
    at hroom hinput
  obtain ⟨⟨⟨hcells, hrows⟩, hversion⟩, -⟩ := hinput
  have hcells' : cells.isNull = true → cells.size = 0 := fun hnull => by_contra fun hsize => hcells hsize hnull
  have hrows' : rows.isNull = true → rows.size = 0 := fun hnull => by_contra fun hsize => hrows hsize hnull
  rw [Span.size_eq_length hcells', Span.size_eq_length hrows'] at hroom
  exact ⟨hcells', hrows', hroom.1, hroom.2, hversion⟩

lemma evaluate_success (h : (w.evaluate revision cells rows atol rtol).status = .success) :
    BatchAccepted w.species revision cells.values rows.values atol rtol true ∧
      w.evaluate revision cells rows atol rtol =
        acceptedReport (w.generation + 1) w.species revision cells.values rows.values atol rtol := by
  have hread := evaluate_readable h
  rw [evaluate_values hread.cellsNull hread.rowsNull] at h ⊢
  have haccepted : BatchAccepted w.species revision cells.values rows.values atol rtol true := by
    by_contra hrefused
    exact evaluateImpl_refused hread.cellRoom hread.rowRoom hread.version hrefused h
  exact ⟨haccepted, evaluateImpl_accepted hread.cellRoom hread.rowRoom hread.version haccepted⟩

end Batch

section Order

variable [LinearOrder F] {species : ℕ} {revision : Revision} {cells : List (ExchangeCell F)}
  {rows rows' : List (ExchangeSegment F)} {atol rtol : F}

lemma stencilsOk_perm (h : StencilsOk rows) (hperm : rows.Perm rows') : StencilsOk rows' := by
  refine ⟨fun a ha b hb => h.budget a (hperm.mem_iff.mpr ha) b (hperm.mem_iff.mpr hb),
    (hperm.pairwise_iff apart_symm).mp h.apart, fun a ha => ?_⟩
  have hweight : weightOf rows' a.key = weightOf rows a.key := ((hperm.symm.filter _).map _).sum_eq
  rw [hweight]
  exact h.weight a (hperm.mem_iff.mpr ha)

lemma sortOn_eq_of_perm (h : StencilsOk rows) (hperm : rows.Perm rows') :
    sortOn deliveryKey rows' = sortOn deliveryKey rows := by
  have hsame : (sortOn deliveryKey rows).Perm (sortOn deliveryKey rows') :=
    ((sortOn_perm _ rows).trans hperm).trans (sortOn_perm _ rows').symm
  exact (eq_of_perm_of_pairwise (sortOn_pairwise_lt (nodup_deliveryKey h)) (sortOn_pairwise_le _ rows') hsame).symm

lemma batchAccepted_perm (h : BatchAccepted species revision cells rows atol rtol true) (hperm : rows.Perm rows') :
    BatchAccepted species revision cells rows' atol rtol true := by
  have hstencil := h.stencils rfl
  refine ⟨h.tolerances, h.volumes, h.ascending, fun s hs => h.rowsPass s (hperm.mem_iff.mpr hs),
    fun _ => stencilsOk_perm hstencil hperm, fun c hc => ?_⟩
  rw [cellRows, sortOn_eq_of_perm hstencil hperm]
  exact h.gas c hc

lemma acceptedReport_perm (generation : ℕ) (h : StencilsOk rows) (hperm : rows.Perm rows') :
    acceptedReport generation species revision cells rows' atol rtol =
      acceptedReport generation species revision cells rows atol rtol := by
  have hmultiset : (rows' : Multiset (ExchangeSegment F)) = rows := Multiset.coe_eq_coe.mpr hperm.symm
  simp only [acceptedReport, cellRows, sortOn_eq_of_perm h hperm, hmultiset]

end Order

section Rows

variable [LinearOrder F] {species : ℕ} {revision : Revision} {cells : List (ExchangeCell F)}
  {rows : List (ExchangeSegment F)} {atol rtol : F}

lemma interphase_passes {s : ExchangeSegment F} (hchannel : s.channel = .interphase)
    (h : rowFailure species revision cells atol rtol s = none) :
    s.vaporSpeciesIndex.toNat < species ∧ knownCell cells s.globalCell = true := by
  unfold rowFailure at h
  rw [if_pos hchannel] at h
  split_ifs at h with hrevision hbad hweight hspecies hknown
  · rw [Bool.not_eq_true, Bool.not_eq_false'] at hknown
    exact ⟨not_le.mp hspecies, hknown⟩

/-- What one cell of an accepted batch receives: from every interphase row in it, the weighted
budget and the mass of its vapour. -/
def conservedCell (species : ℕ) (atol rtol : F) (rows : List (ExchangeSegment F)) (cell : ExchangeCell F) :
    CellExchange F where
  globalCell := cell.globalCell
  volume := cell.volume
  gas := makeGasCellExchangeCandidate
    { gasMass := cell.gasMass, gasMomentum := cell.gasMomentum
      parcel := weightedBudget (interphaseRows (rowsOfCell rows cell.globalCell))
      thermalAbsoluteTolerance := atol, thermalRelativeTolerance := rtol }
  gasSpeciesMassDelta := (range species).map fun k =>
    -weightedSum (·.massDelta) (vaporRows k (interphaseRows (rowsOfCell rows cell.globalCell)))

lemma exchangeCell_eq (h : BatchAccepted species revision cells rows atol rtol true) (cell : ExchangeCell F) :
    exchangeCell species atol rtol cell (cellRows rows cell.globalCell) = conservedCell species atol rtol rows cell := by
  have hperm : (cellRows rows cell.globalCell).Perm (rowsOfCell rows cell.globalCell) := (sortOn_perm _ rows).filter _
  have hindex : ∀ s ∈ cellRows rows cell.globalCell, s.channel = .interphase →
      s.vaporSpeciesIndex.toNat < species := by
    intro s hs hchannel
    have hmem := (mem_filter.mp (hperm.mem_iff.mp hs)).1
    exact (interphase_passes hchannel (h.rowsPass s hmem)).1
  unfold exchangeCell conservedCell
  have hphase : (interphaseRows (cellRows rows cell.globalCell)).Perm
      (interphaseRows (rowsOfCell rows cell.globalCell)) := hperm.filter _
  rw [cell_budget, cell_species hindex, weightedBudget_perm hphase]
  congr 1
  apply map_congr_left
  intro k _
  exact congrArg Neg.neg (weighted_perm _ (hphase.filter _))

lemma sum_species (h : BatchAccepted species revision cells rows atol rtol true) (cell : ExchangeCell F) :
    (conservedCell species atol rtol rows cell).gasSpeciesMassDelta.sum =
      -weightedSum (·.massDelta) (interphaseRows (rowsOfCell rows cell.globalCell)) := by
  have hrows : ∀ s ∈ interphaseRows (rowsOfCell rows cell.globalCell),
      s.vaporSpeciesIndex.toNat ∈ range species := by
    intro s hs
    obtain ⟨hs, hchannel⟩ := mem_filter.mp hs
    have hmem := (mem_filter.mp hs).1
    exact mem_range.mpr (interphase_passes (by simpa using hchannel) (h.rowsPass s hmem)).1
  rw [← sum_by_key _ _ nodup_range hrows, sum_neg, map_map]
  rfl

lemma nodup_cells (h : BatchAccepted species revision cells rows atol rtol true) :
    (cells.map fun c => c.globalCell.toNat).Nodup := by
  rw [Nodup, pairwise_map]
  exact h.ascending.imp fun hlt => (UInt64.lt_iff_toNat_lt.mp hlt).ne

lemma sum_cells (h : BatchAccepted species revision cells rows atol rtol true) :
    (cells.map fun c => (conservedCell species atol rtol rows c).gasSpeciesMassDelta.sum).sum =
      -weightedSum (·.massDelta) (interphaseRows rows) := by
  have hrows : ∀ s ∈ interphaseRows rows, s.globalCell.toNat ∈ cells.map fun c => c.globalCell.toNat := by
    intro s hs
    obtain ⟨hs, hchannel⟩ := mem_filter.mp hs
    have hknown := (interphase_passes (by simpa using hchannel) (h.rowsPass s hs)).2
    obtain ⟨c, hc, heq⟩ := (knownCell_iff h.ascending _).mp hknown
    exact mem_map.mpr ⟨c, hc, congrArg UInt64.toNat heq⟩
  have hcommute : ∀ id : UInt64, interphaseRows (rowsOfCell rows id) =
      (interphaseRows rows).filter fun s => s.globalCell.toNat = id.toNat := fun id => filter_comm _ _ _
  rw [← sum_by_key _ _ (nodup_cells h) hrows, sum_neg, map_map, map_map]
  congr 1
  apply map_congr_left
  intro c _
  rw [sum_species h, hcommute]
  rfl

end Rows

variable [LinearOrder F]

/-- A report that hands every interphase row to one species of one cell and every other row to
one channel. -/
structure BatchConserved (w : ExchangeWorkspace) (cells : List (ExchangeCell F)) (rows : List (ExchangeSegment F))
    (atol rtol : F) (report : ExchangeBatchReport F) : Prop where
  sorted : AscendingCells cells
  oneCell : ∀ s ∈ rows, s.channel = .interphase → ∃! c, c ∈ cells ∧ c.globalCell = s.globalCell
  oneSpecies : ∀ s ∈ rows, s.channel = .interphase → ∃! k, k ∈ range w.species ∧ s.vaporSpeciesIndex.toNat = k
  cells : report.cells = cells.map (conservedCell w.species atol rtol rows)
  wall : report.wall = channelTotal .wall rows
  outlet : report.outlet = channelTotal .outlet rows
  external : report.external = channelTotal .external rows
  boundary : report.wall + report.outlet + report.external =
    ((rows.filter fun s => s.channel ≠ .interphase).map fun s => deltaOf s.delta).sum
  mass : (report.cells.map fun c => c.gasSpeciesMassDelta.sum).sum = -weightedSum (·.massDelta) (interphaseRows rows)

omit [LinearOrder F] in
lemma channels_total (rows : List (ExchangeSegment F)) :
    channelTotal .wall rows + channelTotal .outlet rows + channelTotal .external rows =
      ((rows.filter fun s => s.channel ≠ .interphase).map fun s => deltaOf s.delta).sum := by
  induction rows with
  | nil => exact (add_zero _).trans (add_zero _)
  | cons s rest ih =>
    have hcons : ∀ channel, channelTotal channel ((s :: rest : List (ExchangeSegment F)) : Multiset (ExchangeSegment F)) =
        (if s.channel = channel then deltaOf s.delta else 0) + channelTotal channel rest := by
      intro channel
      rw [channelTotal, ← Multiset.cons_coe, Multiset.map_cons, Multiset.sum_cons]
      rfl
    rw [hcons, hcons, hcons]
    by_cases hphase : s.channel = .interphase
    · rw [filter_cons_of_neg (by simpa using hphase), ← ih]
      simp [hphase]
    · rw [filter_cons_of_pos (by simpa using hphase), map_cons, sum_cons, ← ih]
      cases hchannel : s.channel with
      | interphase => exact absurd hchannel hphase
      | wall =>
        simp
        abel
      | outlet =>
        simp
        abel
      | external =>
        simp
        abel

lemma accepted_conserved {w : ExchangeWorkspace} {revision : Revision} {cells : List (ExchangeCell F)}
    {rows : List (ExchangeSegment F)} {atol rtol : F}
    (h : BatchAccepted w.species revision cells rows atol rtol true) : BatchConserved w cells rows atol rtol
      (acceptedReport (w.generation + 1) w.species revision cells rows atol rtol) where
  sorted := h.ascending
  oneCell := by
    intro s hs hchannel
    obtain ⟨c, hc, heq⟩ := (knownCell_iff h.ascending _).mp (interphase_passes hchannel (h.rowsPass s hs)).2
    refine ⟨c, ⟨hc, heq⟩, ?_⟩
    rintro d ⟨hd, heq'⟩
    exact inj_on_of_nodup_map (nodup_cells h) hd hc (congrArg UInt64.toNat (heq'.trans heq.symm))
  oneSpecies := by
    intro s hs hchannel
    refine ⟨_, ⟨mem_range.mpr (interphase_passes hchannel (h.rowsPass s hs)).1, rfl⟩, ?_⟩
    rintro k ⟨-, hk⟩
    exact hk.symm
  cells := map_congr_left fun c _ => exchangeCell_eq h c
  wall := rfl
  outlet := rfl
  external := rfl
  boundary := channels_total rows
  mass := by
    rw [← sum_cells h, acceptedReport, map_map]
    congr 1
    apply map_congr_left
    intro c _
    exact congrArg (fun e : CellExchange F => e.gasSpeciesMassDelta.sum) (exchangeCell_eq h c)

/-- A batch that succeeds conserves every row, whatever the order of the rows. -/
theorem exchange_batch_conserves (w : ExchangeWorkspace) (revision : Revision) (cells : Span (ExchangeCell F))
    (rows : Span (ExchangeSegment F)) (atol rtol : F)
    (h : (w.evaluate revision cells rows atol rtol).status = .success) :
    BatchConserved w cells.values rows.values atol rtol (w.evaluate revision cells rows atol rtol) ∧
      ∀ rows', rows.values.Perm rows' →
        w.evaluate revision cells (.of rows') atol rtol = w.evaluate revision cells rows atol rtol := by
  have hread := evaluate_readable h
  obtain ⟨haccepted, hreport⟩ := evaluate_success h
  have of_readable : ∀ {list : List (ExchangeSegment F)}, (Span.of list).isNull = true → (Span.of list).size = 0 :=
    nofun
  rw [hreport]
  refine ⟨accepted_conserved haccepted, fun rows' hperm => ?_⟩
  rw [evaluate_values hread.cellsNull of_readable, evaluate]
  have hroom : rows'.length ≤ w.segmentCapacity := hperm.length_eq ▸ hread.rowRoom
  rw [Span.values, evaluateImpl_accepted hread.cellRoom hroom hread.version (batchAccepted_perm haccepted hperm)]
  exact acceptedReport_perm _ (haccepted.stencils rfl) hperm

/-- Two halves of an exchange in two cells. -/
theorem exchange_batch_conserves_pair :
    BatchConserved (⟨2, 2, 1, 0⟩ : ExchangeWorkspace) pairDomain [pairRow 0, pairRow 1] 0 0
      ((⟨2, 2, 1, 0⟩ : ExchangeWorkspace).evaluate ⟨3, 1, 1⟩ (.of pairDomain) (.of [pairRow 0, pairRow 1]) 0 0) := by
  have hreport := @evaluateImpl_accepted ℚ _ _ ⟨2, 2, 1, 0⟩ ⟨3, 1, 1⟩ pairDomain _ _ _ _ (by decide) (by decide) rfl pair_accepted
  exact (exchange_batch_conserves ⟨2, 2, 1, 0⟩ ⟨3, 1, 1⟩ (.of pairDomain) (.of [pairRow 0, pairRow 1]) 0 0
    (congrArg (·.status) hreport)).1

end HundunFlow.Proofs
