import HundunFlow.DonorSelection
import Mathlib.Data.Fintype.Card

/-!
# No dimension is starved

Taking indices one after the other keeps the first visit to each until the selection is full. The quadrants
and the bands visit at most thirteen indices, so none of them is turned away.
-/

namespace HundunFlow.Proofs

open Lib DonorSelection List

section Visits

variable {α : Type} [DecidableEq α]

/-- Every entry at its first place. -/
def visits (l : List α) : List α := l.reverse.dedup.reverse

variable {l m : List α} {a : α}

lemma mem_visits : a ∈ visits l ↔ a ∈ l := by
  rw [visits, mem_reverse, mem_dedup, mem_reverse]

lemma visits_nodup : (visits l).Nodup := nodup_reverse.mpr (nodup_dedup _)

lemma length_visits_le : (visits l).length ≤ l.length := by
  rw [visits, length_reverse]
  exact (dedup_sublist _).length_le.trans length_reverse.le

lemma visits_snoc : visits (l ++ [a]) = if a ∈ l then visits l else visits l ++ [a] := by
  rw [visits, reverse_append, reverse_singleton, singleton_append]
  split_ifs with h
  · rw [dedup_cons_of_mem (mem_reverse.mpr h), visits]
  · rw [dedup_cons_of_notMem (mt mem_reverse.mp h), reverse_cons, visits]

lemma visits_append (hm : m.Nodup) : visits (l ++ m) = visits l ++ m.filter (· ∉ visits l) := by
  induction m using reverseRecOn with
  | nil => simp
  | append_singleton m a ih =>
    obtain ⟨hm, -, hdisjoint⟩ := nodup_append.mp hm
    have ha : a ∉ m := fun h => hdisjoint a h a (mem_singleton_self a) rfl
    rw [← append_assoc, visits_snoc, ih hm, filter_append]
    by_cases hl : a ∈ l
    · simp [hl, mem_visits]
    · simp [hl, ha, mem_visits]

end Visits

variable {F : Type} (same : F → F → Bool) (candidates : List (CandidateDonor F)) (maximum : ℕ)
  (coordinate : CandidateDonor F → F)

/-- A full selection takes no more. -/
lemma foldl_take (l : Selection candidates) :
    l.foldl (DonorSelection.take candidates maximum) [] = (visits l).take maximum := by
  induction l using reverseRecOn with
  | nil => simp [visits]
  | append_singleton l index ih =>
    rw [foldl_append, foldl_cons, foldl_nil, ih, visits_snoc, DonorSelection.take, length_take]
    by_cases hroom : (visits l).length < maximum
    · rw [take_of_length_le hroom.le, min_eq_right hroom.le]
      split_ifs with htake hmem hmem
      · exact absurd (mem_visits.mpr hmem) htake.2
      · rw [take_of_length_le (by rw [length_append, length_singleton]; exact hroom)]
      · rw [take_of_length_le hroom.le]
      · exact absurd ⟨hroom, mt mem_visits.mp hmem⟩ htake
    · rw [if_neg fun h => hroom (by omega)]
      split_ifs
      · rfl
      · rw [take_append_of_le_length (not_lt.mp hroom)]

/-- The first candidates of the bands of a coordinate; `values` are the bands found before. -/
def bandLeaders : Selection candidates → List F → Selection candidates
  | [], _ => []
  | index :: rest, values =>
    if values.any fun value => same value (coordinate (candidates.get index)) then bandLeaders rest values
    else index :: bandLeaders rest (values ++ [coordinate (candidates.get index)])

lemma takeBandsLoop_eq (order : Selection candidates) {values : List F} (hvalues : values.length < 3)
    (selected : Selection candidates) : takeBandsLoop same candidates maximum coordinate order values selected =
      (((bandLeaders same candidates coordinate order values).take (3 - values.length)).foldl
          (DonorSelection.take candidates maximum) selected,
        min 3 (values.length + (bandLeaders same candidates coordinate order values).length)) := by
  induction order generalizing values selected with
  | nil =>
    simp only [takeBandsLoop, bandLeaders, take_nil, foldl_nil, length_nil, Prod.mk.injEq, true_and]
    omega
  | cons index rest ih =>
    unfold takeBandsLoop bandLeaders
    by_cases hband : (values.any fun value => same value (coordinate (candidates.get index))) = true
    · rw [if_pos hband, if_pos hband]
      exact ih hvalues selected
    · rw [if_neg hband, if_neg hband]
      obtain ⟨k, hk⟩ : ∃ k, 3 - values.length = k + 1 := ⟨2 - values.length, by omega⟩
      rw [hk, take_succ_cons, foldl_cons, length_cons]
      by_cases hlast : values.length + 1 = 3
      · have hzero : k = 0 := by omega
        rw [if_pos hlast, hzero, take_zero, foldl_nil, min_eq_left (by omega)]
      · rw [if_neg hlast, ih (by rw [length_append, length_singleton]; omega), length_append, length_singleton]
        have hrest : 3 - (values.length + 1) = k := by omega
        rw [hrest, Nat.add_right_comm, Nat.add_assoc values.length]

/-- No leader is in the band of an earlier one, and every candidate is a leader or in the band of an earlier one. -/
lemma bandLeaders_spec (order : Selection candidates) (values : List F) :
    (∀ i ∈ bandLeaders same candidates coordinate order values, ∀ value ∈ values, same value (coordinate (candidates.get i)) = false) ∧
    (bandLeaders same candidates coordinate order values).Pairwise (fun i j =>
      same (coordinate (candidates.get i)) (coordinate (candidates.get j)) = false) ∧
    ∀ i ∈ order, i ∈ bandLeaders same candidates coordinate order values ∨
      (∃ value ∈ values, same value (coordinate (candidates.get i)) = true) ∨
      ∃ j ∈ bandLeaders same candidates coordinate order values, same (coordinate (candidates.get j)) (coordinate (candidates.get i)) = true := by
  induction order generalizing values with
  | nil => simp [bandLeaders]
  | cons index rest ih =>
    rw [bandLeaders]
    split_ifs with hband
    · obtain ⟨hnew, hapart, hcover⟩ := ih values
      refine ⟨hnew, hapart, fun i hi => ?_⟩
      rcases mem_cons.mp hi with rfl | hi
      · exact .inr (.inl (any_eq_true.mp hband))
      · exact hcover i hi
    · obtain ⟨hnew, hapart, hcover⟩ := ih (values ++ [coordinate (candidates.get index)])
      simp only [any_eq_true, not_exists, not_and, Bool.not_eq_true] at hband
      simp only [mem_append, mem_singleton] at hnew hcover
      refine ⟨fun i hi => ?_, pairwise_cons.mpr ⟨fun j hj => hnew j hj _ (.inr rfl), hapart⟩, fun i hi => ?_⟩
      · rcases mem_cons.mp hi with rfl | hi
        · exact hband
        · exact fun value hvalue => hnew i hi value (.inl hvalue)
      · rcases mem_cons.mp hi with rfl | hi
        · exact .inl mem_cons_self
        · rcases hcover i hi with hleader | ⟨value, hvalue | rfl, hsame⟩ | ⟨j, hj, hsame⟩
          · exact .inl (mem_cons_of_mem _ hleader)
          · exact .inr (.inl ⟨value, hvalue, hsame⟩)
          · exact .inr (.inr ⟨index, mem_cons_self, hsame⟩)
          · exact .inr (.inr ⟨j, mem_cons_of_mem _ hj, hsame⟩)

variable [Field F] [LinearOrder F]

/-- The first candidates of all bands. -/
def bandsOf : Selection candidates := bandLeaders same candidates coordinate (coordinateOrder candidates coordinate) []

/-- The visits before the selection is filled by distance. -/
def dimensionVisits : Selection candidates :=
  (range 4).filterMap (firstOf candidates) ++ (bandsOf same candidates CandidateDonor.normalCoordinate).take 3 ++
    (bandsOf same candidates CandidateDonor.tangent1Coordinate).take 3 ++
    (bandsOf same candidates CandidateDonor.tangent2Coordinate).take 3

lemma takeBands_eq (selected : Selection candidates) : takeBands same candidates maximum coordinate selected =
    (((bandsOf same candidates coordinate).take 3).foldl (DonorSelection.take candidates maximum) selected,
      min 3 (bandsOf same candidates coordinate).length) := by
  rw [takeBands, takeBandsLoop_eq same candidates maximum coordinate _ (show ([] : List F).length < 3 from Nat.zero_lt_succ 2),
    length_nil, Nat.zero_add]
  rfl

lemma takeQuadrants_eq (selected : Selection candidates) : takeQuadrants candidates maximum selected =
    ((range 4).filterMap (firstOf candidates)).foldl (DonorSelection.take candidates maximum) selected := by
  rw [takeQuadrants, foldl_filterMap]
  congr 1
  funext selected quadrant
  cases firstOf candidates quadrant <;> rfl

lemma length_dimensionVisits : (dimensionVisits same candidates).length ≤ 13 := by
  have hquadrants := length_filterMap_le (firstOf candidates) (range 4)
  rw [length_range] at hquadrants
  simp only [dimensionVisits, length_append, length_take]
  omega

variable {maximum}

lemma length_visits_le_maximum (hmaximum : 13 ≤ maximum ∨ candidates.length ≤ maximum) :
    (visits (dimensionVisits same candidates)).length ≤ maximum := by
  rcases hmaximum with hmaximum | hmaximum
  · exact (length_visits_le.trans (length_dimensionVisits same candidates)).trans hmaximum
  · have hcard := (visits_nodup (l := dimensionVisits same candidates)).length_le_card
    rw [Fintype.card_fin] at hcard
    exact hcard.trans hmaximum

lemma chooseDonors_eq (hmaximum : 13 ≤ maximum ∨ candidates.length ≤ maximum) :
    let forced := visits (dimensionVisits same candidates)
    chooseDonors same candidates maximum = (sortOn (·.globalCell) ((forced ++ ((finRange candidates.length).filter
      (· ∉ forced)).take (maximum - forced.length)).map fun index => (candidates.get index).donor),
        min 3 (bandsOf same candidates CandidateDonor.normalCoordinate).length) := by
  have hfold := foldl_take candidates maximum (dimensionVisits same candidates ++ finRange candidates.length)
  simp only [chooseDonors, takeQuadrants_eq, takeBands_eq, ← foldl_append]
  rw [← dimensionVisits, hfold, visits_append (nodup_finRange _), take_append,
    take_of_length_le (length_visits_le_maximum same candidates hmaximum)]

section Order

/-- The comparison of `take_bands` is that of these keys. -/
def coordinateKey (c : CandidateDonor F) : F ×ₗ F ×ₗ F ×ₗ ℕ :=
  toLex (|coordinate c|, toLex (coordinate c, toLex (c.distanceSquared, c.donor.globalCell)))

lemma coordinateLess_iff (left right : CandidateDonor F) : coordinateLess coordinate left right = true ↔
    coordinateKey coordinate left < coordinateKey coordinate right := by
  simp only [coordinateKey, Prod.Lex.toLex_lt_toLex, coordinateLess, donorLess]
  split_ifs <;> simp_all

lemma coordinateOrder_eq : coordinateOrder candidates coordinate =
    sortOn (fun index => coordinateKey coordinate (candidates.get index)) (finRange candidates.length) := by
  unfold coordinateOrder sortOn
  congr 1
  funext left right
  rw [Bool.eq_iff_iff, Bool.not_eq_true', decide_eq_true_eq, ← not_lt, ← coordinateLess_iff, Bool.not_eq_true]

variable {candidates}

omit [Field F] [LinearOrder F] in
lemma cell_injective (hcells : (candidates.map fun c => c.donor.globalCell).Nodup) {i j : Fin candidates.length}
    (h : (candidates.get i).donor.globalCell = (candidates.get j).donor.globalCell) : i = j := by
  rw [Nodup, pairwise_map, pairwise_iff_getElem] at hcells
  rcases lt_trichotomy i j with hij | rfl | hij
  · exact absurd h (hcells i j i.2 j.2 hij)
  · rfl
  · exact absurd h.symm (hcells j i j.2 i.2 hij)

/-- Candidates in different cells are never tied. -/
lemma coordinateOrder_unique (hcells : (candidates.map fun c => c.donor.globalCell).Nodup) {order : Selection candidates}
    (hperm : order.Perm (finRange candidates.length))
    (hsorted : order.Pairwise fun left right => coordinateLess coordinate (candidates.get right) (candidates.get left) = false) :
    order = coordinateOrder candidates coordinate := by
  have hkeys : ((finRange candidates.length).map fun index => coordinateKey coordinate (candidates.get index)).Nodup :=
    (nodup_finRange _).map fun i j h => cell_injective hcells (congrArg (fun k => (ofLex (ofLex (ofLex k).2).2).2) h)
  rw [coordinateOrder_eq]
  refine (eq_of_perm_of_pairwise (sortOn_pairwise_lt hkeys) (hsorted.imp fun h => ?_) ((sortOn_perm _ _).trans hperm.symm)).symm
  rw [← not_lt, ← coordinateLess_iff, h]
  decide

end Order

variable {candidates}

lemma firstOf_iff {quadrant : ℕ} {i : Fin candidates.length} : firstOf candidates quadrant = some i ↔
    donorQuadrant (candidates.get i) = quadrant ∧ ∀ j < i, donorQuadrant (candidates.get j) ≠ quadrant := by
  rw [firstOf, find?_eq_some_iff_getElem, decide_eq_true_eq]
  refine and_congr_right fun _ => ⟨?_, fun hfirst => ⟨i, by simp, by simp, fun j hj => ?_⟩⟩
  · rintro ⟨k, hk, hki, hfirst⟩ j hj
    rw [getElem_finRange] at hki
    have hbefore := hfirst j (by rw [← hki] at hj; exact hj)
    rwa [getElem_finRange, Bool.not_eq_true', decide_eq_false_iff_not] at hbefore
  · rw [getElem_finRange, Bool.not_eq_true', decide_eq_false_iff_not]
    exact hfirst ⟨j, hj.trans i.2⟩ hj

/-- No pass starves another: the first donor of each quadrant and a donor of each of the first three bands of each coordinate
are selected, and beyond them the first of the others. No two candidates are tied in an order of the selection. -/
theorem choose_donors_keep_dimensions (hcells : (candidates.map fun c => c.donor.globalCell).Nodup) (hmaximum : 13 ≤ maximum ∨ candidates.length ≤ maximum) :
    (∃ forced selected : Selection candidates,
      (chooseDonors same candidates maximum).1.Perm (selected.map fun index => (candidates.get index).donor) ∧
      selected = forced ++ ((finRange candidates.length).filter (· ∉ forced)).take (maximum - forced.length) ∧
      selected.Nodup ∧ selected.length ≤ maximum ∧
      ∀ i : Fin candidates.length, i ∈ forced ↔
        (∀ j < i, donorQuadrant (candidates.get j) ≠ donorQuadrant (candidates.get i)) ∨
        i ∈ (bandsOf same candidates CandidateDonor.normalCoordinate).take 3 ∨
        i ∈ (bandsOf same candidates CandidateDonor.tangent1Coordinate).take 3 ∨
        i ∈ (bandsOf same candidates CandidateDonor.tangent2Coordinate).take 3) ∧
    (chooseDonors same candidates maximum).1.Pairwise (fun left right => left.globalCell < right.globalCell) ∧
    (chooseDonors same candidates maximum).2 = min 3 (bandsOf same candidates CandidateDonor.normalCoordinate).length ∧
    ∀ coordinate : CandidateDonor F → F,
      (bandsOf same candidates coordinate).Pairwise (fun i j =>
        same (coordinate (candidates.get i)) (coordinate (candidates.get j)) = false) ∧
      (∀ i : Fin candidates.length, i ∈ bandsOf same candidates coordinate ∨
        ∃ j ∈ bandsOf same candidates coordinate, same (coordinate (candidates.get j)) (coordinate (candidates.get i)) = true) ∧
      ∀ order : Selection candidates, order.Perm (finRange candidates.length) →
        order.Pairwise (fun left right => coordinateLess coordinate (candidates.get right) (candidates.get left) = false) →
          order = coordinateOrder candidates coordinate := by
  have hnodup : (visits (dimensionVisits same candidates)).Nodup := visits_nodup
  rw [chooseDonors_eq same candidates hmaximum]
  dsimp only
  generalize hselected : visits (dimensionVisits same candidates) ++ _ = selected
  have hchosen : selected.Nodup := by
    rw [← hselected]
    refine nodup_append.mpr ⟨hnodup, ((nodup_finRange _).filter _).sublist (take_sublist _ _), fun i hi j hj hij => ?_⟩
    exact (of_decide_eq_true (mem_filter.mp (mem_of_mem_take hj)).2) (hij ▸ hi)
  refine ⟨⟨visits (dimensionVisits same candidates), selected, sortOn_perm _ _, hselected.symm, hchosen, ?_, fun i => ?_⟩,
    sortOn_pairwise_lt ?_, rfl, fun coordinate => ⟨?_, fun i => ?_, fun order => coordinateOrder_unique coordinate hcells⟩⟩
  · have hfits := length_visits_le_maximum same candidates hmaximum
    rw [← hselected, length_append, length_take]
    omega
  · simp only [mem_visits, dimensionVisits, mem_append, or_assoc, mem_filterMap, mem_range]
    refine or_congr_left ⟨?_, fun hfirst => ⟨_, ?_, firstOf_iff.mpr ⟨rfl, hfirst⟩⟩⟩
    · rintro ⟨quadrant, -, hfirst⟩
      obtain ⟨rfl, hbefore⟩ := firstOf_iff.mp hfirst
      exact hbefore
    · unfold donorQuadrant
      split_ifs <;> decide
  · rw [map_map]
    exact hchosen.map fun i j h => cell_injective hcells h
  · exact (bandLeaders_spec same candidates coordinate _ _).2.1
  · have horder : i ∈ coordinateOrder candidates coordinate := by
      rw [coordinateOrder_eq]
      exact (sortOn_perm _ _).mem_iff.mpr (mem_finRange i)
    rcases (bandLeaders_spec same candidates coordinate _ _).2.2 i horder with hleader | ⟨value, hvalue, -⟩ | hband
    · exact .inl hleader
    · exact absurd hvalue not_mem_nil
    · exact .inr hband

/-- Four candidates around a point, the nearest two in one plane. -/
def donorSample : List (CandidateDonor ℚ) :=
  [⟨⟨5, {}, {}⟩, 1, 1, 0, 0⟩, ⟨⟨3, {}, {}⟩, 2, 1, 1, 0⟩, ⟨⟨8, {}, {}⟩, 3, 2, 0, 1⟩, ⟨⟨1, {}, {}⟩, 4, 2, -1, -1⟩]

theorem choose_donors_keep_dimensions_sample : (chooseDonors (sameCoordinateBand (1 / 2 ^ 52)) donorSample 13).1.Pairwise
    fun left right => left.globalCell < right.globalCell := by
  have hcells : (donorSample.map fun c => c.donor.globalCell).Nodup := by decide
  exact (choose_donors_keep_dimensions (sameCoordinateBand (1 / 2 ^ 52)) hcells (.inl le_rfl)).2.1

end HundunFlow.Proofs
