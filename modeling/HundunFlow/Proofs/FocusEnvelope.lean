import HundunFlow.FocusSpacing
import Mathlib.Tactic.Linarith
import Mathlib.Tactic.Ring

/-!
# Spacings as minima over all samples

The queue of active focuses gives every sample the smallest target of the focuses that contain it, and
the two loops of the envelope give it the least of what any sample allows there.
-/

namespace HundunFlow.Proofs

open Lib List

variable {F : Type} [LinearOrder F]

def leastOf (bound : F) (values : List F) : F := values.foldr min bound

variable {focuses : List (IntervalTarget F)} {focus : IntervalTarget F}

lemma le_leastOf {bound c : F} {values : List F} : c ≤ leastOf bound values ↔ c ≤ bound ∧ ∀ v ∈ values, c ≤ v := by
  induction values with
  | nil => simp [leastOf]
  | cons v rest ih =>
    rw [leastOf, foldr_cons, le_min_iff, ← leastOf, ih, forall_mem_cons]
    tauto

def FocusContains (focus : IntervalTarget F) (x : F) : Prop := focus.lower ≤ x ∧ x ≤ focus.upper

instance (focus : IntervalTarget F) (x : F) : Decidable (FocusContains focus x) := inferInstanceAs (Decidable (_ ∧ _))

def focusTarget (baseSpacing : F) (focuses : List (IntervalTarget F)) (x : F) : F :=
  leastOf baseSpacing ((focuses.filter fun focus => FocusContains focus x).map (·.spacing))

abbrev IsActiveTop (focuses : List (IntervalTarget F)) (x : F) (top : Option (ActiveFocus F)) : Prop :=
  IsTop (fun focus : IntervalTarget F × ℕ => focus.1.lower) activate (fun focus => focus.upper) activeKey
    (orderedFocuses focuses) x top

lemma mem_orderedFocuses (h : focus ∈ focuses) :
    ∃ id, (focus, id) ∈ orderedFocuses focuses := by
  have hsorted := (sortOn_perm focusStartKey focuses).mem_iff.mpr h
  obtain ⟨id, hid⟩ := mem_iff_getElem?.mp hsorted
  exact ⟨id, mem_zipIdx_iff_getElem?.mpr hid⟩

lemma of_mem_orderedFocuses {entry : IntervalTarget F × ℕ} (h : entry ∈ orderedFocuses focuses) : entry.1 ∈ focuses := by
  have hget := mem_zipIdx_iff_getElem?.mp h
  exact (sortOn_perm focusStartKey focuses).mem_iff.mp (mem_of_getElem? hget)

lemma orderedFocuses_sorted (focuses : List (IntervalTarget F)) :
    (orderedFocuses focuses).Pairwise fun a b => a.1.lower ≤ b.1.lower := by
  have hsorted := sortOn_pairwise_le focusStartKey focuses
  have hmap : (orderedFocuses focuses).map Prod.fst = sortOn focusStartKey focuses := zipIdx_map_fst _ _
  rw [← hmap, pairwise_map] at hsorted
  refine hsorted.imp fun {a b} h => ?_
  rcases Prod.Lex.toLex_le_toLex.mp h with hlt | ⟨heq, -⟩
  · exact hlt.le
  · exact heq.le

lemma activeTops_spec (focuses : List (IntervalTarget F)) {coordinates : List F}
    (h : coordinates.Pairwise (· ≤ ·)) : Forall₂ (IsActiveTop focuses) coordinates (activeTops focuses coordinates) :=
  (Sweeping.begin (orderedFocuses_sorted focuses)).tops h fun _ _ => bot_le

lemma top_le {x : F} {top : ActiveFocus F} (h : IsActiveTop focuses x (some top)) (hfocus : focus ∈ focuses)
    (hin : FocusContains focus x) : top.spacing ≤ focus.spacing := by
  obtain ⟨id, hid⟩ := mem_orderedFocuses hfocus
  have hkey := h.2.2 _ hid hin.1 hin.2
  rcases Prod.Lex.toLex_le_toLex.mp hkey with hlt | ⟨heq, -⟩
  · exact hlt.le
  · exact heq.le

lemma sampleSpacing_eq {x : F} {top : Option (ActiveFocus F)}
    (h : IsActiveTop focuses x top) (baseSpacing : F) : sampleSpacing baseSpacing top = focusTarget baseSpacing focuses x := by
  apply eq_of_forall_le_iff
  intro c
  rw [focusTarget, le_leastOf, forall_mem_map]
  simp only [mem_filter, decide_eq_true_eq]
  cases top with
  | none =>
    refine ⟨fun hc => ⟨hc, ?_⟩, fun hc => hc.1⟩
    rintro focus ⟨hfocus, hin⟩
    obtain ⟨id, hid⟩ := mem_orderedFocuses hfocus
    exact absurd hin.2 (not_le.mpr (h _ hid hin.1))
  | some top =>
    rw [sampleSpacing, le_min_iff]
    refine and_congr_right fun _ => ⟨fun hc focus hfocus => ?_, fun hc => ?_⟩
    · exact hc.trans (top_le h hfocus.1 hfocus.2)
    · obtain ⟨⟨entry, hentry, rfl, hstart⟩, hstop, -⟩ := h
      exact hc entry.1 ⟨of_mem_orderedFocuses hentry, hstart, hstop⟩

variable [Field F]

lemma map_eq_of_forall₂ {α β γ : Type} {R : α → β → Prop} {f : α → γ} {g : β → γ} {xs : List α} {ys : List β}
    (h : Forall₂ R xs ys) (hR : ∀ x y, R x y → g y = f x) : ys.map g = xs.map f := by
  induction h with
  | nil => rfl
  | cons hxy _ ih => rw [map_cons, map_cons, hR _ _ hxy, ih]

section Envelope

variable {slope : F}

variable {samples : List (F × F)} {growthRatio : F}

lemma forwardSweep_fst (slope : F) (first : F × F) (rest : List (F × F)) :
    (forwardSweep slope first rest).map Prod.fst = rest.map Prod.fst := by
  induction rest generalizing first with
  | nil => rfl
  | cons second rest ih =>
    rw [forwardSweep, map_cons, map_cons, ih]

lemma backwardSweep_fst (slope : F) (samples : List (F × F)) :
    (backwardSweep slope samples).map Prod.fst = samples.map Prod.fst := by
  induction samples with
  | nil => rfl
  | cons first rest ih =>
    rw [backwardSweep]
    cases hrest : backwardSweep slope rest with
    | nil =>
      rw [hrest] at ih
      rw [map_cons (l := rest), ← ih]
      rfl
    | cons second behind =>
      rw [hrest] at ih
      rw [map_cons (l := rest), ← ih]
      rfl

abbrev AscendingSamples (samples : List (F × F)) : Prop := (samples.map Prod.fst).Pairwise (· < ·)

variable [IsStrictOrderedRing F]

lemma le_forwardSweep {first p : F × F} {rest : List (F × F)} (h : AscendingSamples (first :: rest))
    (hp : p ∈ first :: forwardSweep slope first rest) (c : F) :
    c ≤ p.2 ↔ ∀ q ∈ first :: rest, q.1 ≤ p.1 → c ≤ q.2 + slope * (p.1 - q.1) := by
  induction rest generalizing first with
  | nil =>
    obtain rfl := mem_singleton.mp hp
    simp
  | cons second rest ih =>
    have hfirst : ∀ q ∈ second :: rest, first.1 < q.1 := by
      intro q hq
      rw [AscendingSamples, map_cons, pairwise_cons] at h
      exact h.1 q.1 (mem_map_of_mem hq)
    rcases mem_cons.mp hp with rfl | hp
    · rw [forall_mem_cons]
      constructor
      · intro hc
        exact ⟨fun _ => by simpa using hc, fun q hq hle => absurd hle (not_le.mpr (hfirst q hq))⟩
      · intro hc
        simpa using hc.1 le_rfl
    · rw [forwardSweep] at hp
      set next : F × F := (second.1, min second.2 (first.2 + slope * (second.1 - first.1))) with hnext
      have hasc : AscendingSamples (next :: rest) := by
        rw [AscendingSamples, map_cons, pairwise_cons] at h
        exact h.2
      have hbehind : second.1 ≤ p.1 := by
        have hmem : p.1 ∈ second.1 :: rest.map Prod.fst := by
          have hmap := mem_map_of_mem (f := Prod.fst) hp
          rwa [map_cons, forwardSweep_fst] at hmap
        rw [AscendingSamples, map_cons, pairwise_cons] at hasc
        rcases mem_cons.mp hmem with heq | hmem
        · exact heq.ge
        · exact (hasc.1 _ hmem).le
      rw [ih hasc hp, forall_mem_cons, forall_mem_cons, forall_mem_cons]
      have hsplit : c ≤ next.2 + slope * (p.1 - next.1) ↔
          c ≤ first.2 + slope * (p.1 - first.1) ∧ c ≤ second.2 + slope * (p.1 - second.1) := by
        rw [hnext]
        dsimp only
        rw [← min_add_add_right, le_min_iff, and_comm]
        refine and_congr_left fun _ => ?_
        rw [show first.2 + slope * (second.1 - first.1) + slope * (p.1 - second.1) =
          first.2 + slope * (p.1 - first.1) by ring]
      have hfirstle : first.1 ≤ p.1 := (hfirst second mem_cons_self).le.trans hbehind
      constructor
      · rintro ⟨hc, hrest⟩
        obtain ⟨hc₁, hc₂⟩ := hsplit.mp (hc hbehind)
        exact ⟨fun _ => hc₁, fun _ => hc₂, hrest⟩
      · rintro ⟨hc₁, hc₂, hrest⟩
        exact ⟨fun _ => hsplit.mpr ⟨hc₁ hfirstle, hc₂ hbehind⟩, hrest⟩

lemma le_backwardSweep {p : F × F} (h : AscendingSamples samples) (hp : p ∈ backwardSweep slope samples) (c : F) :
    c ≤ p.2 ↔ ∀ q ∈ samples, p.1 ≤ q.1 → c ≤ q.2 + slope * (q.1 - p.1) := by
  induction samples generalizing p c with
  | nil => cases hp
  | cons first rest ih =>
    have hfirst : ∀ q ∈ rest, first.1 < q.1 := by
      intro q hq
      rw [AscendingSamples, map_cons, pairwise_cons] at h
      exact h.1 q.1 (mem_map_of_mem hq)
    have hrestAscending : AscendingSamples rest := by
      rw [AscendingSamples, map_cons, pairwise_cons] at h
      exact h.2
    have hfst := backwardSweep_fst slope rest
    rw [backwardSweep] at hp
    cases hrest : backwardSweep slope rest with
    | nil =>
      rw [hrest] at hp hfst
      obtain rfl : rest = [] := by simpa using hfst
      obtain rfl := mem_singleton.mp hp
      simp
    | cons second behind =>
      rw [hrest] at hp hfst
      dsimp only at hp
      rw [forall_mem_cons]
      rcases mem_cons.mp hp with rfl | hp
      · have hsecond : second ∈ backwardSweep slope rest := by
          rw [hrest]
          exact mem_cons_self
        have hleast : ∀ q ∈ rest, second.1 ≤ q.1 := by
          intro q hq
          have hmem : q.1 ∈ second.1 :: behind.map Prod.fst := by
            rw [← map_cons, hfst]
            exact mem_map_of_mem hq
          have hsorted := hrestAscending
          rw [AscendingSamples, ← hfst, map_cons, pairwise_cons] at hsorted
          rcases mem_cons.mp hmem with heq | hmem
          · exact heq.ge
          · exact (hsorted.1 _ hmem).le
        dsimp only
        rw [le_min_iff, ← sub_le_iff_le_add, ih hrestAscending hsecond]
        constructor
        · rintro ⟨hc, hbehind⟩
          refine ⟨fun _ => by simpa using hc, fun q hq _ => ?_⟩
          have hq := hbehind q hq (hleast q hq)
          linarith
        · rintro ⟨hc, hbehind⟩
          refine ⟨by simpa using hc le_rfl, fun q hq _ => ?_⟩
          have hq := hbehind q hq (hfirst q hq).le
          linarith
      · have hpmem : p ∈ backwardSweep slope rest := by
          rw [hrest]
          exact hp
        have hpfirst : first.1 < p.1 := by
          have hmem : p.1 ∈ rest.map Prod.fst := by
            rw [← backwardSweep_fst slope rest]
            exact mem_map_of_mem hpmem
          obtain ⟨q, hq, heq⟩ := mem_map.mp hmem
          rw [← heq]
          exact hfirst q hq
        rw [ih hrestAscending hpmem]
        exact ⟨fun hc => ⟨fun hle => absurd hle (not_le.mpr hpfirst), hc⟩, fun hc => hc.2⟩

lemma le_limitGrowth (hratio : 1 < growthRatio) (h : AscendingSamples samples) {p : F × F}
    (hp : p ∈ limitGrowth growthRatio samples) (c : F) :
    c ≤ p.2 ↔ ∀ q ∈ samples, c ≤ q.2 + (growthRatio - 1) * |p.1 - q.1| := by
  cases samples with
  | nil => cases hp
  | cons first rest =>
    rw [limitGrowth, if_pos hratio] at hp
    have hslope : 0 ≤ growthRatio - 1 := sub_nonneg.mpr hratio.le
    have hfst : (first :: forwardSweep (growthRatio - 1) first rest).map Prod.fst = (first :: rest).map Prod.fst := by
      rw [map_cons, map_cons, forwardSweep_fst]
    have hasc : AscendingSamples (first :: forwardSweep (growthRatio - 1) first rest) := by
      rw [AscendingSamples, hfst]
      exact h
    have hreach : ∀ x ∈ (first :: rest).map Prod.fst, ∃ r ∈ first :: forwardSweep (growthRatio - 1) first rest, r.1 = x := by
      intro x hx
      rw [← hfst] at hx
      obtain ⟨r, hr, hrx⟩ := mem_map.mp hx
      exact ⟨r, hr, hrx⟩
    rw [le_backwardSweep hasc hp]
    constructor
    · intro hc q hq
      rcases le_total q.1 p.1 with hqp | hpq
      · obtain ⟨r, hr, hrp⟩ := hreach p.1 (by
          rw [← hfst, ← backwardSweep_fst (growthRatio - 1)]
          exact mem_map_of_mem hp)
        have hcr := hc r hr hrp.ge
        rw [hrp, sub_self, mul_zero, add_zero, le_forwardSweep h hr] at hcr
        have hcq := hcr q hq (hqp.trans_eq hrp.symm)
        rwa [abs_of_nonneg (sub_nonneg.mpr hqp), ← hrp]
      · obtain ⟨r, hr, hrq⟩ := hreach q.1 (mem_map_of_mem hq)
        have hcr := hc r hr (hpq.trans_eq hrq.symm)
        rw [← sub_le_iff_le_add, le_forwardSweep h hr] at hcr
        have hcq := hcr q hq hrq.ge
        rw [hrq, sub_self, mul_zero, add_zero, sub_le_iff_le_add] at hcq
        rwa [abs_sub_comm, abs_of_nonneg (sub_nonneg.mpr hpq)]
    · intro hc r hr hpr
      rw [← sub_le_iff_le_add, le_forwardSweep h hr]
      intro q hq hqr
      have hdistance : |p.1 - q.1| ≤ (r.1 - q.1) + (r.1 - p.1) := abs_le.mpr ⟨by linarith, by linarith⟩
      have hscaled := mul_le_mul_of_nonneg_left hdistance hslope
      have hcq := hc q hq
      rw [mul_add] at hscaled
      linarith

omit [IsStrictOrderedRing F] in
lemma limitGrowth_fst (growthRatio : F) (samples : List (F × F)) :
    (limitGrowth growthRatio samples).map Prod.fst = samples.map Prod.fst := by
  cases samples with
  | nil => rfl
  | cons first rest =>
    rw [limitGrowth]
    split_ifs
    · rw [backwardSweep_fst, map_cons, map_cons, forwardSweep_fst]
    · rfl

/-- The spacing that the samples allow at a coordinate. -/
def envelopeSpacing (sampleCentres : List F) (baseSpacing minimumSpacing growthRatio : F)
    (focuses : List (IntervalTarget F)) (x : F) : F :=
  max minimumSpacing (leastOf baseSpacing (sampleCentres.map fun y =>
    focusTarget baseSpacing focuses y + (growthRatio - 1) * |x - y|))

lemma fillSpacingEnvelope_eq {sampleCentres : List F} (h : sampleCentres.Pairwise (· < ·))
    (hratio : 1 < growthRatio) (baseSpacing minimumSpacing : F) (focuses : List (IntervalTarget F)) :
    fillSpacingEnvelope sampleCentres baseSpacing minimumSpacing growthRatio focuses =
      sampleCentres.map (envelopeSpacing sampleCentres baseSpacing minimumSpacing growthRatio focuses) := by
  have hspacing : (activeTops focuses sampleCentres).map (sampleSpacing baseSpacing) =
      sampleCentres.map (focusTarget baseSpacing focuses) :=
    map_eq_of_forall₂ (activeTops_spec focuses (h.imp le_of_lt)) fun x top htop => sampleSpacing_eq htop baseSpacing
  have hsamples : sampleCentres.zip (sampleCentres.map (focusTarget baseSpacing focuses)) =
      sampleCentres.map fun y => (y, focusTarget baseSpacing focuses y) := by
    have hzip := zip_map' (f := id) (g := focusTarget baseSpacing focuses) (l := sampleCentres)
    rwa [map_id] at hzip
  have hfst : (sampleCentres.map fun y => (y, focusTarget baseSpacing focuses y)).map Prod.fst = sampleCentres := by
    rw [map_map]
    exact map_id _
  have hasc : AscendingSamples (sampleCentres.map fun y => (y, focusTarget baseSpacing focuses y)) := by
    rw [AscendingSamples, hfst]
    exact h
  rw [fillSpacingEnvelope, hspacing, hsamples]
  conv_rhs => rw [← hfst, ← limitGrowth_fst growthRatio, map_map]
  apply map_congr_left
  intro p hp
  rw [Function.comp_apply, envelopeSpacing, limitGrowth_fst, hfst]
  congr 1
  apply eq_of_forall_le_iff
  intro c
  rw [le_min_iff, le_leastOf, le_limitGrowth hratio hasc hp, forall_mem_map, forall_mem_map]

end Envelope

section Faces

variable [IsStrictOrderedRing F]

def faceCells (faces : List F) : List (F × F) := faces.zip faces.tail

section

omit [IsStrictOrderedRing F]

variable (faces : List F)

omit [LinearOrder F] in
lemma widths_eq : widths faces = (faceCells faces).map fun cell => cell.2 - cell.1 := by
  induction faces with
  | nil => rfl
  | cons a rest ih =>
    cases rest with
    | nil => rfl
    | cons b rest => rw [widths, ih]; rfl

omit [LinearOrder F] in
lemma centres_eq : centres faces = (faceCells faces).map fun cell => 1 / 2 * (cell.1 + cell.2) := by
  induction faces with
  | nil => rfl
  | cons a rest ih =>
    cases rest with
    | nil => rfl
    | cons b rest => rw [centres, ih]; rfl

lemma checkWidths_pos {baseSpacing minimumSpacing : F} {list : List F}
    (h : checkWidths baseSpacing minimumSpacing list = none) : ∀ width ∈ list, 0 < width := by
  induction list with
  | nil => simp
  | cons width rest ih =>
    rw [checkWidths] at h
    split_ifs at h with hfine hcoarse
    rw [forall_mem_cons]
    refine ⟨?_, ih h⟩
    simp only [Bool.or_eq_true, not_or, Bool.not_eq_true', decide_eq_false_iff_not, not_not] at hfine
    exact hfine.1

end

lemma centres_ascending {faces : List F} (h : ∀ width ∈ widths faces, 0 < width) : (centres faces).Pairwise (· ≤ ·) := by
  rw [← isChain_iff_pairwise]
  induction faces with
  | nil => exact .nil
  | cons a rest ih =>
    cases rest with
    | nil => exact .nil
    | cons b rest =>
      cases rest with
      | nil => exact .singleton _
      | cons c rest =>
        rw [widths, forall_mem_cons] at h
        have hrest := ih h.2
        rw [widths, forall_mem_cons] at h
        rw [centres, centres, isChain_cons_cons]
        rw [centres] at hrest
        exact ⟨by linarith [h.1, h.2.1], hrest⟩

section

omit [IsStrictOrderedRing F]

variable {list : List F}

lemma checkWidths_ne_feasible {baseSpacing minimumSpacing : F} :
    checkWidths baseSpacing minimumSpacing list ≠ some .feasible := by
  induction list with
  | nil => simp [checkWidths]
  | cons width rest ih =>
    rw [checkWidths]
    split_ifs
    · simp
    · simp
    · exact ih

lemma checkRatios_ne_feasible {growthRatio : F} : checkRatios growthRatio list ≠ some .feasible := by
  induction list with
  | nil => simp [checkRatios]
  | cons left rest ih =>
    cases rest with
    | nil => simp [checkRatios]
    | cons right rest =>
      rw [checkRatios]
      split_ifs
      · simp
      · exact ih

lemma checkFocuses_feasible {list : List (F × Option (ActiveFocus F))} (h : checkFocuses list = .feasible)
    {width : F} {top : ActiveFocus F} (hmem : (width, some top) ∈ list) :
    width ≤ top.spacing * (1 + 16 * kFaceTolerance) := by
  induction list with
  | nil => cases hmem
  | cons first rest ih =>
    rw [checkFocuses] at h
    split_ifs at h with hcoarse
    rcases mem_cons.mp hmem with rfl | hmem
    · simpa using hcoarse
    · exact ih h hmem

end

lemma exists_of_forall₂ {α β γ : Type} {R : α → β → Prop} {f : γ → α} {g : γ → α} {cells : List γ} {ys : List β}
    (h : Forall₂ R (cells.map f) ys) {cell : γ} (hcell : cell ∈ cells) :
    ∃ y, R (f cell) y ∧ (g cell, y) ∈ (cells.map g).zip ys := by
  induction cells generalizing ys with
  | nil => cases hcell
  | cons first rest ih =>
    rw [map_cons] at h
    cases h with
    | cons hfirst hrest =>
      rcases mem_cons.mp hcell with rfl | hcell
      · exact ⟨_, hfirst, mem_cons_self⟩
      · obtain ⟨y, hy, hmem⟩ := ih hrest hcell
        exact ⟨y, hy, mem_cons_of_mem _ hmem⟩

lemma kFaceTolerance_nonneg : (0 : F) ≤ kFaceTolerance := by
  rw [kFaceTolerance]
  positivity

/-- The envelope gives every sample the least of what all samples allow there, and feasible faces meet the target
of every focus that contains the centre of a cell. -/
theorem focus_sweeps (baseSpacing minimumSpacing : F) (focuses : List (IntervalTarget F)) :
    (∀ (sampleCentres : List F) (growthRatio : F), sampleCentres.Pairwise (· < ·) → 1 < growthRatio →
      fillSpacingEnvelope sampleCentres baseSpacing minimumSpacing growthRatio focuses =
        sampleCentres.map (envelopeSpacing sampleCentres baseSpacing minimumSpacing growthRatio focuses)) ∧
    ∀ (lower upper growthRatio : F) (coordinates cumulative : List F) (cellCount : ℕ) (faces : List F),
      buildFacesForCount lower upper baseSpacing minimumSpacing growthRatio focuses coordinates cumulative cellCount =
        some (.feasible, faces) →
      ∀ cell ∈ faceCells faces, ∀ focus ∈ focuses, FocusContains focus (1 / 2 * (cell.1 + cell.2)) →
        cell.2 - cell.1 ≤ focus.spacing * (1 + 16 * kFaceTolerance) := by
  refine ⟨fun sampleCentres growthRatio h hratio => fillSpacingEnvelope_eq h hratio _ _ _, ?_⟩
  intro lower upper growthRatio coordinates cumulative cellCount faces h cell hcell focus hfocus hcontains
  unfold buildFacesForCount at h
  split_ifs at h with hcount
  dsimp only at h
  generalize smoothFaces growthRatio 1024 (metricFaces lower upper coordinates cumulative cellCount) = built at h
  cases hwidths : checkWidths baseSpacing minimumSpacing (widths built) with
  | some result =>
    rw [hwidths] at h
    obtain ⟨rfl, -⟩ := Prod.mk.inj (Option.some.inj h)
    exact absurd hwidths checkWidths_ne_feasible
  | none =>
    rw [hwidths] at h
    dsimp only at h
    cases hratios : checkRatios growthRatio (widths built) with
    | some result =>
      rw [hratios] at h
      obtain ⟨rfl, -⟩ := Prod.mk.inj (Option.some.inj h)
      exact absurd hratios checkRatios_ne_feasible
    | none =>
      rw [hratios] at h
      obtain ⟨hfeasible, rfl⟩ := Prod.mk.inj (Option.some.inj h)
      have htops := activeTops_spec focuses (centres_ascending (checkWidths_pos hwidths))
      generalize activeTops focuses (centres built) = tops at htops hfeasible
      rw [centres_eq] at htops
      rw [widths_eq] at hfeasible
      obtain ⟨top, htop, hmem⟩ := exists_of_forall₂ htops hcell
      cases top with
      | none =>
        obtain ⟨id, hid⟩ := mem_orderedFocuses hfocus
        exact absurd hcontains.2 (not_le.mpr (htop _ hid hcontains.1))
      | some top =>
        have hwidth := checkFocuses_feasible hfeasible hmem
        have hle := top_le htop hfocus hcontains
        have htolerance : (0 : F) ≤ 1 + 16 * kFaceTolerance := by
          linarith [kFaceTolerance_nonneg (F := F)]
        exact hwidth.trans (mul_le_mul_of_nonneg_right hle htolerance)

end Faces

def sampleFocuses : List (IntervalTarget ℚ) := [⟨2, 4, 1⟩, ⟨0, 3, 2⟩]

theorem focus_sweeps_samples : fillSpacingEnvelope [1, 3, 9] 10 (1 / 2) (3 / 2) sampleFocuses =
      [1, 3, 9].map (envelopeSpacing [1, 3, 9] 10 (1 / 2) (3 / 2) sampleFocuses) :=
  (focus_sweeps 10 (1 / 2) sampleFocuses).1 [1, 3, 9] (3 / 2) (by decide +kernel) (by norm_num)

/-- The spacing is at least the minimum, at most what the base and the focuses ask for, and graded by the growth ratio. No other
graded spacing within the targets exceeds it. -/
theorem spacing_envelope_graded [IsStrictOrderedRing F] {sampleCentres : List F} (hsorted : sampleCentres.Pairwise (· < ·)) {growthRatio : F}
    (hratio : 1 < growthRatio) (baseSpacing minimumSpacing : F) (focuses : List (IntervalTarget F)) :
    ∃ spacing : F → F, fillSpacingEnvelope sampleCentres baseSpacing minimumSpacing growthRatio focuses = sampleCentres.map spacing ∧
      (∀ x, minimumSpacing ≤ spacing x ∧ spacing x ≤ max minimumSpacing baseSpacing) ∧
      (∀ x ∈ sampleCentres, ∀ focus ∈ focuses, FocusContains focus x → spacing x ≤ max minimumSpacing focus.spacing) ∧
      (∀ x y, |spacing x - spacing y| ≤ (growthRatio - 1) * |x - y|) ∧
      ∀ graded : F → F, (∀ x y, |graded x - graded y| ≤ (growthRatio - 1) * |x - y|) →
        (∀ x ∈ sampleCentres, graded x ≤ baseSpacing ∧ ∀ focus ∈ focuses, FocusContains focus x → graded x ≤ focus.spacing) →
          ∀ x ∈ sampleCentres, graded x ≤ spacing x := by
  set rate := growthRatio - 1 with hrate
  have hnonneg : 0 ≤ rate := (sub_pos.mpr hratio).le
  let least (x : F) : F := leastOf baseSpacing (sampleCentres.map fun y => focusTarget baseSpacing focuses y + rate * |x - y|)
  have hleast : ∀ x c, c ≤ least x ↔ c ≤ baseSpacing ∧ ∀ y ∈ sampleCentres, c ≤ focusTarget baseSpacing focuses y + rate * |x - y| := by
    intro x c
    rw [le_leastOf, forall_mem_map]
  have hstep : ∀ x y, least x ≤ least y + rate * |x - y| := by
    intro x y
    obtain ⟨hbase, hsamples⟩ := (hleast x _).mp le_rfl
    rw [← sub_le_iff_le_add, hleast]
    refine ⟨(sub_le_self _ (mul_nonneg hnonneg (abs_nonneg _))).trans hbase, fun z hz => ?_⟩
    have htriangle := mul_le_mul_of_nonneg_left (abs_sub_le x y z) hnonneg
    have hsample := hsamples z hz
    linarith
  have hmax : ∀ x y, max minimumSpacing (least x) ≤ max minimumSpacing (least y) + rate * |x - y| := by
    intro x y
    have hdistance := mul_nonneg hnonneg (abs_nonneg (x - y))
    refine max_le ?_ ((hstep x y).trans (by gcongr; exact le_max_right _ _))
    exact (le_max_left _ _).trans (le_add_of_nonneg_right hdistance)
  refine ⟨fun x => max minimumSpacing (least x), fillSpacingEnvelope_eq hsorted hratio _ _ _, fun x => ?_, fun x hx focus hfocus hin => ?_,
    fun x y => ?_, fun graded hgraded htargets x hx => ?_⟩
  · exact ⟨le_max_left _ _, max_le_max_left _ ((hleast x _).mp le_rfl).1⟩
  · have htarget : focusTarget baseSpacing focuses x ≤ focus.spacing := by
      refine ((le_leastOf).mp le_rfl).2 _ (mem_map.mpr ⟨focus, mem_filter.mpr ⟨hfocus, ?_⟩, rfl⟩)
      exact decide_eq_true hin
    have hself := ((hleast x _).mp le_rfl).2 x hx
    rw [sub_self, abs_zero, mul_zero, add_zero] at hself
    exact max_le_max_left _ (hself.trans htarget)
  · have hback := hmax y x
    rw [abs_sub_comm y x] at hback
    exact abs_sub_le_iff.mpr ⟨sub_le_iff_le_add'.mpr (hmax x y), sub_le_iff_le_add'.mpr hback⟩
  · refine le_max_of_le_right ((hleast x _).mpr ⟨(htargets x hx).1, fun y hy => ?_⟩)
    have htarget : graded y ≤ focusTarget baseSpacing focuses y := by
      refine (le_leastOf).mpr ⟨(htargets y hy).1, fun spacing hspacing => ?_⟩
      obtain ⟨focus, hfocus, rfl⟩ := mem_map.mp hspacing
      obtain ⟨hfocus, hin⟩ := mem_filter.mp hfocus
      exact (htargets y hy).2 focus hfocus (of_decide_eq_true hin)
    have hclose := (abs_le.mp (hgraded x y)).2
    linarith

theorem spacing_envelope_graded_samples : ∃ spacing : ℚ → ℚ,
    fillSpacingEnvelope [1, 3, 9] 10 (1 / 2) (3 / 2) sampleFocuses = [1, 3, 9].map spacing ∧
      ∀ x y, |spacing x - spacing y| ≤ (3 / 2 - 1) * |x - y| := by
  have hsorted : [1, 3, (9 : ℚ)].Pairwise (· < ·) := by decide +kernel
  obtain ⟨spacing, hspacing, -, -, hgraded, -⟩ := spacing_envelope_graded hsorted (by norm_num : (1 : ℚ) < 3 / 2) 10 (1 / 2)
    sampleFocuses
  exact ⟨spacing, hspacing, hgraded⟩

end HundunFlow.Proofs
