import HundunFlow.Lib.Boxes
import HundunFlow.Lib.Folding
import HundunFlow.LegacyFrame
import HundunFlow.Proofs.TopologyRegions

/-!
# The planes of a legacy frame

The boxes of a partition that agree on the other axes meet in pairs, so every message finds its
receiver and fits, and a plane is put together from its pieces.
-/

namespace HundunFlow.Proofs

section Boxes

open Lib MgWorkspace LegacyFrame List Option Bool
open EBTopology (boxIndices addIndex subIndex)

section LastRank

variable {boxes : List Box} {p : Box → Bool}

lemma lastRank_some {r : ℕ} (h : lastRank boxes p = some r) : ∃ other, boxes[r]? = some other ∧ p other = true := by
  refine foldl_rule (I := fun _ found => ∀ r, found = some r → ∃ other, boxes[r]? = some other ∧ p other = true)
    (by simp) ?_ r h
  intro seen r found _ hfound k hk
  cases hbox : boxes[r]? with
  | none =>
    rw [hbox] at hk
    exact hfound k hk
  | some other =>
    simp only [hbox] at hk
    by_cases hp : p other = true
    · rw [if_pos hp] at hk
      obtain rfl := some.inj hk
      exact ⟨other, hbox, hp⟩
    · rw [if_neg hp] at hk
      exact hfound k hk

lemma lastRank_ne_none {r : ℕ} {other : Box} (hbox : boxes[r]? = some other) (hp : p other = true) : lastRank boxes p ≠ none := by
  refine foldl_rule (I := fun seen found => r ∈ seen → found ≠ none) (by simp) ?_ (mem_range.mpr ?_)
  · intro seen k found _ hfound hmem
    rcases mem_append.mp hmem with hold | hnew
    · cases hk : boxes[k]? with
      | none => exact hfound hold
      | some b =>
        simp only
        by_cases hb : p b = true
        · rw [if_pos hb]
          exact some_ne_none k
        · rw [if_neg hb]
          exact hfound hold
    · obtain rfl := mem_singleton.mp hnew
      simp only [hbox, hp, if_true]
      exact some_ne_none r
  · obtain ⟨hlt, -⟩ := List.getElem?_eq_some_iff.mp hbox
    exact hlt

end LastRank

variable {D : Type} {n : ℕ} {globalCells : Int3} {input : Fin n → LegacyInput D}

structure LegacyPatches (globalCells : Int3) (input : Fin n → LegacyInput D) : Prop where
  globalCells_eq : ∀ i, (input i).globalCells = globalCells
  nonempty : ∀ i axis, 0 < component (input i).patch.cells axis
  partition : Partitions {cell | InBox globalCells cell} fun i => {cell | Contains (input i).patch cell}

/-- Rank `j` lies behind rank `i` on an axis, with the same extents on the others. -/
structure Behind (axis : Axis) (patch behind : MeshPatch) : Prop where
  begin_ : ∀ a, a ≠ axis → component behind.begin a = component patch.begin a
  cells : ∀ a, a ≠ axis → component behind.cells a = component patch.cells a
  meets : component patch.begin axis + component patch.cells axis = component behind.begin axis

def boxesOf (input : Fin n → LegacyInput D) : List Box := ofFn fun j => (input j).own

variable {axis : Axis} {r : ℕ}

lemma aligned_iff {own other : Box} : LegacyFrame.aligned own other axis = true ↔
    ∀ a, a ≠ axis → component other.1 a = component own.1 a ∧ component other.2 a = component own.2 a := by
  simp only [LegacyFrame.aligned, axes, all_cons, all_nil, Bool.and_true, and_eq_true, or_eq_true, decide_eq_true_eq]
  constructor
  · rintro ⟨hx, hy, hz⟩ a ha
    cases a
    · exact hx.resolve_left ha
    · exact hy.resolve_left ha
    · exact hz.resolve_left ha
  · intro h
    exact ⟨or_iff_not_imp_left.mpr (h .x), or_iff_not_imp_left.mpr (h .y), or_iff_not_imp_left.mpr (h .z)⟩

lemma boxesOf_get {other : Box} : (boxesOf input)[r]? = some other ↔ ∃ j : Fin n, (j : ℕ) = r ∧ (input j).own = other := by
  rw [boxesOf, List.getElem?_ofFn]
  constructor
  · intro h
    split_ifs at h with hr
    exact ⟨⟨r, hr⟩, rfl, some.inj h⟩
  · rintro ⟨j, rfl, rfl⟩
    simp [j.isLt]

lemma highRank_some {i : Fin n} (h : highRank (input i).own (boxesOf input) axis = some r) :
    ∃ j : Fin n, (j : ℕ) = r ∧ Behind axis (input i).patch (input j).patch := by
  obtain ⟨other, hbox, hp⟩ := lastRank_some h
  obtain ⟨j, hj, rfl⟩ := boxesOf_get.mp hbox
  simp only [and_eq_true, decide_eq_true_eq, aligned_iff] at hp
  exact ⟨j, hj, fun a ha => (hp.1 a ha).1, fun a ha => (hp.1 a ha).2, hp.2⟩

lemma lowRank_some {j : Fin n} (h : lowRank (input j).own (boxesOf input) axis = some r) :
    ∃ i : Fin n, (i : ℕ) = r ∧ Behind axis (input i).patch (input j).patch := by
  obtain ⟨other, hbox, hp⟩ := lastRank_some h
  obtain ⟨i, hi, rfl⟩ := boxesOf_get.mp hbox
  simp only [and_eq_true, decide_eq_true_eq, aligned_iff] at hp
  exact ⟨i, hi, fun a ha => (hp.1 a ha).1.symm, fun a ha => (hp.1 a ha).2.symm, hp.2⟩

variable (patches : LegacyPatches globalCells input)

include patches

lemma Behind.unique_before {i k j : Fin n} (hi : Behind axis (input i).patch (input j).patch)
    (hk : Behind axis (input k).patch (input j).patch) : i = k := by
  have hlast : ∀ {l : Fin n}, Behind axis (input l).patch (input j).patch →
      setComponent (input j).patch.begin axis (component (input j).patch.begin axis - 1) ∈ {cell | Contains (input l).patch cell} := by
    intro l hl
    refine contains_iff_axes.mpr fun a => ?_
    have hpos := patches.nonempty l a
    rw [component_setComponent, patchEnd]
    by_cases ha : axis = a
    · subst ha
      have hmeets := hl.meets
      rw [if_pos rfl]
      omega
    · have hbegin := hl.begin_ a (Ne.symm ha)
      rw [if_neg ha]
      omega
  exact patches.partition.unique (hlast hi) (hlast hk)

lemma lowRank_of_behind {i j : Fin n} (h : Behind axis (input i).patch (input j).patch) :
    lowRank (input j).own (boxesOf input) axis = some (i : ℕ) := by
  have hp : (LegacyFrame.aligned (input j).own (input i).own axis &&
      decide (component (input i).own.1 axis + component (input i).own.2 axis = component (input j).own.1 axis)) = true := by
    rw [and_eq_true, decide_eq_true_eq, aligned_iff]
    exact ⟨fun a ha => ⟨(h.begin_ a ha).symm, (h.cells a ha).symm⟩, h.meets⟩
  cases hlow : lowRank (input j).own (boxesOf input) axis with
  | none => exact absurd hlow (lastRank_ne_none (boxesOf_get.mpr ⟨i, rfl, rfl⟩) hp)
  | some r =>
    obtain ⟨k, rfl, hk⟩ := lowRank_some hlow
    rw [Behind.unique_before patches hk h]

omit patches in
lemma exists_behind (i : Fin n) (axis : Axis) : ∃ high : Option (Fin n),
    highRank (input i).own (boxesOf input) axis = high.map Fin.val ∧
      ∀ j, high = some j → Behind axis (input i).patch (input j).patch := by
  cases hhigh : highRank (input i).own (boxesOf input) axis with
  | none => exact ⟨none, rfl, nofun⟩
  | some r =>
    obtain ⟨j, rfl, hj⟩ := highRank_some hhigh
    exact ⟨some j, rfl, fun k hk => some.inj hk ▸ hj⟩

end Boxes

open Lib MgWorkspace LegacyFrame List
open EBTopology (boxIndices addIndex subIndex)

section Collectives

variable {D : Type} {n : ℕ} (hn : 0 < n)

lemma together_stage (s : Fin n → Status) :
    Network.Together (legacyNetwork (D := D) hn) (fun i => collectiveStage (s i)) (∀ i, (s i).isOk = true)
      (fun status => status.isOk = false) fun _ => () := by
  have hrun : (legacyNetwork (D := D) hn).Run (fun i => collectiveStage (s i)) [.stage]
      fun _ => if (agreed s).1.isOk then .ok () else .failed (agreed s).1 :=
    .call _ _ _ _ _ (fun _ => rfl) (.done _)
  refine ⟨_, _, hrun, fun hok => ?_, fun hnot => ?_⟩
  · rw [if_pos (agreed_isOk_iff.mpr hok)]
  · have hbad : ¬ (agreed s).1.isOk = true := fun h => hnot (agreed_isOk_iff.mp h)
    exact ⟨(agreed s).1, Bool.eq_false_of_not_eq_true hbad, by rw [if_neg hbad]⟩

lemma run_allgather (input : Fin n → LegacyInput D) :
    (legacyNetwork hn).Run (fun i => allgather (D := D) (input i).own) [.allgather] fun _ => .ok (boxesOf input) :=
  .call _ _ _ _ _ (fun _ => rfl) (.done _)

lemma run_allreduceMax (count : Fin n → ℕ) :
    (legacyNetwork hn).Run (fun i => LegacyFrame.allreduceMax (D := D) (count i)) [.allreduceMax]
      fun _ => .ok (rankMax hn count) :=
  .call _ _ _ _ _ (fun _ => rfl) (.done _)

def chunk (l : List D) (offset : ℕ) : List D := (l.drop (min offset l.length)).take (min (l.length - min offset l.length) intMax)

lemma chunk_eq (l : List D) (offset : ℕ) : chunk l offset = (l.drop offset).take intMax := by
  unfold chunk
  rcases le_or_gt l.length offset with h | h
  · rw [min_eq_right h, drop_length, drop_eq_nil_of_le h, take_nil, take_nil]
  · rw [min_eq_left h.le, take_eq_take_iff, length_drop]
    omega

lemma flatMap_chunks (l : List D) {maximum : ℕ} (h : l.length ≤ maximum) : (chunkOffsets maximum).flatMap (chunk l) = l := by
  have hpieces : ∀ k, ((range k).map (· * intMax)).flatMap (chunk l) = l.take (k * intMax) := by
    intro k
    induction k with
    | zero => simp
    | succ k ih =>
      rw [range_succ, map_append, flatMap_append, ih, map_singleton, flatMap_singleton, chunk_eq,
        Nat.succ_mul, take_add]
  rw [chunkOffsets, hpieces]
  apply take_of_length_le
  have hlimit : intMax = 2147483647 := rfl
  rw [hlimit]
  omega

lemma run_exchangeChunks (tag : ℕ) {low high : Fin n → Option (Fin n)} (hpair : ∀ i j, high i = some j → low j = some i)
    {send : Fin n → List D} (hlength : ∀ i j, high i = some j → (send j).length = (send i).length) (offsets : List ℕ)
    (received : Fin n → List D) : ∃ t, (legacyNetwork hn).Run (fun i => LegacyInput.exchangeChunks tag ((low i).map Fin.val)
      ((high i).map Fin.val) (send i) offsets (received i)) t
        fun i => .ok (received i ++ offsets.flatMap fun offset => (high i).elim [] fun j => chunk (send j) offset) := by
  induction offsets generalizing received with
  | nil => exact ⟨[], by simpa [LegacyInput.exchangeChunks] using Network.Run.done _⟩
  | cons offset offsets ih =>
    obtain ⟨t, hrest⟩ := ih fun i => received i ++ (high i).elim [] fun j => chunk (send j) offset
    have hmessage : (legacyNetwork hn).Run (fun i => LegacyFrame.sendrecv ⟨chunk (send i) offset, (low i).map Fin.val,
        (high i).map Fin.val, min ((send i).length - min offset (send i).length) intMax, tag⟩) [.sendrecv tag, .stage]
          fun i => .ok ((high i).elim [] fun j => chunk (send j) offset) := by
      refine .call _ _ _ _ _ (fun _ => rfl) ?_
      have hreply : ∀ i, (legacyNetwork hn).reply (fun i => .sendrecv ⟨chunk (send i) offset, (low i).map Fin.val,
          (high i).map Fin.val, min ((send i).length - min offset (send i).length) intMax, tag⟩) i =
            .words ((high i).elim [] fun j => chunk (send j) offset) := by
        intro i
        cases hi : high i with
        | none => simp [legacyNetwork, hi]
        | some j =>
          have hroom : (chunk (send j) offset).length ≤ min ((send i).length - min offset (send i).length) intMax := by
            rw [chunk, length_take, length_drop, hlength i j hi]
            exact min_le_left _ _
          simp [legacyNetwork, hi, LegacyRequest.sendTo, hpair i j hi, hroom]
      simp only [hreply]
      refine .call _ _ _ _ _ (fun _ => rfl) ?_
      have hagreed : (agreed fun _ : Fin n => ({} : Status)).1.isOk = true := agreed_isOk_iff.mpr fun _ => rfl
      simp only [legacyNetwork, LegacyRequest.status, hagreed, if_true]
      exact .done _
    refine ⟨[.sendrecv tag, .stage] ++ t, ?_⟩
    have hchain := hmessage.andThen_ok (f := fun i words => LegacyInput.exchangeChunks tag ((low i).map Fin.val)
      ((high i).map Fin.val) (send i) offsets (received i ++ words)) hrest
    simp only [flatMap_cons, ← append_assoc]
    exact hchain

end Collectives

variable {D : Type}

variable {point : Int3}

lemma foldl_setValue {stores : List ((Int3 × ℕ) × D)} {values : Values D} {c : ℕ} (value : D)
    (hagree : ∀ e ∈ stores, e.1 = (point, c) → e.2 = value) :
    stores.foldl (fun values e => setValue values e.1.1 e.1.2 e.2) values point c =
      if (point, c) ∈ stores.map Prod.fst then value else values point c := by
  induction stores generalizing values with
  | nil => simp
  | cons e stores ih =>
    rw [foldl_cons, ih fun e' he' => hagree e' (mem_cons_of_mem e he'), setValue]
    by_cases hlater : (point, c) ∈ stores.map Prod.fst
    · rw [if_pos hlater, if_pos (by rw [map_cons]; exact mem_cons_of_mem _ hlater)]
    · rw [if_neg hlater]
      by_cases he : e.1 = (point, c)
      · have hvalue := hagree e mem_cons_self he
        rw [if_pos (by rw [he]; exact ⟨rfl, rfl⟩), hvalue, if_pos (by rw [map_cons, he]; exact mem_cons_self)]
      · have hne : ¬ (point = e.1.1 ∧ c = e.1.2) := fun h => he (Prod.ext h.1.symm h.2.symm)
        have hout : (point, c) ∉ (e :: stores).map Prod.fst := by
          rw [map_cons, mem_cons, not_or]
          exact ⟨fun h => he h.symm, hlater⟩
        rw [if_neg hne, if_neg hout]

lemma mem_slots {points : List Int3} {components : ℕ} {c : ℕ} :
    (point, c) ∈ slots points components ↔ point ∈ points ∧ c < components := by
  simp only [slots, mem_flatMap, mem_map, mem_range, Prod.mk.injEq]
  constructor
  · rintro ⟨p, hp, d, hd, rfl, rfl⟩
    exact ⟨hp, hd⟩
  · rintro ⟨hp, hc⟩
    exact ⟨point, hp, c, hc, rfl, rfl⟩

lemma slots_map (f : Int3 → Int3) (points : List Int3) (components : ℕ) :
    slots (points.map f) components = (slots points components).map fun slot => (f slot.1, slot.2) := by
  simp only [slots, flatMap_map, map_flatMap, map_map, Function.comp_def]

lemma mem_planePoints {dims : Int3} {axis : Axis} {plane : ℤ} : point ∈ planePoints dims axis plane ↔
    component point axis = plane ∧ ∀ a, a ≠ axis → 0 ≤ component point a ∧ component point a < component dims a := by
  rw [planePoints, mem_map]
  constructor
  · rintro ⟨p, hp, rfl⟩
    refine ⟨by rw [component_setComponent, if_pos rfl], fun a ha => ?_⟩
    have hin := mem_boxIndices.mp hp a
    rw [component_setComponent, if_neg (Ne.symm ha)] at hin ⊢
    exact hin
  · rintro ⟨rfl, h⟩
    refine ⟨setComponent point axis 0, mem_boxIndices.mpr fun a => ?_, ?_⟩
    · rw [component_setComponent, component_setComponent]
      by_cases ha : axis = a
      · rw [if_pos ha, if_pos ha]
        omega
      · rw [if_neg ha, if_neg ha]
        exact h a (Ne.symm ha)
    · apply int3_ext
      intro a
      rw [component_setComponent, component_setComponent]
      by_cases ha : axis = a
      · rw [if_pos ha, ha]
      · rw [if_neg ha, if_neg ha]

variable {input other : LegacyInput D} {axis : Axis}

lemma storePlane_spec (hdims : setComponent other.dims axis 1 = setComponent input.dims axis 1)
    (hcompon : other.components = input.components) (values sentValues : Values D) (point : Int3) (c : ℕ) :
    input.storePlane axis (other.sent axis sentValues) values point c =
      if point ∈ planePoints input.dims axis (component input.dims axis - 1) ∧ c < input.components then
        sentValues (setComponent point axis 0) c
      else values point c := by
  have hzip : (slots (planePoints input.dims axis (component input.dims axis - 1)) input.components).zip (other.sent axis sentValues) =
      (slots (boxIndices (setComponent input.dims axis 1)) input.components).map fun slot =>
        ((setComponent slot.1 axis (component input.dims axis - 1), slot.2), sentValues (setComponent slot.1 axis 0) slot.2) := by
    rw [LegacyInput.sent, planePoints, planePoints, hdims, hcompon, slots_map, slots_map, map_map, zip_map']
    rfl
  rw [LegacyInput.storePlane, hzip, foldl_setValue (sentValues (setComponent point axis 0) c) ?_]
  · have hmem : (point, c) ∈ ((slots (boxIndices (setComponent input.dims axis 1)) input.components).map fun slot =>
        ((setComponent slot.1 axis (component input.dims axis - 1), slot.2), sentValues (setComponent slot.1 axis 0) slot.2)).map Prod.fst ↔
        point ∈ planePoints input.dims axis (component input.dims axis - 1) ∧ c < input.components := by
      rw [← mem_slots, planePoints, slots_map, map_map]
      rfl
    rw [if_congr hmem rfl rfl]
  · intro e he heq
    obtain ⟨slot, -, rfl⟩ := mem_map.mp he
    obtain ⟨rfl, rfl⟩ := Prod.mk.inj heq
    simp only
    congr 1
    apply int3_ext
    intro a
    simp only [component_setComponent]
    split_ifs <;> rfl

end HundunFlow.Proofs
