import HundunFlow.Proofs.ParcelRows

/-!
# The parcel container refines the transactional map

Every call on the container does to its rows what the call on `TransactionalParcelMap` does
to the finite map, with the same status, and so does every sequence of calls.
-/

namespace HundunFlow

open Bool

/-- Equal lengths and strictly increasing identities. -/
structure ParcelSoASnapshot.Ordered {F : Type} (arrays : ParcelSoASnapshot F) : Prop where
  consistent : arrays.consistent = true
  increasing : ∀ i j, i < j → j < arrays.size → arrays.idAt i < arrays.idAt j

namespace Proofs

open Lib

variable {F : Type} [SprayReal F]

section Snapshot

variable {arrays : ParcelSoASnapshot F}

variable {id : ParcelId}

lemma ordered_iff_ascending :
    (∀ i j, i < j → j < arrays.size → arrays.idAt i < arrays.idAt j) ↔ Ascending arrays.rows := by
  rw [Ascending, List.keys, List.pairwise_map, List.pairwise_iff_getElem]
  simp only [length_rows, getElem_rows]
  exact ⟨fun h i j _ hj hij => h i j hij hj, fun h i j hij hj => h i j (hij.trans hj) hj hij⟩

omit [SprayReal F] in
lemma ordered_empty : ({} : ParcelSoASnapshot F).Ordered :=
  ⟨rfl, fun _ _ _ hj => absurd hj (Nat.not_lt_zero _)⟩

lemma ordered_resize_zero : (arrays.resizeArrays 0).Ordered :=
  ⟨consistent_resizeArrays _ _, fun _ _ _ hj => absurd hj (by simp)⟩

lemma map_of_size_zero (h : arrays.size = 0) : arrays.map = ∅ := by
  rw [ParcelSoASnapshot.map, ParcelSoASnapshot.rows, h]
  rfl

omit [SprayReal F] in
lemma lowerBoundLoop_eq (id : ParcelId) (fuel first count : ℕ) : arrays.lowerBoundLoop id fuel first count =
      lowerBound (fun i => (arrays.idAt i).less id) fuel first count := by
  induction fuel generalizing first count with
  | zero => rfl
  | succ fuel ih =>
    rw [ParcelSoASnapshot.lowerBoundLoop, lowerBound]
    simp only [ih]

lemma ordered_ascending (h : arrays.Ordered) : Ascending arrays.rows := ordered_iff_ascending.mp h.increasing

lemma ordered_card (h : arrays.Ordered) : arrays.map.keys.card = arrays.size := by
  rw [ParcelSoASnapshot.map, card_contents (ordered_ascending h), length_rows]

omit [SprayReal F] in
lemma ordered_le (h : arrays.Ordered) {i j : ℕ} (hij : i ≤ j) (hj : j < arrays.size) :
    arrays.idAt i ≤ arrays.idAt j := by
  rcases Nat.eq_or_lt_of_le hij with rfl | hlt
  · exact le_rfl
  · exact (h.increasing i j hlt hj).le

lemma ordered_placeOf (h : arrays.Ordered) (id : ParcelId) :
    PlaceOf arrays.rows id (arrays.lowerBoundIndex id) := by
  have hspec : IsLowerBound (fun i => (arrays.idAt i).less id) arrays.size (arrays.lowerBoundIndex id) := by
    rw [ParcelSoASnapshot.lowerBoundIndex, lowerBoundLoop_eq]
    apply lowerBound_spec _ _ _ _ _ _ le_rfl (by omega)
    · intro i hi
      omega
    · intro i hi hn
      omega
    · intro i j hij hj hless
      rw [ParcelId.less_iff] at hless ⊢
      exact lt_of_le_of_lt (ordered_le h hij hj) hless
  refine ⟨by rw [length_rows]; exact hspec.le, fun i hi => ?_⟩
  rw [getElem_rows]
  rw [length_rows] at hi
  constructor
  · intro hlt
    by_contra hge
    have hfalse := hspec.above i (by omega) hi
    rw [← not_eq_true, ParcelId.less_iff] at hfalse
    exact hfalse hlt
  · intro hlt
    exact (ParcelId.less_iff _ _).mp (hspec.below i hlt)

lemma holds_iff (h : arrays.Ordered) (id : ParcelId) : arrays.holds id = true ↔ id ∈ arrays.map := by
  have hplace := ordered_placeOf h id
  have hle : arrays.lowerBoundIndex id ≤ arrays.size := by simpa using hplace.1
  rw [ParcelSoASnapshot.map, mem_contents, hplace.mem_iff (ordered_ascending h),
    ParcelSoASnapshot.holds, and_eq_true, decide_eq_true_eq, decide_eq_true_eq]
  simp only [length_rows, getElem_rows]
  constructor
  · rintro ⟨hne, hid⟩
    exact ⟨by omega, hid⟩
  · rintro ⟨hlt, hid⟩
    exact ⟨by omega, hid⟩

lemma holds_place (h : arrays.Ordered) (hid : arrays.holds id = true) :
    arrays.lowerBoundIndex id < arrays.size ∧ arrays.idAt (arrays.lowerBoundIndex id) = id := by
  have hle : arrays.lowerBoundIndex id ≤ arrays.size := by simpa using (ordered_placeOf h id).1
  rw [ParcelSoASnapshot.holds, and_eq_true, decide_eq_true_eq, decide_eq_true_eq] at hid
  exact ⟨by omega, hid.2⟩

lemma lookup_place (h : arrays.Ordered) (hid : arrays.holds id = true) :
    arrays.map.lookup id = some (arrays.row (arrays.lowerBoundIndex id)).2 := by
  obtain ⟨hlt, hat⟩ := holds_place h hid
  rw [ParcelSoASnapshot.map, lookup_contents (ordered_ascending h), List.mem_iff_getElem]
  refine ⟨arrays.lowerBoundIndex id, by rw [length_rows]; exact hlt, ?_⟩
  rw [getElem_rows]
  exact Sigma.ext hat HEq.rfl

/-- `arrays'` is sorted, has `size` entries and stands for `contents`. -/
structure Holds (arrays' : ParcelSoASnapshot F) (size : ℕ) (contents : ParcelMap F) : Prop where
  ordered : arrays'.Ordered
  size : arrays'.size = size
  map : arrays'.map = contents

lemma WritesRow.holds {arrays' : ParcelSoASnapshot F} {index : ℕ} {value : Σ _ : ParcelId, ParcelEntry F}
    (hw : WritesRow arrays arrays' index value) (h : arrays.Ordered) (hi : index < arrays.size)
    (hkey : arrays.idAt index = value.1) : Holds arrays' arrays.size (arrays.map.insert value.1 value.2) := by
  have hlength : index < arrays.rows.length := by rw [length_rows]; exact hi
  have hrow : arrays.rows[index].1 = value.1 := by rw [getElem_rows]; exact hkey
  refine ⟨⟨hw.consistent, ?_⟩, hw.size, ?_⟩
  · rw [ordered_iff_ascending, hw.rows]
    exact (ordered_ascending h).set hlength hrow
  · rw [ParcelSoASnapshot.map, hw.rows]
    exact contents_set (ordered_ascending h) hlength hrow

lemma add_holds (h : arrays.Ordered) {parcel : SprayParcelState F}
    (hnew : arrays.holds parcel.id = false) (deformation rate : F) :
    let insertion := arrays.lowerBoundIndex parcel.id
    let shifted := (arrays.resizeArrays (arrays.size + 1)).shiftUp insertion arrays.size
    Holds ((shifted.writeParcel insertion parcel).writeTabState insertion deformation rate)
      (arrays.size + 1) (arrays.map.insert parcel.id ⟨parcel, deformation, rate⟩) := by
  intro insertion shifted
  have hplace := ordered_placeOf h parcel.id
  have hkeys : parcel.id ∉ arrays.rows.keys := by
    rw [← mem_contents]
    intro hmem
    rw [(holds_iff h parcel.id).mpr hmem] at hnew
    exact Bool.noConfusion hnew
  obtain ⟨hconsis, hsize, hrows⟩ :=
    insert_rows h.consistent (by simpa using hplace.1) parcel deformation rate
  refine ⟨⟨hconsis, ?_⟩, hsize, ?_⟩
  · rw [ordered_iff_ascending, hrows]
    exact hplace.ascending_insertIdx (ordered_ascending h) hkeys
  · rw [ParcelSoASnapshot.map, hrows]
    exact hplace.contents_insertIdx (ordered_ascending h) hkeys

lemma remove_holds (h : arrays.Ordered) (hid : arrays.holds id = true) :
    let removal := arrays.lowerBoundIndex id
    Holds ((arrays.shiftDown (removal + 1) (arrays.size - (removal + 1))).resizeArrays (arrays.size - 1))
      (arrays.size - 1) (arrays.map.erase id) := by
  intro removal
  obtain ⟨hlt, hat⟩ := holds_place h hid
  have hlength : removal < arrays.rows.length := by rw [length_rows]; exact hlt
  have hrow : arrays.rows[removal].1 = id := by rw [getElem_rows]; exact hat
  obtain ⟨hconsis, hsize, hrows⟩ := erase_rows h.consistent hlt
  refine ⟨⟨hconsis, ?_⟩, hsize, ?_⟩
  · rw [ordered_iff_ascending, hrows]
    exact (ordered_ascending h).eraseIdx
  · rw [ParcelSoASnapshot.map, hrows]
    exact contents_eraseIdx (ordered_ascending h) hlength hrow

end Snapshot

end Proofs

variable {F : Type} [SprayReal F]

def ParcelContainer.abs (c : ParcelContainer F) : TransactionalParcelMap F where
  committed := c.committed.map
  limit := c.capacityLimit
  trial := if c.trialActive then some ⟨c.trial.map, c.trialFailure⟩ else none

def ParcelOp.runMap (m : TransactionalParcelMap F) : ParcelOp F → TransactionalParcelMap F × Status
  | .reserve maximumParcels memory _ _ => m.reserve maximumParcels memory
  | .beginTrial => m.beginTrial
  | .stageAdd parcel => m.stage (TransactionalParcelMap.add m.limit parcel)
  | .stageUpdate parcel => m.stage (TransactionalParcelMap.update parcel)
  | .stageTabState id deformation rate => m.stage (TransactionalParcelMap.tabState id deformation rate)
  | .stageRemove id => m.stage (TransactionalParcelMap.remove id)
  | .commitTrial => m.commitTrial
  | .rollbackTrial => m.rollbackTrial
  | .restoreCommitted snapshot =>
    m.restoreCommitted (if snapshot.validOrderedSnapshot then some snapshot.map else none)

omit [SprayReal F] in
structure ParcelContainer.Sound (c : ParcelContainer F) : Prop where
  committed : c.committed.Ordered
  trial : c.trial.Ordered
  committedSize : c.committed.size ≤ c.capacityLimit
  trialSize : c.trial.size ≤ c.capacityLimit
  committedCapacity : c.capacityLimit ≤ c.committedCapacity
  trialCapacity : c.capacityLimit ≤ c.trialCapacity
  idle : c.trialActive = false → c.trial.size = 0 ∧ c.trialFailure = {}

namespace Proofs

open Lib

variable {c : ParcelContainer F}

variable {edit : ParcelMap F → Except Status (ParcelMap F)} {arrays snapshot : ParcelSoASnapshot F}

omit [SprayReal F] in
lemma initial_sound : ({} : ParcelContainer F).Sound where
  committed := ordered_empty
  trial := ordered_empty
  committedSize := le_rfl
  trialSize := le_rfl
  committedCapacity := le_rfl
  trialCapacity := le_rfl
  idle := fun _ => ⟨rfl, rfl⟩

structure Refines (r : ParcelContainer F × Status) (a : TransactionalParcelMap F × Status) : Prop where
  sound : r.1.Sound
  state : r.1.abs = a.1
  status : r.2 = a.2

lemma refines_refused (hs : c.Sound) (status : Status) : Refines (c, status) (c.abs, status) :=
  ⟨hs, rfl, rfl⟩

lemma abs_trial_active (h : c.trialActive = true) : c.abs.trial = some ⟨c.trial.map, c.trialFailure⟩ := by
  rw [ParcelContainer.abs, h]
  rfl

lemma abs_trial_idle (h : c.trialActive = false) : c.abs.trial = none := by
  rw [ParcelContainer.abs, h]
  rfl

omit [SprayReal F] in
lemma latch_eq (h : c.trialFailure.isOk = true) (status : Status) :
    c.latch status = ({ c with trialFailure := status }, status) := by
  simp [ParcelContainer.latch, h]

lemma refines_latch (hs : c.Sound) (ha : c.trialActive = true) (hok : c.trialFailure.isOk = true) {status : Status}
    (hedit : edit c.trial.map = .error status) : Refines (c.latch status) (c.abs.stage edit) := by
  rw [latch_eq hok, TransactionalParcelMap.stage, abs_trial_active ha]
  simp only [hok, hedit, Bool.not_true, false_eq_true, if_false]
  refine ⟨{ hs with idle := fun hidle => ?_ }, ?_, rfl⟩
  · simp only [ha, true_eq_false] at hidle
  · simp only [ParcelContainer.abs, ha, if_true]

lemma refines_edit (hs : c.Sound) (ha : c.trialActive = true) (hok : c.trialFailure.isOk = true)
    {contents : ParcelMap F} {size : ℕ} (hedit : edit c.trial.map = .ok contents)
    (harrays : Holds arrays size contents) (hsize : size ≤ c.capacityLimit) :
    Refines ({ c with trial := arrays }, {}) (c.abs.stage edit) := by
  rw [TransactionalParcelMap.stage, abs_trial_active ha]
  simp only [hok, hedit, Bool.not_true, false_eq_true, if_false]
  refine ⟨{ hs with trial := harrays.ordered, trialSize := ?_, idle := fun hidle => ?_ }, ?_, rfl⟩
  · exact harrays.size ▸ hsize
  · simp only [ha, true_eq_false] at hidle
  · simp only [ParcelContainer.abs, ha, if_true, harrays.map]

lemma refines_staging (hs : c.Sound) (edit : ParcelMap F → Except Status (ParcelMap F))
    (r : ParcelContainer F × Status)
    (h : c.trialActive = true → c.trialFailure.isOk = true → Refines r (c.abs.stage edit)) : Refines
      (if !c.trialActive then (c, parcelFailure .rejectedStep .trialNotActive)
        else if !c.trialFailure.isOk then (c, c.trialFailure) else r)
      (c.abs.stage edit) := by
  by_cases ha : c.trialActive = true
  · by_cases hok : c.trialFailure.isOk = true
    · simp only [ha, hok, Bool.not_true, false_eq_true, if_false]
      exact h ha hok
    · rw [TransactionalParcelMap.stage, abs_trial_active ha]
      simp only [ha, Bool.not_true, false_eq_true, if_false, hok, Bool.not_false, if_true]
      exact refines_refused hs _
  · rw [not_eq_true] at ha
    rw [TransactionalParcelMap.stage, abs_trial_idle ha]
    simp only [ha, Bool.not_false, if_true]
    exact refines_refused hs _

theorem stageAdd_refines (hs : c.Sound) (parcel : SprayParcelState F) :
    Refines (c.stageAdd parcel) (ParcelOp.runMap c.abs (.stageAdd parcel)) := by
  apply refines_staging hs
  intro ha hok
  have hcard := ordered_card hs.trial
  by_cases hvalid : validateParcelState parcel = true
  · rw [if_neg (by simp [hvalid])]
    by_cases hid : c.trial.holds parcel.id = true
    · have hmem := (holds_iff hs.trial _).mp hid
      rw [if_pos hid]
      apply refines_latch hs ha hok
      simp [TransactionalParcelMap.add, hvalid, hmem]
    · have hmem : parcel.id ∉ c.trial.map := fun h => hid ((holds_iff hs.trial _).mpr h)
      rw [if_neg hid]
      by_cases hfull : c.capacityLimit ≤ c.trial.size
      · rw [if_pos (by simp [hfull])]
        apply refines_latch hs ha hok
        simp [TransactionalParcelMap.add, hvalid, hmem, hcard, hfull, ParcelContainer.abs]
      · have hroom : ¬ c.trialCapacity < c.trial.size + 1 := by
          have hcapacity := hs.trialCapacity
          omega
        rw [if_neg (by simp [hfull, hroom])]
        apply refines_edit hs ha hok _ (add_holds hs.trial (by simpa using hid) _ _) (by omega)
        simp [TransactionalParcelMap.add, hvalid, hmem, hcard, hfull, ParcelContainer.abs]
  · rw [if_pos (by simp [hvalid])]
    apply refines_latch hs ha hok
    simp [TransactionalParcelMap.add, hvalid]

lemma refines_editEntry (hs : c.Sound) (ha : c.trialActive = true) (hok : c.trialFailure.isOk = true)
    {id : ParcelId}
    (change : ParcelEntry F → ParcelEntry F)
    (hedit : edit c.trial.map = TransactionalParcelMap.editEntry id change c.trial.map)
    (hwrite : c.trial.holds id = true → WritesRow c.trial arrays (c.trial.lowerBoundIndex id)
      ⟨id, change (c.trial.row (c.trial.lowerBoundIndex id)).2⟩) :
    Refines
      (if !c.trial.holds id then c.latch (parcelFailure .invalidCase .parcelNotFound)
        else ({ c with trial := arrays }, {}))
      (c.abs.stage edit) := by
  by_cases hid : c.trial.holds id = true
  · obtain ⟨hlt, hat⟩ := holds_place hs.trial hid
    rw [if_neg (by simp [hid])]
    apply refines_edit hs ha hok _ ((hwrite hid).holds hs.trial hlt hat) hs.trialSize
    rw [hedit, TransactionalParcelMap.editEntry, lookup_place hs.trial hid]
  · have hmem : id ∉ c.trial.map := fun h => hid ((holds_iff hs.trial _).mpr h)
    rw [if_pos (by simp [hid])]
    apply refines_latch hs ha hok
    rw [hedit, TransactionalParcelMap.editEntry, Finmap.lookup_eq_none.mpr hmem]

theorem stageUpdate_refines (hs : c.Sound) (parcel : SprayParcelState F) :
    Refines (c.stageUpdate parcel) (ParcelOp.runMap c.abs (.stageUpdate parcel)) := by
  apply refines_staging hs
  intro ha hok
  by_cases hvalid : validateParcelState parcel = true
  · rw [if_neg (by simp [hvalid])]
    apply refines_editEntry hs ha hok fun entry => { entry with parcel := parcel }
    · simp only [TransactionalParcelMap.update, hvalid, Bool.not_true, false_eq_true, if_false]
    · intro hid
      exact writeParcel_writes hs.trial.consistent (holds_place hs.trial hid).1 parcel
  · rw [if_pos (by simp [hvalid])]
    apply refines_latch hs ha hok
    simp [TransactionalParcelMap.update, hvalid]

theorem stageTabState_refines (hs : c.Sound) (id : ParcelId) (deformation rate : F) :
    Refines (c.stageTabState id deformation rate)
      (ParcelOp.runMap c.abs (.stageTabState id deformation rate)) := by
  apply refines_staging hs
  intro ha hok
  by_cases hvalid : (!validId id || !SprayReal.isFinite deformation || !SprayReal.isFinite rate) = true
  · rw [if_pos hvalid]
    apply refines_latch hs ha hok
    rw [TransactionalParcelMap.tabState, if_pos hvalid]
  · rw [if_neg hvalid]
    apply refines_editEntry hs ha hok fun entry => ⟨entry.parcel, deformation, rate⟩
    · rw [TransactionalParcelMap.tabState, if_neg hvalid]
    · intro hid
      obtain ⟨hlt, hat⟩ := holds_place hs.trial hid
      have hwrite := writeTabState_writes hs.trial.consistent hlt deformation rate
      rw [show (c.trial.row (c.trial.lowerBoundIndex id)).1 = id from hat] at hwrite
      exact hwrite

theorem stageRemove_refines (hs : c.Sound) (id : ParcelId) :
    Refines (c.stageRemove id) (ParcelOp.runMap c.abs (.stageRemove id)) := by
  apply refines_staging hs
  intro ha hok
  by_cases hvalid : validId id = true
  · rw [if_neg (by simp [hvalid])]
    by_cases hid : c.trial.holds id = true
    · have hmem := (holds_iff hs.trial _).mp hid
      have hsize := hs.trialSize
      rw [if_neg (by simp [hid])]
      apply refines_edit hs ha hok _ (remove_holds hs.trial hid) (by omega)
      simp [TransactionalParcelMap.remove, hvalid, hmem]
    · have hmem : id ∉ c.trial.map := fun h => hid ((holds_iff hs.trial _).mpr h)
      rw [if_pos (by simp [hid])]
      apply refines_latch hs ha hok
      simp [TransactionalParcelMap.remove, hvalid, hmem]
  · rw [if_pos (by simp [hvalid])]
    apply refines_latch hs ha hok
    simp [TransactionalParcelMap.remove, hvalid]

lemma abs_idle_isSome (c : ParcelContainer F) : c.abs.trial.isSome = c.trialActive := by
  cases h : c.trialActive
  · rw [abs_trial_idle h]
    rfl
  · rw [abs_trial_active h]
    rfl

lemma abs_committed_card (hs : c.Sound) : c.abs.committed.keys.card = c.committed.size :=
  ordered_card hs.committed

theorem reserve_refines (hs : c.Sound) (maximumParcels : ℕ) (memory : Bool) (committedExtra trialExtra : ℕ) :
    Refines (c.reserve maximumParcels memory committedExtra trialExtra)
      (c.abs.reserve maximumParcels memory) := by
  rw [ParcelContainer.reserve, TransactionalParcelMap.reserve, abs_idle_isSome, abs_committed_card hs]
  by_cases ha : c.trialActive = true
  · rw [if_pos ha, if_pos ha]
    exact refines_refused hs _
  rw [if_neg ha, if_neg ha]
  have hidle := hs.idle (by simpa using ha)
  have hcommitted := hs.committedCapacity
  have htrial := hs.trialCapacity
  by_cases hsize : maximumParcels < c.committed.size
  · rw [if_pos hsize, if_pos hsize]
    exact refines_refused hs _
  rw [if_neg hsize, if_neg hsize]
  cases memory
  · simp only [Bool.not_false, if_true]
    refine ⟨{ hs with committedCapacity := ?_, trialCapacity := ?_ }, rfl, rfl⟩
    · exact hcommitted.trans (Nat.le_add_right _ _)
    · exact htrial.trans (Nat.le_add_right _ _)
  · simp only [Bool.not_true, false_eq_true, if_false]
    refine ⟨{ hs with
      committedSize := ?_, trialSize := ?_, committedCapacity := ?_, trialCapacity := ?_ }, rfl, rfl⟩
    · exact not_lt.mp hsize
    · exact hidle.1.trans_le (Nat.zero_le _)
    · exact le_max_right _ _
    · exact le_max_right _ _

theorem beginTrial_refines (hs : c.Sound) : Refines c.beginTrial c.abs.beginTrial := by
  rw [ParcelContainer.beginTrial, TransactionalParcelMap.beginTrial, abs_idle_isSome]
  by_cases ha : c.trialActive = true
  · rw [if_pos ha, if_pos ha]
    exact refines_refused hs _
  have hroom : ¬ c.trialCapacity < c.committed.size := by
    have hsize := hs.committedSize
    have hcapacity := hs.trialCapacity
    omega
  rw [if_neg ha, if_neg ha, if_neg hroom]
  refine ⟨{ hs with trial := hs.committed, trialSize := hs.committedSize, idle := fun hidle => ?_ }, ?_, rfl⟩
  · simp only [true_eq_false] at hidle
  · simp only [ParcelContainer.abs, if_true]

lemma discardTrial_sound (hs : c.Sound) : c.discardTrial.Sound :=
  { hs with
    trial := ordered_resize_zero
    trialSize := by simp [ParcelContainer.discardTrial]
    idle := fun _ => ⟨by simp [ParcelContainer.discardTrial], rfl⟩ }

lemma discardTrial_abs (c : ParcelContainer F) : c.discardTrial.abs = { c.abs with trial := none } := by
  simp [ParcelContainer.discardTrial, ParcelContainer.abs]

theorem rollbackTrial_refines (hs : c.Sound) : Refines c.rollbackTrial c.abs.rollbackTrial := by
  rw [ParcelContainer.rollbackTrial, TransactionalParcelMap.rollbackTrial]
  cases ha : c.trialActive
  · rw [abs_trial_idle ha]
    exact refines_refused hs _
  · rw [abs_trial_active ha]
    exact ⟨discardTrial_sound hs, discardTrial_abs c, rfl⟩

theorem commitTrial_refines (hs : c.Sound) : Refines c.commitTrial c.abs.commitTrial := by
  rw [ParcelContainer.commitTrial, TransactionalParcelMap.commitTrial, ParcelContainer.preflightCommit]
  cases ha : c.trialActive
  · rw [abs_trial_idle ha]
    exact refines_refused hs _
  · rw [abs_trial_active ha]
    by_cases hok : c.trialFailure.isOk = true
    · simp only [hok, Bool.not_true, false_eq_true, if_false]
      refine ⟨discardTrial_sound ?_, ?_, rfl⟩
      · exact
          { committed := hs.trial
            trial := hs.committed
            committedSize := hs.trialSize
            trialSize := hs.committedSize
            committedCapacity := hs.trialCapacity
            trialCapacity := hs.committedCapacity
            idle := fun hidle => nomatch ha.symm.trans hidle }
      · rw [ParcelContainer.publishPreflightedTrial, discardTrial_abs]
        rfl
    · simp only [hok, Bool.not_true, Bool.not_false, false_eq_true, if_false, if_true]
      exact ⟨discardTrial_sound hs, discardTrial_abs c, rfl⟩

lemma validEntries_increasing {index count : ℕ} (h : snapshot.validEntries index count = true) :
    ∀ j, index ≤ j → j < index + count → j = 0 ∨ snapshot.idAt (j - 1) < snapshot.idAt j := by
  induction count generalizing index with
  | zero =>
    intro j hj hj'
    omega
  | succ count ih =>
    intro j hj hj'
    simp only [ParcelSoASnapshot.validEntries, and_eq_true, or_eq_true, decide_eq_true_eq] at h
    obtain ⟨⟨-, hfirst⟩, hrest⟩ := h
    rcases Nat.eq_or_lt_of_le hj with rfl | hlt
    · rw [← ParcelId.less_iff]
      exact hfirst
    · exact ih hrest j hlt (by omega)

lemma validOrderedSnapshot_ordered (h : snapshot.validOrderedSnapshot = true) : snapshot.Ordered := by
  rw [ParcelSoASnapshot.validOrderedSnapshot, and_eq_true] at h
  refine ⟨h.1, fun i j hij hj => ?_⟩
  induction j, hij using Nat.le_induction with
  | base =>
    have hstep := validEntries_increasing h.2 (i + 1) (Nat.zero_le _) (by omega)
    simpa using hstep
  | succ j hij ih =>
    have hstep := validEntries_increasing h.2 (j + 1) (Nat.zero_le _) (by omega)
    have hlt : snapshot.idAt j < snapshot.idAt (j + 1) := by simpa using hstep
    exact (ih (by omega)).trans hlt

theorem restoreCommitted_refines (hs : c.Sound) (snapshot : ParcelSoASnapshot F) :
    Refines (c.restoreCommitted snapshot)
      (ParcelOp.runMap c.abs (.restoreCommitted snapshot)) := by
  rw [ParcelContainer.restoreCommitted, ParcelOp.runMap]
  unfold TransactionalParcelMap.restoreCommitted
  rw [abs_idle_isSome]
  by_cases ha : c.trialActive = true
  · rw [if_pos ha, if_pos ha]
    exact refines_refused hs _
  rw [if_neg ha, if_neg ha]
  by_cases hvalid : snapshot.validOrderedSnapshot = true
  · have hordered := validOrderedSnapshot_ordered hvalid
    have hcapacity := hs.committedCapacity
    have hlimit : c.abs.limit = c.capacityLimit := rfl
    simp only [hvalid, Bool.not_true, false_eq_true, if_false, if_true, ordered_card hordered, hlimit]
    by_cases hfull : c.capacityLimit < snapshot.size
    · rw [if_pos hfull, if_pos (by simp [hfull])]
      exact refines_refused hs _
    · have hroom : ¬ c.committedCapacity < snapshot.size := by omega
      rw [if_neg hfull, if_neg (by simp [hfull, hroom])]
      refine ⟨{ hs with
        committed := hordered, trial := ordered_resize_zero, committedSize := not_lt.mp hfull,
        trialSize := ?_, idle := fun _ => ⟨?_, rfl⟩ }, ?_, rfl⟩
      · simp
      · simp
      · rw [not_eq_true] at ha
        simp [ParcelContainer.abs, ha]
  · simp only [hvalid, Bool.not_false, false_eq_true, if_false, if_true]
    exact refines_refused hs _

/-- One call of either side. -/
theorem op_refines (hs : c.Sound) (op : ParcelOp F) : Refines (op.run c) (op.runMap c.abs) := by
  cases op with
  | reserve maximumParcels memory committedExtra trialExtra => exact reserve_refines hs _ _ _ _
  | beginTrial => exact beginTrial_refines hs
  | stageAdd parcel => exact stageAdd_refines hs parcel
  | stageUpdate parcel => exact stageUpdate_refines hs parcel
  | stageTabState id deformation deformationRate => exact stageTabState_refines hs _ _ _
  | stageRemove id => exact stageRemove_refines hs id
  | commitTrial => exact commitTrial_refines hs
  | rollbackTrial => exact rollbackTrial_refines hs
  | restoreCommitted snapshot => exact restoreCommitted_refines hs snapshot

end Proofs

/-- The map after a sequence of calls. -/
def ParcelOp.runAllMap {F : Type} [SprayReal F] (m : TransactionalParcelMap F)
    (ops : List (ParcelOp F)) : TransactionalParcelMap F :=
  ops.foldl (fun m op => (op.runMap m).1) m

namespace Proofs

variable {F : Type} [SprayReal F] {c : ParcelContainer F}

variable {op : ParcelOp F} {committed : ParcelSoASnapshot F} {failure : Status}

theorem runAll_refines (hs : c.Sound) (ops : List (ParcelOp F)) :
    (ParcelOp.runAll c ops).Sound ∧ (ParcelOp.runAll c ops).abs = ParcelOp.runAllMap c.abs ops := by
  induction ops generalizing c with
  | nil => exact ⟨hs, rfl⟩
  | cons op ops ih =>
    have hop := op_refines hs op
    obtain ⟨hsound, habs⟩ := ih hop.sound
    refine ⟨hsound, ?_⟩
    rw [ParcelOp.runAll, List.foldl_cons, ParcelOp.runAllMap, List.foldl_cons, ← hop.state]
    exact habs

lemma initial_abs : ({} : ParcelContainer F).abs = {} := by
  rw [ParcelContainer.abs, map_of_size_zero rfl]
  rfl

/-- An active trial of `c` has failed with `failure`, and `committed` is untouched. -/
structure Latched (committed : ParcelSoASnapshot F) (failure : Status) (c : ParcelContainer F) : Prop where
  active : c.trialActive = true
  failure : c.trialFailure = failure
  committed : c.committed = committed

lemma staging_cases (hop : op.isStaging = true) (ha : c.trialActive = true) (hok : c.trialFailure.isOk = true) :
    (∃ status, op.run c = ({ c with trialFailure := status }, status)) ∨
      ∃ arrays, op.run c = ({ c with trial := arrays }, {}) := by
  cases op with
  | stageAdd parcel =>
    simp only [ParcelOp.run, ParcelContainer.stageAdd, ha, hok, latch_eq hok, Bool.not_true,
      false_eq_true, if_false]
    split_ifs
    · exact .inl ⟨_, rfl⟩
    · exact .inl ⟨_, rfl⟩
    · exact .inl ⟨_, rfl⟩
    · exact .inr ⟨_, rfl⟩
  | stageUpdate parcel =>
    simp only [ParcelOp.run, ParcelContainer.stageUpdate, ha, hok, latch_eq hok, Bool.not_true,
      false_eq_true, if_false]
    split_ifs
    · exact .inl ⟨_, rfl⟩
    · exact .inl ⟨_, rfl⟩
    · exact .inr ⟨_, rfl⟩
  | stageTabState id deformation deformationRate =>
    simp only [ParcelOp.run, ParcelContainer.stageTabState, ha, hok, latch_eq hok, Bool.not_true,
      false_eq_true, if_false]
    split_ifs
    · exact .inl ⟨_, rfl⟩
    · exact .inl ⟨_, rfl⟩
    · exact .inr ⟨_, rfl⟩
  | stageRemove id =>
    simp only [ParcelOp.run, ParcelContainer.stageRemove, ha, hok, latch_eq hok, Bool.not_true,
      false_eq_true, if_false]
    split_ifs
    · exact .inl ⟨_, rfl⟩
    · exact .inl ⟨_, rfl⟩
    · exact .inr ⟨_, rfl⟩
  | _ => exact Bool.noConfusion hop

lemma staging_refused (hop : op.isStaging = true) (ha : c.trialActive = true)
    (hfail : c.trialFailure.isOk = false) : op.run c = (c, c.trialFailure) := by
  cases op with
  | stageAdd parcel => simp [ParcelOp.run, ParcelContainer.stageAdd, ha, hfail]
  | stageUpdate parcel => simp [ParcelOp.run, ParcelContainer.stageUpdate, ha, hfail]
  | stageTabState id deformation deformationRate =>
    simp [ParcelOp.run, ParcelContainer.stageTabState, ha, hfail]
  | stageRemove id => simp [ParcelOp.run, ParcelContainer.stageRemove, ha, hfail]
  | _ => exact Bool.noConfusion hop

lemma staging_latches (hop : op.isStaging = true) (ha : c.trialActive = true)
    (hfail : (op.run c).2.isOk = false) : Latched c.committed (op.run c).2 (op.run c).1 := by
  by_cases hok : c.trialFailure.isOk = true
  · rcases staging_cases hop ha hok with ⟨status, hrun⟩ | ⟨arrays, hrun⟩
    · rw [hrun]
      exact ⟨ha, rfl, rfl⟩
    · rw [hrun] at hfail
      exact Bool.noConfusion hfail
  · rw [staging_refused hop ha (eq_false_iff.mpr hok)]
    exact ⟨ha, rfl, rfl⟩

lemma latched_run
    (h : Latched committed failure c) (hfail : failure.isOk = false)
    (hop : op.endsTrial = false) : (op.run c).1 = c := by
  have hfailure : c.trialFailure.isOk = false := by rw [h.failure, hfail]
  cases op with
  | reserve => simp [ParcelOp.run, ParcelContainer.reserve, h.active]
  | beginTrial => simp [ParcelOp.run, ParcelContainer.beginTrial, h.active]
  | stageAdd parcel => rw [staging_refused rfl h.active hfailure]
  | stageUpdate parcel => rw [staging_refused rfl h.active hfailure]
  | stageTabState id deformation deformationRate => rw [staging_refused rfl h.active hfailure]
  | stageRemove id => rw [staging_refused rfl h.active hfailure]
  | commitTrial => exact Bool.noConfusion hop
  | rollbackTrial => exact Bool.noConfusion hop
  | restoreCommitted snapshot => simp [ParcelOp.run, ParcelContainer.restoreCommitted, h.active]

lemma latched_runAll (h : Latched committed failure c) (hfail : failure.isOk = false) {ops : List (ParcelOp F)}
    (hops : ∀ op ∈ ops, op.endsTrial = false) : ParcelOp.runAll c ops = c := by
  induction ops with
  | nil => rfl
  | cons op ops ih =>
    rw [ParcelOp.runAll, List.foldl_cons, latched_run h hfail (hops op (by simp))]
    exact ih fun op hop => hops op (by simp [hop])

lemma latched_commit (h : Latched committed failure c) (hfail : failure.isOk = false) :
    c.commitTrial = (c.discardTrial, failure) := by
  have hready : c.preflightCommit = failure := by
    simp [ParcelContainer.preflightCommit, h.active, h.failure]
  simp only [ParcelContainer.commitTrial, hready, hfail, h.active, Bool.not_false, if_true]

def Publishes (op : ParcelOp F) : Prop :=
  op = .commitTrial ∨ ∃ snapshot, op = .restoreCommitted snapshot

lemma staging_committed (hop : op.isStaging = true) : (op.run c).1.committed = c.committed := by
  by_cases ha : c.trialActive = true
  · by_cases hok : c.trialFailure.isOk = true
    · rcases staging_cases hop ha hok with ⟨status, hrun⟩ | ⟨arrays, hrun⟩ <;> rw [hrun]
    · rw [staging_refused hop ha (eq_false_iff.mpr hok)]
  · cases op with
    | stageAdd parcel => simp [ParcelOp.run, ParcelContainer.stageAdd, ha]
    | stageUpdate parcel => simp [ParcelOp.run, ParcelContainer.stageUpdate, ha]
    | stageTabState id deformation deformationRate =>
      simp [ParcelOp.run, ParcelContainer.stageTabState, ha]
    | stageRemove id => simp [ParcelOp.run, ParcelContainer.stageRemove, ha]
    | _ => exact Bool.noConfusion hop

lemma committed_changes (op : ParcelOp F) (h : (op.run c).1.committed ≠ c.committed) :
    Publishes op ∧ (op.run c).2.isOk = true := by
  cases op with
  | reserve maximumParcels memory committedExtra trialExtra =>
    refine absurd ?_ h
    simp only [ParcelOp.run, ParcelContainer.reserve]
    split_ifs <;> rfl
  | beginTrial =>
    refine absurd ?_ h
    simp only [ParcelOp.run, ParcelContainer.beginTrial]
    split_ifs <;> rfl
  | stageAdd parcel => exact absurd (staging_committed rfl) h
  | stageUpdate parcel => exact absurd (staging_committed rfl) h
  | stageTabState id deformation deformationRate => exact absurd (staging_committed rfl) h
  | stageRemove id => exact absurd (staging_committed rfl) h
  | commitTrial =>
    refine ⟨.inl rfl, ?_⟩
    by_contra hfail
    apply h
    simp only [ParcelOp.run, ParcelContainer.commitTrial] at hfail ⊢
    split_ifs with hready hactive
    · rfl
    · rfl
    · simp only [hready] at hfail
      exact absurd rfl hfail
  | rollbackTrial =>
    refine absurd ?_ h
    simp only [ParcelOp.run, ParcelContainer.rollbackTrial]
    split_ifs <;> rfl
  | restoreCommitted snapshot =>
    refine ⟨.inr ⟨snapshot, rfl⟩, ?_⟩
    simp only [ParcelOp.run, ParcelContainer.restoreCommitted] at h ⊢
    split_ifs at h ⊢
    · exact absurd rfl h
    · exact absurd rfl h
    · exact absurd rfl h
    · rfl

/-- In every run the arrays of both snapshots have one length within the limit and increasing
identities, and every call does what it does to the transactional map. A failure in a trial
answers all later staging calls and the commit, which then discards the trial; the committed
arrays change in a successful commit or restore only. -/
theorem container_refines_map (ops : List (ParcelOp F)) :
    let c := ParcelOp.runAll {} ops
    (c.committed.Ordered ∧ c.committed.size ≤ c.capacityLimit ∧
      c.trial.Ordered ∧ c.trial.size ≤ c.capacityLimit) ∧
    (c.abs = ParcelOp.runAllMap {} ops ∧
      ∀ op : ParcelOp F, (op.run c).1.abs = (op.runMap c.abs).1 ∧ (op.run c).2 = (op.runMap c.abs).2) ∧
    (∀ op : ParcelOp F, op.isStaging = true → c.trialActive = true → (op.run c).2.isOk = false →
      ∀ later : List (ParcelOp F), (∀ op' ∈ later, op'.endsTrial = false) →
        let c' := ParcelOp.runAll (op.run c).1 later
        (∀ op' : ParcelOp F, op'.isStaging = true → op'.run c' = (c', (op.run c).2)) ∧
        c'.commitTrial.2 = (op.run c).2 ∧ c'.commitTrial.1.committed = c.committed ∧
        c'.commitTrial.1.trialActive = false ∧ c'.commitTrial.1.trial.size = 0) ∧
    ∀ op : ParcelOp F, (op.run c).1.committed ≠ c.committed → Publishes op ∧ (op.run c).2.isOk = true := by
  intro c
  obtain ⟨hsound, habs⟩ := runAll_refines (F := F) initial_sound ops
  refine ⟨⟨hsound.committed, hsound.committedSize, hsound.trial, hsound.trialSize⟩, ⟨?_, ?_⟩, ?_, ?_⟩
  · rw [initial_abs] at habs
    exact habs
  · intro op
    exact ⟨(op_refines hsound op).state, (op_refines hsound op).status⟩
  · intro op hop ha hfail later hlater c'
    have hlatched := staging_latches hop ha hfail
    have hsame : c' = (op.run c).1 := latched_runAll hlatched hfail hlater
    rw [hsame]
    have hcommit := latched_commit hlatched hfail
    refine ⟨fun op' hop' => ?_, ?_, ?_, ?_, ?_⟩
    · rw [staging_refused hop' hlatched.active (by rw [hlatched.failure, hfail]), hlatched.failure]
    · rw [hcommit]
    · rw [hcommit]
      exact hlatched.committed
    · rw [hcommit]
      rfl
    · rw [hcommit]
      exact size_resizeArrays _ _
  · exact committed_changes

end Proofs

end HundunFlow
