import HundunFlow.ExecutionGraph
import Mathlib.Order.CompletePartialOrder
import Mathlib.Order.Interval.Set.Disjoint

/-!
# Workspaces of live stages

The search for a place finds the lowest one that is free, and the stages of a frozen graph that
are live together have disjoint workspaces.
-/

namespace HundunFlow.Proofs

open Lib List Option

def FreeAt (registration liveThrough bytes : ℕ) (active : List WorkspaceInterval) (offset : ℕ) : Prop :=
  ∀ prior ∈ active, prior.bytes ≠ 0 → registration ≤ prior.last → prior.begin ≤ liveThrough →
    ¬(offset < prior.byteEnd ∧ prior.offset < offset + bytes)

structure WorkspacePlaced (stage : OwnedStageSpec) (registration liveThrough : ℕ) (active : List WorkspaceInterval)
    (candidate : WorkspaceInterval) : Prop where
  begin_eq : candidate.begin = registration
  last_eq : candidate.last = liveThrough
  bytes_eq : candidate.bytes = stage.workspaceBytes.toNat
  byteEnd_eq : candidate.byteEnd = candidate.offset + stage.workspaceBytes.toNat
  aligned : stage.workspaceAlignment.toNat ∣ candidate.offset
  free : FreeAt registration liveThrough stage.workspaceBytes.toNat active candidate.offset

section Place

variable {stage : OwnedStageSpec} {registration liveThrough : ℕ} {active : List WorkspaceInterval}
  {candidate : WorkspaceInterval}

lemma free_of_workspaceAt {offset : ℕ} (hbytes : stage.workspaceBytes.toNat ≠ 0)
    (hplace : workspaceAt registration liveThrough offset stage.workspaceBytes.toNat = some candidate)
    (hfree : ∀ prior ∈ active, collide candidate prior = false) :
    FreeAt registration liveThrough stage.workspaceBytes.toNat active candidate.offset := by
  obtain ⟨hbegin, hlast, hoffset, hsize, hend⟩ := workspaceAt_spec hplace
  rintro prior hprior hnonzero hregistration hlive ⟨hbefore, hbehind⟩
  have hcollides : collide candidate prior = true := by
    rw [collide_iff]
    omega
  rw [hfree prior hprior] at hcollides
  exact Bool.false_ne_true hcollides

lemma placementLoop_placed {turns search : ℕ} (hbytes : stage.workspaceBytes.toNat ≠ 0)
    (h : placementLoop stage registration liveThrough active turns search = some (.ok candidate))
    (hsearch : search ≤ maxU64)
    (hbelow : ∀ other, stage.workspaceAlignment.toNat ∣ other →
      FreeAt registration liveThrough stage.workspaceBytes.toNat active other → search ≤ other) :
    WorkspacePlaced stage registration liveThrough active candidate ∧ ∀ other, stage.workspaceAlignment.toNat ∣ other →
      FreeAt registration liveThrough stage.workspaceBytes.toNat active other → candidate.offset ≤ other := by
  induction turns generalizing search with
  | zero => simp [placementLoop] at h
  | succ turns ih =>
    rw [placementLoop, placementTurn] at h
    cases halign : checkedAlignTo search stage.workspaceAlignment.toNat with
    | none => simp [halign] at h
    | some offset =>
      obtain ⟨hle, hdvd, hsize, hfirst⟩ := checkedAlignTo_spec halign hsearch
      have hlow : ∀ other, stage.workspaceAlignment.toNat ∣ other →
          FreeAt registration liveThrough stage.workspaceBytes.toNat active other → offset ≤ other :=
        fun other hother hfree => hfirst other (hbelow other hother hfree) hother
      cases hplace : workspaceAt registration liveThrough offset stage.workspaceBytes.toNat with
      | none => simp [halign, hplace] at h
      | some found =>
        obtain ⟨hbegin, hlast, hoffset, hbytes', hend⟩ := workspaceAt_spec hplace
        cases hfind : active.find? fun prior => collide found prior with
        | none =>
          simp only [halign, hplace, hfind, some.injEq, Except.ok.injEq] at h
          subst h
          have hfree : ∀ prior ∈ active, collide found prior = false := by
            simpa using List.find?_eq_none.mp hfind
          refine ⟨⟨hbegin, hlast, hbytes', hoffset ▸ hend, hoffset ▸ hdvd, free_of_workspaceAt hbytes hplace hfree⟩, ?_⟩
          rwa [hoffset]
        | some prior =>
          simp only [halign, hplace, hfind] at h
          refine ih h prior.byteEnd_le fun other hother hfree => ?_
          -- an aligned place in front of the end of `prior` would collide with it as well
          obtain ⟨⟨hregistration, hlive⟩, -, hnonzero, -, hbehind⟩ :=
            (collide_iff found prior).mp (List.find?_some hfind)
          have hother' := hlow other hother hfree
          have hapart := hfree prior (List.mem_of_find?_eq_some hfind) hnonzero (by omega) (by omega)
          omega

lemma allocateWorkspace_spec {highWater offset highWater' : ℕ} {active' : List WorkspaceInterval}
    (h : allocateWorkspace stage registration liveThrough active highWater = .ok (active', offset, highWater')) :
    (stage.workspaceBytes = 0 ∧ active' = active ∧ offset = 0 ∧ highWater' = highWater) ∨
      stage.workspaceBytes ≠ 0 ∧ ∃ candidate, WorkspacePlaced stage registration liveThrough active candidate ∧
        (stage.hasFixedWorkspaceOffset = false → ∀ other, stage.workspaceAlignment.toNat ∣ other →
          FreeAt registration liveThrough stage.workspaceBytes.toNat active other → candidate.offset ≤ other) ∧
        active' = active ++ [candidate] ∧ offset = candidate.offset ∧
        highWater' = max highWater candidate.byteEnd := by
  unfold allocateWorkspace at h
  split_ifs at h with hzero hbad hfixed hmod
  · simp only [Except.ok.injEq, Prod.mk.injEq] at h
    exact .inl ⟨hzero, h.1.symm, h.2.1.symm, h.2.2.symm⟩
  · have hbytes : stage.workspaceBytes.toNat ≠ 0 := fun hnat => hzero (UInt64.toNat_inj.mp hnat)
    cases hplace : workspaceAt registration liveThrough stage.fixedWorkspaceOffset.toNat
        stage.workspaceBytes.toNat with
    | none => simp [hplace] at h
    | some candidate =>
      simp only [hplace] at h
      split_ifs at h with hany
      simp only [Except.ok.injEq, Prod.mk.injEq] at h
      obtain ⟨hbegin, hlast, hoffset, hbytes', hend⟩ := workspaceAt_spec hplace
      have hfree : ∀ prior ∈ active, collide candidate prior = false := by simpa using hany
      refine .inr ⟨hzero, candidate, ⟨hbegin, hlast, hbytes', hoffset ▸ hend, ?_,
        free_of_workspaceAt hbytes hplace hfree⟩, fun hauto => ?_, h.1.symm, h.2.1.symm, h.2.2.symm⟩
      · rw [hoffset]
        exact Nat.dvd_of_mod_eq_zero (not_not.mp hmod)
      · rw [hauto] at hfixed
        exact nomatch hfixed
  · have hbytes : stage.workspaceBytes.toNat ≠ 0 := fun hnat => hzero (UInt64.toNat_inj.mp hnat)
    set placement := (placementLoop stage registration liveThrough active (active.length + 1) 0).get
      (placementLoop_ends stage registration liveThrough active) with hget
    have hloop : placementLoop stage registration liveThrough active (active.length + 1) 0 = some placement := by
      rw [hget, some_get]
    cases hplac : placement with
    | error status => simp [hplac] at h
    | ok candidate =>
      rw [hplac] at hloop
      simp only [hplac, Except.ok.injEq, Prod.mk.injEq] at h
      obtain ⟨hplaced, hlowest⟩ := placementLoop_placed hbytes hloop (Nat.zero_le _) fun _ _ _ => Nat.zero_le _
      exact .inr ⟨hzero, candidate, hplaced, fun _ => hlowest, h.1.symm, h.2.1.symm, h.2.2.symm⟩

end Place

/-- The last stage at which the workspace of stage `i` is live. -/
def liveUntil (stages : List OwnedStageSpec) (i : ℕ) : ℕ :=
  ((stages[i]?).bind fun stage => liveThroughOrdinal stages i stage).getD i

variable (stages : List OwnedStageSpec)

lemma le_liveUntil (i : ℕ) : i ≤ liveUntil stages i := by
  unfold liveUntil
  cases hlive : (stages[i]?).bind fun stage => liveThroughOrdinal stages i stage with
  | none => exact Nat.le_refl i
  | some last =>
    obtain ⟨stage, -, hlast⟩ := bind_eq_some_iff.mp hlive
    unfold liveThroughOrdinal at hlast
    split_ifs at hlast
    · exact (some.inj hlast).le
    · obtain ⟨distance, -, rfl⟩ := map_eq_some_iff.mp hlast
      exact Nat.le_add_right i distance

def LiveTogether (stages : List OwnedStageSpec) (i j : ℕ) : Prop :=
  (Set.Icc i (liveUntil stages i) ∩ Set.Icc j (liveUntil stages j)).Nonempty

lemma liveTogether_iff (i j : ℕ) : LiveTogether stages i j ↔ i ≤ liveUntil stages j ∧ j ≤ liveUntil stages i := by
  have hi := le_liveUntil stages i
  have hj := le_liveUntil stages j
  constructor
  · rintro ⟨k, ⟨hik, hki⟩, hjk, hkj⟩
    omega
  · rintro ⟨hij, hji⟩
    refine ⟨max i j, ⟨le_max_left i j, ?_⟩, le_max_right i j, ?_⟩
    · exact max_le hi hji
    · exact max_le hij hj

def workspaceRange (stage : FrozenStage) : Set ℕ :=
  Set.Ico stage.workspaceOffset (stage.workspaceOffset + stage.workspaceBytes)

/-- A place for stage `i` apart from the workspaces of all earlier stages that live with it. -/
def FreeFrom (stages : List OwnedStageSpec) (frozen : List FrozenStage) (i bytes offset : ℕ) : Prop :=
  ∀ j prior, j < i → frozen[j]? = some prior → prior.workspaceBytes ≠ 0 → LiveTogether stages j i →
    Disjoint (workspaceRange prior) (Set.Ico offset (offset + bytes))

/-- Workspaces without aliasing, for the first stages of a list. -/
structure WorkspacesPlaced (stages : List OwnedStageSpec) (frozen : List FrozenStage) (highWater : ℕ) : Prop where
  registered : ∀ i stage, frozen[i]? = some stage → ∃ s, stages[i]? = some s ∧
    liveThroughOrdinal stages i s = some (liveUntil stages i) ∧ stage.id = s.id ∧
    stage.workspaceBytes = s.workspaceBytes.toNat ∧ stage.workspaceAlignment = s.workspaceAlignment.toNat
  apart : ∀ i j a b, i < j → frozen[i]? = some a → frozen[j]? = some b → a.workspaceBytes ≠ 0 →
    b.workspaceBytes ≠ 0 → LiveTogether stages i j → Disjoint (workspaceRange a) (workspaceRange b)
  aligned : ∀ stage ∈ frozen, stage.workspaceAlignment ∣ stage.workspaceOffset
  addressable : ∀ stage ∈ frozen, stage.workspaceOffset + stage.workspaceBytes ≤ maxU64
  highWater_eq : highWater = (frozen.map fun stage => stage.workspaceOffset + stage.workspaceBytes).foldl max 0
  lowest : ∀ i s stage, stages[i]? = some s → frozen[i]? = some stage → s.workspaceBytes ≠ 0 →
    s.hasFixedWorkspaceOffset = false →
    IsLeast {offset | s.workspaceAlignment.toNat ∣ offset ∧ FreeFrom stages frozen i s.workspaceBytes.toNat offset}
      stage.workspaceOffset

structure WorkspaceOf (stages : List OwnedStageSpec) (i : ℕ) (stage : FrozenStage) (w : WorkspaceInterval) : Prop where
  begin_eq : w.begin = i
  last_eq : w.last = liveUntil stages i
  offset_eq : w.offset = stage.workspaceOffset
  bytes_eq : w.bytes = stage.workspaceBytes
  byteEnd_eq : w.byteEnd = stage.workspaceOffset + stage.workspaceBytes

structure WorkspacesTracked (stages : List OwnedStageSpec) (frozen : List FrozenStage)
    (workspaces : List WorkspaceInterval) : Prop where
  listed : ∀ i stage, frozen[i]? = some stage → stage.workspaceBytes ≠ 0 →
    ∃ w ∈ workspaces, WorkspaceOf stages i stage w
  only : ∀ w ∈ workspaces, ∃ i stage, frozen[i]? = some stage ∧ stage.workspaceBytes ≠ 0 ∧
    WorkspaceOf stages i stage w

section Snoc

variable {α : Type} {list : List α} {last : α}

lemma getElem?_snoc {i : ℕ} {a : α} :
    (list ++ [last])[i]? = some a ↔ list[i]? = some a ∨ i = list.length ∧ a = last := by
  rw [List.getElem?_append]
  by_cases hi : i < list.length
  · rw [if_pos hi]
    constructor
    · exact .inl
    · rintro (h | ⟨rfl, -⟩)
      · exact h
      · exact absurd hi (Nat.lt_irrefl _)
  · rw [if_neg hi, List.getElem?_eq_none (not_lt.mp hi)]
    by_cases heq : i = list.length
    · simp [heq, eq_comm]
    · have hlarge : list.length < i := by omega
      have hnone : [last][i - list.length]? = none := List.getElem?_eq_none (by simp; omega)
      simp [hnone, heq]

lemma getElem?_snoc_of_lt {i : ℕ} (h : i < list.length) : (list ++ [last])[i]? = list[i]? :=
  List.getElem?_append_left h

end Snoc

section Step

variable {stages : List OwnedStageSpec} {frozen : List FrozenStage} {workspaces : List WorkspaceInterval}

lemma freeFrom_snoc {last : FrozenStage} {i bytes offset : ℕ} (hi : i ≤ frozen.length) :
    FreeFrom stages (frozen ++ [last]) i bytes offset ↔ FreeFrom stages frozen i bytes offset := by
  unfold FreeFrom
  constructor
  · intro h j prior hj hprior
    exact h j prior hj (by rwa [getElem?_snoc_of_lt (by omega)])
  · intro h j prior hj hprior
    rw [getElem?_snoc_of_lt (by omega)] at hprior
    exact h j prior hj hprior

lemma disjoint_range_iff {stage : FrozenStage} {offset bytes : ℕ} (hstage : stage.workspaceBytes ≠ 0)
    (hbytes : bytes ≠ 0) : Disjoint (workspaceRange stage) (Set.Ico offset (offset + bytes)) ↔
      ¬(offset < stage.workspaceOffset + stage.workspaceBytes ∧ stage.workspaceOffset < offset + bytes) := by
  rw [workspaceRange, Set.Ico_disjoint_Ico]
  omega

lemma freeFrom_iff (h : WorkspacesTracked stages frozen workspaces) {bytes offset : ℕ} (hbytes : bytes ≠ 0) :
    FreeFrom stages frozen frozen.length bytes offset ↔
      FreeAt frozen.length (liveUntil stages frozen.length) bytes workspaces offset := by
  constructor
  · rintro hfree w hw - hlast hbegin
    obtain ⟨j, prior, hprior, hnonzero, hwork⟩ := h.only w hw
    have hj : j < frozen.length := (List.getElem?_eq_some_iff.mp hprior).1
    have hlive : LiveTogether stages j frozen.length := by
      rw [liveTogether_iff, ← hwork.last_eq]
      exact ⟨hwork.begin_eq ▸ hbegin, hlast⟩
    rw [hwork.byteEnd_eq, hwork.offset_eq]
    exact (disjoint_range_iff hnonzero hbytes).mp (hfree j prior hj hprior hnonzero hlive)
  · intro hfree j prior hj hprior hnonzero hlive
    obtain ⟨w, hw, hwork⟩ := h.listed j prior hprior hnonzero
    obtain ⟨hbegin, hlast⟩ := (liveTogether_iff stages j frozen.length).mp hlive
    rw [disjoint_range_iff hnonzero hbytes, ← hwork.byteEnd_eq, ← hwork.offset_eq]
    exact hfree w hw (hwork.bytes_eq ▸ hnonzero) (hwork.last_eq ▸ hlast) (hwork.begin_eq ▸ hbegin)

structure Placing (stages : List OwnedStageSpec) (frozen : List FrozenStage) (workspaces : List WorkspaceInterval)
    (highWater : ℕ) : Prop where
  placed : WorkspacesPlaced stages frozen highWater
  tracked : WorkspacesTracked stages frozen workspaces

lemma placing_nil (stages : List OwnedStageSpec) : Placing stages [] [] 0 where
  placed := ⟨by simp, by simp, by simp, by simp, rfl, by simp⟩
  tracked := ⟨by simp, by simp⟩

/-- A stage frozen from `registered`, with its offset. -/
structure FrozenFrom (registered : OwnedStageSpec) (offset : ℕ) (last : FrozenStage) : Prop where
  id_eq : last.id = registered.id
  bytes_eq : last.workspaceBytes = registered.workspaceBytes.toNat
  alignment_eq : last.workspaceAlignment = registered.workspaceAlignment.toNat
  offset_eq : last.workspaceOffset = offset

variable {highWater : ℕ} {registered : OwnedStageSpec} {last : FrozenStage} {offset : ℕ}

lemma registered_snoc (h : WorkspacesPlaced stages frozen highWater) (hlast : FrozenFrom registered offset last)
    (hregis : stages[frozen.length]? = some registered)
    (hlive : liveThroughOrdinal stages frozen.length registered = some (liveUntil stages frozen.length)) :
    ∀ i stage, (frozen ++ [last])[i]? = some stage → ∃ s, stages[i]? = some s ∧
      liveThroughOrdinal stages i s = some (liveUntil stages i) ∧ stage.id = s.id ∧
      stage.workspaceBytes = s.workspaceBytes.toNat ∧ stage.workspaceAlignment = s.workspaceAlignment.toNat := by
  intro i stage hstage
  rcases getElem?_snoc.mp hstage with hold | ⟨rfl, rfl⟩
  · exact h.registered i stage hold
  · exact ⟨registered, hregis, hlive, hlast.id_eq, hlast.bytes_eq, hlast.alignment_eq⟩

lemma placing_empty (h : Placing stages frozen workspaces highWater) (hlast : FrozenFrom registered 0 last)
    (hregis : stages[frozen.length]? = some registered)
    (hlive : liveThroughOrdinal stages frozen.length registered = some (liveUntil stages frozen.length))
    (hzero : registered.workspaceBytes = 0) : Placing stages (frozen ++ [last]) workspaces highWater := by
  have hbytes : last.workspaceBytes = 0 := by rw [hlast.bytes_eq, hzero]; rfl
  refine ⟨⟨registered_snoc h.placed hlast hregis hlive, ?_, ?_, ?_, ?_, ?_⟩, ?_, ?_⟩
  · intro i j a b hij ha hb hanonzero hbnonzero
    rcases getElem?_snoc.mp hb with hb | ⟨-, rfl⟩
    · have hj := (List.getElem?_eq_some_iff.mp hb).1
      rw [getElem?_snoc_of_lt (by omega)] at ha
      exact h.placed.apart i j a b hij ha hb hanonzero hbnonzero
    · exact absurd hbytes hbnonzero
  · intro stage hstage
    rcases mem_append.mp hstage with hold | hnew
    · exact h.placed.aligned stage hold
    · rw [mem_singleton.mp hnew, hlast.offset_eq]
      exact dvd_zero _
  · intro stage hstage
    rcases mem_append.mp hstage with hold | hnew
    · exact h.placed.addressable stage hold
    · rw [mem_singleton.mp hnew, hlast.offset_eq, hbytes]
      exact Nat.zero_le _
  · rw [map_append, foldl_append, ← h.placed.highWater_eq]
    simp [hlast.offset_eq, hbytes]
  · intro i s stage hs hstage hnonzero hauto
    rcases getElem?_snoc.mp hstage with hold | ⟨rfl, -⟩
    · have hi := (List.getElem?_eq_some_iff.mp hold).1
      simp only [freeFrom_snoc hi.le]
      exact h.placed.lowest i s stage hs hold hnonzero hauto
    · rw [hregis] at hs
      exact absurd (some.inj hs ▸ hzero) hnonzero
  · intro i stage hstage hnonzero
    rcases getElem?_snoc.mp hstage with hold | ⟨-, rfl⟩
    · exact h.tracked.listed i stage hold hnonzero
    · exact absurd hbytes hnonzero
  · intro w hw
    obtain ⟨i, stage, hstage, hrest⟩ := h.tracked.only w hw
    exact ⟨i, stage, getElem?_snoc.mpr (.inl hstage), hrest⟩

lemma placing_placed {candidate : WorkspaceInterval} (h : Placing stages frozen workspaces highWater)
    (hlast : FrozenFrom registered candidate.offset last) (hregis : stages[frozen.length]? = some registered)
    (hlive : liveThroughOrdinal stages frozen.length registered = some (liveUntil stages frozen.length))
    (hnonzero : registered.workspaceBytes ≠ 0)
    (hcand : WorkspacePlaced registered frozen.length (liveUntil stages frozen.length) workspaces candidate)
    (hlowest : registered.hasFixedWorkspaceOffset = false → ∀ other, registered.workspaceAlignment.toNat ∣ other →
      FreeAt frozen.length (liveUntil stages frozen.length) registered.workspaceBytes.toNat workspaces other →
        candidate.offset ≤ other) :
    Placing stages (frozen ++ [last]) (workspaces ++ [candidate]) (max highWater candidate.byteEnd) := by
  have hbytes : registered.workspaceBytes.toNat ≠ 0 := fun hnat => hnonzero (UInt64.toNat_inj.mp hnat)
  have hend : last.workspaceOffset + last.workspaceBytes = candidate.byteEnd := by
    rw [hlast.offset_eq, hlast.bytes_eq, hcand.byteEnd_eq]
  have hrange : workspaceRange last = Set.Ico candidate.offset (candidate.offset + registered.workspaceBytes.toNat) := by
    rw [workspaceRange, hlast.offset_eq, hlast.bytes_eq]
  have hwork : WorkspaceOf stages frozen.length last candidate :=
    ⟨hcand.begin_eq, hcand.last_eq, hlast.offset_eq.symm,
      hcand.bytes_eq.trans hlast.bytes_eq.symm, hend.symm⟩
  have hfree := (freeFrom_iff h.tracked hbytes).mpr hcand.free
  refine ⟨⟨registered_snoc h.placed hlast hregis hlive, ?_, ?_, ?_, ?_, ?_⟩, ?_, ?_⟩
  · intro i j a b hij ha hb hanonzero hbnonzero htogether
    rcases getElem?_snoc.mp hb with hb | ⟨rfl, rfl⟩
    · have hj := (List.getElem?_eq_some_iff.mp hb).1
      rw [getElem?_snoc_of_lt (by omega)] at ha
      exact h.placed.apart i j a b hij ha hb hanonzero hbnonzero htogether
    · rw [getElem?_snoc_of_lt hij] at ha
      rw [hrange]
      exact hfree i a hij ha hanonzero htogether
  · intro stage hstage
    rcases mem_append.mp hstage with hold | hnew
    · exact h.placed.aligned stage hold
    · rw [mem_singleton.mp hnew, hlast.offset_eq, hlast.alignment_eq]
      exact hcand.aligned
  · intro stage hstage
    rcases mem_append.mp hstage with hold | hnew
    · exact h.placed.addressable stage hold
    · rw [mem_singleton.mp hnew, hend]
      exact candidate.byteEnd_le
  · rw [map_append, foldl_append, ← h.placed.highWater_eq]
    simp [hend]
  · intro i s stage hs hstage hnonzero' hauto
    rcases getElem?_snoc.mp hstage with hold | ⟨rfl, rfl⟩
    · have hi := (List.getElem?_eq_some_iff.mp hold).1
      simp only [freeFrom_snoc hi.le]
      exact h.placed.lowest i s stage hs hold hnonzero' hauto
    · rw [hregis] at hs
      obtain rfl := some.inj hs
      simp only [freeFrom_snoc le_rfl, freeFrom_iff h.tracked hbytes]
      rw [hlast.offset_eq]
      exact ⟨⟨hcand.aligned, hcand.free⟩, fun other hother => hlowest hauto other hother.1 hother.2⟩
  · intro i stage hstage hnonzero'
    rcases getElem?_snoc.mp hstage with hold | ⟨rfl, rfl⟩
    · obtain ⟨w, hw, hof⟩ := h.tracked.listed i stage hold hnonzero'
      exact ⟨w, mem_append_left _ hw, hof⟩
    · exact ⟨candidate, mem_append_right _ (mem_singleton.mpr rfl), hwork⟩
  · intro w hw
    rcases mem_append.mp hw with hold | hnew
    · obtain ⟨i, stage, hstage, hrest⟩ := h.tracked.only w hold
      exact ⟨i, stage, getElem?_snoc.mpr (.inl hstage), hrest⟩
    · rw [mem_singleton.mp hnew]
      refine ⟨frozen.length, last, List.getElem?_concat_length, ?_, hwork⟩
      rw [hlast.bytes_eq]
      exact hbytes

end Step

section Freeze

variable {stages : List OwnedStageSpec}

variable {registered : OwnedStageSpec}

lemma freezeStage_spec {ordinal : ℕ} {build build' : GraphBuild}
    (h : freezeStage stages ordinal registered build = .ok build') :
    ∃ liveThrough offset last, liveThroughOrdinal stages ordinal registered = some liveThrough ∧
      allocateWorkspace registered ordinal liveThrough build.workspaces build.workspaceHighWater =
        .ok (build'.workspaces, offset, build'.workspaceHighWater) ∧
      build'.stages = build.stages ++ [last] ∧ FrozenFrom registered offset last := by
  unfold freezeStage at h
  split_ifs at h
  cases haccess : accessFailure build.states registered with
  | some detail => simp [haccess] at h
  | none =>
    cases hlive : liveThroughOrdinal stages ordinal registered with
    | none => simp [haccess, hlive] at h
    | some liveThrough =>
      cases halloc : allocateWorkspace registered ordinal liveThrough build.workspaces build.workspaceHighWater with
      | error status => simp [haccess, hlive, halloc] at h
      | ok placed =>
        obtain ⟨workspaces, offset, highWater⟩ := placed
        cases hchain : (nodeKinds registered).foldlM (addNode registered.id ordinal) build.chain with
        | none => simp [haccess, hlive, halloc, hchain] at h
        | some chain =>
          simp only [haccess, hlive, halloc, hchain] at h
          split_ifs at h
          cases hres : build.resources.checkedSum registered.resources with
          | none => simp [hres] at h
          | some resources =>
            simp only [hres, Except.ok.injEq] at h
            subst h
            exact ⟨liveThrough, offset, _, rfl, halloc, rfl, rfl, rfl, rfl, rfl⟩

lemma placing_step {build build' : GraphBuild}
    (hplacing : Placing stages build.stages build.workspaces build.workspaceHighWater)
    (hregis : stages[build.stages.length]? = some registered)
    (h : freezeStage stages build.stages.length registered build = .ok build') :
    Placing stages build'.stages build'.workspaces build'.workspaceHighWater ∧
      build'.stages.length = build.stages.length + 1 := by
  obtain ⟨liveThrough, offset, last, hlive, halloc, hstages, hlast⟩ := freezeStage_spec h
  have huntil : liveUntil stages build.stages.length = liveThrough := by
    rw [liveUntil, hregis, bind_some, hlive, getD_some]
  rw [← huntil] at hlive halloc
  refine ⟨?_, by rw [hstages, length_append, length_singleton]⟩
  rw [hstages]
  rcases allocateWorkspace_spec halloc with ⟨hzero, hsame, rfl, hhigh⟩ | ⟨hnonzero, candidate, hcand, hlowest,
    hsame, rfl, hhigh⟩
  · rw [hsame, hhigh]
    exact placing_empty hplacing hlast hregis hlive hzero
  · rw [hsame, hhigh]
    exact placing_placed hplacing hlast hregis hlive hnonzero hcand hlowest

lemma placing_run {rest : List OwnedStageSpec} {build build' : GraphBuild}
    (hplacing : Placing stages build.stages build.workspaces build.workspaceHighWater)
    (hrest : rest = stages.drop build.stages.length) (hlength : build.stages.length ≤ stages.length)
    (h : freezeStages stages build.stages.length rest build = .ok build') :
    Placing stages build'.stages build'.workspaces build'.workspaceHighWater ∧
      build'.stages.length = stages.length := by
  induction rest generalizing build with
  | nil =>
    rw [freezeStages, Except.ok.injEq] at h
    subst h
    have hdone := congrArg length hrest
    rw [length_nil, length_drop] at hdone
    exact ⟨hplacing, by omega⟩
  | cons registered rest ih =>
    rw [freezeStages] at h
    cases hturn : freezeStage stages build.stages.length registered build with
    | error status => simp [hturn] at h
    | ok next =>
      simp only [hturn] at h
      have hregis : stages[build.stages.length]? = some registered := by
        rw [← List.head?_drop, ← hrest, List.head?_cons]
      obtain ⟨hnext, hsize⟩ := placing_step hplacing hregis hturn
      have hbound := (List.getElem?_eq_some_iff.mp hregis).1
      refine ih hnext ?_ (by omega) (by rwa [hsize])
      rw [hsize, ← tail_drop, ← hrest, tail_cons]

lemma freeze_placed {compiler compiler' : ExecutionGraphCompiler} {out graph : FrozenExecutionGraph}
    (h : compiler.freeze out = .ok (compiler', graph)) :
    WorkspacesPlaced compiler.stages graph.stages graph.resources.maxLiveWorkspaceBytes ∧
      graph.stages.length = compiler.stages.length := by
  unfold ExecutionGraphCompiler.freeze at h
  split_ifs at h
  set states := compiler.fields.map fun field =>
    (⟨field.access, field.initiallyAvailable, field.initiallyAvailable, false⟩ : FieldState)
  cases hbuild : freezeStages compiler.stages 0 compiler.stages { states := states } with
  | error status => simp [hbuild] at h
  | ok build =>
    simp only [hbuild] at h
    split_ifs at h
    simp only [Except.ok.injEq, Prod.mk.injEq] at h
    obtain ⟨-, rfl⟩ := h
    obtain ⟨hplacing, hlength⟩ := @placing_run _ _ { states := states } _ (placing_nil compiler.stages) rfl
      (Nat.zero_le _) hbuild
    exact ⟨hplacing.placed, hlength⟩

end Freeze

lemma placementLoop_stable {stage : OwnedStageSpec} {registration liveThrough : ℕ} {active : List WorkspaceInterval}
    {turns turns' search : ℕ} {result : Except Status WorkspaceInterval}
    (h : placementLoop stage registration liveThrough active turns search = some result) (hturns : turns ≤ turns') :
    placementLoop stage registration liveThrough active turns' search = some result := by
  induction turns generalizing turns' search with
  | zero => simp [placementLoop] at h
  | succ turns ih =>
    obtain ⟨turns', rfl⟩ : ∃ t, turns' = t + 1 := ⟨turns' - 1, by omega⟩
    rw [placementLoop] at h ⊢
    cases hturn : placementTurn stage registration liveThrough active search with
    | failed status => simpa only [hturn] using h
    | placed candidate => simpa only [hturn] using h
    | again next =>
      simp only [hturn] at h ⊢
      exact ih h (by omega)

/-- A search that ends for any number of turns above the number of earlier workspaces, always with
the same result, and in which no sum leaves the range of a `std::size_t`. -/
structure SearchEnds (stage : OwnedStageSpec) (registration liveThrough : ℕ) (active : List WorkspaceInterval) :
    Prop where
  ends : ∃ result, ∀ turns, active.length < turns →
    placementLoop stage registration liveThrough active turns 0 = some result
  grows : ∀ search next, search ≤ maxU64 →
    placementTurn stage registration liveThrough active search = .again next → search < next ∧ next ≤ maxU64
  rounds : ∀ search offset, search ≤ maxU64 →
    checkedAlignTo search stage.workspaceAlignment.toNat = some offset →
      search + (stage.workspaceAlignment.toNat - 1) ≤ maxU64 ∧ offset ≤ maxU64
  fits : ∀ offset candidate, workspaceAt registration liveThrough offset stage.workspaceBytes.toNat = some candidate →
    offset + stage.workspaceBytes.toNat ≤ maxU64

lemma search_ends (stage : OwnedStageSpec) (registration liveThrough : ℕ) (active : List WorkspaceInterval) :
    SearchEnds stage registration liveThrough active where
  ends := by
    obtain ⟨result, hresult⟩ := isSome_iff_exists.mp (placementLoop_ends stage registration liveThrough active)
    exact ⟨result, fun turns hturns => placementLoop_stable hresult hturns⟩
  grows := by
    intro search next hsearch h
    obtain ⟨hless, prior, -, rfl⟩ := placementTurn_again h hsearch
    exact ⟨hless, prior.byteEnd_le⟩
  rounds := by
    intro search offset hsearch h
    refine ⟨?_, (checkedAlignTo_spec h hsearch).2.2.1⟩
    unfold checkedAlignTo at h
    split_ifs at h
    obtain ⟨candidate, hadd, -⟩ := map_eq_some_iff.mp h
    exact (checkedAdd_spec hadd).2 hsearch
  fits := by
    intro offset candidate h
    rw [← (workspaceAt_spec h).2.2.2.2]
    exact candidate.byteEnd_le

/-- Stages of a frozen graph that live together do not share their workspaces, every offset is
aligned, a stage without an offset of its own has the lowest free one, and the search for it ends. -/
theorem freeze_places_workspaces {compiler compiler' : ExecutionGraphCompiler} {out graph : FrozenExecutionGraph}
    (h : compiler.freeze out = .ok (compiler', graph)) :
    (WorkspacesPlaced compiler.stages graph.stages graph.resources.maxLiveWorkspaceBytes ∧
      graph.stages.length = compiler.stages.length) ∧
      ∀ stage registration liveThrough active, SearchEnds stage registration liveThrough active :=
  ⟨freeze_placed h, search_ends⟩

/-- Three stages: the second lives through the third, which asks for a place of its own. -/
def sampleCompiler : ExecutionGraphCompiler where
  configured := true
  stages := [
    { id := 1, workspaceBytes := 100 },
    { id := 2, workspaceBytes := 200, workspaceLiveThrough := 3 },
    { id := 3, workspaceBytes := 8, workspaceAlignment := 8, fixedWorkspaceOffset := 200,
      hasFixedWorkspaceOffset := true, collectiveConsensus := true }]

theorem freeze_places_workspaces_sample : ∃ compiler' graph, sampleCompiler.freeze {} = .ok (compiler', graph) ∧
    WorkspacesPlaced sampleCompiler.stages graph.stages graph.resources.maxLiveWorkspaceBytes := by
  have hok : (sampleCompiler.freeze {}).isOk = true := by decide +kernel
  cases hfreeze : sampleCompiler.freeze {} with
  | error status =>
    rw [hfreeze] at hok
    exact nomatch hok
  | ok result => exact ⟨result.1, result.2, rfl, (freeze_places_workspaces hfreeze).1.1⟩

end HundunFlow.Proofs
