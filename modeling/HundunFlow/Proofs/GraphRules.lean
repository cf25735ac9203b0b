import HundunFlow.Proofs.GraphAtomicity
import Mathlib.Tactic.IntervalCases

/-!
# The rules of a frozen graph

`freeze` succeeds on registered stages that read what is there, overwrite only what they read and
invalidate, and commit behind a consensus; and every frozen graph keeps these rules.
-/

namespace HundunFlow.Proofs

open Lib ExecutionGraphCompiler List

/-- Every ghost is read, and its width is within the capacity declared for it. -/
def GhostRule (fields : List GraphFieldSpec) (stage : OwnedStageSpec) : Prop :=
  stage.ghostWidths.length = stage.ghosts.length ∧ ∀ pair ∈ stage.ghosts.zip stage.ghostWidths,
    pair.1 ∈ stage.reads ∧ pair.2 ≠ 0 ∧ ∃ field ∈ fields, field.access = pair.1 ∧ pair.2 ≤ field.ghostCapacity

/-- What `register_stage` has checked of a stage. -/
structure StageRegistered (fields : List GraphFieldSpec) (stage : OwnedStageSpec) : Prop where
  reads : ∀ access ∈ stage.reads, access ∈ fields.map GraphFieldSpec.access
  writes : ∀ access ∈ stage.writes, access ∈ fields.map GraphFieldSpec.access
  invalidates : ∀ access ∈ stage.invalidates, access ∈ fields.map GraphFieldSpec.access
  ghosts : GhostRule fields stage
  commit : commitValid stage = true

structure CompilerRegistered (compiler : ExecutionGraphCompiler) : Prop where
  fields : (compiler.fields.map GraphFieldSpec.access).Nodup
  stages : ∀ stage ∈ compiler.stages, StageRegistered compiler.fields stage
  configured : compiler.stages ≠ [] → compiler.configured = true

variable {compiler : ExecutionGraphCompiler} {session : GraphSession} (turned : List OwnedStageSpec)
  {nodes : List GraphNode} {stage : UInt16} {kind : GraphNodeKind} {ordinal : ℕ} (kinds : List GraphNodeKind)
  {memory : ℕ → AllocationOutcome}

lemma validAccessSpan_declared {raws : List RawAccess} {accesses : List FieldAccessSpec}
    (h : compiler.validAccessSpan raws = some accesses) :
    ∀ access ∈ accesses, access ∈ compiler.fields.map GraphFieldSpec.access := by
  unfold validAccessSpan at h
  simp only [Option.bind_eq_bind, Option.bind_eq_some_iff, Option.pure_def, Option.some.injEq] at h
  obtain ⟨decoded, -, _, hguard, rfl⟩ := h
  intro access haccess
  unfold guard at hguard
  split at hguard
  · rename_i hchecked
    have hdecl := hchecked.1 access haccess
    rw [any_eq_true] at hdecl
    obtain ⟨field, hfield, heq⟩ := hdecl
    exact mem_map.mpr ⟨field, hfield, of_decide_eq_true heq⟩
  · cases hguard

lemma ghostsValid_rule {stage : OwnedStageSpec} (hwidths : stage.ghostWidths.length = stage.ghosts.length)
    (h : compiler.ghostsValid stage.reads stage.ghosts stage.ghostWidths = true) : GhostRule compiler.fields stage := by
  refine ⟨hwidths, fun pair hpair => ?_⟩
  have hvalid := all_eq_true.mp h pair hpair
  dsimp only at hvalid
  rw [Bool.and_eq_true, Bool.and_eq_true] at hvalid
  obtain ⟨⟨hread, hwidth⟩, hcapacity⟩ := hvalid
  refine ⟨by simpa using hread, by simpa using hwidth, ?_⟩
  split at hcapacity
  · exact Bool.noConfusion hcapacity
  · rename_i declared hdecl
    exact ⟨declared, List.mem_of_find?_eq_some hdecl, by simpa using List.find?_some hdecl,
      of_decide_eq_true hcapacity⟩

lemma ownedStage_registered {memory : CallerMemory} {stage : StageSpec} {candidate : OwnedStageSpec}
    (hshape : compiler.stageShapeValid stage = true) (howned : compiler.ownedStage memory stage = some candidate)
    (hghosts : compiler.ghostsValid candidate.reads candidate.ghosts candidate.ghostWidths = true)
    (hcommit : commitValid candidate = true) : StageRegistered compiler.fields candidate := by
  have hwidths := (ownedStage_holds hshape howned).widths
  unfold ownedStage at howned
  simp only [Option.bind_eq_bind, Option.bind_eq_some_iff, Option.pure_def, Option.some.injEq] at howned
  obtain ⟨kind, -, reads, hreads, writes, hwrites, ghosts, -, invalidates, hinval, rfl⟩ := howned
  exact ⟨validAccessSpan_declared hreads, validAccessSpan_declared hwrites, validAccessSpan_declared hinval,
    ghostsValid_rule hwidths hghosts, hcommit⟩

lemma registered_step (h : CompilerRegistered session.compiler) (call : CompilerCall) :
    CompilerRegistered (call.apply session).1.compiler := by
  cases call with
  | configure memory fields allocation =>
    simp only [CompilerCall.apply]
    unfold configure
    split
    · exact h
    · rename_i hguard
      split
      · exact h
      · split
        · exact h
        · split
          · rename_i hnodup
            have hempty : session.compiler.stages = [] := by
              by_contra hne
              rw [h.configured hne] at hguard
              exact hguard rfl
            refine ⟨hnodup, fun stage hstage => ?_, fun _ => rfl⟩
            dsimp only at hstage
            rw [hempty] at hstage
            exact absurd hstage not_mem_nil
          · exact h
  | registerStage memory stage allocation =>
    simp only [CompilerCall.apply]
    rcases registerStage_cases session.compiler memory stage allocation with
      ⟨-, hkept⟩ | ⟨candidate, hshape, -, howned, hghosts, -, hcommit, heq⟩
    · rw [hkept]
      exact h
    · rw [heq]
      refine ⟨h.fields, fun other hother => ?_, fun _ => ?_⟩
      · rcases mem_append.mp hother with hprior | hlast
        · exact h.stages other hprior
        · rw [mem_singleton.mp hlast]
          exact ownedStage_registered hshape howned hghosts hcommit
      · simp only [stageShapeValid, Bool.and_eq_true] at hshape
        exact hshape.1.1.1.1.1.1.1.1.1.1
  | freeze out memory =>
    simp only [CompilerCall.apply]
    rcases freezeWith_cases session.compiler memory (session.graphs out) with ⟨-, hkept, -⟩ | ⟨-, -, hfrozen, -⟩
    · rw [hkept]
      exact h
    · rw [hfrozen]
      exact ⟨h.fields, h.stages, h.configured⟩

lemma registered_run (h : CompilerRegistered session.compiler) (calls : List CompilerCall) :
    CompilerRegistered (runCalls session calls).1.compiler := by
  induction calls generalizing session with
  | nil => exact h
  | cons call calls ih => exact ih (registered_step h call)

def FieldWritten (fields : List GraphFieldSpec) (earlier : List OwnedStageSpec) (access : FieldAccessSpec) : Prop :=
  (∃ field ∈ fields, field.access = access ∧ field.initiallyAvailable = true) ∨ ∃ stage ∈ earlier, access ∈ stage.writes

structure AccessRule (fields : List GraphFieldSpec) (earlier : List OwnedStageSpec) (stage : OwnedStageSpec) : Prop where
  reads : ∀ access ∈ stage.reads, FieldWritten fields earlier access
  writes : ∀ access ∈ stage.writes, FieldWritten fields earlier access → access ∈ stage.reads ∧ access ∈ stage.invalidates

def ConsensusReached (earlier : List OwnedStageSpec) : Prop :=
  ∃ before last after, earlier = before ++ last :: after ∧ last.collectiveConsensus = true ∧
    ∀ stage ∈ after, stage.kind = .commit

/-- The rules for stages in the order of their registration. -/
structure GraphRules (fields : List GraphFieldSpec) (stages : List OwnedStageSpec) : Prop where
  accesses : ∀ earlier stage later, stages = earlier ++ stage :: later → AccessRule fields earlier stage
  oneCommit : stages.countP (fun stage => stage.kind = .commit) ≤ 1
  reached : ∀ earlier stage later, stages = earlier ++ stage :: later → stage.kind = .commit → ConsensusReached earlier
  services : ∀ earlier stage later, stages = earlier ++ stage :: later → stage.kind = .commit →
    ∀ other ∈ later, other.kind = .service
  consensus : ∀ earlier stage later, stages = earlier ++ stage :: later → stage.kind ≠ .commit →
    ∃ other ∈ stage :: later, other.collectiveConsensus = true

def InvalidationRule (stage : OwnedStageSpec) : Prop :=
  ∀ access ∈ stage.invalidates, access ∈ stage.reads ∧ access ∈ stage.writes

section Fields

variable {fields : List GraphFieldSpec} {turned : List OwnedStageSpec} {registered : OwnedStageSpec}

def fieldReached (turned : List OwnedStageSpec) (field : GraphFieldSpec) : Bool :=
  field.initiallyAvailable || turned.any fun stage => stage.writes.contains field.access

def stateOf (turned : List OwnedStageSpec) (field : GraphFieldSpec) : FieldState :=
  ⟨field.access, fieldReached turned field, fieldReached turned field, false⟩

lemma updateState_eq_map {access : FieldAccessSpec} {change : FieldState → FieldState} {states : List FieldState}
    (h : (states.map FieldState.access).Nodup) :
    updateState access change states = states.map fun state => if state.access = access then change state else state := by
  induction states with
  | nil => rfl
  | cons state states ih =>
    rw [map_cons, nodup_cons] at h
    rw [updateState, map_cons]
    by_cases heq : state.access = access
    · rw [if_pos heq, if_pos heq]
      congr 1
      rw [map_congr_left, map_id]
      intro other hother
      refine if_neg fun hsame => h.1 ?_
      rw [heq, ← hsame]
      exact mem_map_of_mem hother
    · rw [if_neg heq, if_neg heq, ih h.2]

lemma foldl_updateState {change : FieldState → FieldState} (haccess : ∀ state, (change state).access = state.access)
    (htwice : ∀ state, change (change state) = change state) (accesses : List FieldAccessSpec) {states : List FieldState}
    (h : (states.map FieldState.access).Nodup) :
    accesses.foldl (fun states access => updateState access change states) states =
      states.map fun state => if state.access ∈ accesses then change state else state := by
  induction accesses generalizing states with
  | nil => simp
  | cons access accesses ih =>
    have hkept : (states.map fun state => if state.access = access then change state else state).map FieldState.access =
        states.map FieldState.access := by
      rw [map_map]
      refine map_congr_left fun state _ => ?_
      dsimp only [Function.comp]
      split
      · exact haccess state
      · rfl
    rw [foldl_cons, updateState_eq_map h, ih (by rw [hkept]; exact h), map_map]
    refine map_congr_left fun state _ => ?_
    dsimp only [Function.comp]
    by_cases heq : state.access = access
    · simp only [heq, if_true, haccess, htwice, ite_self, mem_cons_self]
    · simp only [heq, if_false, mem_cons, false_or]

lemma statesBehind_statesOf (hfields : (fields.map GraphFieldSpec.access).Nodup) (hrule : InvalidationRule registered) :
    statesBehind registered (fields.map (stateOf turned)) = fields.map (stateOf (turned ++ [registered])) := by
  have hnodup : ((fields.map (stateOf turned)).map FieldState.access).Nodup := by
    rw [map_map]
    exact hfields
  have hinvalidated := @foldl_updateState (fun state => { state with invalidated := true }) (fun _ => rfl) (fun _ => rfl)
    registered.invalidates _ hnodup
  dsimp only [statesBehind] at hinvalidated ⊢
  rw [hinvalidated, @foldl_updateState
    (fun state => { state with available := true, initialized := true, invalidated := false }) (fun _ => rfl) (fun _ => rfl)]
  · rw [map_map, map_map]
    refine map_congr_left fun field _ => ?_
    dsimp only [Function.comp]
    have haccess : (if (stateOf turned field).access ∈ registered.invalidates then
        { stateOf turned field with invalidated := true } else stateOf turned field).access = field.access := by
      split <;> rfl
    rw [haccess]
    have hreached : fieldReached (turned ++ [registered]) field =
        (fieldReached turned field || registered.writes.contains field.access) := by
      rw [fieldReached, any_append, any_cons, any_nil, Bool.or_false, ← Bool.or_assoc, fieldReached]
    by_cases hwrite : field.access ∈ registered.writes
    · have htrue : fieldReached (turned ++ [registered]) field = true := by
        rw [hreached, contains_iff_mem.mpr hwrite, Bool.or_true]
      rw [if_pos hwrite, stateOf, htrue]
    · have hsame : fieldReached (turned ++ [registered]) field = fieldReached turned field := by
        rw [hreached, Bool.eq_false_iff.mpr fun hmem => hwrite (contains_iff_mem.mp hmem), Bool.or_false]
      have hvalid : ¬ (stateOf turned field).access ∈ registered.invalidates :=
        fun hinvalid => hwrite (hrule _ hinvalid).2
      rw [if_neg hwrite, if_neg hvalid, stateOf, stateOf, hsame]
  · rw [map_map]
    have hkept : ∀ state ∈ fields.map (stateOf turned), (FieldState.access ∘ fun state : FieldState =>
        if state.access ∈ registered.invalidates then { state with invalidated := true } else state) state =
          state.access := by
      intro state _
      dsimp only [Function.comp]
      split <;> rfl
    rw [map_congr_left hkept]
    exact hnodup

lemma fieldReached_iff (hfields : (fields.map GraphFieldSpec.access).Nodup) {field : GraphFieldSpec} (hfield : field ∈ fields) :
    fieldReached turned field = true ↔ FieldWritten fields turned field.access := by
  rw [fieldReached, Bool.or_eq_true, any_eq_true]
  constructor
  · rintro (hinitial | ⟨stage, hstage, hwrite⟩)
    · exact .inl ⟨field, hfield, rfl, hinitial⟩
    · exact .inr ⟨stage, hstage, contains_iff_mem.mp hwrite⟩
  · rintro (⟨other, hother, haccess, hinitial⟩ | ⟨stage, hstage, hwrite⟩)
    · rw [inj_on_of_nodup_map hfields hother hfield haccess] at hinitial
      exact .inl hinitial
    · exact .inr ⟨stage, hstage, contains_iff_mem.mpr hwrite⟩

lemma findState_declared (hfields : (fields.map GraphFieldSpec.access).Nodup) {access : FieldAccessSpec}
    (hdecl : access ∈ fields.map GraphFieldSpec.access) :
    ∃ b, findState (fields.map (stateOf turned)) access = some ⟨access, b, b, false⟩ ∧ (b = true ↔ FieldWritten fields turned access) := by
  cases hfind : findState (fields.map (stateOf turned)) access with
  | none =>
    obtain ⟨field, hfield, rfl⟩ := mem_map.mp hdecl
    exact absurd (List.find?_eq_none.mp hfind _ (mem_map_of_mem hfield)) (by simp [stateOf])
  | some state =>
    obtain ⟨field, hfield, rfl⟩ := mem_map.mp (List.mem_of_find?_eq_some hfind)
    have hfound := List.find?_some (p := fun state : FieldState => decide (state.access = access)) hfind
    have haccess : field.access = access := of_decide_eq_true hfound
    rw [← haccess]
    exact ⟨fieldReached turned field, rfl, fieldReached_iff hfields hfield⟩

lemma accessFailure_none_iff (hfields : (fields.map GraphFieldSpec.access).Nodup) (h : StageRegistered fields registered) :
    accessFailure (fields.map (stateOf turned)) registered = none ↔
      AccessRule fields turned registered ∧ InvalidationRule registered := by
  have hmissing : ∀ access ∈ fields.map GraphFieldSpec.access,
      ((findState (fields.map (stateOf turned)) access).all fun state => !state.available || state.invalidated) = true ↔
        ¬ FieldWritten fields turned access := by
    intro access hdecl
    obtain ⟨b, hfind, hb⟩ := @findState_declared fields turned hfields access hdecl
    rw [hfind, ← hb]
    cases b <;> simp
  have hkept : ∀ access ∈ fields.map GraphFieldSpec.access,
      ((findState (fields.map (stateOf turned)) access).all fun state =>
        state.initialized && (!registered.reads.contains access || !registered.invalidates.contains access)) = true ↔
        FieldWritten fields turned access ∧ ¬ (access ∈ registered.reads ∧ access ∈ registered.invalidates) := by
    intro access hdecl
    obtain ⟨b, hfind, hb⟩ := @findState_declared fields turned hfields access hdecl
    rw [hfind, ← hb]
    simp only [Option.all_some, Bool.and_eq_true, Bool.or_eq_true, Bool.not_eq_true', contains_eq_mem,
      decide_eq_false_iff_not]
    tauto
  dsimp only [accessFailure]
  constructor
  · intro hnone
    split at hnone
    · cases hnone
    · rename_i hreads
      split at hnone
      · cases hnone
      · rename_i hinval
        split at hnone
        · cases hnone
        · rename_i hwrites
          rw [any_eq_true] at hreads hinval hwrites
          refine ⟨⟨fun access haccess => ?_, fun access haccess hwritten => ?_⟩, fun access haccess => ?_⟩
          · by_contra hne
            exact hreads ⟨access, haccess, (hmissing access (h.reads access haccess)).mpr hne⟩
          · by_contra hne
            exact hwrites ⟨access, haccess, (hkept access (h.writes access haccess)).mpr ⟨hwritten, hne⟩⟩
          · by_contra hne
            refine hinval ⟨access, haccess, ?_⟩
            simp only [Bool.or_eq_true, Bool.not_eq_true', contains_eq_mem, decide_eq_false_iff_not]
            tauto
  · rintro ⟨hrule, hinvalidation⟩
    rw [if_neg, if_neg, if_neg]
    · rw [any_eq_true]
      rintro ⟨access, haccess, hbad⟩
      obtain ⟨hwritten, hne⟩ := (hkept access (h.writes access haccess)).mp hbad
      exact hne (hrule.writes access haccess hwritten)
    · rw [any_eq_true]
      rintro ⟨access, haccess, hbad⟩
      obtain ⟨hread, hwrite⟩ := hinvalidation access haccess
      rw [contains_iff_mem.mpr hread, contains_iff_mem.mpr hwrite, Bool.not_true, Bool.or_false, Bool.or_false] at hbad
      exact (hmissing access (h.reads access hread)).mp hbad (hrule.reads access hread)
    · rw [any_eq_true]
      rintro ⟨access, haccess, hbad⟩
      exact (hmissing access (h.reads access haccess)).mp hbad (hrule.reads access haccess)

end Fields

def pendingWork (turned : List OwnedStageSpec) : Bool :=
  turned.foldl (fun pending stage => !stage.collectiveConsensus && (pending || stage.kind ≠ .commit)) false

section Consensus

variable {turned : List OwnedStageSpec} {registered : OwnedStageSpec}

lemma pendingWork_snoc (turned : List OwnedStageSpec) (registered : OwnedStageSpec) :
    pendingWork (turned ++ [registered]) =
      (!registered.collectiveConsensus && (pendingWork turned || registered.kind ≠ .commit)) := by
  rw [pendingWork, foldl_append]
  rfl

lemma pendingWork_false_iff : pendingWork turned = false ↔
    ∀ earlier stage later, turned = earlier ++ stage :: later → stage.kind ≠ .commit →
      ∃ other ∈ stage :: later, other.collectiveConsensus = true := by
  induction turned using reverseRecOn with
  | nil =>
    refine ⟨fun _ earlier stage later h => ?_, fun _ => rfl⟩
    exact absurd h.symm (by simp)
  | append_singleton turned registered ih =>
    rw [pendingWork_snoc]
    cases hcons : registered.collectiveConsensus with
    | true =>
      refine ⟨fun _ earlier stage later h _ => ?_, fun _ => rfl⟩
      rcases snoc_eq_split.mp h with ⟨rfl, rfl, rfl⟩ | ⟨rest, rfl, -⟩
      · exact ⟨stage, mem_singleton_self stage, hcons⟩
      · exact ⟨registered, mem_cons_of_mem _ (mem_append_right _ (mem_singleton_self _)), hcons⟩
    | false =>
      rw [Bool.not_false, Bool.true_and, Bool.or_eq_false_iff, decide_eq_false_iff_not, not_not, ih]
      constructor
      · rintro ⟨hearlier, hkind⟩ earlier stage later h hstage
        rcases snoc_eq_split.mp h with ⟨rfl, rfl, rfl⟩ | ⟨rest, rfl, hsplit⟩
        · exact absurd hkind hstage
        · obtain ⟨other, hother, hyes⟩ := hearlier earlier stage rest hsplit hstage
          refine ⟨other, ?_, hyes⟩
          rw [← cons_append]
          exact mem_append_left _ hother
      · intro hall
        constructor
        · intro earlier stage later h hstage
          obtain ⟨other, hother, hyes⟩ := hall earlier stage (later ++ [registered])
            (by rw [h, append_assoc, cons_append]) hstage
          rw [← cons_append, mem_append, mem_singleton] at hother
          rcases hother with hother | rfl
          · exact ⟨other, hother, hyes⟩
          · rw [hcons] at hyes
            cases hyes
        · by_contra hkind
          obtain ⟨other, hother, hyes⟩ := hall turned registered [] rfl hkind
          rw [mem_singleton.mp hother, hcons] at hyes
          cases hyes

lemma consensusReached_iff : ConsensusReached turned ↔
    (turned.any fun stage => stage.collectiveConsensus) = true ∧ pendingWork turned = false := by
  induction turned using reverseRecOn with
  | nil =>
    constructor
    · rintro ⟨before, last, after, h, -⟩
      exact absurd h.symm (by simp)
    · rintro ⟨h, -⟩
      cases h
  | append_singleton turned registered ih =>
    rw [pendingWork_snoc, any_append, any_cons, any_nil, Bool.or_false]
    cases hcons : registered.collectiveConsensus with
    | true =>
      refine ⟨fun _ => ⟨Bool.or_true _, rfl⟩, fun _ => ⟨turned, registered, [], rfl, hcons, ?_⟩⟩
      exact fun _ hmem => absurd hmem not_mem_nil
    | false =>
      rw [Bool.or_false, Bool.not_false, Bool.true_and, Bool.or_eq_false_iff, decide_eq_false_iff_not, not_not, ← and_assoc, ← ih]
      constructor
      · rintro ⟨before, last, after, h, hlast, hafter⟩
        rcases snoc_eq_split.mp h with ⟨rfl, rfl, rfl⟩ | ⟨rest, rfl, hsplit⟩
        · rw [hcons] at hlast
          cases hlast
        · exact ⟨⟨before, last, rest, hsplit, hlast, fun stage hstage => hafter stage (mem_append_left _ hstage)⟩,
            hafter registered (mem_append_right _ (mem_singleton_self _))⟩
      · rintro ⟨⟨before, last, after, rfl, hlast, hafter⟩, hkind⟩
        refine ⟨before, last, after ++ [registered], by rw [append_assoc, cons_append], hlast, ?_⟩
        intro stage hstage
        rcases mem_append.mp hstage with hmem | hmem
        · exact hafter stage hmem
        · rw [mem_singleton.mp hmem]
          exact hkind

end Consensus

def blockOf (ordinal : ℕ) (stage : OwnedStageSpec) : List GraphNode :=
  (nodeKinds stage).map fun kind => ⟨stage.id, kind, ordinal⟩

def blocksOf (turned : List OwnedStageSpec) : List (List GraphNode) := turned.zipIdx.map fun entry => blockOf entry.2 entry.1

lemma blocksOf_snoc (registered : OwnedStageSpec) :
    blocksOf (turned ++ [registered]) = blocksOf turned ++ [blockOf turned.length registered] := by
  rw [blocksOf, zipIdx_append, map_append, blocksOf]
  simp

lemma length_blocksOf : (blocksOf turned).length = turned.length := by
  rw [blocksOf, length_map, length_zipIdx]

lemma getElem?_blocksOf (turned : List OwnedStageSpec) (i : ℕ) :
    (blocksOf turned)[i]? = turned[i]?.map (blockOf i) := by
  rw [blocksOf, List.getElem?_map, List.getElem?_zipIdx]
  cases turned[i]? <;> simp

lemma nodeKinds_ne_nil (stage : OwnedStageSpec) : nodeKinds stage ≠ [] := by
  unfold nodeKinds
  split
  · simp
  · cases stage.kind <;> simp

def chainEdges (n : ℕ) : List GraphEdge := (range (n - 1)).map fun i => ⟨i, i + 1⟩

def chainOf (nodes : List GraphNode) : NodeChain where
  nodes := nodes
  edges := chainEdges nodes.length
  lastNode := if nodes = [] then none else some (nodes.length - 1)

lemma appendEdge_chain (n : ℕ) : appendEdge (chainEdges (n + 1)) n (n + 1) = chainEdges (n + 2) := by
  have hlast : (chainEdges (n + 1)).getLast? ≠ some ⟨n, n + 1⟩ := by
    intro h
    have hmem := mem_of_getLast? h
    obtain ⟨i, hi, heq⟩ := mem_map.mp hmem
    have hlt := mem_range.mp hi
    have hsame := congrArg GraphEdge.source heq
    dsimp only at hsame
    omega
  rw [appendEdge, if_neg]
  · rw [chainEdges, chainEdges, Nat.add_sub_cancel, show n + 2 - 1 = n + 1 from rfl, range_succ, map_append]
    rfl
  · simp only [Bool.or_eq_true, decide_eq_true_eq, not_or]
    exact ⟨by omega, hlast⟩

lemma addNode_chainOf (h : nodes.length < maxUint32) :
    addNode stage ordinal (chainOf nodes) kind = some (chainOf (nodes ++ [⟨stage, kind, ordinal⟩])) := by
  rw [addNode, if_neg (by change ¬ maxUint32 ≤ nodes.length; omega)]
  have hlast : (chainOf (nodes ++ [⟨stage, kind, ordinal⟩])).lastNode = some nodes.length := by
    dsimp only [chainOf]
    rw [if_neg (by simp), length_append, length_singleton, Nat.add_sub_cancel]
  have hedges : ((chainOf nodes).lastNode.map fun last => appendEdge (chainOf nodes).edges last nodes.length).getD
      (chainOf nodes).edges = chainEdges (nodes.length + 1) := by
    rcases eq_nil_or_concat nodes with rfl | ⟨before, last, rfl⟩
    · rfl
    · dsimp only [chainOf]
      rw [concat_eq_append, if_neg (by simp), length_append, length_singleton, Nat.add_sub_cancel]
      exact appendEdge_chain before.length
  have hlength : (nodes ++ [(⟨stage, kind, ordinal⟩ : GraphNode)]).length = nodes.length + 1 := by
    rw [length_append, length_singleton]
  refine congrArg some ?_
  rw [NodeChain.mk.injEq]
  refine ⟨rfl, ?_, hlast.symm⟩
  change _ = chainEdges _
  rw [hlength]
  exact hedges

lemma addNode_some {chain chain' : NodeChain}
    (h : addNode stage ordinal chain kind = some chain') : chain.nodes.length < maxUint32 := by
  by_contra hle
  rw [addNode, if_pos (not_lt.mp hle)] at h
  cases h

lemma foldlM_addNode (h : nodes.length + kinds.length ≤ maxUint32) :
    kinds.foldlM (addNode stage ordinal) (chainOf nodes) =
      some (chainOf (nodes ++ kinds.map fun kind => ⟨stage, kind, ordinal⟩)) := by
  induction kinds generalizing nodes with
  | nil =>
    rw [map_nil, append_nil]
    rfl
  | cons kind kinds ih =>
    rw [length_cons] at h
    rw [foldlM_cons, addNode_chainOf (by omega), Option.bind_eq_bind, Option.bind_some,
      ih (by rw [length_append, length_singleton]; omega), append_assoc]
    rfl

lemma foldlM_addNode_some {chain : NodeChain}
    (h : kinds.foldlM (addNode stage ordinal) (chainOf nodes) = some chain) :
    chain = chainOf (nodes ++ kinds.map fun kind => ⟨stage, kind, ordinal⟩) := by
  induction kinds generalizing nodes with
  | nil =>
    rw [map_nil, append_nil]
    exact (Option.some.inj h).symm
  | cons kind kinds ih =>
    rw [foldlM_cons, Option.bind_eq_bind, Option.bind_eq_some_iff] at h
    obtain ⟨next, hnext, hrest⟩ := h
    have hroom : nodes.length < maxUint32 := addNode_some hnext
    rw [addNode_chainOf hroom] at hnext
    obtain rfl := Option.some.inj hnext
    rw [ih hrest, append_assoc]
    rfl

structure BuildFollows (fields : List GraphFieldSpec) (turned : List OwnedStageSpec) (build : GraphBuild) : Prop where
  states : build.states = fields.map (stateOf turned)
  pending : build.unconsensedWork = pendingWork turned
  consensus : build.hasConsensus = turned.any fun stage => stage.collectiveConsensus
  commit : build.seenCommit = turned.any fun stage => stage.kind = .commit
  chain : build.chain = chainOf (blocksOf turned).flatten
  length : build.stages.length = turned.length
  blocks : ∀ i frozen, build.stages[i]? = some frozen → ∃ stage, turned[i]? = some stage ∧ frozen.id = stage.id ∧
    frozen.nodeBegin = blockStart (blocksOf turned) i ∧ frozen.nodeCount = (nodeKinds stage).length

structure StageRules (fields : List GraphFieldSpec) (earlier : List OwnedStageSpec) (stage : OwnedStageSpec) : Prop where
  access : AccessRule fields earlier stage
  invalidation : InvalidationRule stage
  service : (∃ other ∈ earlier, other.kind = .commit) → stage.kind = .service
  reached : stage.kind = .commit → ConsensusReached earlier

section Turns

variable {fields : List GraphFieldSpec} {stages turned : List OwnedStageSpec} {registered : OwnedStageSpec}
  {build build' : GraphBuild}

structure StageTurned (ordinal : ℕ) (registered : OwnedStageSpec) (build build' : GraphBuild) : Prop where
  service : build.seenCommit = true → registered.kind = .service
  commit : registered.kind = .commit → build.unconsensedWork = false ∧ build.hasConsensus = true
  access : accessFailure build.states registered = none
  states : build'.states = statesBehind registered build.states
  chain : (nodeKinds registered).foldlM (addNode registered.id ordinal) build.chain = some build'.chain
  pending : build'.unconsensedWork =
    (!registered.collectiveConsensus && (build.unconsensedWork || mayFailOrMutate registered))
  consensus : build'.hasConsensus = (build.hasConsensus || registered.collectiveConsensus)
  seenCommit : build'.seenCommit = (build.seenCommit || decide (registered.kind = .commit))
  stages : ∃ last, build'.stages = build.stages ++ [last] ∧ last.id = registered.id ∧
    last.nodeBegin = build.chain.nodes.length ∧ last.nodeCount = build'.chain.nodes.length - build.chain.nodes.length

lemma freezeStage_turned {ordinal : ℕ} (h : freezeStage stages ordinal registered build = .ok build') :
    StageTurned ordinal registered build build' := by
  unfold freezeStage at h
  split at h
  · cases h
  · rename_i hguard
    simp only [Bool.or_eq_true, Bool.and_eq_true, decide_eq_true_eq, Bool.not_eq_true', not_or, not_and, ne_eq,
      Decidable.not_not] at hguard
    split at h
    · cases h
    · rename_i haccess
      split at h
      · cases h
      · split at h
        · cases h
        · split at h
          · cases h
          · rename_i chain hchain
            dsimp only at h
            split at h
            · cases h
            · split at h
              · cases h
              · obtain rfl := Except.ok.inj h
                refine ⟨hguard.1.2, fun hkind => ?_, haccess, rfl, hchain, rfl, rfl, rfl, ⟨_, rfl, rfl, rfl, rfl⟩⟩
                have hwork := hguard.2 hkind
                exact ⟨by simpa using hwork.1.2, by simpa using hwork.2⟩

lemma mayFailOrMutate_eq (h : commitValid registered = true) :
    mayFailOrMutate registered = decide (registered.kind ≠ .commit) := by
  by_cases hkind : registered.kind = .commit
  · simp only [commitValid, noSolverResources, hkind, ne_eq, not_true_eq_false, decide_false, Bool.false_or,
      Bool.and_eq_true, decide_eq_true_eq] at h
    simp [mayFailOrMutate, hkind, h]
  · simp [mayFailOrMutate, hkind]

lemma follows_step (hfields : (fields.map GraphFieldSpec.access).Nodup) (hregis : StageRegistered fields registered)
    (hfollows : BuildFollows fields turned build) (h : StageTurned turned.length registered build build') :
    StageRules fields turned registered ∧ BuildFollows fields (turned ++ [registered]) build' := by
  have haccess := h.access
  rw [hfollows.states, accessFailure_none_iff hfields hregis] at haccess
  have hchain := h.chain
  rw [hfollows.chain] at hchain
  have hnodes := foldlM_addNode_some _ hchain
  have hflatten : (blocksOf (turned ++ [registered])).flatten = (blocksOf turned).flatten ++ blockOf turned.length registered := by
    rw [blocksOf_snoc, flatten_append, flatten_singleton]
  refine ⟨⟨haccess.1, haccess.2, fun ⟨other, hother, hkind⟩ => ?_, fun hkind => ?_⟩, ?_, ?_, ?_, ?_, ?_, ?_, ?_⟩
  · refine h.service ?_
    rw [hfollows.commit]
    exact any_eq_true.mpr ⟨other, hother, decide_eq_true hkind⟩
  · obtain ⟨hwork, hyes⟩ := h.commit hkind
    exact consensusReached_iff.mpr ⟨hfollows.consensus ▸ hyes, hfollows.pending ▸ hwork⟩
  · rw [h.states, hfollows.states, statesBehind_statesOf hfields haccess.2]
  · rw [h.pending, hfollows.pending, mayFailOrMutate_eq hregis.commit, pendingWork_snoc]
  · rw [h.consensus, hfollows.consensus, any_append, any_cons, any_nil, Bool.or_false]
  · rw [h.seenCommit, hfollows.commit, any_append, any_cons, any_nil, Bool.or_false]
  · rw [hnodes, hflatten]
    rfl
  · obtain ⟨last, hlast, -⟩ := h.stages
    rw [hlast, length_append, length_append, hfollows.length]
    rfl
  · obtain ⟨last, hlast, hid, hbegin, hcount⟩ := h.stages
    intro i frozen hi
    rw [hlast] at hi
    have hlt : i < (build.stages ++ [last]).length := (List.getElem?_eq_some_iff.mp hi).1
    rw [length_append, length_singleton, hfollows.length] at hlt
    rw [blocksOf_snoc, blockStart_snoc (by rw [length_blocksOf]; omega)]
    by_cases hearlier : i < turned.length
    · rw [List.getElem?_append_left (by rw [hfollows.length]; exact hearlier)] at hi
      rw [List.getElem?_append_left hearlier]
      exact hfollows.blocks i frozen hi
    · obtain rfl : i = turned.length := by omega
      rw [List.getElem?_append_right hfollows.length.le, hfollows.length, Nat.sub_self] at hi
      obtain rfl := Option.some.inj hi
      refine ⟨registered, ?_, hid, ?_, ?_⟩
      · rw [List.getElem?_append_right le_rfl, Nat.sub_self]
        rfl
      · rw [hbegin, hfollows.chain, ← length_blocksOf, blockStart_length]
        rfl
      · rw [hcount, hnodes, hfollows.chain]
        change ((blocksOf turned).flatten ++ List.map _ _).length - (blocksOf turned).flatten.length = _
        rw [length_append, length_map, Nat.add_sub_cancel_left]

lemma follows_run {memory : ℕ → AllocationOutcome} {rest : List OwnedStageSpec}
    (hfields : (fields.map GraphFieldSpec.access).Nodup) (hregis : ∀ stage ∈ rest, StageRegistered fields stage)
    (hfollows : BuildFollows fields turned build)
    (h : freezeStagesWith memory stages turned.length rest build = .ok build') :
    BuildFollows fields (turned ++ rest) build' ∧
      ∀ before stage later, rest = before ++ stage :: later → StageRules fields (turned ++ before) stage := by
  induction rest generalizing turned build with
  | nil =>
    obtain rfl := Except.ok.inj h
    rw [append_nil]
    refine ⟨hfollows, fun before stage later hsplit => ?_⟩
    exact absurd hsplit.symm (by simp)
  | cons registered rest ih =>
    rw [freezeStagesWith] at h
    split at h
    · cases h
    · split at h
      · cases h
      · rename_i next hnext
        obtain ⟨hrules, hfollows'⟩ := follows_step hfields (hregis registered mem_cons_self) hfollows
          (freezeStage_turned hnext)
        have hlength : (turned ++ [registered]).length = turned.length + 1 := by
          rw [length_append, length_singleton]
        rw [← hlength] at h
        obtain ⟨hfinal, hlater⟩ := ih (fun stage hstage => hregis stage (mem_cons_of_mem _ hstage)) hfollows' h
        rw [append_assoc, singleton_append] at hfinal
        refine ⟨hfinal, ?_⟩
        rintro (- | ⟨first, before⟩) stage later hsplit
        · obtain ⟨rfl, -⟩ := List.cons.inj hsplit
          rw [append_nil]
          exact hrules
        · obtain ⟨rfl, hrest⟩ := List.cons.inj hsplit
          have hstage := hlater before stage later hrest
          rwa [append_assoc, singleton_append] at hstage

lemma graphRules_iff : (GraphRules fields stages ∧ ∀ stage ∈ stages, InvalidationRule stage) ↔
    (∀ earlier stage later, stages = earlier ++ stage :: later → StageRules fields earlier stage) ∧
      pendingWork stages = false := by
  rw [pendingWork_false_iff]
  constructor
  · rintro ⟨h, hinvalidation⟩
    refine ⟨fun earlier stage later hsplit => ⟨h.accesses _ _ _ hsplit, ?_, ?_, h.reached _ _ _ hsplit⟩, h.consensus⟩
    · exact hinvalidation stage (by rw [hsplit]; exact mem_append_right _ mem_cons_self)
    · rintro ⟨other, hother, hkind⟩
      obtain ⟨before, after, rfl⟩ := append_of_mem hother
      refine h.services before other (after ++ stage :: later) ?_ hkind stage ?_
      · rw [hsplit, append_assoc, cons_append]
      · exact mem_append_right _ mem_cons_self
  · rintro ⟨hrules, hcons⟩
    have hserv : ∀ earlier stage later, stages = earlier ++ stage :: later → stage.kind = .commit →
        ∀ other ∈ later, other.kind = .service := by
      intro earlier stage later hsplit hkind other hother
      obtain ⟨before, after, rfl⟩ := append_of_mem hother
      refine (hrules (earlier ++ stage :: before) other after ?_).service ⟨stage, ?_, hkind⟩
      · rw [hsplit, append_assoc, cons_append]
      · exact mem_append_right _ mem_cons_self
    refine ⟨⟨fun _ _ _ hsplit => (hrules _ _ _ hsplit).access, ?_, fun _ _ _ hsplit => (hrules _ _ _ hsplit).reached,
      hserv, hcons⟩, fun stage hstage => ?_⟩
    · by_cases hcommit : ∃ stage ∈ stages, stage.kind = .commit
      · obtain ⟨stage, hstage, hkind⟩ := hcommit
        obtain ⟨before, after, hsplit⟩ := append_of_mem hstage
        have hbefore : before.countP (fun other => other.kind = .commit) = 0 := by
          refine countP_eq_zero.mpr fun other hother heq => ?_
          have hservice := (hrules before stage after hsplit).service ⟨other, hother, of_decide_eq_true heq⟩
          rw [hkind] at hservice
          cases hservice
        have hafter : after.countP (fun other => other.kind = .commit) = 0 := by
          refine countP_eq_zero.mpr fun other hother heq => ?_
          have hservice := hserv before stage after hsplit hkind other hother
          rw [of_decide_eq_true heq] at hservice
          cases hservice
        rw [hsplit, countP_append, countP_cons, hbefore, hafter, if_pos (decide_eq_true hkind)]
      · have hnone : stages.countP (fun stage => stage.kind = .commit) = 0 :=
          countP_eq_zero.mpr fun stage hstage heq => hcommit ⟨stage, hstage, of_decide_eq_true heq⟩
        rw [hnone]
        exact Nat.zero_le 1
    · obtain ⟨before, after, hsplit⟩ := append_of_mem hstage
      exact (hrules before stage after hsplit).invalidation

end Turns

def placeWorkspaces (stages : List OwnedStageSpec) :
    ℕ → List OwnedStageSpec → List WorkspaceInterval → ℕ → Option (List WorkspaceInterval × ℕ)
  | _, [], workspaces, highWater => some (workspaces, highWater)
  | ordinal, registered :: rest, workspaces, highWater =>
    match liveThroughOrdinal stages ordinal registered with
    | none => none
    | some liveThrough =>
      match allocateWorkspace registered ordinal liveThrough workspaces highWater with
      | .error _ => none
      | .ok (workspaces, _, highWater) => placeWorkspaces stages (ordinal + 1) rest workspaces highWater

def PoolFits (lists : List (List FieldAccessSpec)) : Prop :=
  lists.flatten.length ≤ maxUint32 ∧ ∀ list ∈ lists, list.length ≤ maxUint16

def resourceTotal (stages : List OwnedStageSpec) (k : ℕ) : ℕ :=
  (stages.map fun stage => (stage.resources.words.getD k 0).toNat).sum

/-- The stages have feasible workspaces, and no count or sum overflows. -/
structure GraphFits (stages : List OwnedStageSpec) : Prop where
  workspaces : (placeWorkspaces stages 0 stages [] 0).isSome = true
  nodes : (blocksOf stages).flatten.length ≤ maxUint32
  reads : PoolFits (stages.map OwnedStageSpec.reads)
  writes : PoolFits (stages.map OwnedStageSpec.writes)
  ghosts : PoolFits (stages.map OwnedStageSpec.ghosts)
  invalidations : PoolFits (stages.map OwnedStageSpec.invalidates)
  resources : ∀ k < 7, resourceTotal stages k ≤ maxU64

structure BuildSized (turned : List OwnedStageSpec) (build : GraphBuild) : Prop where
  reads : build.reads = (turned.map OwnedStageSpec.reads).flatten
  writes : build.writes = (turned.map OwnedStageSpec.writes).flatten
  ghosts : build.ghosts = (turned.map OwnedStageSpec.ghosts).flatten
  invalidations : build.invalidations = (turned.map OwnedStageSpec.invalidates).flatten
  resources : ∀ k < 7, (build.resources.words.getD k 0).toNat = resourceTotal turned k

lemma checkedU64Add_eq {a b : UInt64} (h : a.toNat + b.toNat ≤ maxU64) :
    checkedU64Add a b = some (a + b) ∧ (a + b).toNat = a.toNat + b.toNat := by
  have hlt : a.toNat + b.toNat < 2 ^ 64 := by
    rw [maxU64] at h
    omega
  constructor
  · refine if_neg ?_
    rw [UInt64.not_lt, UInt64.le_iff_toNat_le]
    have hmax : (UInt64.ofNat maxU64).toNat = maxU64 := rfl
    have hle : a ≤ UInt64.ofNat maxU64 := by
      rw [UInt64.le_iff_toNat_le, hmax]
      omega
    rw [UInt64.toNat_sub_of_le _ _ hle, hmax]
    omega
  · rw [UInt64.toNat_add, Nat.mod_eq_of_lt hlt]

lemma checkedSum_eq {a b : StageResourceSpec}
    (h : ∀ k < 7, (a.words.getD k 0).toNat + (b.words.getD k 0).toNat ≤ maxU64) :
    ∃ c, a.checkedSum b = some c ∧
      ∀ k < 7, (c.words.getD k 0).toNat = (a.words.getD k 0).toNat + (b.words.getD k 0).toNat := by
  have h0 := checkedU64Add_eq (h 0 (by omega))
  have h1 := checkedU64Add_eq (h 1 (by omega))
  have h2 := checkedU64Add_eq (h 2 (by omega))
  have h3 := checkedU64Add_eq (h 3 (by omega))
  have h4 := checkedU64Add_eq (h 4 (by omega))
  have h5 := checkedU64Add_eq (h 5 (by omega))
  have h6 := checkedU64Add_eq (h 6 (by omega))
  simp only [StageResourceSpec.words, getD_cons_zero, getD_cons_succ] at h0 h1 h2 h3 h4 h5 h6
  refine ⟨⟨a.mergedHaloMessages + b.mergedHaloMessages, a.mergedHaloBytes + b.mergedHaloBytes,
    a.numericRefills + b.numericRefills, a.hierarchyRebuilds + b.hierarchyRebuilds, a.cachePublishes + b.cachePublishes,
    a.linearIterations + b.linearIterations, a.stageWallNanoseconds + b.stageWallNanoseconds⟩, ?_, ?_⟩
  · rw [StageResourceSpec.checkedSum, h0.1, h1.1, h2.1, h3.1, h4.1, h5.1, h6.1]
    rfl
  · intro k hk
    interval_cases k
    · exact h0.2
    · exact h1.2
    · exact h2.2
    · exact h3.2
    · exact h4.2
    · exact h5.2
    · exact h6.2

lemma fitsAppended_of_pool {lists before after : List (List FieldAccessSpec)} {list : List FieldAccessSpec}
    (h : PoolFits lists) (hsplit : lists = before ++ list :: after) :
    fitsAppended before.flatten.length list.length = true := by
  have htotal := h.1
  rw [hsplit, flatten_append, flatten_cons, length_append, length_append] at htotal
  have hlist := h.2 list (by rw [hsplit]; exact mem_append_right _ mem_cons_self)
  rw [fitsAppended, Bool.and_eq_true, decide_eq_true_eq, decide_eq_true_eq]
  exact ⟨by omega, hlist⟩

lemma resourceTotal_append (turned rest : List OwnedStageSpec) (k : ℕ) :
    resourceTotal (turned ++ rest) k = resourceTotal turned k + resourceTotal rest k := by
  rw [resourceTotal, map_append, sum_append, resourceTotal, resourceTotal]

section Success

variable {fields : List GraphFieldSpec} {stages turned rest : List OwnedStageSpec} {registered : OwnedStageSpec}
  {build : GraphBuild}

lemma freezeStage_succeeds (hfields : (fields.map GraphFieldSpec.access).Nodup)
    (hregis : StageRegistered fields registered) (hfollows : BuildFollows fields turned build)
    (hsized : BuildSized turned build) (hrules : StageRules fields turned registered) (hfits : GraphFits stages)
    (hsplit : stages = turned ++ registered :: rest)
    (hplaced : (placeWorkspaces stages turned.length (registered :: rest) build.workspaces build.workspaceHighWater).isSome =
      true) :
    ∃ next, freezeStage stages turned.length registered build = .ok next ∧ BuildSized (turned ++ [registered]) next ∧
      (placeWorkspaces stages (turned.length + 1) rest next.workspaces next.workspaceHighWater).isSome = true := by
  have hblocks : (blocksOf turned).flatten.length + (nodeKinds registered).length ≤ maxUint32 := by
    have hnodes := hfits.nodes
    have hall : stages = (turned ++ [registered]) ++ rest := by rw [hsplit, append_assoc, singleton_append]
    have hprefix : (blocksOf (turned ++ [registered])).flatten.length ≤ (blocksOf stages).flatten.length := by
      rw [hall, blocksOf, blocksOf, @zipIdx_append _ (turned ++ [registered]), map_append,
        flatten_append, length_append]
      exact Nat.le_add_right _ _
    rw [blocksOf_snoc, flatten_append, flatten_singleton, length_append, blockOf, length_map] at hprefix
    omega
  have hordinal : turned.length ≤ (blocksOf turned).flatten.length := by
    rw [length_flatten]
    calc turned.length = ((blocksOf turned).map length).length := by rw [length_map, length_blocksOf]
      _ ≤ ((blocksOf turned).map length).sum := length_le_sum_of_one_le _ fun n hn => by
        obtain ⟨block, hblock, rfl⟩ := mem_map.mp hn
        obtain ⟨entry, -, rfl⟩ := mem_map.mp hblock
        rw [blockOf, length_map]
        exact length_pos_iff.mpr (nodeKinds_ne_nil entry.1)
  have hguard : ¬ (maxUint32 < turned.length || (build.seenCommit && registered.kind ≠ .service) ||
      (registered.kind = .commit && (build.seenCommit || build.unconsensedWork || !build.hasConsensus))) = true := by
    have hservice : build.seenCommit = true → registered.kind = .service := by
      intro hseen
      rw [hfollows.commit, any_eq_true] at hseen
      obtain ⟨other, hother, hkind⟩ := hseen
      exact hrules.service ⟨other, hother, of_decide_eq_true hkind⟩
    simp only [Bool.or_eq_true, Bool.and_eq_true, decide_eq_true_eq, Bool.not_eq_true', not_or, not_and, not_lt,
      Bool.not_eq_true, Bool.not_eq_false, ne_eq, not_not]
    refine ⟨⟨by omega, hservice⟩, fun hkind => ?_⟩
    obtain ⟨hcons, hpending⟩ := consensusReached_iff.mp (hrules.reached hkind)
    refine ⟨⟨?_, hfollows.pending.trans hpending⟩, hfollows.consensus.trans hcons⟩
    rw [Bool.eq_false_iff]
    intro hseen
    rw [hservice hseen] at hkind
    cases hkind
  have haccess : accessFailure build.states registered = none := by
    rw [hfollows.states]
    exact (accessFailure_none_iff hfields hregis).mpr ⟨hrules.access, hrules.invalidation⟩
  have hchain : (nodeKinds registered).foldlM (addNode registered.id turned.length) build.chain =
      some (chainOf ((blocksOf turned).flatten ++ blockOf turned.length registered)) := by
    rw [hfollows.chain]
    exact foldlM_addNode _ hblocks
  have hcount : (chainOf ((blocksOf turned).flatten ++ blockOf turned.length registered)).nodes.length -
      build.chain.nodes.length = (nodeKinds registered).length := by
    rw [hfollows.chain]
    change ((blocksOf turned).flatten ++ blockOf turned.length registered).length - (blocksOf turned).flatten.length = _
    rw [length_append, Nat.add_sub_cancel_left, blockOf, length_map]
  have hfew : (nodeKinds registered).length ≤ 5 := by
    unfold nodeKinds
    cases registered.kind <;> cases registered.collectiveConsensus <;> split <;> decide
  have hpool : ∀ (project : OwnedStageSpec → List FieldAccessSpec), PoolFits (stages.map project) →
      fitsAppended (turned.map project).flatten.length (project registered).length = true := by
    intro project hpool
    refine @fitsAppended_of_pool _ _ (rest.map project) _ hpool ?_
    rw [hsplit, map_append, map_cons]
  have hbounds : ¬ (!fitsAppended build.reads.length registered.reads.length ||
      !fitsAppended build.writes.length registered.writes.length ||
      !fitsAppended build.ghosts.length registered.ghosts.length ||
      !fitsAppended build.invalidations.length registered.invalidates.length ||
      maxUint16 < (nodeKinds registered).length) = true := by
    rw [hsized.reads, hsized.writes, hsized.ghosts, hsized.invalidations, hpool _ hfits.reads, hpool _ hfits.writes,
      hpool _ hfits.ghosts, hpool _ hfits.invalidations]
    rw [Bool.not_true, Bool.false_or, Bool.false_or, Bool.false_or, Bool.false_or, decide_eq_true_eq, not_lt]
    exact hfew.trans (by decide)
  obtain ⟨resources, hres, htotals⟩ := @checkedSum_eq build.resources registered.resources fun k hk => by
    have htotal := hfits.resources k hk
    rw [hsplit, resourceTotal_append, resourceTotal, resourceTotal, map_cons, sum_cons] at htotal
    rw [hsized.resources k hk, resourceTotal]
    omega
  rw [placeWorkspaces] at hplaced
  cases hlive : liveThroughOrdinal stages turned.length registered with
  | none =>
    rw [hlive] at hplaced
    cases hplaced
  | some liveThrough =>
    cases halloc : allocateWorkspace registered turned.length liveThrough build.workspaces build.workspaceHighWater with
    | error status =>
      simp only [hlive, halloc] at hplaced
      cases hplaced
    | ok placed =>
      obtain ⟨workspaces, offset, highWater⟩ := placed
      simp only [hlive, halloc] at hplaced
      simp only [freezeStage, if_neg hguard, haccess, hlive, halloc, hchain, hcount, if_neg hbounds, hres]
      refine ⟨_, rfl, ⟨?_, ?_, ?_, ?_, fun k hk => ?_⟩, hplaced⟩
      · simp only [hsized.reads, map_append, flatten_append, map_cons, map_nil, flatten_singleton]
      · simp only [hsized.writes, map_append, flatten_append, map_cons, map_nil, flatten_singleton]
      · simp only [hsized.ghosts, map_append, flatten_append, map_cons, map_nil, flatten_singleton]
      · simp only [hsized.invalidations, map_append, flatten_append, map_cons, map_nil,
          flatten_singleton]
      · change (resources.words.getD k 0).toNat = _
        rw [htotals k hk, hsized.resources k hk, resourceTotal_append]
        rfl

lemma freezeStages_succeeds {memory : ℕ → AllocationOutcome} (hmemory : ∀ n, memory n = .granted)
    (hfields : (fields.map GraphFieldSpec.access).Nodup) (hregis : ∀ stage ∈ rest, StageRegistered fields stage)
    (hfollows : BuildFollows fields turned build) (hsized : BuildSized turned build)
    (hrules : ∀ before stage later, rest = before ++ stage :: later → StageRules fields (turned ++ before) stage)
    (hfits : GraphFits stages) (hsplit : stages = turned ++ rest)
    (hplaced : (placeWorkspaces stages turned.length rest build.workspaces build.workspaceHighWater).isSome = true) :
    ∃ final, freezeStagesWith memory stages turned.length rest build = .ok final := by
  induction rest generalizing turned build with
  | nil => exact ⟨build, rfl⟩
  | cons registered rest ih =>
    have hfirst := hrules [] registered rest rfl
    rw [append_nil] at hfirst
    have hstage := hregis registered mem_cons_self
    obtain ⟨next, hnext, hsized', hplaced'⟩ :=
      freezeStage_succeeds hfields hstage hfollows hsized hfirst hfits hsplit hplaced
    obtain ⟨-, hfollows'⟩ := follows_step hfields hstage hfollows (freezeStage_turned hnext)
    have hlength : (turned ++ [registered]).length = turned.length + 1 := by
      rw [length_append, length_singleton]
    have hgranted : (memory (turned.length + 1)).failure kGraphStage = none := by
      rw [hmemory]
      rfl
    rw [freezeStagesWith, hgranted, hnext]
    rw [← hlength] at hplaced' ⊢
    refine ih (fun stage hmem => hregis stage (mem_cons_of_mem _ hmem)) hfollows' hsized' ?_ ?_ hplaced'
    · intro before stage later hlater
      rw [append_assoc, singleton_append]
      exact hrules (registered :: before) stage later (by rw [hlater, cons_append])
    · rw [hsplit, append_assoc, singleton_append]

end Success

structure NodesChained (registered : List OwnedStageSpec) (graph : FrozenExecutionGraph) : Prop where
  edges : graph.edges = chainEdges graph.nodes.length
  stages : graph.stages.length = registered.length
  blocks : ∀ (i : ℕ) stage, registered[i]? = some stage → ∃ frozen, graph.stages[i]? = some frozen ∧ frozen.id = stage.id ∧
    0 < frozen.nodeCount ∧ slice graph.nodes frozen.nodeBegin frozen.nodeCount = blockOf i stage
  partition : ∀ n < graph.nodes.length, ∃! i : ℕ, ∃ frozen, graph.stages[i]? = some frozen ∧
    frozen.nodeBegin ≤ n ∧ n < frozen.nodeBegin + frozen.nodeCount

lemma nodesChained_of_follows {fields : List GraphFieldSpec} {stages : List OwnedStageSpec} {build : GraphBuild}
    {graph : FrozenExecutionGraph} (h : BuildFollows fields stages build) (hstages : graph.stages = build.stages)
    (hnodes : graph.nodes = build.chain.nodes) (hedges : graph.edges = build.chain.edges) : NodesChained stages graph := by
  rw [h.chain] at hnodes hedges
  change graph.nodes = (blocksOf stages).flatten at hnodes
  have hfrozen : ∀ i stage, stages[i]? = some stage → ∃ frozen, build.stages[i]? = some frozen ∧ frozen.id = stage.id ∧
      frozen.nodeBegin = blockStart (blocksOf stages) i ∧ frozen.nodeCount = (blockOf i stage).length := by
    intro i stage hi
    have hlt : i < build.stages.length := by
      rw [h.length]
      exact (List.getElem?_eq_some_iff.mp hi).1
    obtain ⟨other, hother, hid, hbegin, hcount⟩ := h.blocks i _ (List.getElem?_eq_getElem hlt)
    rw [hi] at hother
    obtain rfl := Option.some.inj hother
    exact ⟨build.stages[i], List.getElem?_eq_getElem hlt, hid, hbegin, by rw [hcount, blockOf, length_map]⟩
  have hblock : ∀ i stage, stages[i]? = some stage → (blocksOf stages)[i]? = some (blockOf i stage) := by
    intro i stage hi
    rw [getElem?_blocksOf, hi]
    rfl
  refine ⟨by rw [hedges, hnodes]; rfl, by rw [hstages, h.length], fun i stage hi => ?_, fun n hn => ?_⟩
  · obtain ⟨frozen, hat, hid, hbegin, hcount⟩ := hfrozen i stage hi
    refine ⟨frozen, by rw [hstages, hat], hid, ?_, ?_⟩
    · rw [hcount, blockOf, length_map]
      exact length_pos_iff.mpr (nodeKinds_ne_nil stage)
    · rw [hnodes, hbegin, hcount]
      exact slice_flatten (hblock i stage hi)
  · rw [hnodes] at hn
    obtain ⟨i, ⟨block, hi, hbegin, hend⟩, honly⟩ := block_of_index hn
    have hplace : ∀ j frozen, graph.stages[j]? = some frozen → ∃ other, (blocksOf stages)[j]? = some other ∧
        frozen.nodeBegin = blockStart (blocksOf stages) j ∧ frozen.nodeCount = other.length := by
      intro j frozen hj
      rw [hstages] at hj
      obtain ⟨stage, hstage, -⟩ := h.blocks j frozen hj
      obtain ⟨found, hat, -, hfoundBegin, hfoundCount⟩ := hfrozen j stage hstage
      rw [hj] at hat
      obtain rfl := Option.some.inj hat
      exact ⟨blockOf j stage, hblock j stage hstage, hfoundBegin, hfoundCount⟩
    have hlt : i < stages.length := by
      rw [← length_blocksOf]
      exact (List.getElem?_eq_some_iff.mp hi).1
    obtain ⟨frozen, hat, -, hfrozenBegin, hfrozenCount⟩ := hfrozen i _ (List.getElem?_eq_getElem hlt)
    rw [hblock i _ (List.getElem?_eq_getElem hlt)] at hi
    obtain rfl := Option.some.inj hi
    refine ⟨i, ⟨frozen, by rw [hstages, hat], by omega, by omega⟩, ?_⟩
    rintro j ⟨other, hj, hle, hgt⟩
    obtain ⟨found, hfound, hfoundBegin, hfoundCount⟩ := hplace j other hj
    exact honly j ⟨found, hfound, by omega, by omega⟩

lemma freezeWith_follows (h : CompilerRegistered compiler) {out : FrozenExecutionGraph}
    (hok : (compiler.freezeWith memory out).2.2.isOk = true) :
    ((∀ earlier stage later, compiler.stages = earlier ++ stage :: later → StageRules compiler.fields earlier stage) ∧
      pendingWork compiler.stages = false) ∧ NodesChained compiler.stages (compiler.freezeWith memory out).2.1 := by
  unfold freezeWith at hok ⊢
  split at hok
  · cases hok
  · rename_i hguard
    rw [if_neg hguard]
    split at hok
    · rename_i status hfailure
      rw [failure_not_ok hfailure] at hok
      cases hok
    · dsimp only at hok ⊢
      split at hok
      · rename_i status hfailed
        rw [freezeStagesWith_not_ok hfailed] at hok
        cases hok
      · rename_i build hbuild
        split at hok
        · cases hok
        · rename_i hpending
          have hstart : BuildFollows compiler.fields []
              { states := compiler.fields.map fun field =>
                  (⟨field.access, field.initiallyAvailable, field.initiallyAvailable, false⟩ : FieldState) } := by
            refine ⟨map_congr_left fun field _ => ?_, rfl, rfl, rfl, rfl, rfl, fun i frozen hi => ?_⟩
            · rw [stateOf, fieldReached, any_nil, Bool.or_false]
            · cases hi
          obtain ⟨hfinal, hrules⟩ := follows_run h.fields h.stages hstart hbuild
          rw [nil_append] at hfinal
          rw [hfinal.pending, Bool.not_eq_true] at hpending
          refine ⟨⟨hrules, hpending⟩, ?_⟩
          rw [if_neg (by rw [hfinal.pending, hpending]; decide)]
          exact nodesChained_of_follows hfinal rfl rfl rfl

lemma freezeWith_succeeds (h : CompilerRegistered compiler) (hmemory : ∀ n, memory n = .granted)
    (hstages : compiler.stages ≠ []) (hfrozen : compiler.frozen = false)
    (hrules : ∀ earlier stage later, compiler.stages = earlier ++ stage :: later → StageRules compiler.fields earlier stage)
    (hpending : pendingWork compiler.stages = false) (hfits : GraphFits compiler.stages) :
    (compiler.freezeWith memory {}).2.2.isOk = true := by
  have hstart : BuildFollows compiler.fields []
      { states := compiler.fields.map fun field =>
          (⟨field.access, field.initiallyAvailable, field.initiallyAvailable, false⟩ : FieldState) } := by
    refine ⟨map_congr_left fun field _ => ?_, rfl, rfl, rfl, rfl, rfl, fun i frozen hi => ?_⟩
    · rw [stateOf, fieldReached, any_nil, Bool.or_false]
    · cases hi
  have hsized : BuildSized []
      { states := compiler.fields.map fun field =>
          (⟨field.access, field.initiallyAvailable, field.initiallyAvailable, false⟩ : FieldState) } := by
    refine ⟨rfl, rfl, rfl, rfl, fun k hk => ?_⟩
    interval_cases k <;> rfl
  obtain ⟨final, hfinal⟩ := freezeStages_succeeds hmemory h.fields h.stages hstart hsized hrules hfits rfl hfits.workspaces
  obtain ⟨hfollows, -⟩ := follows_run h.fields h.stages hstart hfinal
  have hguard : ¬ (!compiler.configured || compiler.frozen || compiler.stages.isEmpty ||
      (({} : FrozenExecutionGraph).fingerprint ≠ 0) || !({} : FrozenExecutionGraph).stages.isEmpty ||
      !({} : FrozenExecutionGraph).nodes.isEmpty || !({} : FrozenExecutionGraph).edges.isEmpty) = true := by
    rw [h.configured hstages, hfrozen, isEmpty_eq_false_iff.mpr hstages]
    decide
  have hgranted : (memory 0).failure kGraphStage = none := by
    rw [hmemory]
    rfl
  rw [freezeWith, if_neg hguard, hgranted]
  dsimp only
  have hrun : freezeStagesWith memory compiler.stages 0 compiler.stages
      { states := compiler.fields.map fun field =>
          (⟨field.access, field.initiallyAvailable, field.initiallyAvailable, false⟩ : FieldState) } = .ok final := hfinal
  rw [hrun]
  dsimp only
  rw [if_neg]
  · rfl
  · rw [hfollows.pending, nil_append, hpending]
    decide

/-- A frozen graph keeps the rules, and stages invalidate only what they read and write; and registered
stages that do so are frozen when they fit. -/
theorem frozen_graph_rules (graphs : ℕ → FrozenExecutionGraph) (calls : List CompilerCall) (memory : ℕ → AllocationOutcome) :
    (∀ out, ((runCalls { graphs } calls).1.compiler.freezeWith memory out).2.2.isOk = true →
      GraphRules (runCalls { graphs } calls).1.compiler.fields (runCalls { graphs } calls).1.compiler.stages ∧
      (∀ stage ∈ (runCalls { graphs } calls).1.compiler.stages,
        InvalidationRule stage ∧ GhostRule (runCalls { graphs } calls).1.compiler.fields stage) ∧
      NodesChained (runCalls { graphs } calls).1.compiler.stages
        ((runCalls { graphs } calls).1.compiler.freezeWith memory out).2.1) ∧
    ((∀ n, memory n = .granted) → (runCalls { graphs } calls).1.compiler.stages ≠ [] →
      (runCalls { graphs } calls).1.compiler.frozen = false →
      GraphRules (runCalls { graphs } calls).1.compiler.fields (runCalls { graphs } calls).1.compiler.stages →
      (∀ stage ∈ (runCalls { graphs } calls).1.compiler.stages, InvalidationRule stage) →
      GraphFits (runCalls { graphs } calls).1.compiler.stages →
      ((runCalls { graphs } calls).1.compiler.freezeWith memory {}).2.2.isOk = true) := by
  have hregistered : CompilerRegistered (runCalls { graphs } calls).1.compiler := by
    have hempty : CompilerRegistered ({ graphs } : GraphSession).compiler :=
      ⟨nodup_nil, fun _ hmem => absurd hmem not_mem_nil, fun hne => absurd rfl hne⟩
    exact registered_run hempty calls
  refine ⟨fun out hok => ?_, fun hmemory hstages hfrozen hrules hinvalidation hfits => ?_⟩
  · obtain ⟨hrules, hchained⟩ := freezeWith_follows hregistered hok
    obtain ⟨hgraph, hinvalidation⟩ := graphRules_iff.mpr hrules
    exact ⟨hgraph, fun stage hstage => ⟨hinvalidation stage hstage, (hregistered.stages stage hstage).ghosts⟩, hchained⟩
  · obtain ⟨hrules, hpending⟩ := graphRules_iff.mp ⟨hrules, hinvalidation⟩
    exact freezeWith_succeeds hregistered hmemory hstages hfrozen hrules hpending hfits

theorem frozen_graph_rules_sample : NodesChained (runCalls { graphs := fun _ => {} } sampleCalls).1.compiler.stages
      ((runCalls { graphs := fun _ => {} } sampleCalls).1.compiler.freezeWith (fun _ => .granted) {}).2.1 :=
  ((frozen_graph_rules (fun _ => {}) sampleCalls fun _ => .granted).1 {} (by decide +kernel)).2.2

/-- One stage that invalidates a field without reading or writing it. -/
def invalidatingCalls : List CompilerCall :=
  [.configure sampleMemory ⟨some 0, 1⟩ .granted,
    .registerStage sampleMemory { id := 3, invalidates := ⟨some 0, 1⟩, collectiveConsensus := true } .granted]

/-- The stage keeps the rules and fits, and is not frozen. -/
theorem bare_invalidation_not_frozen :
    GraphRules (runCalls { graphs := fun _ => {} } invalidatingCalls).1.compiler.fields
        (runCalls { graphs := fun _ => {} } invalidatingCalls).1.compiler.stages ∧
      GraphFits (runCalls { graphs := fun _ => {} } invalidatingCalls).1.compiler.stages ∧
      (runCalls { graphs := fun _ => {} } invalidatingCalls).1.compiler.stages ≠ [] ∧
      ((runCalls { graphs := fun _ => {} } invalidatingCalls).1.compiler.freezeWith (fun _ => .granted) {}).2.2 =
        ⟨.invalidPlan, kGraphInvalidation⟩ := by
  have hstages : (runCalls { graphs := fun _ => {} } invalidatingCalls).1.compiler.stages =
      [{ id := 3, invalidates := [⟨0, .accepted⟩], collectiveConsensus := true }] := by decide +kernel
  have hfields : (runCalls { graphs := fun _ => {} } invalidatingCalls).1.compiler.fields =
      [⟨⟨0, .accepted⟩, 2, true⟩] := by decide +kernel
  have hsplit : ∀ earlier stage later, (runCalls { graphs := fun _ => {} } invalidatingCalls).1.compiler.stages =
      earlier ++ stage :: later → stage = { id := 3, invalidates := [⟨0, .accepted⟩], collectiveConsensus := true } := by
    intro earlier stage later h
    have hmem : stage ∈ (runCalls { graphs := fun _ => {} } invalidatingCalls).1.compiler.stages := by
      rw [h]
      exact mem_append_right _ mem_cons_self
    rw [hstages] at hmem
    exact mem_singleton.mp hmem
  refine ⟨⟨fun earlier stage later h => ?_, ?_, fun earlier stage later h hkind => ?_, fun earlier stage later h hkind => ?_,
    fun earlier stage later h _ => ?_⟩, ?_, ?_, by decide +kernel⟩
  · obtain rfl := hsplit earlier stage later h
    exact ⟨fun _ hmem => absurd hmem not_mem_nil, fun _ hmem => absurd hmem not_mem_nil⟩
  · rw [hstages]
    decide
  · obtain rfl := hsplit earlier stage later h
    cases hkind
  · obtain rfl := hsplit earlier stage later h
    cases hkind
  · obtain rfl := hsplit earlier stage later h
    exact ⟨_, mem_cons_self, rfl⟩
  · rw [hstages]
    refine ⟨by decide +kernel, by decide +kernel, ?_, ?_, ?_, ?_, ?_⟩
    · exact ⟨by decide +kernel, by decide +kernel⟩
    · exact ⟨by decide +kernel, by decide +kernel⟩
    · exact ⟨by decide +kernel, by decide +kernel⟩
    · exact ⟨by decide +kernel, by decide +kernel⟩
    · decide +kernel
  · rw [hstages]
    exact cons_ne_nil _ _

end HundunFlow.Proofs
