import HundunFlow.HaloEngine

/-!
# The contract of a reservedData halo engine

A reservedData engine keeps its fields in the order of their ids, and its contract is met by exactly
one list of fields: that of the reservation in this order.
-/

namespace HundunFlow.Proofs

open Lib HaloEngine List

lemma andThen_isOk {first next : Status} (h : (andThen first next).isOk = true) :
    first.isOk = true ∧ next.isOk = true := by
  unfold andThen at h
  split_ifs at h with hfirst
  · exact ⟨hfirst, h⟩
  · exact absurd h hfirst

lemma haloConsensus_eq_none {n : ℕ} {locals : Fin n → Status} :
    haloConsensus locals = none ↔ ∀ i, (locals i).isOk = true := by
  simp [haloConsensus]

lemma haloConsensus_some {n : ℕ} {locals : Fin n → Status} {r : Status × Fin n}
    (h : haloConsensus locals = some r) : locals r.2 = r.1 ∧ r.1.isOk = false := by
  obtain ⟨i, -, hi⟩ := List.exists_of_findSome?_eq_some h
  split_ifs at hi with hok
  obtain rfl := Option.some.inj hi
  exact ⟨rfl, Bool.eq_false_iff.mpr hok⟩

section Reserve

variable {n : ℕ} {D : Type} [Zero D] {s : Fin n → Option (HaloImplData D)} {call : Fin n → ReserveCall}

lemma reserve_phases (h : (reserve s call).2.isOk = true) :
    ∀ phase ∈ reservePhases s call, ∀ i, (phase i).isOk = true := by
  unfold reserve at h
  cases hfirst : (reservePhases s call).findSome? haloConsensus with
  | some r =>
    obtain ⟨phase, -, hphase⟩ := List.exists_of_findSome?_eq_some hfirst
    rw [hfirst, (haloConsensus_some hphase).2] at h
    exact nomatch h
  | none => exact fun phase hphase => haloConsensus_eq_none.mp (List.findSome?_eq_none_iff.mp hfirst phase hphase)

lemma reserve_success (h : (reserve s call).2.isOk = true) (i : Fin n) :
    (validateSpecs (call i).fields (call i).patch).isOk = true ∧
      ∃ planned, (reserve s call).1 i = some (reservedData (call i) planned) := by
  have hphases := reserve_phases h
  have hinstall : (reserve s call).1 = fun i => (plannedPeers call i).map (reservedData (call i)) := by
    have hnone : (reservePhases s call).findSome? haloConsensus = none :=
      List.findSome?_eq_none_iff.mpr fun phase hphase => haloConsensus_eq_none.mpr (hphases phase hphase)
    rw [reserve, hnone]
  constructor
  · have hinput := hphases _ (mem_cons_self ..) i
    exact (andThen_isOk (andThen_isOk (andThen_isOk hinput).2).2).2
  · have hpeers := hphases (fun i => if (plannedPeers call i).isNone then ⟨.invalidPlan, kHaloOverflow⟩ else {})
      (by simp [reservePhases]) i
    cases hplanned : plannedPeers call i with
    | none =>
      simp only [hplanned, Option.isNone_none, if_true] at hpeers
      exact nomatch hpeers
    | some planned =>
      refine ⟨planned, ?_⟩
      simp [hinstall, hplanned]

end Reserve

lemma validSpecs_nodup {patch : MeshPatch} {prior specs : List HaloFieldSpec} (hprior : (prior.map (·.field)).Nodup)
    (h : validSpecs patch prior specs = true) : ((prior ++ specs).map (·.field)).Nodup := by
  induction specs generalizing prior with
  | nil => simpa using hprior
  | cons spec rest ih =>
    rw [validSpecs] at h
    split_ifs at h with hbad
    simp only [Bool.or_eq_true, not_or, any_eq_true, decide_eq_true_eq, not_exists, not_and] at hbad
    have hnew : ((prior ++ [spec]).map (·.field)).Nodup := by
      rw [map_append, nodup_append]
      refine ⟨hprior, nodup_singleton _, ?_⟩
      intro a ha b hb hab
      obtain ⟨p, hp, rfl⟩ := mem_map.mp ha
      rw [map_singleton, mem_singleton] at hb
      exact hbad.2 p hp (hab.trans hb)
    have hrest := ih hnew h
    rwa [append_assoc, singleton_append] at hrest

structure CanonicalOrder (fields canonical : List HaloFieldSpec) : Prop where
  perm : canonical.Perm fields
  ascending : canonical.Pairwise fun a b => a.field < b.field

lemma canonicalSpecs_order {fields : Span HaloFieldSpec} {patch : MeshPatch}
    (h : (validateSpecs fields patch).isOk = true) : CanonicalOrder fields.values (canonicalSpecs fields.values) := by
  unfold validateSpecs at h
  split_ifs at h with hbad
  · exact nomatch h
  · simp only [Bool.or_eq_true, not_or, Bool.not_eq_true', Bool.not_eq_false] at hbad
    have hnodup := @validSpecs_nodup patch [] fields.values nodup_nil hbad.2
    rw [nil_append] at hnodup
    have hids : (fields.values.map fun spec => spec.field.toNat).Nodup := by
      rw [Nodup, pairwise_map] at hnodup ⊢
      exact hnodup.imp fun hne heq => hne (UInt16.toNat_inj.mp heq)
    exact ⟨sortOn_perm _ _, (sortOn_pairwise_lt hids).imp fun hlt => UInt16.lt_iff_toNat_lt.mpr hlt⟩

lemma canonicalOrder_unique {fields canonical canonical' : List HaloFieldSpec} (h : CanonicalOrder fields canonical)
    (h' : CanonicalOrder fields canonical') : canonical' = canonical := by
  have hlt : ∀ {list : List HaloFieldSpec}, list.Pairwise (fun a b => a.field < b.field) →
      list.Pairwise fun a b => a.field.toNat < b.field.toNat :=
    fun hlist => hlist.imp fun hab => UInt16.lt_iff_toNat_lt.mp hab
  exact (eq_of_perm_of_pairwise (hlt h.ascending) ((hlt h'.ascending).imp le_of_lt) (h.perm.trans h'.perm.symm)).symm

lemma sameFields_iff {fields : List HaloFieldSpec} {slots : List FieldSlot} (h : fields.length = slots.length) :
    sameFields fields slots = true ↔ slots.map (·.spec) = fields := by
  induction fields generalizing slots with
  | nil =>
    rw [eq_nil_of_length_eq_zero h.symm]
    simp [sameFields]
  | cons actual rest ih =>
    cases slots with
    | nil => simp at h
    | cons slot slots =>
      have hrest := ih (Nat.succ.inj h)
      rw [sameFields, map_cons, List.cons.injEq, ← hrest]
      rcases hspec : slot.spec with ⟨field, width, components⟩
      rcases actual with ⟨field', width', components'⟩
      simp only [HaloFieldSpec.mk.injEq]
      split_ifs with hbad
      · simp only [Bool.or_eq_true, decide_eq_true_eq] at hbad
        constructor
        · intro hfalse
          exact hfalse.elim
        · rintro ⟨⟨rfl, rfl, rfl⟩, -⟩
          simp at hbad
      · simp only [Bool.or_eq_true, decide_eq_true_eq, not_or, ne_eq, not_not] at hbad
        exact ⟨fun hsame => ⟨⟨hbad.1.1.symm, hbad.1.2.symm, hbad.2.symm⟩, hsame⟩, fun hboth => hboth.2⟩

structure MeetsContract (call : ReserveCall) (communicator : ContractCommunicator) (patch : MeshPatch)
    (fields : Span HaloFieldSpec) (topology : HaloTopology) : Prop where
  usable : communicator.isNull = false ∧ communicator.live = true
  relation : communicator.relation = some .ident ∨ communicator.relation = some .congruent
  patch_eq : patch = call.patch
  topology_eq : topology = call.topology
  fields_eq : fields = .of (canonicalSpecs call.fields.values)

lemma guard_isOk {c : Prop} [Decidable c] {bad next : Status} (hbad : bad.isOk = false) :
    (if c then bad else next).isOk = true ↔ ¬c ∧ next.isOk = true := by
  by_cases hc : c
  · simp [hc, hbad]
  · simp [hc]

lemma relation_isOk (communicator : ContractCommunicator) (status : Status) : (match communicator.relation with
    | none => (⟨.mpiFailure, 306⟩ : Status)
    | some relation =>
      if relation ≠ CommRelation.ident && relation ≠ CommRelation.congruent then (⟨.invalidPlan, kHaloTopology⟩ : Status)
      else status).isOk = true ↔ (communicator.relation = some .ident ∨ communicator.relation = some .congruent) ∧
        status.isOk = true := by
  rcases communicator.relation with _ | (_ | _ | _ | _) <;> simp [Status.isOk]

lemma validateContract_isOk {D : Type} [Zero D] (call : ReserveCall) (planned : List Peer × ℕ)
    (communicator : ContractCommunicator) (patch : MeshPatch) (fields : Span HaloFieldSpec) (topology : HaloTopology) :
    (validateContract (some (reservedData (D := D) call planned)) communicator patch fields topology).isOk = true ↔
      MeetsContract call communicator patch fields topology := by
  have hspecs : (reservedData (D := D) call planned).fields.map (·.spec) = canonicalSpecs call.fields.values := by
    rw [reservedData, map_map]
    exact map_id _
  have hlength : (reservedData (D := D) call planned).fields.length = (canonicalSpecs call.fields.values).length := by
    rw [← hspecs, length_map]
  unfold validateContract
  simp only
  rw [guard_isOk rfl, guard_isOk rfl]
  refine (and_congr_right fun _ => and_congr_right fun _ => relation_isOk _ _).trans ?_
  rw [guard_isOk rfl, guard_isOk rfl, guard_isOk rfl]
  simp only [Bool.or_eq_true, not_or, Bool.not_eq_true, Bool.not_eq_false', decide_eq_true_eq, not_not]
  constructor
  · rintro ⟨⟨⟨hnull, hspan⟩, hsize⟩, hlive, hrel, hpatch, htopology, hfields, -⟩
    cases fields with
    | null size => exact absurd hspan (by simp [Span.isNull])
    | of values =>
      have hsame := (sameFields_iff (hsize : values.length = _)).mp hfields
      exact ⟨⟨hnull, hlive⟩, hrel, hpatch, htopology, by rw [← hsame, hspecs]⟩
  · rintro ⟨⟨hnull, hlive⟩, hrel, rfl, rfl, rfl⟩
    have hsame := (sameFields_iff hlength.symm).mpr hspecs
    exact ⟨⟨⟨hnull, rfl⟩, hlength.symm⟩, hlive, hrel, rfl, rfl, hsame, rfl⟩

/-- A reserved engine accepts exactly its own patch, topology and fields, the fields in the order of
their ids. -/
theorem halo_contract_canonical {n : ℕ} {D : Type} [Zero D] {s : Fin n → Option (HaloImplData D)}
    {call : Fin n → ReserveCall} (h : (reserve s call).2.isOk = true) (i : Fin n) :
    CanonicalOrder (call i).fields.values (canonicalSpecs (call i).fields.values) ∧
      ∀ communicator patch fields topology,
        (validateContract ((reserve s call).1 i) communicator patch fields topology).isOk = true ↔
          MeetsContract (call i) communicator patch fields topology := by
  obtain ⟨hspecs, planned, hplanned⟩ := reserve_success h i
  refine ⟨canonicalSpecs_order hspecs, fun communicator patch fields topology => ?_⟩
  rw [hplanned]
  exact validateContract_isOk (call i) planned communicator patch fields topology

/-- Two fields in the descending order of their ids. -/
def descendingCall : ReserveCall where
  patch := ⟨⟨0, 0, 0⟩, ⟨4, 4, 4⟩, ⟨1, 1, 1⟩, ⟨0, 0, 0⟩⟩
  fields := .of [⟨2, 1, 1⟩, ⟨1, 1, 3⟩]
  topology := {}

def descendingJob (_ : Fin 1) : ReserveCall := descendingCall

lemma descending_peers (i : Fin 1) : plannedPeers descendingJob i = some ([], 0) := by
  have hfaces : ∀ specs : List HaloFieldSpec,
      Face.all.foldlM (addFace descendingCall.patch descendingCall.topology i specs) [] = some [] := fun _ => rfl
  unfold plannedPeers buildPeers
  simp only [descendingJob, hfaces]
  simp [sortOn, layoutPeers, checkedMultiply, kMaximumChunkDoubles]

lemma descending_phases : ∀ phase ∈ reservePhases (fun _ : Fin 1 => (none : Option (HaloImplData ℤ))) descendingJob,
    ∀ i, (phase i).isOk = true := by
  have hagree : ∀ j k : Fin 1, contractHash (descendingJob j) (maximumTag descendingJob) =
      contractHash (descendingJob k) (maximumTag descendingJob) := fun _ _ => rfl
  have hcounts : ∀ i j : Fin 1, plannedCount descendingJob j i = plannedCount descendingJob i j := by
    intro i j
    rw [Subsingleton.elim i j]
  intro phase hphase i
  simp only [reservePhases, mem_cons, not_mem_nil, or_false] at hphase
  rcases hphase with rfl | rfl | rfl | rfl | rfl | rfl | rfl | rfl | rfl | rfl | rfl | rfl | rfl
  · exact (by decide +revert)
  · rfl
  · rfl
  · rfl
  · rfl
  · rfl
  · rfl
  · simp only [if_pos hagree]
    rfl
  · simp only [descending_peers]
    rfl
  · rfl
  · simp only [if_pos (hcounts i)]
    rfl
  · rfl
  · rfl

lemma descending_reserved :
    (reserve (fun _ : Fin 1 => (none : Option (HaloImplData ℤ))) descendingJob).2.isOk = true := by
  have hnone := List.findSome?_eq_none_iff.mpr fun phase hphase =>
    haloConsensus_eq_none.mpr (descending_phases phase hphase)
  rw [reserve, hnone]
  rfl

/-- The list of the reservation itself does not meet its contract. -/
theorem descending_contract_rejected :
    (reserve (fun _ : Fin 1 => (none : Option (HaloImplData ℤ))) descendingJob).2.isOk = true ∧
      (validateContract ((reserve (fun _ : Fin 1 => (none : Option (HaloImplData ℤ))) descendingJob).1 0)
        { relation := some .congruent } descendingCall.patch descendingCall.fields descendingCall.topology).isOk ≠
          true := by
  obtain ⟨hspecs, planned, hplanned⟩ := reserve_success descending_reserved 0
  refine ⟨descending_reserved, fun hok => ?_⟩
  rw [hplanned, validateContract_isOk] at hok
  have hfields : ([⟨2, 1, 1⟩, ⟨1, 1, 3⟩] : List HaloFieldSpec) = canonicalSpecs descendingCall.fields.values :=
    Span.of.inj hok.fields_eq
  have horder := (canonicalSpecs_order hspecs).ascending
  simp only [descendingJob] at horder
  rw [← hfields] at horder
  exact nomatch (pairwise_cons.mp horder).1 ⟨1, 1, 3⟩ (mem_singleton.mpr rfl)

/-- The fields in the ascending order of their ids meet it. -/
theorem halo_contract_canonical_descending :
    (validateContract ((reserve (fun _ : Fin 1 => (none : Option (HaloImplData ℤ))) descendingJob).1 0)
      { relation := some .congruent } descendingCall.patch (.of [⟨1, 1, 3⟩, ⟨2, 1, 1⟩]) descendingCall.topology).isOk =
        true := by
  obtain ⟨horder, hcontract⟩ := halo_contract_canonical descending_reserved 0
  have hascending : CanonicalOrder (descendingJob 0).fields.values [⟨1, 1, 3⟩, ⟨2, 1, 1⟩] :=
    ⟨Perm.swap _ _ _, by decide⟩
  refine (hcontract _ _ _ _).mpr ⟨⟨rfl, rfl⟩, .inr rfl, rfl, rfl, ?_⟩
  rw [canonicalOrder_unique horder hascending]

end HundunFlow.Proofs
