import HundunFlow.Proofs.OwnerOutcome

/-!
# Owner routing delivers every row once

Any sequence of calls on a job leaves all ranks configured alike or none at all.
-/

namespace HundunFlow.Proofs

open Lib OwnerExchangeRoutingPlan Option Multiset

variable {F : Type} {n : ℕ} (hn : 0 < n) (hsize : n < 2 ^ 31) (sizes : ObjectSizes)

structure OwnerConfigureAccepted (input : Fin n → ConfigureInput) : Prop where
  check : ∀ i, (input i).check (jobComm hsize i) = .success
  signature : ∀ i j, (input i).signature = (input j).signature
  bytes : ∀ i, (input i).bytes sizes (jobComm hsize i) ≤ (input i).maximumBytes
  allocates : ∀ i, (input i).allocates = true

inductive OwnerConfigureOutcome (s : Fin n → OwnerExchangeRoutingPlan F) (input : Fin n → ConfigureInput) :
    (Fin n → OwnerExchangeRoutingPlan F × Status) → Prop where
  | installed (h : OwnerConfigureAccepted hsize sizes input) : OwnerConfigureOutcome s input
      fun i => ((input i).install sizes (jobComm hsize i) (s i).generation, {})
  | failed (status : Status) (h : ¬ OwnerConfigureAccepted hsize sizes input) (hstatus : status.isOk = false) :
      OwnerConfigureOutcome s input fun i => (s i, status)

variable {s : Fin n → Portable.Status}

lemma agreeOr_run_ok (failure : Status) (h : ∀ i, s i = .success) : ∃ trace,
    (mpiJob hn).Run (fun i => ConfigureInput.agreeOr (F := F) failure (jobComm hsize i) (s i)) trace
      fun _ => .ok () := by
  obtain ⟨trace, hrun⟩ := (owner_consensus hn hsize).passes s fun i =>
    (Portable.Status.isOk_iff _).mpr (h i)
  exact ⟨_, Network.Run.bind hrun (.done _)⟩

lemma agreeOr_run_failed (failure : Status) (h : ¬ ∀ i, s i = .success) :
    ∃ trace, (mpiJob hn).Run (fun i => ConfigureInput.agreeOr (F := F) failure (jobComm hsize i) (s i)) trace
      fun _ => .failed failure := by
  obtain ⟨trace, e, -, hrun⟩ := (owner_consensus hn hsize).fails s fun hall =>
    h fun i => (Portable.Status.isOk_iff _).mp (hall i)
  exact ⟨_, Network.Run.bind hrun (.done _)⟩

lemma configureInput_run (input : Fin n → ConfigureInput) :
    ∃ trace r, (mpiJob hn).Run (fun i => (input i).phases (F := F) sizes (jobComm hsize i)) trace r ∧
      ((OwnerConfigureAccepted hsize sizes input ∧ r = fun _ => .ok ()) ∨
        (¬ OwnerConfigureAccepted hsize sizes input ∧
          ∃ status : Status, status.isOk = false ∧ r = fun _ => .failed status)) := by
  by_cases hcheck : ∀ i, (input i).check (jobComm hsize i) = .success
  · obtain ⟨trace₁, h₁⟩ := agreeOr_run_ok (F := F) hn hsize ⟨.invalidPlan, 26200⟩ hcheck
    obtain ⟨trace₂, h₂⟩ := compareAll_run (F := F) hn (⟨.mpiFailure, 26201⟩ : Status) ⟨.invalidPlan, 26200⟩
      (fun i => (input i).signature) 4 fun _ => rfl
    by_cases hsame : ∀ i j, (input i).signature = (input j).signature
    · simp only [if_pos hsame] at h₂
      have hbytes : ∀ i, (if (input i).maximumBytes < (input i).bytes sizes (jobComm hsize i) then
          Portable.Status.capacityExceeded else .success) = .success ↔
          (input i).bytes sizes (jobComm hsize i) ≤ (input i).maximumBytes := by
        intro i
        by_cases h : (input i).maximumBytes < (input i).bytes sizes (jobComm hsize i)
        · simp [h]
        · simp [h, not_lt.mp h]
      by_cases hroom : ∀ i, (input i).bytes sizes (jobComm hsize i) ≤ (input i).maximumBytes
      · obtain ⟨trace₃, h₃⟩ := agreeOr_run_ok (F := F) hn hsize ⟨.allocationFailure, 26202⟩
          fun i => (hbytes i).mpr (hroom i)
        have hallocates : ∀ i, (if (input i).allocates then Portable.Status.success else .capacityExceeded) =
            .success ↔ (input i).allocates = true := by
          intro i
          cases (input i).allocates <;> simp
        by_cases hall : ∀ i, (input i).allocates = true
        · obtain ⟨trace₄, h₄⟩ := agreeOr_run_ok (F := F) hn hsize ⟨.allocationFailure, 26203⟩
            fun i => (hallocates i).mpr (hall i)
          exact ⟨_, _, Network.Run.andThen_ok h₁ (Network.Run.andThen_ok h₂ (Network.Run.andThen_ok h₃ h₄)),
            .inl ⟨⟨hcheck, hsame, hroom, hall⟩, rfl⟩⟩
        · obtain ⟨trace₄, h₄⟩ := agreeOr_run_failed (F := F) hn hsize ⟨.allocationFailure, 26203⟩
            fun h => hall fun i => (hallocates i).mp (h i)
          exact ⟨_, _, Network.Run.andThen_ok h₁ (Network.Run.andThen_ok h₂ (Network.Run.andThen_ok h₃ h₄)),
            .inr ⟨fun h => hall h.allocates, _, rfl, rfl⟩⟩
      · obtain ⟨trace₃, h₃⟩ := agreeOr_run_failed (F := F) hn hsize ⟨.allocationFailure, 26202⟩
          fun h => hroom fun i => (hbytes i).mp (h i)
        exact ⟨_, _, Network.Run.andThen_ok h₁ (Network.Run.andThen_ok h₂ (Network.Run.andThen_failed h₃)),
          .inr ⟨fun h => hroom h.bytes, _, rfl, rfl⟩⟩
    · simp only [if_neg hsame] at h₂
      exact ⟨_, _, Network.Run.andThen_ok h₁ (Network.Run.andThen_failed h₂),
        .inr ⟨fun h => hsame h.signature, _, rfl, rfl⟩⟩
  · obtain ⟨trace₁, h₁⟩ := agreeOr_run_failed (F := F) hn hsize ⟨.invalidPlan, 26200⟩ hcheck
    exact ⟨_, _, Network.Run.andThen_failed h₁, .inr ⟨fun h => hcheck h.check, _, rfl, rfl⟩⟩

lemma ownerConfigure_run (s : Fin n → OwnerExchangeRoutingPlan F) (input : Fin n → ConfigureInput) :
    ∃ trace r, (mpiJob hn).Run (fun i => (s i).configure sizes (some (jobComm hsize i)) (input i)) trace
        (fun i => some (r i)) ∧ OwnerConfigureOutcome hsize sizes s input r := by
  obtain ⟨trace, r, hrun, ⟨haccepted, rfl⟩ | ⟨hrefused, status, hstatus, rfl⟩⟩ :=
    configureInput_run (F := F) hn hsize sizes input
  · exact ⟨_, _, Network.Run.bind hrun (.done _), .installed haccepted⟩
  · exact ⟨_, _, Network.Run.bind hrun (.done _), .failed status hrefused hstatus⟩

lemma check_success {comm : RankComm} {input : ConfigureInput} (h : input.check comm = .success) :
    PartitionOf input.global comm.size (chooseGrid input.global comm.size).grid ∧
      input.patch.processGrid = (chooseGrid input.global comm.size).grid ∧
      input.localCapacity ≤ maxInt / ExchangeSegment.lanes ∧
      input.auditCapacity ≤ maxInt / ExchangeSegment.lanes := by
  unfold ConfigureInput.check at h
  cases hpatch : makeMeshPatch comm.rank comm.size input.global with
  | error e => simp [hpatch] at h
  | ok actual =>
    simp only [hpatch] at h
    split_ifs at h with hbad
    simp only [ne_eq, Bool.or_eq_true, decide_eq_true_eq, not_or, not_not, not_lt] at hbad
    obtain ⟨hg, h0, h1⟩ := makeMeshPatch_partition hpatch
    have hgrid := (hg.patch comm.rank h0 h1).symm.trans hpatch
    refine ⟨hg, ?_, hbad.1.1.1.2, hbad.1.1.2⟩
    rw [← hbad.1.1.1.1, ← Except.ok.inj hgrid]
    rfl

include hn in
lemma ownerConfigured_install {input : Fin n → ConfigureInput} (h : OwnerConfigureAccepted hsize sizes input)
    (generation : Fin n → ℕ) :
    ∃ cells grid, PartitionOf cells n grid ∧ ∀ i, OwnerConfigured (F := F) hsize cells grid i
      ((input i).install sizes (jobComm hsize i) (generation i)) := by
  have hcheck := fun i => check_success (h.check i)
  have hcells : ∀ i j, (input i).global = (input j).global := by
    intro i j
    have hi := (validCells_iff _).mp (hcheck i).1.cells_valid
    have hj := (validCells_iff _).mp (hcheck j).1.cells_valid
    have hsame := h.signature i j
    simp only [ConfigureInput.signature, List.cons.injEq, and_true] at hsame
    obtain ⟨hx, hy, hz, -⟩ := hsame
    rcases hc : (input i).global with ⟨x, y, z⟩
    rcases hc' : (input j).global with ⟨x', y', z'⟩
    rw [hc] at hi hx hy hz
    rw [hc'] at hj hx hy hz
    dsimp only at hi hj hx hy hz
    congr 1
    all_goals omega
  refine ⟨(input ⟨0, hn⟩).global, (chooseGrid (input ⟨0, hn⟩).global n).grid, (hcheck ⟨0, hn⟩).1, fun i => ?_⟩
  have hgrid := (hcheck i).2.1
  rw [hcells i ⟨0, hn⟩] at hgrid
  have hlanes : 0 < ExchangeSegment.lanes := by decide
  exact ⟨rfl, hcells i _, hgrid, (Nat.le_div_iff_mul_le hlanes).mp (hcheck i).2.2.1,
    (Nat.le_div_iff_mul_le hlanes).mp (hcheck i).2.2.2,
    by simp [ConfigureInput.install, ConfigureInput.sendWords],
    by simp [ConfigureInput.install, ConfigureInput.receiveWords, ConfigureInput.capacity],
    by simp [ConfigureInput.install, ConfigureInput.capacity]⟩

section Prepare

variable [ExchangeReal F] {cells grid : Int3} {s : Fin n → OwnerExchangeRoutingPlan F}

/-- What `prepare` does on all ranks of a configured job. -/
inductive OwnerPrepareOutcome (cells grid : Int3) (s : Fin n → OwnerExchangeRoutingPlan F)
    (revision : Fin n → Revision) (input : Fin n → Span (ExchangeSegment F)) :
    (Fin n → OwnerExchangeRoutingPlan F × Portable.Status) → Prop where
  | succeeded (done : Fin n → OwnerExchangeRoutingPlan F) (h : OwnerAccepted cells grid s revision input)
      (hplan : ∀ i, OwnerConfigured hsize cells grid i (done i))
      (hcandidates : ∀ i, (done i).candidates =
        some ⟨deliveredRows cells grid input i, revision i, (done i).generation⟩) :
      OwnerPrepareOutcome cells grid s revision input fun i => (done i, .success)
  | failed (e : Portable.Status) (h : ¬ OwnerAccepted cells grid s revision input)
      (hfailure : PortableFailure e) :
      OwnerPrepareOutcome cells grid s revision input fun i => ((s i).discard, e)

omit [ExchangeReal F] in
lemma OwnerConfigured.discard {i : Fin n} {plan : OwnerExchangeRoutingPlan F}
    (h : OwnerConfigured hsize cells grid i plan) : OwnerConfigured hsize cells grid i plan.discard :=
  ⟨h.comm, h.global, h.grid, h.localCapacity, h.auditCapacity, h.send, h.receive, h.values⟩

lemma ownerAccepted_discard {revision : Fin n → Revision} {input : Fin n → Span (ExchangeSegment F)} :
    OwnerAccepted cells grid (fun i => (s i).discard) revision input ↔ OwnerAccepted cells grid s revision input := by
  constructor
  · intro h
    refine ⟨fun i => ?_, h.sameRevision, h.audits, h.stencils, h.receives⟩
    have hi := h.admissible i
    exact ⟨hi.fits, hi.readable, hi.algorithmVersion, hi.inputRevision, hi.rows⟩
  · intro h
    refine ⟨fun i => ?_, h.sameRevision, h.audits, h.stencils, h.receives⟩
    have hi := h.admissible i
    exact ⟨hi.fits, hi.readable, hi.algorithmVersion, hi.inputRevision, hi.rows⟩

lemma ownerPrepare_run (hg : PartitionOf cells n grid) (hs : ∀ i, OwnerConfigured hsize cells grid i (s i))
    (revision : Fin n → Revision) (input : Fin n → Span (ExchangeSegment F)) :
    ∃ trace r, (mpiJob hn).Run (fun i => (s i).prepare (revision i) (input i)) trace (fun i => some (r i)) ∧
      OwnerPrepareOutcome hsize cells grid s revision input r := by
  obtain ⟨trace, stage, hrun, houtcome⟩ :=
    ownerPhases_run hsize hn hg (fun i => (hs i).discard) revision input
  have hprogram : ∀ i, (s i).comm = some (jobComm hsize i) := fun i => (hs i).comm
  rw [ownerAccepted_discard] at houtcome
  cases houtcome with
  | succeeded done h hvalues hsend hreceive =>
    refine ⟨trace ++ [], _, ?_, .succeeded (fun i =>
      { (s i).discard with
          send := (done i).send, receive := (done i).receive, values := (done i).values
          revision := revision i, available := true }) h (fun i => ?_) fun i => ?_⟩
    · simp only [OwnerExchangeRoutingPlan.prepare, hprogram]
      exact Network.Run.bind hrun (.done _)
    · have hi := hs i
      exact ⟨hi.comm, hi.global, hi.grid, hi.localCapacity, hi.auditCapacity,
        hi.send.trans_eq (hsend i).symm, hi.receive.trans_eq (hreceive i).symm, hi.values⟩
    · rw [← hvalues i]
      rfl
  | failed e h he =>
    refine ⟨trace ++ [], _, ?_, .failed e h he⟩
    simp only [OwnerExchangeRoutingPlan.prepare, hprogram]
    exact Network.Run.bind hrun (.done _)

def OwnerJobConfigured (s : Fin n → OwnerExchangeRoutingPlan F) : Prop :=
  (∀ i, (s i).comm = none) ∨
    ∃ cells grid, PartitionOf cells n grid ∧ ∀ i, OwnerConfigured hsize cells grid i (s i)

lemma ownerPrepare_unconfigured (h : ∀ i, (s i).comm = none) (revision : Fin n → Revision)
    (input : Fin n → Span (ExchangeSegment F)) : (mpiJob hn).Run (fun i => (s i).prepare (revision i) (input i)) []
      (fun i => some ((s i).discard, .invalidInput)) := by
  simp only [OwnerExchangeRoutingPlan.prepare, h]
  exact .done _

theorem ownerReachable_configured (h : OwnerReachable hn hsize sizes s) : OwnerJobConfigured hsize s := by
  have : Nonempty (Fin n) := ⟨⟨0, hn⟩⟩
  induction h with
  | initial => exact .inl fun _ => rfl
  | configure s input trace r _ hrun ih =>
    obtain ⟨trace', r', hrun', houtcome⟩ := ownerConfigure_run hn hsize sizes s input
    have hsame := (hrun'.unique hrun).2
    have hr : r' = r := funext fun i => some.inj (congrFun hsame i)
    subst hr
    cases houtcome with
    | installed h => exact .inr (ownerConfigured_install hn hsize sizes h _)
    | failed => exact ih
  | prepare s revision input trace r _ hrun ih =>
    cases ih with
    | inl hnone =>
      have hsame := ((ownerPrepare_unconfigured hn hnone revision input).unique hrun).2
      have hr : (fun i => ((s i).discard, Portable.Status.invalidInput)) = r :=
        funext fun i => some.inj (congrFun hsame i)
      subst hr
      exact .inl hnone
    | inr hconf =>
      obtain ⟨cells, grid, hg, hs⟩ := hconf
      obtain ⟨trace', r', hrun', houtcome⟩ := ownerPrepare_run hn hsize hg hs revision input
      have hsame := (hrun'.unique hrun).2
      have hr : r' = r := funext fun i => some.inj (congrFun hsame i)
      subst hr
      refine .inr ⟨cells, grid, hg, ?_⟩
      cases houtcome with
      | succeeded _ _ hplan => exact hplan
      | failed => exact fun i => (hs i).discard
  | discard s rank _ ih =>
    cases ih with
    | inl hnone =>
      exact .inl ((Function.forall_update_iff s fun _ plan => plan.comm = none).mpr
        ⟨hnone rank, fun i _ => hnone i⟩)
    | inr hconf =>
      obtain ⟨cells, grid, hg, hs⟩ := hconf
      exact .inr ⟨cells, grid, hg,
        (Function.forall_update_iff s fun i plan => OwnerConfigured hsize cells grid i plan).mpr
          ⟨(hs rank).discard, fun i _ => hs i⟩⟩

end Prepare

variable [ExchangeReal F]

def offeredRows (plan : OwnerExchangeRoutingPlan F) : List (ExchangeSegment F) :=
  (plan.candidates.map (·.data)).getD []

/-- Nothing speaks against the exchange. -/
structure RoutingAccepted (s : Fin n → OwnerExchangeRoutingPlan F) (revision : Fin n → Revision)
    (input : Fin n → Span (ExchangeSegment F)) : Prop where
  configured : ∀ i, (s i).comm ≠ none
  admissible : ∀ i, AdmissibleRows (s i) (revision i) (input i)
  sameRevision : ∀ i j, revision i = revision j
  audits : ∀ i : Fin n, ((handedIn input).filter fun v => auditor n v = i).card ≤ (s i).auditCapacity
  stencils : ∀ v ∈ handedIn input, StencilAccepted (handedIn input) v.key
  receives : ∀ i : Fin n, ((handedIn input).filter fun v =>
    owner (s i).global (s i).grid v.globalCell.toNat = i).card ≤ (s i).localCapacity

/-- Every rank has succeeded and offers a certificate for its rows; together the ranks offer
what was handed in, each row at the owner of its cell. -/
structure RowsRouted (s : Fin n → OwnerExchangeRoutingPlan F) (revision : Fin n → Revision)
    (input : Fin n → Span (ExchangeSegment F)) (r : Fin n → OwnerExchangeRoutingPlan F × Portable.Status) :
    Prop where
  succeeded : ∀ i, (r i).2 = .success
  certificate : ∀ i, (r i).1.candidates = some ⟨offeredRows (r i).1, revision i, (r i).1.generation⟩
  conserved : ∑ i, (offeredRows (r i).1 : Multiset (ExchangeSegment F)) = handedIn input
  lanes : ∑ i, (((offeredRows (r i).1).map ExchangeSegment.encode : List (List (Lane F))) :
    Multiset (List (Lane F))) = (handedIn input).map ExchangeSegment.encode
  owned : ∀ i : Fin n, ∃ patch, makeMeshPatch i n (s i).global = .ok patch ∧
    ∀ v ∈ offeredRows (r i).1, Contains patch (cellOf (s i).global v.globalCell.toNat)
  ordered : ∀ i, (offeredRows (r i).1).Pairwise fun v w => deliveryKey v < deliveryKey w
  fits : ∀ i, (offeredRows (r i).1).length ≤ (s i).localCapacity

/-- All ranks have failed alike and offer nothing. -/
def RoutingRefused (r : Fin n → OwnerExchangeRoutingPlan F × Portable.Status) : Prop :=
  ∃ status : Portable.Status, status.isOk = false ∧ ∀ i, (r i).2 = status ∧ (r i).1.candidates = none

variable {cells grid : Int3} {s : Fin n → OwnerExchangeRoutingPlan F} {revision : Fin n → Revision}
  {input : Fin n → Span (ExchangeSegment F)}

include hn in
lemma ownerAccepted_iff (hg : PartitionOf cells n grid) (hs : ∀ i, OwnerConfigured hsize cells grid i (s i)) :
    OwnerAccepted cells grid s revision input ↔ RoutingAccepted s revision input := by
  have hreceives : ∀ i : Fin n,
      (routed (fun j => (input j).values) (destinationOf cells grid n) i).length =
        ((handedIn input).filter fun v => owner (s i).global (s i).grid v.globalCell.toNat = i).card := by
    intro i
    rw [length_routed_eq_card]
    congr 1
    apply filter_congr
    intro v _
    rw [(hs i).global, (hs i).grid]
    exact subscript_eq_iff hg _ i.isLt
  have haudits : ∀ i : Fin n, (routed (fun j => (input j).values) (auditor n) i).length =
      ((handedIn input).filter fun v => auditor n v = i).card := fun i => length_routed_eq_card _
  have hstencil := audits_isOk hn fun j => (input j).values
  constructor
  · intro h
    refine ⟨fun i => ?_, h.admissible, fun i j => ?_, fun i => ?_, hstencil.mp h.stencils, fun i => ?_⟩
    · rw [(hs i).comm]
      exact some_ne_none _
    · have hsame := h.sameRevision i j
      have hi := (h.admissible i).algorithmVersion
      have hj := (h.admissible j).algorithmVersion
      rcases hri : revision i with ⟨step, number, version⟩
      rcases hrj : revision j with ⟨step', number', version'⟩
      simp only [hri, hrj, List.cons.injEq, and_true] at hsame hi hj
      rw [hsame.1, hsame.2, hi, hj]
    · rw [← haudits]
      exact h.audits i
    · rw [← hreceives]
      exact h.receives i
  · intro h
    refine ⟨h.admissible, fun i j => ?_, fun i => ?_, hstencil.mpr h.stencils, fun i => ?_⟩
    · rw [h.sameRevision i j]
    · rw [haudits]
      exact h.audits i
    · rw [hreceives]
      exact h.receives i

include hn in
lemma nodup_deliveredRows (h : OwnerAccepted cells grid s revision input) (i : Fin n) :
    ((routed (fun j => (input j).values) (destinationOf cells grid n) i).map deliveryKey).Nodup := by
  have hdest : ∀ j, ∀ v ∈ (input j).values, auditor n v < n := fun _ v _ => rowAuditor_lt hn v
  have hall : ((∑ j, ((input j).values : Multiset (ExchangeSegment F))).map deliveryKey).Nodup :=
    (nodup_map_sum_routed hdest fun a b hab => auditor_eq_of_key (congrArg (fun k => (ofLex k).2) hab)).mpr
      fun r => deliveryKey_nodup (h.stencils r)
  rw [← Multiset.coe_nodup, ← Multiset.map_coe, coe_routed]
  exact nodup_of_le (map_le_map (filter_le _ _)) hall

include hn in
lemma routed_of_accepted (hg : PartitionOf cells n grid) (hs : ∀ i, OwnerConfigured hsize cells grid i (s i))
    (h : OwnerAccepted cells grid s revision input) {done : Fin n → OwnerExchangeRoutingPlan F}
    (hcandidates : ∀ i, (done i).candidates =
      some ⟨deliveredRows cells grid input i, revision i, (done i).generation⟩) :
    RowsRouted s revision input fun i => (done i, .success) := by
  have hoffered : ∀ i, offeredRows (done i) = deliveredRows cells grid input i := by
    intro i
    rw [offeredRows, hcandidates i]
    rfl
  have hperm : ∀ i : Fin n, (offeredRows (done i) : Multiset (ExchangeSegment F)) =
      routed (fun j => (input j).values) (destinationOf cells grid n) i := by
    intro i
    rw [hoffered i, coe_eq_coe]
    exact sortOn_perm _ _
  have hcons : ∑ i, (offeredRows (done i) : Multiset (ExchangeSegment F)) = handedIn input := by
    simp only [hperm]
    exact sum_routed (destination_admissible hsize hg hs h.admissible)
  refine ⟨fun _ => rfl, fun i => ?_, hcons, ?_, fun i => ?_, fun i => ?_, fun i => ?_⟩
  · rw [hoffered i]
    exact hcandidates i
  · rw [sum_map_coe, hcons]
  · refine ⟨_, by rw [(hs i).global]; exact hg.patch i (Int.natCast_nonneg _) (by exact_mod_cast i.isLt),
      fun v hv => ?_⟩
    rw [← mem_coe, hperm i, mem_coe] at hv
    rw [(hs i).global]
    exact contains_owner hg ((subscript_eq_iff hg _ i.isLt).mp (mem_routed.mp hv).2)
  · rw [hoffered i]
    exact sortOn_pairwise_lt (nodup_deliveredRows hn h i)
  · rw [hoffered i, deliveredRows, (sortOn_perm _ _).length_eq]
    exact h.receives i

/-- After any calls of a job, an exchange has one result, and no write leaves a buffer. When
nothing speaks against it, all ranks succeed and hold exactly what was handed in, each row once,
at the owner of its cell and in the order of cell, parcel and ordinal. Otherwise all ranks fail
with one status and offer nothing. -/
theorem owner_routing_delivers_once (hs : OwnerReachable hn hsize sizes s) (revision : Fin n → Revision)
    (input : Fin n → Span (ExchangeSegment F)) :
    ∃ trace r, (mpiJob hn).Run (fun i => (s i).prepare (revision i) (input i)) trace (fun i => some (r i)) ∧
      (∀ trace' r', (mpiJob hn).Run (fun i => (s i).prepare (revision i) (input i)) trace' r' →
        r' = fun i => some (r i)) ∧
      ((RoutingAccepted s revision input ∧ RowsRouted s revision input r) ∨
        (¬ RoutingAccepted s revision input ∧ RoutingRefused r)) := by
  have : Nonempty (Fin n) := ⟨⟨0, hn⟩⟩
  cases ownerReachable_configured hn hsize sizes hs with
  | inl hnone =>
    have hrun := ownerPrepare_unconfigured hn hnone revision input
    refine ⟨_, _, hrun, fun _ _ hrun' => (hrun.unique hrun').2.symm, .inr ⟨fun h => ?_, ?_⟩⟩
    · exact h.configured ⟨0, hn⟩ (hnone _)
    · exact ⟨.invalidInput, rfl, fun i => ⟨rfl, rfl⟩⟩
  | inr hconfigured =>
    obtain ⟨cells, grid, hg, hplan⟩ := hconfigured
    obtain ⟨trace, r, hrun, houtcome⟩ := ownerPrepare_run hn hsize hg hplan revision input
    refine ⟨trace, r, hrun, fun _ _ hrun' => (hrun.unique hrun').2.symm, ?_⟩
    cases houtcome with
    | succeeded done h _ hcandidates =>
      exact .inl ⟨(ownerAccepted_iff hn hsize hg hplan).mp h,
        routed_of_accepted hn hsize hg hplan h hcandidates⟩
    | failed e h he =>
      exact .inr ⟨mt (ownerAccepted_iff hn hsize hg hplan).mpr h, e, he, fun i => ⟨rfl, rfl⟩⟩

def pairPatch (i : Fin 2) : MeshPatch := ⟨⟨i, 0, 0⟩, ⟨1, 1, 1⟩, ⟨2, 1, 1⟩, ⟨i, 0, 0⟩⟩

def pairConfigure (i : Fin 2) : ConfigureInput := ⟨⟨2, 1, 1⟩, pairPatch i, 4, 4, 1, 10000, true⟩

/-- Half of an exchange, for the cell of the other rank. -/
def pairRow (i : Fin 2) : ExchangeSegment ℚ where
  revision := ⟨3, 1, 1⟩
  globalCell := UInt64.ofNat (1 - i)
  parcelId := ⟨0, 7⟩
  segmentOrdinal := 2
  depositionWeight := 1 / 2
  channel := .interphase
  delta := ⟨1, ⟨0, 0, 0⟩, -1, 0, 1⟩
  vaporSpeciesIndex := 0

def pairPlan (i : Fin 2) : OwnerExchangeRoutingPlan ℚ :=
  (pairConfigure i).install ⟨400, 4, 136⟩ (jobComm (by decide) i) 0

lemma pairPlan_reachable : OwnerReachable (by decide : 0 < 2) (by decide) ⟨400, 4, 136⟩ pairPlan := by
  have haccepted : OwnerConfigureAccepted (by decide) ⟨400, 4, 136⟩ pairConfigure :=
    ⟨by decide +kernel, by decide +kernel, by decide +kernel, by decide⟩
  obtain ⟨trace, r, hrun, houtcome⟩ :=
    ownerConfigure_run (F := ℚ) (by decide : 0 < 2) (by decide) ⟨400, 4, 136⟩ (fun _ => {}) pairConfigure
  have hreachable := OwnerReachable.configure _ _ _ _ .initial hrun
  cases houtcome with
  | installed => exact hreachable
  | failed _ h => exact absurd haccepted h

lemma pairRow_passes : ∀ i : Fin 2, (pairPlan i).rowStatus ⟨3, 1, 1⟩ (pairRow i) = .success := by
  decide +kernel

lemma pairRow_handedIn : handedIn (fun i : Fin 2 => .of [pairRow i]) = {pairRow 1, pairRow 0} := by
  decide +kernel

theorem owner_routing_delivers_once_pair :
    ∃ (s : Fin 2 → OwnerExchangeRoutingPlan ℚ) (r : Fin 2 → OwnerExchangeRoutingPlan ℚ × Portable.Status),
      RowsRouted s (fun _ => ⟨3, 1, 1⟩) (fun i => .of [pairRow i]) r := by
  obtain ⟨trace', r, -, -, houtcome⟩ := owner_routing_delivers_once (by decide) (by decide) ⟨400, 4, 136⟩
    pairPlan_reachable (fun _ => ⟨3, 1, 1⟩) fun i => .of [pairRow i]
  cases houtcome with
  | inl hrouted => exact ⟨_, r, hrouted.2⟩
  | inr hrefused =>
    refine absurd ⟨fun i => by simp [pairPlan, ConfigureInput.install], fun i => ⟨?_, ?_, rfl, by decide, ?_⟩,
      fun _ _ => rfl, ?_, ?_, ?_⟩ hrefused.1
    · exact (by decide : 1 ≤ 4)
    · exact fun h => absurd h (by simp [Span.isNull])
    · intro v hv
      rw [List.mem_singleton.mp hv]
      exact pairRow_passes i
    · rw [pairRow_handedIn]
      decide +kernel
    · rw [pairRow_handedIn]
      intro v hv
      have hkey : v.key = (pairRow 0).key := by
        revert v
        decide +kernel
      rw [hkey]
      exact ⟨[pairRow 1, pairRow 0], by decide +kernel, by decide +kernel, by decide +kernel⟩
    · rw [pairRow_handedIn]
      decide +kernel

end HundunFlow.Proofs
