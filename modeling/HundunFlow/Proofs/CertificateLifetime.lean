import HundunFlow.Proofs.OwnerDelivery
import HundunFlow.RoutedCertificates

/-!
# How long a certificate is good

Every call that changes a plan, also a failing `prepare`, gives it the next generation.
-/

namespace HundunFlow.Proofs

open Lib OwnerExchangeRoutingPlan List Function Option

variable {F : Type}

section Plans

variable {comm : RankComm} {plan after : OwnerExchangeRoutingPlan F}

variable {input : ConfigureInput} {sizes : ObjectSizes}

lemma agreeOr_failure {failure e : Status} {brought : Portable.Status}
    (h : Prog.Local AnyReply (ConfigureInput.agreeOr (F := F) failure comm brought) (.failed e)) : e = failure := by
  rw [ConfigureInput.agreeOr, Prog.local_bind_iff] at h
  obtain ⟨stage, -, hstage⟩ := h
  cases stage with
  | fault => simp at hstage
  | failed _ => simpa using hstage
  | ok _ => simp at hstage

lemma compareAll_failure {E : Type} {mpiFailure mismatch e : E} {values : List ℕ}
    (h : Prog.Local AnyReply (compareAll (F := F) mpiFailure mismatch values) (.failed e)) :
    e = mpiFailure ∨ e = mismatch := by
  rw [compareAll, Prog.local_bind_iff] at h
  obtain ⟨minima, -, h⟩ := h
  cases minima with
  | none =>
    left
    simpa using h
  | some minima =>
    dsimp only at h
    rw [Prog.local_bind_iff] at h
    obtain ⟨maxima, -, h⟩ := h
    cases maxima with
    | none =>
      left
      simpa using h
    | some maxima =>
      dsimp only at h
      split_ifs at h with hsame
      · right
        simpa using h
      · simp at h

lemma phases_failure {e : Status} (h : Prog.Local AnyReply (input.phases (F := F) sizes comm) (.failed e)) : e ≠ {} := by
  rw [ConfigureInput.phases] at h
  rcases Prog.local_andThen_failed h with h | ⟨-, -, h⟩
  · rw [agreeOr_failure h]
    decide
  rcases Prog.local_andThen_failed h with h | ⟨-, -, h⟩
  · rcases compareAll_failure h with rfl | rfl <;> decide
  rcases Prog.local_andThen_failed h with h | ⟨-, -, h⟩
  · rw [agreeOr_failure h]
    decide
  · rw [agreeOr_failure h]
    decide

lemma configure_renews {communicator : Option RankComm} {status : Status}
    (h : Prog.Local AnyReply (plan.configure sizes communicator input) (some (after, status))) :
    status ≠ {} ∧ after = plan ∨
      status = {} ∧ after.generation = plan.generation + 1 ∧ after.available = false := by
  unfold OwnerExchangeRoutingPlan.configure at h
  cases communicator with
  | none =>
    simp only [Prog.local_done_iff, some.injEq, Prod.mk.injEq] at h
    obtain ⟨rfl, rfl⟩ := h
    exact .inl ⟨by decide, rfl⟩
  | some comm =>
    dsimp only at h
    rw [Prog.local_bind_iff] at h
    obtain ⟨stage, hphases, h⟩ := h
    cases stage with
    | fault => simp at h
    | failed e =>
      simp only [Prog.local_done_iff, some.injEq, Prod.mk.injEq] at h
      obtain ⟨rfl, rfl⟩ := h
      exact .inl ⟨phases_failure hphases, rfl⟩
    | ok _ =>
      simp only [Prog.local_done_iff, some.injEq, Prod.mk.injEq] at h
      obtain ⟨rfl, rfl⟩ := h
      exact .inr ⟨rfl, rfl, rfl⟩

lemma prepare_renews [ExchangeReal F] {revision : Revision} {input : Span (ExchangeSegment F)} {status : Portable.Status}
    (h : Prog.Local AnyReply (plan.prepare revision input) (some (after, status))) :
    after.generation = plan.generation + 1 ∧
      (after.available = true → status = .success ∧ after.revision = revision) := by
  unfold OwnerExchangeRoutingPlan.prepare at h
  cases hcomm : plan.comm with
  | none =>
    rw [hcomm] at h
    simp only [Prog.local_done_iff, some.injEq, Prod.mk.injEq] at h
    obtain ⟨rfl, rfl⟩ := h
    exact ⟨rfl, fun h => (by cases h)⟩
  | some comm =>
    rw [hcomm] at h
    dsimp only at h
    rw [Prog.local_bind_iff] at h
    obtain ⟨stage, -, h⟩ := h
    cases stage with
    | fault => simp at h
    | failed e =>
      simp only [Prog.local_done_iff, some.injEq, Prod.mk.injEq] at h
      obtain ⟨rfl, rfl⟩ := h
      exact ⟨rfl, fun h => (by cases h)⟩
    | ok done =>
      simp only [Prog.local_done_iff, some.injEq, Prod.mk.injEq] at h
      obtain ⟨rfl, rfl⟩ := h
      exact ⟨rfl, fun _ => ⟨rfl, rfl⟩⟩

end Plans

section Calls

variable [Field F] [LinearOrder F] {sizes : ObjectSizes} {o o' : ExchangeObjects F} {event : CertificateEvent F}

inductive PlanEffect (plan : ℕ) (before after : OwnerExchangeRoutingPlan F) (event : CertificateEvent F) : Prop where
  | kept (hevent : renewsPlan plan event = false) (hplan : after = before)
  | prepared (revision : Revision) (input : Span (ExchangeSegment F))
      (hevent : event = (.prepare plan revision input, .prepared .success))
      (hgeneration : after.generation = before.generation + 1) (hrevision : after.revision = revision)
  | closed (hevent : renewsPlan plan event = true) (hgeneration : after.generation = before.generation + 1)
      (hclosed : after.available = false)

variable (w : ExchangeWorkspace)

variable (revision : Revision)

variable (cells : Span (ExchangeCell F))

omit [Field F] [LinearOrder F] in
lemma PlanEffect.generation {plan : ℕ} {before after : OwnerExchangeRoutingPlan F}
    (h : PlanEffect plan before after event) :
    after.generation = before.generation + if renewsPlan plan event then 1 else 0 := by
  cases h with
  | kept hevent hplan => rw [hplan, hevent]; rfl
  | prepared revision input hevent hgeneration => rw [hgeneration, hevent]; simp [renewsPlan]
  | closed hevent hgeneration => rw [hgeneration, hevent]; rfl

lemma step_plan (h : CertificateStep sizes o event o') (plan : ℕ) :
    PlanEffect plan (o.plans plan) (o'.plans plan) event := by
  cases h with
  | configure p communicator input after status h =>
    dsimp only
    by_cases hp : p = plan
    · subst hp
      rw [update_self]
      rcases configure_renews h with ⟨hstatus, hafter⟩ | ⟨hstatus, hgeneration, hclosed⟩
      · exact .kept (by simp [renewsPlan, hstatus]) hafter
      · exact .closed (by simp [renewsPlan, hstatus]) hgeneration hclosed
    · rw [update_of_ne (Ne.symm hp)]
      exact .kept (by simp [renewsPlan, hp]) rfl
  | prepare p revision input after status h =>
    dsimp only
    by_cases hp : p = plan
    · subst hp
      rw [update_self]
      obtain ⟨hgeneration, havail⟩ := prepare_renews h
      by_cases hclosed : after.available = true
      · obtain ⟨rfl, hrevision⟩ := havail hclosed
        exact .prepared revision input rfl hgeneration hrevision
      · exact .closed (by simp [renewsPlan]) hgeneration (by simpa using hclosed)
    · rw [update_of_ne (Ne.symm hp)]
      exact .kept (by simp [renewsPlan, hp]) rfl
  | discard p =>
    dsimp only
    by_cases hp : p = plan
    · subst hp
      rw [update_self]
      exact .closed (by simp [renewsPlan]) rfl rfl
    · rw [update_of_ne (Ne.symm hp)]
      exact .kept (by simp [renewsPlan, hp]) rfl
  | evaluate => exact .kept rfl rfl
  | evaluateRouted => exact .kept rfl rfl

lemma totals_generation (generation species : ℕ) (revision : Revision) (cells : List (ExchangeCell F))
    (segments : List (ExchangeSegment F)) (atol rtol : F) :
    (ExchangeWorkspace.totals generation species revision cells segments atol rtol).generation = generation := by
  unfold ExchangeWorkspace.totals
  dsimp only
  split
  · rfl
  · split_ifs <;> rfl

lemma evaluateImpl_generation (segments : Span (ExchangeSegment F)) (atol rtol : F) (completeStencils : Bool) :
    (w.evaluateImpl revision cells segments atol rtol completeStencils).generation = w.generation + 1 := by
  unfold ExchangeWorkspace.evaluateImpl
  dsimp only
  split
  · rfl
  split
  · rfl
  cases ExchangeWorkspace.cellsFailure none 0 cells.values with
  | some failure => rfl
  | none =>
    dsimp only
    cases ExchangeWorkspace.rowsFailure w.species revision cells.values atol rtol 0 segments.values with
    | some failure => rfl
    | none =>
      dsimp only
      cases (if completeStencils then ExchangeWorkspace.stencilsFailure segments.values 0 segments.values else none) with
      | some failure => rfl
      | none => exact totals_generation ..

lemma evaluateRouted_generation (handle : Option (RoutedHandle F)) (atol rtol : F) :
    (o.evaluateRouted w revision cells handle atol rtol).generation = w.generation + 1 := by
  unfold ExchangeObjects.evaluateRouted
  cases handle with
  | none => rfl
  | some handle =>
    dsimp only
    split_ifs
    · exact evaluateImpl_generation ..
    · rfl

lemma step_workspace (h : CertificateStep sizes o event o') (workspace : ℕ) : (o'.workspaces workspace).generation =
      (o.workspaces workspace).generation + (if evaluatesOn workspace event then 1 else 0) ∧
    ∀ report, event.2 = .evaluated report → evaluatesOn workspace event = true →
      report.generation = (o'.workspaces workspace).generation := by
  cases h with
  | configure => exact ⟨rfl, fun report habsurd => by cases habsurd⟩
  | prepare => exact ⟨rfl, fun report habsurd => by cases habsurd⟩
  | discard => exact ⟨rfl, fun report habsurd => by cases habsurd⟩
  | evaluate k revision cells segments atol rtol =>
    dsimp only
    by_cases hk : k = workspace
    · subst hk
      rw [update_self]
      refine ⟨by simp [evaluatesOn, ExchangeWorkspace.next], fun report hreport _ => ?_⟩
      cases hreport
      exact evaluateImpl_generation ..
    · rw [update_of_ne (Ne.symm hk)]
      refine ⟨by simp [evaluatesOn, hk], fun report hreport habsurd => ?_⟩
      simp [evaluatesOn, hk] at habsurd
  | evaluateRouted k revision cells handle atol rtol =>
    dsimp only
    by_cases hk : k = workspace
    · subst hk
      rw [update_self]
      refine ⟨by simp [evaluatesOn, ExchangeWorkspace.next], fun report hreport _ => ?_⟩
      cases hreport
      exact evaluateRouted_generation ..
    · rw [update_of_ne (Ne.symm hk)]
      refine ⟨by simp [evaluatesOn, hk], fun report hreport habsurd => ?_⟩
      simp [evaluatesOn, hk] at habsurd

end Calls

section Runs

variable [Field F] [LinearOrder F] {sizes : ObjectSizes} {o o' : ExchangeObjects F} {events : List (CertificateEvent F)}

variable {plan : ℕ} {handle : RoutedHandle F}

lemma run_generation (h : CertificateRun sizes o events o') (plan : ℕ) :
    (o'.plans plan).generation = (o.plans plan).generation + (events.filter (renewsPlan plan)).length := by
  induction h with
  | nil => rfl
  | cons h hrun ih =>
    rw [ih, (step_plan h plan).generation, filter_cons, Nat.add_assoc]
    split_ifs
    · rw [length_cons, Nat.add_comm 1]
    · rw [Nat.zero_add]

lemma run_kept (h : CertificateRun sizes o events o') (hkept : ∀ event ∈ events, renewsPlan plan event = false) :
    o'.plans plan = o.plans plan := by
  induction h with
  | nil => rfl
  | cons h hrun ih =>
    rw [ih fun event hevent => hkept event (mem_cons_of_mem _ hevent)]
    have hfirst := hkept _ mem_cons_self
    cases step_plan h plan with
    | kept hevent hplan => exact hplan
    | prepared revision input hevent => rw [hevent] at hfirst; simp [renewsPlan] at hfirst
    | closed hevent => rw [hevent] at hfirst; cases hfirst

lemma run_append {o'' : ExchangeObjects F} {more : List (CertificateEvent F)} (h : CertificateRun sizes o events o')
    (hmore : CertificateRun sizes o' more o'') : CertificateRun sizes o (events ++ more) o'' := by
  induction h with
  | nil => exact hmore
  | cons h hrun ih => exact .cons h (ih hmore)

lemma run_split {first rest : List (CertificateEvent F)} (h : CertificateRun sizes o (first ++ rest) o') :
    ∃ between, CertificateRun sizes o first between ∧ CertificateRun sizes between rest o' := by
  induction first generalizing o with
  | nil => exact ⟨o, .nil o, h⟩
  | cons event first ih =>
    cases h with
    | cons hstep hrun =>
      obtain ⟨between, hfirst, hrest⟩ := ih hrun
      exact ⟨between, .cons hstep hfirst, hrest⟩

lemma run_workspace (h : CertificateRun sizes o events o') (workspace : ℕ) : (o'.workspaces workspace).generation =
      (o.workspaces workspace).generation + (events.filter (evaluatesOn workspace)).length := by
  induction h with
  | nil => rfl
  | cons h hrun ih =>
    rw [ih, (step_workspace h workspace).1, filter_cons, Nat.add_assoc]
    split_ifs
    · rw [length_cons, Nat.add_comm 1]
    · rw [Nat.zero_add]

omit [Field F] [LinearOrder F] in
lemma lastRenewal_cons (event : CertificateEvent F) (events : List (CertificateEvent F)) :
    lastRenewal plan (event :: events) =
      (lastRenewal plan events).or (if renewsPlan plan event then some event else none) := by
  unfold lastRenewal
  rw [filter_cons]
  split_ifs with hevent
  · rw [List.getLast?_cons]
    cases (events.filter (renewsPlan plan)).getLast? <;> rfl
  · rw [or_none]

lemma run_available (h : CertificateRun sizes o events o') (havail : (o'.plans plan).available = true) :
    (lastRenewal plan events = none ∧ o'.plans plan = o.plans plan) ∨
      ∃ revision input, lastRenewal plan events = some (.prepare plan revision input, .prepared .success) ∧
        (o'.plans plan).revision = revision := by
  induction h with
  | nil => exact .inl ⟨rfl, rfl⟩
  | cons h hrun ih =>
    rw [lastRenewal_cons]
    rcases ih havail with ⟨hnone, hsame⟩ | ⟨revision, input, hlast, hrevision⟩
    · rw [hnone, none_or, hsame]
      rw [hsame] at havail
      cases step_plan h plan with
      | kept hevent hplan =>
        left
        rw [hevent]
        exact ⟨rfl, hplan⟩
      | prepared revision input hevent hgeneration hrevision =>
        right
        refine ⟨revision, input, ?_, hrevision⟩
        rw [hevent]
        simp [renewsPlan]
      | closed hevent hgeneration hclosed =>
        rw [hclosed] at havail
        cases havail
    · right
      refine ⟨revision, input, ?_, hrevision⟩
      rw [hlast]
      rfl

lemma ofNat_add_eq_iff {g c : ℕ} (hc : c < 2 ^ 64) : UInt64.ofNat (g + c) = UInt64.ofNat g ↔ c = 0 := by
  constructor
  · intro h
    have hmod := congrArg UInt64.toNat h
    rw [UInt64.toNat_ofNat', UInt64.toNat_ofNat'] at hmod
    omega
  · rintro rfl
    rfl

omit [Field F] [LinearOrder F] in
lemma candidates_eq (h : o.candidates plan = some handle) :
    (o.plans plan).available = true ∧ handle.plan = plan ∧ handle.rows.revision = (o.plans plan).revision ∧
      handle.rows.capturedGeneration = (o.plans plan).generation := by
  unfold ExchangeObjects.candidates OwnerExchangeRoutingPlan.candidates at h
  split_ifs at h with havail
  · obtain rfl := some.inj h
    exact ⟨havail, rfl, rfl, rfl⟩
  · cases h

lemma handle_holds_iff (hhandle : o.candidates plan = some handle) (h : CertificateRun sizes o events o')
    (hfew : (events.filter (renewsPlan plan)).length < 2 ^ 64) (revision : Revision) :
    o'.holds revision handle = true ↔
      (∀ event ∈ events, renewsPlan plan event = false) ∧ revision = handle.rows.revision := by
  obtain ⟨-, hplan, -, hcaptured⟩ := candidates_eq hhandle
  have hnone : (events.filter (renewsPlan plan)).length = 0 ↔ ∀ event ∈ events, renewsPlan plan event = false := by
    rw [length_eq_zero_iff, filter_eq_nil_iff]
    simp only [Bool.not_eq_true]
  rw [ExchangeObjects.holds, Bool.and_eq_true, decide_eq_true_eq, decide_eq_true_eq, hplan, hcaptured,
    run_generation h plan, ofNat_add_eq_iff hfew, hnone, eq_comm (a := revision)]

lemma report_superseded {workspace : ℕ} {report : ExchangeBatchReport F} {op : CertificateOp F}
    {first rest : List (CertificateEvent F)}
    (h : CertificateRun sizes o (first ++ (op, .evaluated report) :: rest) o')
    (hop : evaluatesOn workspace (op, .evaluated report) = true)
    (hfew : (rest.filter (evaluatesOn workspace)).length + 1 < 2 ^ 64) (ownCells : Bool) :
    (o'.workspaces workspace).next.current ownCells report = false := by
  obtain ⟨between, -, hrest⟩ := run_split h
  cases hrest with
  | cons hstep hrun =>
    have hreport := (step_workspace hstep workspace).2 report rfl hop
    rw [ExchangeWorkspace.current, ExchangeWorkspace.next, run_workspace hrun workspace, ← hreport, Nat.add_assoc]
    have hne : UInt64.ofNat report.generation ≠
        UInt64.ofNat (report.generation + ((rest.filter (evaluatesOn workspace)).length + 1)) := by
      intro heq
      have hzero := (ofNat_add_eq_iff hfew).mp heq.symm
      omega
    rw [decide_eq_false hne, Bool.and_false, Bool.false_and]

/-- In every run a handle is taken only while no call has renewed its plan. Otherwise its rows are refused,
and the workspace has no current report. -/
theorem certificates_expire {workspaces : ℕ → ExchangeWorkspace} {before after : List (CertificateEvent F)}
    {taken later : ExchangeObjects F} {plan : ℕ} {handle : RoutedHandle F}
    (hbefore : CertificateRun sizes ⟨fun _ => {}, workspaces⟩ before taken) (hhandle : taken.candidates plan = some handle)
    (hafter : CertificateRun sizes taken after later) (hfew : (after.filter (renewsPlan plan)).length < 2 ^ 64) :
    (∃ revision input, lastRenewal plan before = some (.prepare plan revision input, .prepared .success) ∧
      handle.rows.revision = revision) ∧
    ∀ workspace revision cells atol rtol result final,
      CertificateStep sizes later (.evaluateRouted workspace revision cells (some handle) atol rtol, result) final →
      (((∀ event ∈ after, renewsPlan plan event = false) ∧ revision = handle.rows.revision) →
        result = .evaluated ((later.workspaces workspace).evaluateImpl revision cells (.of handle.rows.data) atol rtol
          false) ∧ later.candidates plan = some handle) ∧
      (¬((∀ event ∈ after, renewsPlan plan event = false) ∧ revision = handle.rows.revision) →
        result = .evaluated (ExchangeWorkspace.fail ((later.workspaces workspace).generation + 1) revision
          (.staleRevision, 0)) ∧
        ∀ first op report rest ownCells, before ++ after = first ++ (op, .evaluated report) :: rest →
          evaluatesOn workspace (op, .evaluated report) = true →
          (rest.filter (evaluatesOn workspace)).length + 1 < 2 ^ 64 →
          (final.workspaces workspace).current ownCells report = false) := by
  obtain ⟨havailable, hplan, hrevision, -⟩ := candidates_eq hhandle
  constructor
  · rcases run_available hbefore havailable with ⟨-, hsame⟩ | ⟨revision, input, hlast, hsame⟩
    · rw [hsame] at havailable
      cases havailable
    · exact ⟨revision, input, hlast, hrevision.trans hsame⟩
  · intro workspace revision cells atol rtol result final hstep
    have hholds := handle_holds_iff hhandle hafter hfew revision
    cases hstep with
    | evaluateRouted =>
      constructor
      · intro hcurrent
        rw [ExchangeObjects.evaluateRouted, if_pos (hholds.mpr hcurrent)]
        refine ⟨rfl, ?_⟩
        rw [← hhandle, ExchangeObjects.candidates, ExchangeObjects.candidates, run_kept hafter hcurrent.1]
      · intro hstale
        rw [ExchangeObjects.evaluateRouted, if_neg (mt hholds.mp hstale)]
        refine ⟨rfl, fun first op report rest ownCells htrace hop hfew => ?_⟩
        have hrun := run_append hbefore hafter
        rw [htrace] at hrun
        dsimp only
        rw [update_self]
        exact report_superseded hrun hop hfew ownCells

end Runs

def soloSizes : ObjectSizes := ⟨400, 4, 136⟩

def soloConfigure : ConfigureInput := ⟨⟨1, 1, 1⟩, ⟨⟨0, 0, 0⟩, ⟨1, 1, 1⟩, ⟨1, 1, 1⟩, ⟨0, 0, 0⟩⟩, 4, 4, 1, 10000, true⟩

lemma solo_lt : 1 < 2 ^ 31 := by decide

def soloComm : RankComm := jobComm solo_lt (0 : Fin 1)

def soloPlan : OwnerExchangeRoutingPlan ℚ := soloConfigure.install soloSizes soloComm 0

variable (o : ExchangeObjects ℚ)

lemma soloAccepted : OwnerConfigureAccepted (n := 1) (by decide) soloSizes fun _ => soloConfigure :=
  ⟨by decide +kernel, by decide +kernel, by decide +kernel, by decide⟩

lemma solo_local {α : Type} {p : Fin 1 → JobProg (Lane ℚ) Unit α} {trace : List JobSignature} {a : Fin 1 → α}
    (h : (mpiJob (by decide : 0 < 1)).Run p trace a) : Prog.Local AnyReply (p 0) (a 0) :=
  @Network.Run.toLocal _ _ _ _ _ _ (fun _ => AnyReply) (fun _ _ => trivial) _ _ _ h 0

lemma soloPlan_configured : Prog.Local AnyReply
    (OwnerExchangeRoutingPlan.configure soloSizes ({} : OwnerExchangeRoutingPlan ℚ) (some soloComm) soloConfigure)
    (some (soloPlan, {})) := by
  obtain ⟨trace, r, hrun, houtcome⟩ :=
    ownerConfigure_run (F := ℚ) (by decide : 0 < 1) (by decide) soloSizes (fun _ => {}) fun _ => soloConfigure
  have hlocal := solo_local hrun
  cases houtcome with
  | installed => exact hlocal
  | failed status h => exact absurd soloAccepted h

lemma solo_routed (destination : ExchangeSegment ℚ → ℕ) (r : ℕ) :
    routed (fun _ : Fin 1 => (Span.of ([] : List (ExchangeSegment ℚ))).values) destination r = [] :=
  flatMap_eq_nil_iff.mpr fun _ _ => rfl

lemma soloPlan_prepared : ∃ done, Prog.Local AnyReply (soloPlan.prepare ⟨3, 1, 1⟩ (.of [])) (some (done, .success)) ∧
    done.candidates = some ⟨[], ⟨3, 1, 1⟩, done.generation⟩ := by
  obtain ⟨cells, grid, hg, hplan⟩ :=
    ownerConfigured_install (F := ℚ) (by decide : 0 < 1) (by decide) soloSizes soloAccepted fun _ => 0
  obtain ⟨trace, r, hrun, houtcome⟩ :=
    ownerPrepare_run (by decide : 0 < 1) (by decide) hg hplan (fun _ => ⟨3, 1, 1⟩) fun _ => .of []
  have hlocal := solo_local hrun
  cases houtcome with
  | succeeded done h hconf hcandidates =>
    refine ⟨done 0, hlocal, ?_⟩
    have hrows : deliveredRows cells grid (fun _ : Fin 1 => (.of [] : Span (ExchangeSegment ℚ))) 0 = [] := by
      rw [deliveredRows, solo_routed]
      exact perm_nil.mp (sortOn_perm _ _)
    rw [hcandidates 0, hrows]
  | failed e h he =>
    refine absurd ⟨fun i => ?_, fun _ _ => rfl, fun i => ?_, fun i => ?_, fun i => ?_⟩ h
    · exact ⟨Nat.zero_le _, fun h => (by cases h), rfl, by decide,
        fun v hv => absurd hv not_mem_nil⟩
    · rw [solo_routed]
      exact Nat.zero_le _
    · rw [solo_routed, auditRows, perm_nil.mp (sortOn_perm _ _)]
      simp [runs, auditLoop, Portable.Status.isOk]
    · rw [solo_routed]
      exact Nat.zero_le _

def soloEvents (plan : ℕ) : List (CertificateEvent ℚ) :=
  [(.configure plan (some soloComm) soloConfigure, .configured {}), (.prepare plan ⟨3, 1, 1⟩ (.of []), .prepared .success)]

lemma solo_ready {plan : ℕ} (hplan : o.plans plan = {}) :
    ∃ done, CertificateRun soloSizes o (soloEvents plan) { o with plans := Function.update o.plans plan done } ∧
      done.candidates = some ⟨[], ⟨3, 1, 1⟩, done.generation⟩ := by
  obtain ⟨done, hprepared, hcandidates⟩ := soloPlan_prepared
  refine ⟨done, .cons (.configure plan (some soloComm) soloConfigure soloPlan {} ?_) ?_, hcandidates⟩
  · rw [hplan]
    exact soloPlan_configured
  · have hstep : CertificateStep soloSizes { o with plans := Function.update o.plans plan soloPlan }
        (.prepare plan ⟨3, 1, 1⟩ (.of []), .prepared .success)
        { o with plans := Function.update (Function.update o.plans plan soloPlan) plan done } := by
      refine .prepare plan ⟨3, 1, 1⟩ (.of []) done .success ?_
      dsimp only
      rw [update_self]
      exact hprepared
    rw [update_idem] at hstep
    exact .cons hstep (.nil _)

lemma run_discards (k : ℕ) :
    ∃ later, CertificateRun soloSizes o (replicate (k + 1) (.discard 0, .discarded)) later ∧
      (later.plans 0).generation = (o.plans 0).generation + (k + 1) ∧ (later.plans 0).available = false ∧
      later.workspaces = o.workspaces := by
  induction k generalizing o with
  | zero => exact ⟨_, .cons (.discard 0) (.nil _), rfl, rfl, rfl⟩
  | succ k ih =>
    obtain ⟨later, hrun, hgeneration, hclosed, hworkspaces⟩ :=
      ih { o with plans := Function.update o.plans 0 (o.plans 0).discard }
    refine ⟨later, ?_, ?_, hclosed, hworkspaces⟩
    · rw [replicate_succ]
      exact .cons (.discard 0) hrun
    · rw [hgeneration]
      have hfirst : (Function.update o.plans 0 (o.plans 0).discard 0).generation = (o.plans 0).generation + 1 := by
        rw [update_self]
        rfl
      rw [hfirst]
      omega

def soloWorld : ExchangeObjects ℚ := ⟨fun _ => {}, fun _ => ⟨1, 1, 1, 0⟩⟩

lemma solo_evaluates {o : ExchangeObjects ℚ} {handle : RoutedHandle ℚ} (hworks : o.workspaces 0 = ⟨1, 1, 1, 0⟩)
    (hdata : handle.rows.data = []) (hholds : o.holds ⟨3, 1, 1⟩ handle = true) :
    (o.evaluateRouted (o.workspaces 0) ⟨3, 1, 1⟩ (.of []) (some handle) 0 0).available = true := by
  rw [ExchangeObjects.evaluateRouted, if_pos hholds, hdata, hworks]
  decide +kernel

lemma solo_candidates (plan : ℕ) {done : OwnerExchangeRoutingPlan ℚ}
    (hcandidates : done.candidates = some ⟨[], ⟨3, 1, 1⟩, done.generation⟩) :
    ({ o with plans := Function.update o.plans plan done } : ExchangeObjects ℚ).candidates plan =
      some ⟨plan, [], ⟨3, 1, 1⟩, done.generation⟩ := by
  rw [ExchangeObjects.candidates]
  dsimp only
  rw [update_self, hcandidates]
  rfl

/-- One `discard` later the rows are refused. -/
theorem certificates_expire_solo :
    ∃ before taken handle later, CertificateRun soloSizes soloWorld before taken ∧
      taken.candidates 0 = some handle ∧ CertificateRun soloSizes taken [(.discard 0, .discarded)] later ∧
      ∀ result final, CertificateStep soloSizes later
        (.evaluateRouted 0 ⟨3, 1, 1⟩ (.of []) (some handle) 0 0, result) final →
        result = .evaluated (ExchangeWorkspace.fail ((later.workspaces 0).generation + 1) ⟨3, 1, 1⟩
          (.staleRevision, 0)) := by
  obtain ⟨done, hbefore, hcandidates⟩ := solo_ready soloWorld (rfl : soloWorld.plans 0 = {})
  have hhandle := solo_candidates soloWorld 0 hcandidates
  obtain ⟨later, hafter, -⟩ := run_discards { soloWorld with plans := Function.update soloWorld.plans 0 done } 0
  refine ⟨_, _, _, _, hbefore, hhandle, hafter, fun result final hstep => ?_⟩
  exact (((certificates_expire hbefore hhandle hafter (by decide)).2 0 _ _ _ _ _ _ hstep).2 fun h =>
    nomatch h.1 _ mem_cons_self).1

/-- A handle from another plan is taken as long as that plan has not been renewed, and every handle is taken again
when its plan has been renewed as often as there are generations. -/
theorem certificates_outlive :
    (∃ events o handle, CertificateRun soloSizes soloWorld events o ∧ (o.plans 0).available = true ∧
      o.candidates 1 = some handle ∧
      (o.evaluateRouted (o.workspaces 0) ⟨3, 1, 1⟩ (.of []) (some handle) 0 0).available = true) ∧
    ∃ before taken handle after later, CertificateRun soloSizes soloWorld before taken ∧
      taken.candidates 0 = some handle ∧ CertificateRun soloSizes taken after later ∧
      (later.plans 0).available = false ∧
      (later.evaluateRouted (later.workspaces 0) ⟨3, 1, 1⟩ (.of []) (some handle) 0 0).available = true := by
  obtain ⟨done, hfirst, hcandidates⟩ := solo_ready soloWorld (rfl : soloWorld.plans 0 = {})
  constructor
  · obtain ⟨other, hsecond, hother⟩ :=
      solo_ready { soloWorld with plans := Function.update soloWorld.plans 0 done }
        (update_of_ne (by decide : (1 : ℕ) ≠ 0) done _)
    refine ⟨_, _, ⟨1, [], ⟨3, 1, 1⟩, other.generation⟩, run_append hfirst hsecond, ?_, solo_candidates _ 1 hother, ?_⟩
    · dsimp only
      rw [update_of_ne (by decide), update_self]
      exact (candidates_eq (solo_candidates soloWorld 0 hcandidates)).1
    · apply solo_evaluates rfl rfl
      exact (handle_holds_iff (solo_candidates _ 1 hother) (@CertificateRun.nil _ _ _ soloSizes _) (by decide) _).mpr
        ⟨fun event habsurd => absurd habsurd not_mem_nil, rfl⟩
  · obtain ⟨later, hafter, hgeneration, hclosed, hworkspaces⟩ :=
      run_discards { soloWorld with plans := Function.update soloWorld.plans 0 done } (2 ^ 64 - 1)
    refine ⟨_, _, ⟨0, [], ⟨3, 1, 1⟩, done.generation⟩, _, later, hfirst, solo_candidates _ 0 hcandidates, hafter, hclosed, ?_⟩
    apply solo_evaluates (by rw [hworkspaces]; rfl) rfl
    have hwrapped : UInt64.ofNat (later.plans 0).generation = UInt64.ofNat done.generation := by
      dsimp only at hgeneration
      rw [update_self] at hgeneration
      rw [← UInt64.toNat_inj, UInt64.toNat_ofNat', UInt64.toNat_ofNat', hgeneration]
      exact Nat.add_mod_right _ _
    rw [ExchangeObjects.holds, hwrapped]
    simp

end HundunFlow.Proofs
