import HundunFlow.HaloExchange
import HundunFlow.Proofs.HaloContract

/-!
# A `begin` while an exchange is active

A `begin` that finds an exchange active is rejected and leaves the exchange as it is, up to the
ticket it is handed: the exchange can be finished if and only if that was never its own ticket.
-/

namespace HundunFlow.Proofs

open Lib HaloEngine

variable {D : Type} {n : ℕ}

section Visits

variable {accept : FieldView → FieldSlot → Bool} {record : FieldView → FieldSlot → FieldSlot} {visit : ℕ}

def slotOf (slots : List FieldSlot) (view : FieldView) : Option FieldSlot :=
  slots.find? fun slot => slot.spec.field.toNat = view.field

lemma slotOf_map {f : FieldSlot → FieldSlot} (hf : ∀ slot, (f slot).spec = slot.spec) (slots : List FieldSlot)
    (view : FieldView) : slotOf (slots.map f) view = (slotOf slots view).map f := by
  rw [slotOf, List.find?_map]
  congr 1
  simp only [slotOf, Function.comp_def, hf]

lemma slotOf_field {slots : List FieldSlot} {view : FieldView} {slot : FieldSlot} (h : slotOf slots view = some slot) :
    slot.spec.field.toNat = view.field := by
  simpa using List.find?_some h

def stamp (record : FieldView → FieldSlot → FieldSlot) (visit : ℕ) (view : FieldView) (slot : FieldSlot) : FieldSlot :=
  if slot.spec.field.toNat = view.field then { record view slot with seenGeneration := visit } else slot

variable (hrecord : ∀ view slot, (record view slot).spec = slot.spec)

include hrecord

lemma stamp_spec (view : FieldView) (slot : FieldSlot) : (stamp record visit view slot).spec = slot.spec := by
  unfold stamp
  split_ifs
  · exact hrecord view slot
  · rfl

lemma slotOf_stamp_of_ne {view other : FieldView} (h : other.field ≠ view.field) (slots : List FieldSlot) :
    slotOf (slots.map (stamp record visit view)) other = slotOf slots other := by
  rw [slotOf_map (stamp_spec hrecord view)]
  cases hslot : slotOf slots other with
  | none => rfl
  | some slot =>
    have hfield := slotOf_field hslot
    rw [Option.map_some, stamp, if_neg (by rw [hfield]; exact h)]

omit hrecord in
lemma visitViews_cons (view : FieldView) (rest : List FieldView) (slots : List FieldSlot) :
    visitViews accept record visit (view :: rest) slots = match slotOf slots view with
      | none => (false, slots)
      | some slot => if (decide (slot.seenGeneration = visit) || !accept view slot) = true then (false, slots)
        else visitViews accept record visit rest (slots.map (stamp record visit view)) := rfl

lemma visitViews_complete (views : List FieldView) (slots : List FieldSlot) :
    (visitViews accept record visit views slots).1 = true ↔
      views.Pairwise (fun a b => a.field ≠ b.field) ∧ ∀ view ∈ views, ∃ slot, slotOf slots view = some slot ∧
        slot.seenGeneration ≠ visit ∧ accept view slot = true := by
  induction views generalizing slots with
  | nil => simp [visitViews]
  | cons view rest ih =>
    rw [visitViews_cons, List.pairwise_cons, List.forall_mem_cons]
    cases hslot : slotOf slots view with
    | none => simp
    | some slot =>
      simp only [Option.some.injEq, exists_eq_left']
      split_ifs with hbad
      · simp only [Bool.or_eq_true, decide_eq_true_eq, Bool.not_eq_true'] at hbad
        constructor
        · intro h
          exact h.elim
        · rintro ⟨-, ⟨hseen, haccept⟩, -⟩
          rcases hbad with hbad | hbad
          · exact absurd hbad hseen
          · rw [haccept] at hbad
            exact Bool.noConfusion hbad
      · simp only [Bool.or_eq_true, decide_eq_true_eq, Bool.not_eq_true', not_or, Bool.not_eq_false] at hbad
        rw [ih]
        constructor
        · rintro ⟨hpair, hrest⟩
          have hne : ∀ other ∈ rest, view.field ≠ other.field := by
            intro other hother heq
            obtain ⟨found, hfound, hseen, -⟩ := hrest other hother
            rw [slotOf_map (stamp_spec hrecord view)] at hfound
            have hsame : slotOf slots other = slotOf slots view := by
              rw [slotOf, slotOf, heq]
            rw [hsame, hslot, Option.map_some, stamp, if_pos (slotOf_field hslot), Option.some.injEq] at hfound
            rw [← hfound] at hseen
            exact hseen rfl
          refine ⟨⟨hne, hpair⟩, hbad, fun other hother => ?_⟩
          have hfound := hrest other hother
          rwa [slotOf_stamp_of_ne hrecord (hne other hother).symm] at hfound
        · rintro ⟨⟨hne, hpair⟩, -, hrest⟩
          refine ⟨hpair, fun other hother => ?_⟩
          rw [slotOf_stamp_of_ne hrecord (hne other hother).symm]
          exact hrest other hother

lemma visitViews_other {views : List FieldView} {other : FieldView} (h : ∀ view ∈ views, other.field ≠ view.field)
    (slots : List FieldSlot) : slotOf (visitViews accept record visit views slots).2 other = slotOf slots other := by
  induction views generalizing slots with
  | nil => rfl
  | cons view rest ih =>
    obtain ⟨hview, hrest⟩ := List.forall_mem_cons.mp h
    rw [visitViews_cons]
    cases hslot : slotOf slots view with
    | none => rfl
    | some slot =>
      simp only
      split_ifs
      · rfl
      · rw [ih hrest, slotOf_stamp_of_ne hrecord hview]

lemma visitViews_slots {views : List FieldView} {slots : List FieldSlot}
    (h : (visitViews accept record visit views slots).1 = true) {view : FieldView} (hview : view ∈ views) :
    ∃ slot, slotOf slots view = some slot ∧ slotOf (visitViews accept record visit views slots).2 view =
      some { record view slot with seenGeneration := visit } := by
  induction views generalizing slots with
  | nil => simp at hview
  | cons head rest ih =>
    have hcompl := (visitViews_complete hrecord _ _).mp h
    obtain ⟨hne, -⟩ := List.pairwise_cons.mp hcompl.1
    obtain ⟨slot, hslot, hseen, haccept⟩ := hcompl.2 head (List.mem_cons_self ..)
    have hstep : visitViews accept record visit (head :: rest) slots =
        visitViews accept record visit rest (slots.map (stamp record visit head)) := by
      rw [visitViews_cons, hslot]
      simp [hseen, haccept]
    rw [hstep] at h ⊢
    rcases List.mem_cons.mp hview with rfl | hrest
    · refine ⟨slot, hslot, ?_⟩
      rw [visitViews_other hrecord hne, slotOf_map (stamp_spec hrecord view), hslot, Option.map_some, stamp,
        if_pos (slotOf_field hslot)]
    · obtain ⟨found, hfound, hresult⟩ := ih h hrest
      rw [slotOf_stamp_of_ne hrecord (hne view hrest).symm] at hfound
      exact ⟨found, hfound, hresult⟩

omit hrecord in
lemma visitViews_length (views : List FieldView) (slots : List FieldSlot) :
    (visitViews accept record visit views slots).2.length = slots.length := by
  induction views generalizing slots with
  | nil => rfl
  | cons view rest ih =>
    rw [visitViews_cons]
    cases slotOf slots view with
    | none => rfl
    | some slot =>
      simp only
      split_ifs
      · rfl
      · rw [ih, List.length_map]

end Visits

section Views

variable {views : Span FieldView} {impl : HaloImplData D}

lemma nextVisit_slot (impl : HaloImplData D) (view : FieldView) {slot : FieldSlot}
    (h : slotOf impl.fields view = some slot) (hseen : slot.seenGeneration = impl.fieldVisitGeneration) :
    ∃ next, slotOf (nextVisit impl).fields view = some next ∧ next.spec = slot.spec ∧
      next.beginView = slot.beginView ∧ next.seenGeneration ≠ (nextVisit impl).fieldVisitGeneration := by
  unfold nextVisit
  split_ifs with hwrap
  · refine ⟨{ slot with seenGeneration := 0 }, ?_, rfl, rfl, Nat.zero_ne_one⟩
    have hspec : ∀ slot : FieldSlot, ({ slot with seenGeneration := 0 } : FieldSlot).spec = slot.spec := fun _ => rfl
    exact (slotOf_map hspec impl.fields view).trans (congrArg _ h)
  · exact ⟨slot, h, rfl, rfl, by simp only; omega⟩

lemma nextVisit_length (impl : HaloImplData D) : (nextVisit impl).fields.length = impl.fields.length := by
  unfold nextVisit
  split_ifs
  · exact List.length_map _
  · rfl

/-- The fields an exchange was opened with: each view stands in its slot, and was seen last. -/
structure OpenedWith (views : Span FieldView) (impl : HaloImplData D) : Prop where
  readable : views.isNull = false
  size : views.size = impl.fields.length
  distinct : views.values.Pairwise fun a b => a.field ≠ b.field
  bound : ∀ view ∈ views.values, ∃ slot, slotOf impl.fields view = some slot ∧ slot.beginView = view ∧
    slot.seenGeneration = impl.fieldVisitGeneration ∧ validViewShape view slot impl.patch = true

lemma validViewShape_congr {view : FieldView} {slot slot' : FieldSlot} {patch : MeshPatch}
    (h : slot'.spec = slot.spec) : validViewShape view slot' patch = validViewShape view slot patch := by
  unfold validViewShape
  rw [h]

lemma sameSource_self (view : FieldView) : sameSource view view = true := by
  simp [sameSource]

lemma bindFinishViews_isOk (h : OpenedWith views impl) : (bindFinishViews views impl).1.isOk = true := by
  have hsize : ¬((views.isNull || decide (views.size ≠ impl.fields.length)) = true) := by
    simp [h.readable, h.size]
  unfold bindFinishViews bindViews
  rw [if_neg hsize]
  have hcompl : (visitViews (fun view slot => validViewShape view slot impl.patch && sameSource view slot.beginView)
      (fun view slot => { slot with finishView := view }) (nextVisit impl).fieldVisitGeneration views.values
      (nextVisit impl).fields).1 = true := by
    have hrecord : ∀ (view : FieldView) (slot : FieldSlot),
        ({ slot with finishView := view } : FieldSlot).spec = slot.spec := fun _ _ => rfl
    refine (visitViews_complete hrecord _ _).mpr ⟨h.distinct, fun view hview => ?_⟩
    obtain ⟨slot, hslot, hbegin, hseen, hshape⟩ := h.bound view hview
    obtain ⟨next, hnext, hspec, hview', hunseen⟩ := nextVisit_slot impl view hslot hseen
    refine ⟨next, hnext, hunseen, ?_⟩
    rw [validViewShape_congr hspec, hshape, hview', hbegin, sameSource_self]
    rfl
  simp only [hcompl, if_true]
  rfl

structure Candidates (views : Span FieldView) (impl : HaloImplData D) : Prop where
  readable : views.isNull = false
  size : views.size = impl.fields.length
  distinct : views.values.Pairwise fun a b => a.field ≠ b.field
  bound : ∀ view ∈ views.values, ∃ slot, slotOf impl.fields view = some slot ∧ slot.candidateBeginView = view ∧
    slot.seenGeneration = impl.fieldVisitGeneration ∧ validViewShape view slot impl.patch = true

lemma validateBeginViews_candidates (h : (validateBeginViews views impl).1.isOk = true) :
    Candidates views (validateBeginViews views impl).2 := by
  unfold validateBeginViews bindViews at h ⊢
  by_cases hsize : (views.isNull || decide (views.size ≠ impl.fields.length)) = true
  · rw [if_pos hsize] at h
    exact nomatch h
  · rw [if_neg hsize] at h ⊢
    simp only at h ⊢
    simp only [Bool.or_eq_true, not_or, Bool.not_eq_true, decide_eq_true_eq, not_not] at hsize
    by_cases hcompl : (visitViews (fun view slot => validViewShape view slot impl.patch)
        (fun view slot => { slot with candidateBeginView := view }) (nextVisit impl).fieldVisitGeneration views.values
        (nextVisit impl).fields).1 = true
    · have hrecord : ∀ (view : FieldView) (slot : FieldSlot),
          ({ slot with candidateBeginView := view } : FieldSlot).spec = slot.spec := fun _ _ => rfl
      have hspec := (visitViews_complete hrecord _ _).mp hcompl
      refine ⟨hsize.1, ?_, hspec.1, fun view hview => ?_⟩
      · rw [hsize.2]
        simp only [visitViews_length, nextVisit_length]
      · obtain ⟨slot, hslot, hresult⟩ := visitViews_slots hrecord hcompl hview
        obtain ⟨found, hfound, -, hshape⟩ := hspec.2 view hview
        rw [hslot] at hfound
        obtain rfl := Option.some.inj hfound
        have hpatch : (nextVisit impl).patch = impl.patch := by
          unfold nextVisit
          split_ifs <;> rfl
        refine ⟨_, hresult, rfl, rfl, ?_⟩
        simp only [hpatch]
        exact (validViewShape_congr rfl).trans hshape
    · rw [if_neg hcompl] at h
      exact nomatch h

end Views

section Opening

variable {r : HaloRank D} {call : BeginCall}

lemma bindViews_poisoned (accept : FieldView → FieldSlot → Bool) (record : FieldView → FieldSlot → FieldSlot)
    (views : Span FieldView) (impl : HaloImplData D) : (bindViews accept record views impl).2.poisoned = impl.poisoned := by
  unfold bindViews nextVisit
  split_ifs <;> rfl

/-- The engine with which `begin` starts. -/
def entryEngine (r : HaloRank D) : HaloImplData D :=
  if r.engine.exchangeActive then r.engine else invalidateCertificates r.engine

/-- The status with which `begin` starts. -/
def entryStatus (r : HaloRank D) (call : BeginCall) : Status :=
  if (entryEngine r).exchangeActive || (r.tickets call.ticket).active || (entryEngine r).preparedEpochActive then
    ⟨.invalidPlan, kHaloState⟩
  else call.prerequisite

def readyEngine (r : HaloRank D) : HaloImplData D :=
  if (entryEngine r).poisoned then recreateRequests (entryEngine r) else entryEngine r

lemma beginLocal_eq (r : HaloRank D) (call : BeginCall) : beginLocal r call =
    if (!(entryStatus r call).isOk) = true then (entryStatus r call, entryEngine r)
    else if (!(validateBeginViews call.fields (readyEngine r)).1.isOk) = true then
      validateBeginViews call.fields (readyEngine r)
    else ({}, packSections r.memory (validateBeginViews call.fields (readyEngine r)).2) := rfl

lemma readyEngine_poisoned (r : HaloRank D) : (readyEngine r).poisoned = false := by
  unfold readyEngine
  split_ifs with hpoison
  · rfl
  · simpa using hpoison

lemma beginLocal_isOk (h : (beginLocal r call).1.isOk = true) :
    Candidates call.fields (beginLocal r call).2 ∧ (beginLocal r call).2.poisoned = false := by
  rw [beginLocal_eq] at h ⊢
  by_cases hentry : (entryStatus r call).isOk = true
  · have hentry' : ¬(!(entryStatus r call).isOk) = true := by simp [hentry]
    rw [if_neg hentry'] at h ⊢
    by_cases hviews : (validateBeginViews call.fields (readyEngine r)).1.isOk = true
    · have hviews' : ¬(!(validateBeginViews call.fields (readyEngine r)).1.isOk) = true := by simp [hviews]
      rw [if_neg hviews']
      obtain ⟨hreadable, hsize, hdist, hbound⟩ := validateBeginViews_candidates hviews
      exact ⟨⟨hreadable, hsize, hdist, hbound⟩, (bindViews_poisoned _ _ _ _).trans (readyEngine_poisoned r)⟩
    · rw [if_pos (by rw [Bool.eq_false_iff.mpr hviews]; rfl)] at h
      exact absurd h hviews
  · rw [if_pos (by rw [Bool.eq_false_iff.mpr hentry]; rfl)] at h
    exact absurd h hentry

structure Finishable (r : HaloRank D) (call : FinishCall) : Prop where
  active : r.engine.exchangeActive = true
  sound : r.engine.poisoned = false
  ticketActive : (r.tickets call.ticket).active = true
  identity : (r.tickets call.ticket).engineIdentity = r.engine.identity
  generation : (r.tickets call.ticket).generation = r.engine.generation
  views : OpenedWith call.fields r.engine

lemma opened_finishable {impl : HaloImplData D} (hcandidates : Candidates call.fields impl)
    (hpoison : impl.poisoned = false) : Finishable (opened r impl call) ⟨call.ticket, call.fields⟩ := by
  have hticket : (opened r impl call).tickets call.ticket =
      ⟨impl.identity, if impl.generation = maxU64 then 1 else impl.generation + 1, call.stage, true⟩ :=
    Function.update_self ..
  refine ⟨rfl, hpoison, ?_, ?_, ?_, hcandidates.readable, ?_, hcandidates.distinct, fun view hview => ?_⟩
  · rw [hticket]
  · rw [hticket]
    rfl
  · rw [hticket]
    rfl
  · exact hcandidates.size.trans (List.length_map _).symm
  · obtain ⟨slot, hslot, hcand, hseen, hshape⟩ := hcandidates.bound view hview
    have hpublish : ∀ slot : FieldSlot, ({ slot with
        beginView := slot.candidateBeginView, pendingRevision := slot.candidateBeginView.revision } : FieldSlot).spec =
          slot.spec := fun _ => rfl
    exact ⟨_, (slotOf_map hpublish impl.fields view).trans (congrArg _ hslot), hcand, hseen,
      (validViewShape_congr rfl).trans hshape⟩

lemma finishLocal_isOk {finish : FinishCall} (h : Finishable r finish) : (finishLocal r finish).1.isOk = true := by
  unfold finishLocal
  simp only [h.active, h.sound, h.ticketActive, h.identity, h.generation, Bool.not_true, ne_eq,
    not_true_eq_false, decide_false, Bool.or_self, Bool.false_eq_true, if_false]
  exact bindFinishViews_isOk h.views

end Opening

section Exchange

variable {s : Fin n → HaloRank D} {call : Fin n → BeginCall}

lemma beginExchange_isOk (h : (beginExchange s call).2.isOk = true) :
    (∀ i, (beginLocal (s i) (call i)).1.isOk = true) ∧
      (beginExchange s call).1 = fun i => opened (s i) (beginLocal (s i) (call i)).2 (call i) := by
  unfold beginExchange at h ⊢
  cases hcons : haloConsensus fun i => (beginLocal (s i) (call i)).1 with
  | some r =>
    simp only [hcons] at h
    rw [(haloConsensus_some hcons).2] at h
    exact nomatch h
  | none => exact ⟨haloConsensus_eq_none.mp hcons, rfl⟩

def ownFinishCall (call : Fin n → BeginCall) (i : Fin n) : FinishCall := ⟨(call i).ticket, (call i).fields⟩

lemma begin_finishable (h : (beginExchange s call).2.isOk = true) (i : Fin n) :
    Finishable ((beginExchange s call).1 i) (ownFinishCall call i) := by
  obtain ⟨hlocal, hstate⟩ := beginExchange_isOk h
  obtain ⟨hcandidates, hpoison⟩ := beginLocal_isOk (hlocal i)
  rw [hstate]
  exact opened_finishable hcandidates hpoison

lemma finish_isOk {finish : Fin n → FinishCall} (h : ∀ i, (finishLocal (s i) (finish i)).1.isOk = true) :
    (finishExchange s finish).2.isOk = true := by
  unfold finishExchange
  simp only [haloConsensus_eq_none.mpr h]
  rfl

lemma finish_fails {finish : Fin n → FinishCall} {i : Fin n} (h : (finishLocal (s i) (finish i)).1.isOk = false) :
    (finishExchange s finish).2.isOk = false := by
  unfold finishExchange
  cases hcons : haloConsensus fun i => (finishLocal (s i) (finish i)).1 with
  | some r => exact (haloConsensus_some hcons).2
  | none =>
    rw [haloConsensus_eq_none.mp hcons i] at h
    exact nomatch h.symm

end Exchange

section Reentry

variable {s : Fin n → HaloRank D}

def marked (s : Fin n → HaloRank D) (rank : Fin n → ℤ) (tickets : Fin n → ℕ → HaloTicket) (i : Fin n) : HaloRank D :=
  ⟨{ (s i).engine with lowestFailingRank := rank i }, (s i).memory, tickets i⟩

lemma beginExchange_active (hn : 0 < n) (hactive : ∀ i, (s i).engine.exchangeActive = true)
    (call : Fin n → BeginCall) : beginExchange s call =
      (marked s (fun _ => 0) fun i => Function.update (s i).tickets (call i).ticket
        { (s i).tickets (call i).ticket with active := false }, ⟨.invalidPlan, kHaloState⟩) := by
  have hlocal : ∀ i, beginLocal (s i) (call i) = (⟨.invalidPlan, kHaloState⟩, (s i).engine) := by
    intro i
    unfold beginLocal
    simp only [hactive i, if_true, Bool.true_or]
    rfl
  have hcons : haloConsensus (fun _ : Fin n => (⟨.invalidPlan, kHaloState⟩ : Status)) =
      some (⟨.invalidPlan, kHaloState⟩, ⟨0, hn⟩) := by
    obtain ⟨m, rfl⟩ : ∃ m, n = m + 1 := ⟨n - 1, by omega⟩
    rw [haloConsensus, List.finRange_succ, List.findSome?_cons]
    rfl
  unfold beginExchange
  simp only [hlocal, hcons]
  rfl

/-- One `begin` after the other, with their statuses. -/
def beginAll (s : Fin n → HaloRank D) : List (Fin n → BeginCall) → (Fin n → HaloRank D) × List Status
  | [] => (s, [])
  | call :: rest =>
    let (opened, status) := beginExchange s call
    let (last, statuses) := beginAll opened rest
    (last, status :: statuses)

/-- Tickets behind rejected calls: those that were handed in are retired, and no other is touched. -/
structure Retired (s : Fin n → HaloRank D) (more : List (Fin n → BeginCall)) (tickets : Fin n → ℕ → HaloTicket) :
    Prop where
  used : ∀ i, ∀ call ∈ more, (tickets i (call i).ticket).active = false
  unused : ∀ i t, (∀ call ∈ more, (call i).ticket ≠ t) → tickets i t = (s i).tickets t
  kept : ∀ i t, ((s i).tickets t).active = false → (tickets i t).active = false

lemma beginAll_active (hn : 0 < n) (hactive : ∀ i, (s i).engine.exchangeActive = true)
    (more : List (Fin n → BeginCall)) : (∀ status ∈ (beginAll s more).2, status.isOk = false) ∧
      ∃ rank tickets, (beginAll s more).1 = marked s rank tickets ∧ Retired s more tickets := by
  induction more generalizing s with
  | nil => exact ⟨by simp [beginAll], _, _, rfl, by simp, fun _ _ _ => rfl, fun _ _ h => h⟩
  | cons call rest ih =>
    have hstep := beginExchange_active hn hactive call
    set next := marked s (fun _ => 0) fun i => Function.update (s i).tickets (call i).ticket
      { (s i).tickets (call i).ticket with active := false } with hnext
    obtain ⟨hrej, rank, tickets, hstate, hretired⟩ := ih (s := next) fun i => hactive i
    have hall : beginAll s (call :: rest) = ((beginAll next rest).1,
        ⟨.invalidPlan, kHaloState⟩ :: (beginAll next rest).2) := by
      rw [beginAll, hstep]
    rw [hall]
    have hself : ∀ i, (next i).tickets (call i).ticket = { (s i).tickets (call i).ticket with active := false } :=
      fun i => Function.update_self _ _ _
    have hother : ∀ i t, t ≠ (call i).ticket → (next i).tickets t = (s i).tickets t :=
      fun i t ht => Function.update_of_ne ht _ _
    refine ⟨List.forall_mem_cons.mpr ⟨rfl, hrej⟩, rank, tickets, hstate.trans rfl, ?_, ?_, ?_⟩
    · intro i
      refine List.forall_mem_cons.mpr ⟨hretired.kept i _ ?_, hretired.used i⟩
      rw [hself]
    · intro i t ht
      obtain ⟨hcall, hrest⟩ := List.forall_mem_cons.mp ht
      rw [hretired.unused i t hrest, hother i t hcall.symm]
    · intro i t ht
      apply hretired.kept i t
      by_cases heq : t = (call i).ticket
      · rw [heq, hself]
      · rwa [hother i t heq]

lemma finishLocal_marked {rank : Fin n → ℤ} {tickets : Fin n → ℕ → HaloTicket} {i : Fin n} {finish : FinishCall}
    (hticket : tickets i finish.ticket = (s i).tickets finish.ticket) :
    finishLocal (marked s rank tickets i) finish = ((finishLocal (s i) finish).1,
      { (finishLocal (s i) finish).2 with lowestFailingRank := rank i }) := by
  unfold finishLocal marked
  simp only [hticket]
  split_ifs
  · rfl
  · unfold bindFinishViews bindViews nextVisit
    split_ifs <;> rfl

lemma waitAll_marked (engines : Fin n → HaloImplData D) (rank : Fin n → ℤ) (i : Fin n) :
    waitAll (fun i => { engines i with lowestFailingRank := rank i }) i =
      { waitAll engines i with lowestFailingRank := rank i } := by
  unfold waitAll
  split_ifs <;> rfl

/-- A rank behind a successful `finish`, from its engine with complete requests. -/
def finishedRank (r : HaloRank D) (waited : HaloImplData D) (finish : FinishCall) : HaloRank D :=
  let impl := copyLocalPeers waited
  let certified := { impl with
    fields := impl.fields.map fun slot => { slot with ghostRevision := slot.pendingRevision }
    lowestFailingRank := -1
    exchangeActive := false
    requestsActive := false }
  { r with memory := unpackSections impl r.memory, engine := certified }.setTicket finish.ticket {}

lemma finishExchange_eq {finish : Fin n → FinishCall} (h : ∀ i, (finishLocal (s i) (finish i)).1.isOk = true) :
    (finishExchange s finish).1 = fun i =>
      finishedRank (s i) (waitAll (fun i => (finishLocal (s i) (finish i)).2) i) (finish i) := by
  have hcons := haloConsensus_eq_none.mpr h
  unfold finishExchange
  simp only [hcons]
  rfl

/-- A finish that does not notice what happened since the exchange was opened. -/
structure AsIfNotMade (s s' : Fin n → HaloRank D) (finish : Fin n → FinishCall) : Prop where
  finishes : (finishExchange s' finish).2.isOk = true
  ghosts : ∀ i, ((finishExchange s' finish).1 i).memory = ((finishExchange s finish).1 i).memory
  certificates : ∀ i, ((finishExchange s' finish).1 i).engine = ((finishExchange s finish).1 i).engine

lemma finish_marked {rank : Fin n → ℤ} {tickets : Fin n → ℕ → HaloTicket} {finish : Fin n → FinishCall}
    (hlocal : ∀ i, (finishLocal (s i) (finish i)).1.isOk = true)
    (htickets : ∀ i, tickets i (finish i).ticket = (s i).tickets (finish i).ticket) :
    AsIfNotMade s (marked s rank tickets) finish := by
  have hmarked : ∀ i, finishLocal (marked s rank tickets i) (finish i) = ((finishLocal (s i) (finish i)).1,
      { (finishLocal (s i) (finish i)).2 with lowestFailingRank := rank i }) :=
    fun i => finishLocal_marked (htickets i)
  have hlocal' : ∀ i, (finishLocal (marked s rank tickets i) (finish i)).1.isOk = true := by
    intro i
    rw [hmarked i]
    exact hlocal i
  have hwait : ∀ i, waitAll (fun i => (finishLocal (marked s rank tickets i) (finish i)).2) i =
      { waitAll (fun i => (finishLocal (s i) (finish i)).2) i with lowestFailingRank := rank i } := by
    intro i
    rw [← waitAll_marked]
    congr 1
    funext j
    rw [hmarked j]
  refine ⟨finish_isOk hlocal', fun i => ?_, fun i => ?_⟩
  all_goals
    rw [finishExchange_eq hlocal, finishExchange_eq hlocal']
    beta_reduce
    rw [hwait]
    rfl

end Reentry

/-- After an exchange was opened, every further `begin` is rejected; the exchange is finished as if
they had not been made if and only if none of them was handed the ticket of the exchange. -/
theorem rejected_begin_spares_exchange (hn : 0 < n) {s : Fin n → HaloRank D} {call : Fin n → BeginCall}
    (h : (beginExchange s call).2.isOk = true) (more : List (Fin n → BeginCall)) :
    (∀ status ∈ (beginAll (beginExchange s call).1 more).2, status.isOk = false) ∧
      (AsIfNotMade (beginExchange s call).1 (beginAll (beginExchange s call).1 more).1 (ownFinishCall call) ↔
        ∀ further ∈ more, ∀ i, (further i).ticket ≠ (call i).ticket) := by
  have hfinishable := begin_finishable h
  obtain ⟨hrejected, rank, tickets, hstate, hretired⟩ := beginAll_active hn (fun i => (hfinishable i).active) more
  refine ⟨hrejected, ?_⟩
  rw [hstate]
  constructor
  · intro hsame further hfurther i heq
    have hinactive := hretired.used i further hfurther
    rw [heq] at hinactive
    have hlocal : (finishLocal (marked (beginExchange s call).1 rank tickets i) (ownFinishCall call i)).1.isOk = false := by
      unfold finishLocal marked
      simp only [ownFinishCall, hinactive, Bool.not_false, Bool.or_true, Bool.true_or, if_true]
      rfl
    have hfails := finish_fails (s := marked (beginExchange s call).1 rank tickets) hlocal
    rw [hsame.finishes] at hfails
    exact nomatch hfails.symm
  · intro hother
    exact finish_marked (fun i => finishLocal_isOk (hfinishable i)) fun i =>
      hretired.unused i _ fun further hfurther => hother further hfurther i

def soleView : FieldView :=
  ⟨some ⟨1, 0, 100⟩, ⟨4, 4, 4⟩, ⟨1, 1, 1⟩, 1, 8, 48, 288, 0, 1, 1, 1, 1⟩

def soleRank (_ : Fin 1) : HaloRank ℤ where
  engine := {
    patch := ⟨⟨0, 0, 0⟩, ⟨4, 4, 4⟩, ⟨1, 1, 1⟩, ⟨0, 0, 0⟩⟩
    topology := {}
    fields := [{ spec := ⟨1, 1, 1⟩ }]
    peers := []
    messages := 0
    sendStorage := fun _ => 0
    receiveStorage := fun _ => 0
    identity := 1 }
  memory _ := 0
  tickets _ := {}

def soleCall (stage : UInt16) (ticket : ℕ) (_ : Fin 1) : BeginCall := ⟨stage, .of [soleView], {}, ticket⟩

lemma sole_opens : (beginExchange soleRank (soleCall 61 0)).2.isOk = true := by decide +kernel

/-- A second `begin` with the same ticket object leaves an exchange that cannot be finished. -/
theorem reentry_with_own_ticket : (beginExchange soleRank (soleCall 61 0)).2.isOk = true ∧
    ¬AsIfNotMade (beginExchange soleRank (soleCall 61 0)).1
      (beginExchange (beginExchange soleRank (soleCall 61 0)).1 (soleCall 62 0)).1 (ownFinishCall (soleCall 61 0)) := by
  refine ⟨sole_opens, fun h => ?_⟩
  have hfails : (finishExchange (beginExchange (beginExchange soleRank (soleCall 61 0)).1 (soleCall 62 0)).1
      (ownFinishCall (soleCall 61 0))).2.isOk = false := by decide +kernel
  rw [h.finishes] at hfails
  exact nomatch hfails.symm

/-- With a second ticket object it can. -/
theorem rejected_begin_spares_exchange_sole : AsIfNotMade (beginExchange soleRank (soleCall 61 0)).1
    (beginAll (beginExchange soleRank (soleCall 61 0)).1 [soleCall 62 1]).1 (ownFinishCall (soleCall 61 0)) :=
  (rejected_begin_spares_exchange (by decide) sole_opens [soleCall 62 1]).2.mpr (by decide)

end HundunFlow.Proofs
