import HundunFlow.CorePlacement
import HundunFlow.Lib.EvenShares
import HundunFlow.Lib.Strides
import Mathlib.Data.List.GetD
import Mathlib.Tactic.IntervalCases

/-!
# No core is given to two ranks

Every rank works out its default cores for itself.
-/

namespace HundunFlow.Proofs

open Lib List

section Numa

variable {mask : CoreMask} {rankCount : ℕ}

def HasNode (mask : CoreMask) (core node : ℤ) : Prop := (⟨core, node⟩ : CoreCandidate) ∈ nodeCandidates mask

lemma hasNode_iff {core node : ℤ} : HasNode mask core node ↔ (core, node) ∈ mask.allowed.zip mask.numaNodes := by
  rw [HasNode, nodeCandidates, (sortOn_perm _ _).mem_iff, ← map_uncurry_zip_eq_zipWith, mem_map]
  constructor
  · rintro ⟨⟨core', node'⟩, hmem, heq⟩
    obtain ⟨rfl, rfl⟩ := CoreCandidate.mk.inj heq
    exact hmem
  · exact fun hmem => ⟨_, hmem, rfl⟩

lemma nodeCandidates_cores (hlen : mask.allowed.length = mask.numaNodes.length) :
    ((nodeCandidates mask).map CoreCandidate.core).Perm mask.allowed := by
  refine ((sortOn_perm _ _).map _).trans ?_
  rw [← map_uncurry_zip_eq_zipWith, map_map]
  have hfst : CoreCandidate.core ∘ Function.uncurry CoreCandidate.mk = Prod.fst := rfl
  rw [hfst, map_fst_zip hlen.le]

lemma nodeCandidates_pairwise : (nodeCandidates mask).Pairwise fun a b => a.rank ≤ b.rank := by
  refine (sortOn_pairwise_le _ _).imp fun {a b} h => ?_
  rcases Prod.Lex.le_iff.mp h with h | h
  · exact h.le
  · exact h.1.le

lemma selectNode_eq {active rank : ℕ} (hrank : rank < rankCount) (hactive : 0 < active) :
    ∀ left node, node + left = active → evenBegin rankCount active node ≤ rank →
      ∃ j < active, InShare rankCount active j rank ∧
        selectNode (rankCount / active) (rankCount % active) rank left node (evenBegin rankCount active node) =
          (j, evenBegin rankCount active j, evenCount rankCount active j) := by
  intro left
  induction left with
  | zero =>
    intro node hnode hle
    rw [Nat.add_zero] at hnode
    rw [hnode, evenBegin_top hactive] at hle
    exact absurd hrank (not_lt.mpr hle)
  | succ left ih =>
    intro node hnode hle
    rw [selectNode]
    by_cases hin : rank < evenBegin rankCount active node + evenCount rankCount active node
    · refine ⟨node, by omega, ⟨hle, hin⟩, ?_⟩
      rw [if_pos ⟨hle, hin⟩]
      rfl
    · rw [if_neg fun h => hin h.2]
      have hnext := evenBegin_succ (n := rankCount) (p := active) node
      rw [show evenBegin rankCount active node + (rankCount / active + if node < rankCount % active then 1 else 0) =
        evenBegin rankCount active (node + 1) from hnext.symm]
      exact ih (node + 1) (by omega) (by rw [hnext]; exact not_lt.mp hin)

/-- The cores of the run with number `j`. -/
def nodeRun (mask : CoreMask) (j : ℕ) : List CoreCandidate :=
  leadingRun CoreCandidate.rank ((afterRun CoreCandidate.rank)^[j] (nodeCandidates mask))

def activeNodes (mask : CoreMask) (rankCount : ℕ) : ℕ :=
  min (runCount CoreCandidate.rank (nodeCandidates mask)) rankCount

lemma numaPlacement_eq (hcandidates : nodeCandidates mask ≠ []) {rank : ℕ} (hrank : rank < rankCount) :
    ∃ j < activeNodes mask rankCount, InShare rankCount (activeNodes mask rankCount) j rank ∧
      numaPlacement mask rankCount rank =
        (evenShare (nodeRun mask j) (evenCount rankCount (activeNodes mask rankCount) j)
          (rank - evenBegin rankCount (activeNodes mask rankCount) j)).map CoreCandidate.core := by
  have hactive : 0 < activeNodes mask rankCount := lt_min (runCount_pos hcandidates) (by omega)
  obtain ⟨j, hj, hin, heq⟩ := selectNode_eq hrank hactive (activeNodes mask rankCount) 0 (Nat.zero_add _)
    (by rw [evenBegin_zero]; exact Nat.zero_le _)
  refine ⟨j, hj, hin, ?_⟩
  rw [evenBegin_zero] at heq
  unfold activeNodes at heq
  unfold numaPlacement
  simp only [heq]
  rfl

lemma nodeRun_ne_nil {j : ℕ} (hj : j < activeNodes mask rankCount) : nodeRun mask j ≠ [] :=
  leadingRun_ne_nil (afterRun_iterate_ne_nil (hj.trans_le (min_le_left _ _)))

def runNode (mask : CoreMask) (j : ℕ) : ℤ := ((nodeRun mask j).headD {}).rank

lemma mem_nodeRun {j : ℕ} (hj : nodeRun mask j ≠ []) {candidate : CoreCandidate} :
    candidate ∈ nodeRun mask j ↔ candidate ∈ nodeCandidates mask ∧ candidate.rank = runNode mask j := by
  obtain ⟨first, rest, hrun⟩ := exists_cons_of_ne_nil hj
  have hfirst : first ∈ nodeRun mask j := by rw [hrun]; exact mem_cons_self
  have hnode : runNode mask j = first.rank := by rw [runNode, hrun]; rfl
  rw [hnode]
  exact mem_run_iff nodeCandidates_pairwise hfirst

lemma runNode_inj {i j : ℕ} (hi : nodeRun mask i ≠ []) (hj : nodeRun mask j ≠ []) (h : runNode mask i = runNode mask j) :
    i = j := by
  obtain ⟨a, resta, ha⟩ := exists_cons_of_ne_nil hi
  obtain ⟨b, restb, hb⟩ := exists_cons_of_ne_nil hj
  have hrank : a.rank = b.rank := by simpa [runNode, ha, hb] using h
  have hmema : a ∈ nodeRun mask i := by rw [ha]; exact mem_cons_self
  have hmemb : b ∈ nodeRun mask j := by rw [hb]; exact mem_cons_self
  rcases lt_trichotomy i j with hlt | heq | hlt
  · exact absurd hrank (run_key_lt nodeCandidates_pairwise hlt hmema hmemb).ne
  · exact heq
  · exact absurd hrank (run_key_lt nodeCandidates_pairwise hlt hmemb hmema).ne'

/-- Each rank has the cores of one NUMA node, and the ranks of a node divide all its cores evenly. -/
structure NumaShares (mask : CoreMask) (rankCount : ℕ) (node : ℕ → ℤ) (share : ℕ → List ℤ) : Prop where
  within : ∀ rank < rankCount, ∀ core ∈ share rank, HasNode mask core (node rank)
  used : ∀ rank < rankCount, ∃ core, HasNode mask core (node rank)
  once : ∀ rank < rankCount, ∀ core, HasNode mask core (node rank) → ∃! owner, owner < rankCount ∧ core ∈ share owner
  even : ∀ rank < rankCount, ∀ other < rankCount, node rank = node other →
    (share rank).length ≤ (share other).length + 1

lemma nodeRun_sublist (j : ℕ) : (nodeRun mask j).Sublist (nodeCandidates mask) := by
  have hiterate : ∀ (i : ℕ) (l : List CoreCandidate), ((afterRun CoreCandidate.rank)^[i] l).Sublist l := by
    intro i
    induction i with
    | zero => exact fun l => Sublist.refl l
    | succ i ih =>
      intro l
      refine (ih _).trans ?_
      conv_rhs => rw [← leadingRun_append_afterRun CoreCandidate.rank l]
      exact sublist_append_right _ _
  refine Sublist.trans ?_ (hiterate j _)
  conv_rhs => rw [← leadingRun_append_afterRun CoreCandidate.rank ((afterRun CoreCandidate.rank)^[j] (nodeCandidates mask))]
  exact sublist_append_left _ _

lemma numaShares (hne : mask.allowed ≠ []) (hnodup : mask.allowed.Nodup)
    (hlen : mask.allowed.length = mask.numaNodes.length) :
    ∃ node, NumaShares mask rankCount node (numaPlacement mask rankCount) := by
  have hcores := nodeCandidates_cores hlen
  have hcandidates : nodeCandidates mask ≠ [] := by
    intro hnil
    rw [hnil, map_nil] at hcores
    exact hne hcores.symm.eq_nil
  have hcoresNodup : ((nodeCandidates mask).map CoreCandidate.core).Nodup := hcores.nodup_iff.mpr hnodup
  have hinj : ∀ {a b : CoreCandidate}, a ∈ nodeCandidates mask → b ∈ nodeCandidates mask → a.core = b.core → a = b :=
    fun ha hb hab => inj_on_of_nodup_map hcoresNodup ha hb hab
  have hplace : ∀ rank, ∃ j, rank < rankCount → j < activeNodes mask rankCount ∧
      InShare rankCount (activeNodes mask rankCount) j rank ∧
      numaPlacement mask rankCount rank =
        (evenShare (nodeRun mask j) (evenCount rankCount (activeNodes mask rankCount) j)
          (rank - evenBegin rankCount (activeNodes mask rankCount) j)).map CoreCandidate.core := by
    intro rank
    by_cases hrank : rank < rankCount
    · obtain ⟨j, hj⟩ := numaPlacement_eq hcandidates hrank
      exact ⟨j, fun _ => hj⟩
    · exact ⟨0, fun h => absurd h hrank⟩
  choose run hrun using hplace
  have hmem : ∀ rank < rankCount, ∀ core, core ∈ numaPlacement mask rankCount rank ↔
      ∃ a ∈ evenShare (nodeRun mask (run rank)) (evenCount rankCount (activeNodes mask rankCount) (run rank))
        (rank - evenBegin rankCount (activeNodes mask rankCount) (run rank)), a.core = core := by
    intro rank hrank core
    rw [(hrun rank hrank).2.2, mem_map]
  have hshareRun : ∀ {l : List CoreCandidate} {p c : ℕ} {a : CoreCandidate}, a ∈ evenShare l p c → a ∈ l :=
    fun h => mem_of_mem_drop (mem_of_mem_take h)
  have hrunMem : ∀ rank < rankCount, ∀ candidate, candidate ∈ nodeRun mask (run rank) ↔
      candidate ∈ nodeCandidates mask ∧ candidate.rank = runNode mask (run rank) := fun rank hrank _ =>
    mem_nodeRun (nodeRun_ne_nil (hrun rank hrank).1)
  refine ⟨fun rank => runNode mask (run rank), ⟨?_, ?_, ?_, ?_⟩⟩
  · intro rank hrank core hcore
    obtain ⟨a, ha, rfl⟩ := (hmem rank hrank core).mp hcore
    obtain ⟨hin, hnode⟩ := (hrunMem rank hrank a).mp (hshareRun ha)
    rw [HasNode, ← hnode]
    exact hin
  · intro rank hrank
    obtain ⟨first, rest, hfirst⟩ := exists_cons_of_ne_nil (nodeRun_ne_nil (hrun rank hrank).1)
    obtain ⟨hin, hnode⟩ := (hrunMem rank hrank first).mp (by rw [hfirst]; exact mem_cons_self)
    refine ⟨first.core, ?_⟩
    rw [HasNode, ← hnode]
    exact hin
  · intro rank hrank core hcore
    obtain ⟨hj, hin, -⟩ := hrun rank hrank
    have hlt := Nat.sub_lt_left_of_lt_add hin.1 hin.2
    have hpos : 0 < evenCount rankCount (activeNodes mask rankCount) (run rank) := by omega
    have hactive : 0 < activeNodes mask rankCount := by omega
    have hcoreRun : (⟨core, runNode mask (run rank)⟩ : CoreCandidate) ∈ nodeRun mask (run rank) :=
      (hrunMem rank hrank _).mpr ⟨hcore, rfl⟩
    have hrunNodup : (nodeRun mask (run rank)).Nodup := (hcoresNodup.of_map).sublist (nodeRun_sublist _)
    obtain ⟨k, ⟨hk, hkmem⟩, hkunique⟩ := existsUnique_evenShare hpos hrunNodup hcoreRun
    -- the owner is number `k` of the group of this node
    have hshare : InShare rankCount (activeNodes mask rankCount) (run rank)
        (evenBegin rankCount (activeNodes mask rankCount) (run rank) + k) :=
      ⟨Nat.le_add_right _ _, Nat.add_lt_add_left hk _⟩
    have hownerlt := hshare.lt hactive hj
    have hownerRun : run (evenBegin rankCount (activeNodes mask rankCount) (run rank) + k) = run rank :=
      (hrun _ hownerlt).2.1.unique hshare
    refine ⟨evenBegin rankCount (activeNodes mask rankCount) (run rank) + k, ⟨hownerlt, ?_⟩, ?_⟩
    · refine (hmem _ hownerlt core).mpr ⟨⟨core, runNode mask (run rank)⟩, ?_, rfl⟩
      rw [hownerRun, Nat.add_sub_cancel_left]
      exact hkmem
    · rintro owner ⟨howner, hcoreOwner⟩
      obtain ⟨a, ha, hacore⟩ := (hmem owner howner core).mp hcoreOwner
      obtain ⟨hain, hanode⟩ := (hrunMem owner howner a).mp (hshareRun ha)
      obtain rfl : a = ⟨core, runNode mask (run rank)⟩ := hinj hain hcore hacore
      have hsame : run owner = run rank :=
        runNode_inj (nodeRun_ne_nil (hrun owner howner).1) (nodeRun_ne_nil hj) hanode.symm
      obtain ⟨-, hownerIn, -⟩ := hrun owner howner
      rw [hsame] at ha hownerIn
      have hk' := hkunique _ ⟨Nat.sub_lt_left_of_lt_add hownerIn.1 hownerIn.2, ha⟩
      rw [← hk', Nat.add_sub_cancel' hownerIn.1]
  · intro rank hrank other hother hnode
    obtain ⟨hj, hin, heq⟩ := hrun rank hrank
    obtain ⟨hj', hin', heq'⟩ := hrun other hother
    have hsame : run other = run rank := runNode_inj (nodeRun_ne_nil hj') (nodeRun_ne_nil hj) hnode.symm
    rw [hsame] at hin' heq'
    have hlt := Nat.sub_lt_left_of_lt_add hin.1 hin.2
    have hlt' := Nat.sub_lt_left_of_lt_add hin'.1 hin'.2
    rw [heq, heq', length_map, length_map, length_evenShare (by omega) hlt, length_evenShare (by omega) hlt']
    exact evenCount_le _ _

end Numa

section Greedy

variable {masks : List CoreMask}

variable {core : ℤ} (loads : List ℕ)

lemma mem_rankCandidates {candidate : CoreCandidate} : candidate ∈ rankCandidates masks ↔
    ∃ rank < masks.length, candidate.rank = rank ∧ candidate.core ∈ (masks.getD rank {}).allowed := by
  rw [rankCandidates, (sortOn_perm _ _).mem_iff, mem_flatMap]
  constructor
  · rintro ⟨⟨mask, rank⟩, hmem, hcand⟩
    obtain ⟨-, hlt, hget⟩ := mem_zipIdx hmem
    obtain ⟨core, hcore, rfl⟩ := mem_map.mp hcand
    have hrank : rank < masks.length := by omega
    refine ⟨rank, hrank, rfl, ?_⟩
    rw [getD_eq_getElem _ _ hrank]
    simpa [hget] using hcore
  · rintro ⟨rank, hrank, hcand, hcore⟩
    refine ⟨(masks[rank], rank), ?_, mem_map.mpr ⟨candidate.core, ?_, ?_⟩⟩
    · exact mk_mem_zipIdx_iff_getElem?.mpr (List.getElem?_eq_getElem hrank)
    · rwa [getD_eq_getElem _ _ hrank] at hcore
    · rw [← hcand]

def coreRuns (masks : List CoreMask) : List (List CoreCandidate) :=
  (rankCandidates masks).splitBy fun a b => a.core = b.core

def runCore (run : List CoreCandidate) : ℤ := (run.headD {}).core

def assigned : List ℕ → List (List CoreCandidate) → List (ℤ × ℤ)
  | _, [] => []
  | loads, run :: runs =>
    (runCore run, ownerOfRun loads run) :: assigned (loads.modify (ownerOfRun loads run).toNat (· + 1)) runs

lemma foldl_assignRun (localRank : ℕ) (runs : List (List CoreCandidate)) (loads : List ℕ) (cores : List ℤ) :
    (runs.foldl (assignRun localRank) (loads, cores)).2 =
      cores ++ ((assigned loads runs).filter fun entry => entry.2 = (localRank : ℤ)).map Prod.fst := by
  induction runs generalizing loads cores with
  | nil => simp [assigned]
  | cons run runs ih =>
    rw [foldl_cons, assignRun, ih, assigned]
    by_cases howner : ownerOfRun loads run = localRank
    · simp [howner, runCore]
    · simp [howner]

lemma mem_greedyPlacement {rank : ℕ} : core ∈ greedyPlacement masks rank ↔
    (core, (rank : ℤ)) ∈ assigned (replicate masks.length 0) (coreRuns masks) := by
  rw [greedyPlacement, foldl_assignRun, nil_append, mem_map]
  constructor
  · rintro ⟨⟨core', owner⟩, hmem, rfl⟩
    obtain ⟨hmem, howner⟩ := mem_filter.mp hmem
    obtain rfl : owner = rank := of_decide_eq_true howner
    exact hmem
  · exact fun hmem => ⟨_, mem_filter.mpr ⟨hmem, decide_eq_true rfl⟩, rfl⟩

lemma map_fst_assigned (runs : List (List CoreCandidate)) :
    (assigned loads runs).map Prod.fst = runs.map runCore := by
  induction runs generalizing loads with
  | nil => rfl
  | cons run runs ih => rw [assigned, map_cons, map_cons, ih]

lemma betterOwner_mem (owner eligible : ℤ) :
    betterOwner loads owner eligible = owner ∨ betterOwner loads owner eligible = eligible := by
  unfold betterOwner
  simp only
  split
  · exact Or.inr rfl
  · exact Or.inl rfl

lemma ownerOfRun_mem {run : List CoreCandidate} (h : run ≠ []) :
    ∃ candidate ∈ run, candidate.rank = ownerOfRun loads run := by
  obtain ⟨first, others, rfl⟩ := exists_cons_of_ne_nil h
  have hfold : ∀ (others : List CoreCandidate) (owner : ℤ),
      others.foldl (fun owner candidate => betterOwner loads owner candidate.rank) owner = owner ∨
        ∃ candidate ∈ others, candidate.rank =
          others.foldl (fun owner candidate => betterOwner loads owner candidate.rank) owner := by
    intro others
    induction others with
    | nil => exact fun owner => Or.inl rfl
    | cons candidate others ih =>
      intro owner
      rw [foldl_cons]
      rcases ih (betterOwner loads owner candidate.rank) with hkept | ⟨later, hlater, hrank⟩
      · rw [hkept]
        rcases betterOwner_mem loads owner candidate.rank with h | h
        · exact Or.inl h
        · exact Or.inr ⟨candidate, mem_cons_self, h.symm⟩
      · exact Or.inr ⟨later, mem_cons_of_mem _ hlater, hrank⟩
  rcases hfold others first.rank with hkept | ⟨candidate, hmem, hrank⟩
  · exact ⟨first, mem_cons_self, hkept.symm⟩
  · exact ⟨candidate, mem_cons_of_mem _ hmem, hrank⟩

lemma coreRuns_spec : (∀ run ∈ coreRuns masks, run ≠ []) ∧
    (∀ run ∈ coreRuns masks, ∀ candidate ∈ run, candidate ∈ rankCandidates masks ∧ candidate.core = runCore run) ∧
    ((coreRuns masks).map runCore).Nodup := by
  have hsorted : (rankCandidates masks).Pairwise fun a b => a.core ≤ b.core := by
    refine (sortOn_pairwise_le _ _).imp fun {a b} h => ?_
    rcases Prod.Lex.le_iff.mp h with h | h
    · exact h.le
    · exact h.1.le
  obtain ⟨hsame, hasc⟩ := splitBy_ascending hsorted
  have hne : ∀ run ∈ coreRuns masks, run ≠ [] := by
    rintro run hrun rfl
    exact nil_notMem_splitBy _ _ hrun
  have hhead : ∀ run ∈ coreRuns masks, ∃ first ∈ run, first.core = runCore run := by
    intro run hrun
    obtain ⟨first, rest, rfl⟩ := exists_cons_of_ne_nil (hne run hrun)
    exact ⟨first, mem_cons_self, rfl⟩
  refine ⟨hne, fun run hrun candidate hcand => ⟨?_, ?_⟩, ?_⟩
  · rw [← flatten_splitBy (fun a b => decide (a.core = b.core)) (rankCandidates masks)]
    exact mem_flatten.mpr ⟨run, hrun, hcand⟩
  · obtain ⟨first, hfirst, heq⟩ := hhead run hrun
    exact (hsame run hrun candidate hcand first hfirst).trans heq
  · rw [Nodup, pairwise_map]
    refine (List.Pairwise.and_mem.mp hasc).imp ?_
    rintro run run' ⟨hrun, hrun', hlt⟩
    obtain ⟨first, hfirst, heq⟩ := hhead run hrun
    obtain ⟨first', hfirst', heq'⟩ := hhead run' hrun'
    rw [← heq, ← heq']
    exact (hlt first hfirst first' hfirst').ne

lemma mem_assigned {runs : List (List CoreCandidate)} (hne : ∀ run ∈ runs, run ≠ []) {owner : ℤ}
    (h : (core, owner) ∈ assigned loads runs) :
    ∃ run ∈ runs, runCore run = core ∧ ∃ candidate ∈ run, candidate.rank = owner := by
  induction runs generalizing loads with
  | nil => exact absurd h not_mem_nil
  | cons run runs ih =>
    rw [assigned, mem_cons] at h
    rcases h with h | h
    · obtain ⟨rfl, rfl⟩ := Prod.mk.inj h
      exact ⟨run, mem_cons_self, rfl, ownerOfRun_mem loads (hne run mem_cons_self)⟩
    · obtain ⟨run', hrun', hrest⟩ := ih _ (fun r hr => hne r (mem_cons_of_mem _ hr)) h
      exact ⟨run', mem_cons_of_mem _ hrun', hrest⟩

lemma assigned_allowed {owner : ℤ} {loads : List ℕ} (h : (core, owner) ∈ assigned loads (coreRuns masks)) :
    ∃ rank < masks.length, owner = rank ∧ core ∈ (masks.getD rank {}).allowed := by
  obtain ⟨hne, hcores, -⟩ := @coreRuns_spec masks
  obtain ⟨run, hrun, rfl, candidate, hcand, rfl⟩ := mem_assigned loads hne h
  obtain ⟨hmem, hcore⟩ := hcores run hrun candidate hcand
  rw [← hcore]
  exact mem_rankCandidates.mp hmem

lemma greedyPlacement_allowed {rank : ℕ} (h : core ∈ greedyPlacement masks rank) :
    core ∈ (masks.getD rank {}).allowed := by
  obtain ⟨rank', -, heq, hcore⟩ := assigned_allowed (mem_greedyPlacement.mp h)
  rwa [Int.natCast_inj.mp heq]

lemma greedyPlacement_once (h : ∃ mask ∈ masks, core ∈ mask.allowed) :
    ∃! rank, rank < masks.length ∧ core ∈ greedyPlacement masks rank := by
  obtain ⟨-, hcores, hnodup⟩ := @coreRuns_spec masks
  obtain ⟨mask, hmask, hcore⟩ := h
  obtain ⟨rank, hrank, rfl⟩ := getElem_of_mem hmask
  have hcand : (⟨core, rank⟩ : CoreCandidate) ∈ rankCandidates masks :=
    mem_rankCandidates.mpr ⟨rank, hrank, rfl, by rwa [getD_eq_getElem _ _ hrank]⟩
  rw [← flatten_splitBy (fun a b => decide (a.core = b.core)) (rankCandidates masks)] at hcand
  obtain ⟨run, hrun, hin⟩ := mem_flatten.mp hcand
  have hfst := map_fst_assigned (replicate masks.length 0) (coreRuns masks)
  have hmem : core ∈ (assigned (replicate masks.length 0) (coreRuns masks)).map Prod.fst := by
    rw [hfst]
    exact mem_map.mpr ⟨run, hrun, ((hcores run hrun _ hin).2).symm⟩
  obtain ⟨⟨core', owner⟩, hassign, rfl⟩ := mem_map.mp hmem
  obtain ⟨rank', hrank', rfl, -⟩ := assigned_allowed hassign
  refine ⟨rank', ⟨hrank', mem_greedyPlacement.mpr hassign⟩, ?_⟩
  rintro other ⟨-, hother⟩
  have hunique := inj_on_of_nodup_map (hfst ▸ hnodup) (mem_greedyPlacement.mp hother) hassign rfl
  exact Int.natCast_inj.mp (Prod.mk.inj hunique).2

end Greedy

variable {masks : List CoreMask} {memory : PlacementStage → ℕ → Bool}

lemma defaultCores_eq {rank : ℕ} {place : SharedCorePlacement}
    (h : discoverSharedCorePlacement masks memory rank = .ok place) :
    place.defaultCores = if identicalMasks masks then numaPlacement (masks.headD {}) masks.length rank
      else greedyPlacement masks rank := by
  unfold discoverSharedCorePlacement at h
  simp only [bind, Except.bind, pure, Except.pure] at h
  split at h
  · exact nomatch h
  · split at h
    · exact nomatch h
    · split at h
      · exact nomatch h
      · split at h
        · exact nomatch h
        · split at h
          · exact nomatch h
          · rw [← Except.ok.inj h]

/-- What discovery of the allowed cores and of their nodes ensures. -/
def WellFormedMask (mask : CoreMask) : Prop :=
  mask.allowed ≠ [] ∧ mask.allowed.Nodup ∧ mask.allowed.length = mask.numaNodes.length

lemma disjoint_of_once {n : ℕ} {share : ℕ → List ℤ}
    (h : ∀ rank < n, ∀ core ∈ share rank, ∃! owner, owner < n ∧ core ∈ share owner) :
    ∀ rank < n, ∀ other < n, rank ≠ other → (share rank).Disjoint (share other) := by
  intro rank hrank other hother hne core hcore hcore'
  obtain ⟨owner, -, hunique⟩ := h rank hrank core hcore
  exact hne ((hunique rank ⟨hrank, hcore⟩).trans (hunique other ⟨hother, hcore'⟩).symm)

lemma identicalMasks_iff : identicalMasks masks = true ↔ ∀ mask ∈ masks, mask.allowed = (masks.headD {}).allowed := by
  simp [identicalMasks]

/-- The default cores are cores the rank may use and never those of another rank. With different masks
every core of any mask has one owner; with equal masks the ranks of a NUMA node divide its cores
evenly. The nodes are those the first rank has found. -/
theorem default_cores_disjoint (hmasks : ∀ mask ∈ masks, WellFormedMask mask) {place : ℕ → SharedCorePlacement}
    (h : ∀ rank < masks.length, discoverSharedCorePlacement masks memory rank = .ok (place rank)) :
    (∀ rank < masks.length, (place rank).defaultCores ⊆ (masks.getD rank {}).allowed) ∧
    (∀ rank < masks.length, ∀ other < masks.length, rank ≠ other →
      (place rank).defaultCores.Disjoint (place other).defaultCores) ∧
    ((¬∀ mask ∈ masks, ∀ other ∈ masks, mask.allowed = other.allowed) → ∀ core, (∃ mask ∈ masks, core ∈ mask.allowed) →
      ∃! rank, rank < masks.length ∧ core ∈ (place rank).defaultCores) ∧
    ((∀ mask ∈ masks, ∀ other ∈ masks, mask.allowed = other.allowed) → masks ≠ [] →
      ∃ node, NumaShares (masks.headD {}) masks.length node fun rank => (place rank).defaultCores) := by
  have hcores : ∀ rank < masks.length, (place rank).defaultCores =
      if identicalMasks masks then numaPlacement (masks.headD {}) masks.length rank
      else greedyPlacement masks rank := fun rank hrank => defaultCores_eq (h rank hrank)
  have hhead : masks ≠ [] → masks.headD {} ∈ masks := by
    intro hne
    obtain ⟨first, rest, rfl⟩ := exists_cons_of_ne_nil hne
    exact mem_cons_self
  by_cases hidentical : identicalMasks masks = true
  · have hequal := identicalMasks_iff.mp hidentical
    simp only [hidentical, if_true] at hcores
    have hnuma : masks ≠ [] → ∃ node, NumaShares (masks.headD {}) masks.length node fun rank => (place rank).defaultCores := by
      intro hne
      obtain ⟨hmask, hnodup, hlen⟩ := hmasks _ (hhead hne)
      obtain ⟨node, hwithin, hused, honce, heven⟩ := @numaShares _ masks.length hmask hnodup hlen
      refine ⟨node, ⟨fun rank hrank => by rw [hcores rank hrank]; exact hwithin rank hrank, hused, ?_, ?_⟩⟩
      · intro rank hrank core hcore
        obtain ⟨owner, ⟨howner, hmem⟩, hunique⟩ := honce rank hrank core hcore
        refine ⟨owner, ⟨howner, by rwa [hcores owner howner]⟩, ?_⟩
        rintro other ⟨hother, hmem'⟩
        rw [hcores other hother] at hmem'
        exact hunique other ⟨hother, hmem'⟩
      · intro rank hrank other hother hnode
        rw [hcores rank hrank, hcores other hother]
        exact heven rank hrank other hother hnode
    refine ⟨?_, ?_, ?_, fun _ => hnuma⟩
    · intro rank hrank core hcore
      have hmem : masks.getD rank {} ∈ masks := by
        rw [getD_eq_getElem _ _ hrank]
        exact getElem_mem hrank
      obtain ⟨node, hshares⟩ := hnuma (by rintro rfl; exact absurd hrank (Nat.not_lt_zero _))
      rw [hequal _ hmem]
      exact (of_mem_zip (hasNode_iff.mp (hshares.within rank hrank core hcore))).1
    · refine disjoint_of_once fun rank hrank core hcore => ?_
      obtain ⟨node, hshares⟩ := hnuma (by rintro rfl; exact absurd hrank (Nat.not_lt_zero _))
      exact hshares.once rank hrank core (hshares.within rank hrank core hcore)
    · intro hdifferent
      exact absurd (fun mask hmask other hother => (hequal mask hmask).trans (hequal other hother).symm) hdifferent
  · simp only [hidentical, Bool.false_eq_true, if_false] at hcores
    have honce : ∀ core, (∃ mask ∈ masks, core ∈ mask.allowed) →
        ∃! rank, rank < masks.length ∧ core ∈ (place rank).defaultCores := by
      intro core hcore
      obtain ⟨owner, ⟨howner, hmem⟩, hunique⟩ := greedyPlacement_once hcore
      refine ⟨owner, ⟨howner, by rwa [hcores owner howner]⟩, ?_⟩
      rintro other ⟨hother, hmem'⟩
      rw [hcores other hother] at hmem'
      exact hunique other ⟨hother, hmem'⟩
    have hallowed : ∀ rank < masks.length, (place rank).defaultCores ⊆ (masks.getD rank {}).allowed := by
      intro rank hrank core hcore
      rw [hcores rank hrank] at hcore
      exact greedyPlacement_allowed hcore
    refine ⟨hallowed, ?_, fun _ => honce, fun hequal hne => ?_⟩
    · refine disjoint_of_once fun rank hrank core hcore => honce core ⟨masks.getD rank {}, ?_, hallowed rank hrank hcore⟩
      rw [getD_eq_getElem _ _ hrank]
      exact getElem_mem hrank
    · exact absurd (identicalMasks_iff.mpr fun mask hmask => hequal mask hmask _ (hhead hne)) hidentical

/-- Three ranks that share two NUMA nodes, and two ranks with different masks. -/
theorem default_cores_disjoint_samples :
    (∃ node, NumaShares ⟨[0, 1, 2, 3], [0, 1, 0, 1]⟩ 3 node (numaPlacement ⟨[0, 1, 2, 3], [0, 1, 0, 1]⟩ 3)) ∧
      ∃! rank, rank < 2 ∧ (4 : ℤ) ∈ greedyPlacement [⟨[3, 4], [0, 0]⟩, ⟨[4, 5], [0, 0]⟩] rank := by
  constructor
  · have hmasks : ∀ mask ∈ replicate 3 (⟨[0, 1, 2, 3], [0, 1, 0, 1]⟩ : CoreMask), WellFormedMask mask := by
      intro mask hmask
      rw [eq_of_mem_replicate hmask]
      exact ⟨by decide, by decide, by decide⟩
    have hplace : ∀ rank < 3, discoverSharedCorePlacement (replicate 3 ⟨[0, 1, 2, 3], [0, 1, 0, 1]⟩) (fun _ _ => true) rank =
        .ok ⟨rank, 3, 2, numaPlacement ⟨[0, 1, 2, 3], [0, 1, 0, 1]⟩ 3 rank⟩ := by
      intro rank hrank
      interval_cases rank <;> rfl
    exact (default_cores_disjoint hmasks hplace).2.2.2 (by decide) (by decide)
  · have hmasks : ∀ mask ∈ ([⟨[3, 4], [0, 0]⟩, ⟨[4, 5], [0, 0]⟩] : List CoreMask), WellFormedMask mask := by
      intro mask hmask
      simp only [mem_cons, not_mem_nil, or_false] at hmask
      rcases hmask with rfl | rfl
      · exact ⟨by decide, by decide, by decide⟩
      · exact ⟨by decide, by decide, by decide⟩
    have hplace : ∀ rank < 2, discoverSharedCorePlacement [⟨[3, 4], [0, 0]⟩, ⟨[4, 5], [0, 0]⟩] (fun _ _ => true) rank =
        .ok ⟨rank, 2, 1, greedyPlacement [⟨[3, 4], [0, 0]⟩, ⟨[4, 5], [0, 0]⟩] rank⟩ := by
      intro rank hrank
      interval_cases rank <;> rfl
    exact (default_cores_disjoint hmasks hplace).2.2.1 (by decide) 4 ⟨⟨[3, 4], [0, 0]⟩, by simp, by simp⟩

end HundunFlow.Proofs
