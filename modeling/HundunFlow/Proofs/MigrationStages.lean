import HundunFlow.ParcelMigration
import HundunFlow.Proofs.ScatterStages

/-!
# The stages of the parcel migration

What each phase of `prepare` does on the ranks of a job, and when it fails.
-/

namespace HundunFlow.Proofs

open Lib ParcelMigrationPlan

variable {F : Type}

@[simp] lemma length_encode (value : ParcelMigrationValue F) : value.encode.length = kLanes := rfl

@[simp] lemma length_encodeId (id : ParcelId) : (encodeId (F := F) id).length = 2 := rfl

lemma decodeId_encodeId (id : ParcelId) : decodeId (encodeId (F := F) id) = some id := by
  rcases id with ⟨high, low⟩
  simp [encodeId, decodeId]

lemma decode_encode [SprayReal F] {value : ParcelMigrationValue F} (h : value.valid = true) :
    ParcelMigrationValue.decode value.encode = some value := by
  have hpoisson : value.sgs.history.poissonMultiplier.toNat ≤ 7 := by
    simp only [ParcelMigrationValue.valid, validSgsState, Bool.and_eq_true, Bool.not_eq_true',
      Bool.or_eq_false_iff, decide_eq_false_iff_not] at h
    exact UInt8.le_iff_toNat_le.mp (UInt8.not_lt.mp h.2.1.1.2)
  rcases value with ⟨⟨⟨high, low⟩, ⟨px, py, pz⟩, ⟨vx, vy, vz⟩, mass, diameter, multiplicity, temperature,
    fingerprint, cell, age⟩, deformation, rate, ordinal, ⟨version, ⟨dissipation, dissipationAge, meanRate,
    rateAge, poisson⟩⟩⟩
  dsimp only at hpoisson
  unfold ParcelMigrationValue.decode ParcelMigrationValue.encode encodeSgsState decodeSgsState
  dsimp only [List.cons_append, List.nil_append]
  simp [hpoisson]

variable {n : ℕ} (hn : 0 < n) (hsize : n < 2 ^ 31)

def consensusResult (s : Fin n → Status) : Stage (Status × ℤ) Unit :=
  match firstFailing s with
  | none => .ok ()
  | some k => .failed (s k, k)

variable {s : Fin n → Status}

lemma consensusResult_ok (h : ∀ i, (s i).isOk = true) : consensusResult s = .ok () := by
  rw [consensusResult, firstFailing_eq_none_iff.mpr h]

lemma consensusResult_failed (h : ¬ ∀ i, (s i).isOk = true) :
    ∃ k, (s k).isOk = false ∧ (∀ j < k, (s j).isOk = true) ∧ consensusResult s = .failed (s k, k) := by
  cases hfirst : firstFailing s with
  | none => exact absurd (firstFailing_none hfirst) h
  | some k =>
    obtain ⟨hk, hbefore⟩ := firstFailing_some hfirst
    exact ⟨k, hk, hbefore, by rw [consensusResult, hfirst]⟩

lemma migrationCollective_run (s : Fin n → Status) : ∃ trace,
    (mpiJob hn).Run (fun i => migrationCollective (F := F) (jobComm hsize i) (s i)) trace
      (fun _ => consensusResult s) := by
  have hmax : n ≤ maxInt := by
    unfold maxInt
    omega
  have hsel := rankMin_firstFailing hn s hmax
  have hreduce := job_allreduce_min (W := Lane F) (D := Unit) hn
    (fun i => if (s i).isOk then maxInt else (i : ℕ))
  unfold consensusResult
  cases h : firstFailing s with
  | none =>
    rw [h] at hsel
    refine ⟨_, Network.Run.bind (u := []) hreduce ?_⟩
    simp only [hsel, if_true]
    exact .done _
  | some k =>
    rw [h] at hsel
    have hk : (k : ℕ) ≠ maxInt := by
      have := k.isLt
      omega
    have hwire := job_bcast (W := Lane F) (D := Unit) hn k
      (fun i => [.word (s i).code.toWire, .word (s i).detail.toNat]) 2 (fun i => rfl)
    have hstatus : statusOfLanes (F := F) [.word (s k).code.toWire, .word (s k).detail.toNat] = some (s k) :=
      Status.ofWire_toWire (s k)
    refine ⟨_, Network.Run.bind (u := [.bcast k 2] ++ []) hreduce ?_⟩
    simp only [hsel, hk, if_false]
    refine Network.Run.bind hwire ?_
    simp only [hstatus]
    exact .done _

def RankFailure (n : ℕ) (e : Status × ℤ) : Prop := e.1.isOk = false ∧ ∃ k : Fin n, e.2 = (k : ℕ)

lemma migration_consensus :
    Consensus (F := F) hn (fun i => migrationCollective (jobComm hsize i)) Status.isOk (RankFailure n) where
  passes s h := by
    obtain ⟨trace, hrun⟩ := migrationCollective_run (F := F) hn hsize s
    rw [consensusResult_ok h] at hrun
    exact ⟨trace, hrun⟩
  fails s h := by
    obtain ⟨trace, hrun⟩ := migrationCollective_run (F := F) hn hsize s
    obtain ⟨k, hk, -, hresult⟩ := consensusResult_failed h
    rw [hresult] at hrun
    exact ⟨trace, _, ⟨hk, k, rfl⟩, hrun⟩

section Exchange

variable {α : Type} {destination : α → ℕ} {items : Fin n → List α} {lanes : ℕ} (hlanes : 0 < lanes)
  {capacity : Fin n → ℕ} (hcapacity : ∀ i, capacity i ≤ maxInt / lanes)
  (hdest : ∀ j, ∀ a ∈ items j, destination a < n) (hitems : ∀ i, (items i).length ≤ maxInt / lanes)
  {encode : α → List (Lane F)} {send receive : Fin n → List (Lane F)}

lemma countRefused_iff {capacity received : ℕ} (r : ℕ) (h : received ≤ capacity) :
    countRefused capacity r received = true ↔ capacity < received + r := by
  simp only [countRefused, decide_eq_true_eq, Nat.min_eq_right h]
  omega

include hlanes in
lemma sumsRefused_eq_false {capacity sent received : ℕ} (hcapacity : capacity ≤ maxInt / lanes)
    (hsent : sent * lanes ≤ maxInt) (hreceived : received ≤ capacity) :
    sumsRefused capacity lanes sent received = false := by
  have := (Nat.le_div_iff_mul_le hlanes).mpr hsent
  simp only [sumsRefused, Bool.or_eq_false_iff, decide_eq_false_iff_not]
  omega

include hlanes hcapacity hdest hitems

lemma exchangePhase_run_ok (hencode : ∀ a, (encode a).length = lanes)
    (hsend : ∀ i, (items i).length * lanes ≤ (send i).length)
    (hreceive : ∀ i, capacity i * lanes ≤ (receive i).length)
    (hfits : ∀ i : Fin n, (routed items destination i).length ≤ capacity i) :
    ∃ (trace : _) (done : Fin n → Exchanged F),
    (mpiJob hn).Run
      (fun i => exchangePhase (jobComm hsize i) (capacity i) lanes (countsFor n destination (items i))
        destination encode (items i) (send i) (receive i)) trace (fun i => .ok (done i)) ∧
    ∀ i : Fin n, (done i).received = (routed items destination i).length ∧
      (done i).send.length = (send i).length ∧ (done i).receive.length = (receive i).length ∧
      rows lanes (done i).receive (done i).received = (routed items destination i).map encode :=
  exchangeItems_run_ok (migration_consensus hn hsize) _ _ _ rfl _
    (fun i => (Nat.le_div_iff_mul_le hlanes).mp (hcapacity i)) (fun _ r _ h => countRefused_iff r h)
    (fun i _ _ hs hr => sumsRefused_eq_false hlanes (hcapacity i) hs hr) hdest
    (fun i => (Nat.le_div_iff_mul_le hlanes).mp (hitems i)) hencode hsend hreceive hfits

lemma exchangePhase_run_failed (hfull : ¬ ∀ i : Fin n, (routed items destination i).length ≤ capacity i) :
    ∃ trace e, RankFailure n e ∧ (mpiJob hn).Run
      (fun i => exchangePhase (jobComm hsize i) (capacity i) lanes (countsFor n destination (items i))
        destination encode (items i) (send i) (receive i)) trace fun _ => .failed e :=
  exchangeItems_run_failed (migration_consensus hn hsize) _ _ _ rfl _
    (fun i => (Nat.le_div_iff_mul_le hlanes).mp (hcapacity i)) (fun _ r _ h => countRefused_iff r h)
    (fun i _ _ hs hr => sumsRefused_eq_false hlanes (hcapacity i) hs hr) hdest
    (fun i => (Nat.le_div_iff_mul_le hlanes).mp (hitems i)) _ _ _ hfull

end Exchange

lemma totalsPhase_run {input received : Fin n → ℕ} (h : ∑ i, input i = ∑ i, received i) :
    ∃ trace total, (mpiJob hn).Run (fun i => totalsPhase (F := F) (input i) (received i)) trace
      (fun _ => .ok total) := by
  have hsum := job_allreduceSum (W := Lane F) (D := Unit) hn (fun i => [input i, received i]) 2 fun _ => rfl
  refine ⟨_, (∑ i, input i) % 2 ^ 64, Network.Run.bind (u := []) hsum ?_⟩
  have hequal : ((List.range 2).map fun k => (∑ j, [input j, received j].getD k 0) % 2 ^ 64) =
      [(∑ i, input i) % 2 ^ 64, (∑ i, input i) % 2 ^ 64] := by
    simp [List.range_succ, h]
  simp only [hequal, List.getD_cons_zero, List.getD_cons_succ, ne_eq, not_true_eq_false, if_false]
  exact .done _

end HundunFlow.Proofs
