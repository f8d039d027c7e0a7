import LittleRed.Cluster.Rollout.PlanSpec

/-!
# The partition as a cursor

The gate keeps no state of its own: the partition that one pass emits is the applied
partition of the next. It only falls while the template stays, one ordinal at a time until
the shard has settled, and nothing but the evidence of the three clauses moves it.
-/

namespace LittleRed.Cluster.Rollout

open Lib List

/-- The partition that is stamped, a 32-bit integer, unlike the number of replicas. -/
def emittedPartition (input : ShardRolloutInput) : Option ℤ :=
  (planShardRolloutPartition input).partition.map fun partition => partition.bmod (2 ^ 32)

section Bounds

variable {input : ShardRolloutInput}

/-- The scan leaves the partition alone. -/
theorem scan_partition (input : ShardRolloutInput) (ordinals : List ℕ) (plan : ShardRolloutPlan) :
    (ordinals.foldl (scanOrdinal input) plan).partition = plan.partition := by
  have hrecord : ∀ (plan : ShardRolloutPlan) (reason : ShardRolloutHold) (ordinal : ℕ),
      (plan.recordHold reason ordinal).partition = plan.partition := by
    intro plan reason ordinal
    unfold ShardRolloutPlan.recordHold
    split <;> rfl
  have hstep : ∀ (plan : ShardRolloutPlan) (ordinal : ℕ),
      (scanOrdinal input plan ordinal).partition = plan.partition := by
    intro plan ordinal
    unfold scanOrdinal
    repeat' split
    all_goals first | rfl | exact hrecord plan _ ordinal
  induction ordinals generalizing plan with
  | nil => rfl
  | cons ordinal rest ih => rw [foldl_cons, ih, hstep]

/-- Where the gate puts the cursor of a shard that has replicas. -/
inductive CursorMove (input : ShardRolloutInput) : ShardRolloutVerdict → ℤ → Prop
  | start (hchanged : input.appliedHash ≠ input.desiredHash) : CursorMove input .start input.highestOrdinal
  | complete : CursorMove input .complete 0
  | hold : CursorMove input .hold input.currentPartition
  | advance (habove : 0 < input.currentPartition) :
      CursorMove input .advance ((input.currentPartition : ℤ) - 1)

/-- How the plan moves the cursor. -/
theorem planShardRolloutPartition_cursorMove (hreplicas : 1 ≤ input.replicasPerShard) :
    ∃ partition, (planShardRolloutPartition input).partition = some partition ∧
      CursorMove input (planShardRolloutPartition input).verdict partition := by
  unfold planShardRolloutPartition
  rw [if_neg (by omega : input.replicasPerShard ≠ 0)]
  split
  · rename_i hchanged
    exact ⟨_, rfl, .start hchanged⟩
  · dsimp only
    split
    · exact ⟨_, rfl, .complete⟩
    split
    · exact ⟨_, scan_partition input _ _, .hold⟩
    split
    · rename_i habove
      exact ⟨_, rfl, .advance habove⟩
    · exact ⟨_, scan_partition input _ _, .hold⟩

variable {verdict : ShardRolloutVerdict} {partition : ℤ}

theorem CursorMove.bounds
    (h : CursorMove input verdict partition) : 0 ≤ partition ∧ partition ≤ input.replicasPerShard := by
  have hclamped : input.currentPartition ≤ input.replicasPerShard := currentPartition_le input
  cases h with
  | start => simp [ShardRolloutInput.highestOrdinal]
  | complete | hold | advance => omega

theorem CursorMove.raised (h : CursorMove input verdict partition)
    (hraised : (input.currentPartition : ℤ) < partition) :
    input.appliedHash ≠ input.desiredHash := by
  cases h with
  | start hchanged => exact hchanged
  | complete | hold | advance => omega

/-- It drops by more than one only when the shard is complete. -/
theorem CursorMove.dropped (h : CursorMove input verdict partition)
    (hdropped : partition + 1 < input.currentPartition) :
    verdict = .complete := by
  have hclamped : input.currentPartition ≤ input.highestOrdinal := currentPartition_le input
  cases h with
  | start => omega
  | complete => rfl
  | hold | advance => omega

/-- A number of replicas that fits is stamped as it is. -/
theorem exists_emittedPartition (hreplicas : 1 ≤ input.replicasPerShard)
    (hfits : input.replicasPerShard < 2 ^ 31) :
    ∃ partition, emittedPartition input = some partition ∧
      CursorMove input (planShardRolloutPartition input).verdict partition := by
  obtain ⟨partition, hpartition, hmove⟩ := planShardRolloutPartition_cursorMove hreplicas
  have hbounds := hmove.bounds
  refine ⟨partition, ?_, hmove⟩
  rw [emittedPartition, hpartition, Option.map_some]
  congr 1
  apply Int.bmod_eq_of_le <;> omega

end Bounds

section Sequence

/-- Successive inputs of the gate of one shard: each finds applied what the one before emitted. -/
structure CursorRun (replicasPerShard : ℕ) (inputs : ℕ → ShardRolloutInput) : Prop where
  sized : ∀ n, (inputs n).replicasPerShard = replicasPerShard
  applied : ∀ n, (inputs (n + 1)).appliedPartition = emittedPartition (inputs n)

variable {replicasPerShard : ℕ} {inputs : ℕ → ShardRolloutInput}

/-- The applied value is the emitted one. -/
theorem CursorRun.currentPartition_eq (h : CursorRun replicasPerShard inputs) (hreplicas : 1 ≤ replicasPerShard)
    (hfits : replicasPerShard < 2 ^ 31) (n : ℕ) :
    emittedPartition (inputs n) = some ((inputs (n + 1)).currentPartition : ℤ) := by
  have hsized := h.sized n
  have hnext := h.sized (n + 1)
  obtain ⟨partition, hemitted, hmove⟩ :=
    @exists_emittedPartition (inputs n) (by omega) (by omega)
  have hbounds := hmove.bounds
  rw [hemitted]
  congr 1
  unfold ShardRolloutInput.currentPartition ShardRolloutInput.highestOrdinal
  rw [h.applied n, hemitted, hnext, Option.getD_some]
  dsimp only
  rw [if_neg (by omega)]
  omega

/-- Between template changes the cursor does not rise. -/
theorem CursorRun.currentPartition_le (h : CursorRun replicasPerShard inputs)
    (hreplicas : 1 ≤ replicasPerShard) (hfits : replicasPerShard < 2 ^ 31) {m n : ℕ} (hle : m ≤ n)
    (hsame : ∀ k, m ≤ k → k < n → (inputs k).appliedHash = (inputs k).desiredHash) :
    (inputs n).currentPartition ≤ (inputs m).currentPartition := by
  induction n, hle using Nat.le_induction with
  | base => exact Nat.le_refl _
  | succ n hle ih =>
    have hbefore := ih fun k hm hk => hsame k hm (by omega)
    have hsized := h.sized n
    obtain ⟨partition, hemitted, hmove⟩ :=
      @exists_emittedPartition (inputs n) (by omega) (by omega)
    have hnext := h.currentPartition_eq hreplicas hfits n
    rw [hemitted, Option.some.injEq] at hnext
    have hheld : ¬ ((inputs n).currentPartition : ℤ) < partition := fun hraised =>
      hmove.raised hraised (hsame n hle (Nat.lt_succ_self n))
    omega

end Sequence

section Evidence

/-- The facts of a pod that the three clauses of the gate read. -/
structure PodEvidence where
  ordinal : ℕ
  revision : String
  ready : Bool
  syncedWithOwner : Bool
  deriving DecidableEq

/-- A pod without what only the report of a stall reads. -/
def ShardRolloutPod.evidence (pod : ShardRolloutPod) : PodEvidence :=
  ⟨pod.ordinal, pod.revision, pod.ready, pod.syncedWithOwner⟩

/-- The inputs differ at most in the clock, in what only a stall report reads, and in the order of the
pods. -/
structure SameEvidence (input input' : ShardRolloutInput) : Prop where
  rest : { input' with pods := input.pods, now := input.now } = input
  pods : input.pods.map ShardRolloutPod.evidence = input'.pods.map ShardRolloutPod.evidence ∨
    (input.pods.map ShardRolloutPod.ordinal).Nodup ∧
      (input.pods.map ShardRolloutPod.evidence).Perm (input'.pods.map ShardRolloutPod.evidence)

variable {input input' : ShardRolloutInput}

/-- The evidence of an ordinal. -/
theorem lookup_byOrdinal_evidence (input : ShardRolloutInput) (ordinal : ℕ) :
    (input.byOrdinal.lookup ordinal).map ShardRolloutPod.evidence =
      (GoMap.ofPairs ((input.pods.map ShardRolloutPod.evidence).map fun evidence =>
        (evidence.ordinal, evidence))).lookup ordinal := by
  unfold ShardRolloutInput.byOrdinal
  rw [← GoMap.lookup_ofPairs_map, map_map, map_map]
  rfl

theorem SameEvidence.lookup (h : SameEvidence input input') (ordinal : ℕ) :
    (input.byOrdinal.lookup ordinal).map ShardRolloutPod.evidence =
      (input'.byOrdinal.lookup ordinal).map ShardRolloutPod.evidence := by
  rw [lookup_byOrdinal_evidence, lookup_byOrdinal_evidence]
  rcases h.pods with hequal | ⟨hnodup, hperm⟩
  · rw [hequal]
  · apply GoMap.lookup_ofPairs_perm
    · simpa [Function.comp_def, ShardRolloutPod.evidence] using hnodup
    · exact hperm.map _

/-- The plan without its report of stalls. -/
def ShardRolloutPlan.withoutReport (plan : ShardRolloutPlan) : ShardRolloutPlan :=
  { plan with blocked := false, blockedPods := [] }

/-- A hold beside the report. -/
theorem recordHold_withoutReport (plan : ShardRolloutPlan) (reason : ShardRolloutHold) (ordinal : ℕ) :
    (plan.recordHold reason ordinal).withoutReport = plan.withoutReport.recordHold reason ordinal := by
  unfold ShardRolloutPlan.recordHold ShardRolloutPlan.withoutReport
  dsimp only
  split <;> rfl

/-- What examining one ordinal adds to a plan apart from the report, from the evidence alone. -/
def scanEvidence (updateRevision : String) (plan : ShardRolloutPlan) (ordinal : ℕ) :
    Option PodEvidence → ShardRolloutPlan
  | none => plan.recordHold .podAbsent ordinal
  | some evidence =>
    if updateRevision = "" ∨ evidence.revision ≠ updateRevision then plan.recordHold .revision ordinal
    else if !evidence.ready then plan.recordHold .readiness ordinal
    else if !evidence.syncedWithOwner then plan.recordHold .redundancy ordinal
    else plan

/-- The scan reads evidence only. -/
theorem scanOrdinal_withoutReport (input : ShardRolloutInput) (plan : ShardRolloutPlan) (ordinal : ℕ) :
    (scanOrdinal input plan ordinal).withoutReport =
      scanEvidence input.updateRevision plan.withoutReport ordinal
        ((input.byOrdinal.lookup ordinal).map ShardRolloutPod.evidence) := by
  unfold scanOrdinal
  cases input.byOrdinal.lookup ordinal with
  | none => exact recordHold_withoutReport plan _ ordinal
  | some pod =>
    simp only [Option.map_some, scanEvidence, ShardRolloutPod.evidence]
    split
    · exact recordHold_withoutReport plan _ ordinal
    split
    · exact recordHold_withoutReport plan _ ordinal
    split
    -- a stalled pod is only added to the report
    · split <;> exact recordHold_withoutReport plan _ ordinal
    · rfl

theorem SameEvidence.scan (h : SameEvidence input input') (ordinals : List ℕ)
    {plan plan' : ShardRolloutPlan} (hplan : plan.withoutReport = plan'.withoutReport) :
    (ordinals.foldl (scanOrdinal input) plan).withoutReport =
      (ordinals.foldl (scanOrdinal input') plan').withoutReport := by
  have hrevision : input.updateRevision = input'.updateRevision := by
    rw [← h.rest]
  induction ordinals generalizing plan plan' with
  | nil => exact hplan
  | cons ordinal rest ih =>
    rw [foldl_cons, foldl_cons]
    apply ih
    rw [scanOrdinal_withoutReport, scanOrdinal_withoutReport, hplan, hrevision, h.lookup]

/-- The plan of a gated shard whose template is applied and not settled, after the scan. -/
def concludeScan (partition : ℕ) (scanned : ShardRolloutPlan) : ShardRolloutPlan :=
  if scanned.hold ≠ .none then { scanned with verdict := .hold }
  else if 0 < partition then
    { scanned with verdict := .advance, partition := some ((partition : ℤ) - 1) }
  else { scanned with verdict := .hold, hold := .settling }

/-- The conclusion beside the report. -/
theorem concludeScan_withoutReport (partition : ℕ) (scanned : ShardRolloutPlan) :
    (concludeScan partition scanned).withoutReport = concludeScan partition scanned.withoutReport := by
  unfold concludeScan ShardRolloutPlan.withoutReport
  dsimp only
  split
  · rfl
  · split <;> rfl

theorem SameEvidence.plan (h : SameEvidence input input') :
    (planShardRolloutPartition input).withoutReport = (planShardRolloutPartition input').withoutReport := by
  have hscan := h.scan input.gatedOrdinals (rfl : (⟨.hold, some input.currentPartition, .none, -1, false,
    []⟩ : ShardRolloutPlan).withoutReport = _)
  have hconclude := congrArg (concludeScan input.currentPartition) hscan
  rw [← concludeScan_withoutReport, ← concludeScan_withoutReport] at hconclude
  rw [← h.rest] at hconclude ⊢
  unfold planShardRolloutPartition
  dsimp only
  split
  · rfl
  split
  · rfl
  split
  · rfl
  · exact hconclude

end Evidence

/-- A number of replicas that fits keeps the cursor within the ordinals; it rises only for a new
template, drops by more than one only when the shard settled, never rises along a run between changes,
and depends on evidence only. -/
theorem cursor_monotone_of_evidence :
    (∀ input : ShardRolloutInput, 1 ≤ input.replicasPerShard → input.replicasPerShard < 2 ^ 31 →
      ∃ partition, emittedPartition input = some partition ∧
        (0 ≤ partition ∧ partition ≤ input.replicasPerShard) ∧
        ((input.currentPartition : ℤ) < partition → input.appliedHash ≠ input.desiredHash) ∧
        (partition + 1 < input.currentPartition → (planShardRolloutPartition input).verdict = .complete)) ∧
    (∀ (replicasPerShard : ℕ) (inputs : ℕ → ShardRolloutInput), CursorRun replicasPerShard inputs →
      1 ≤ replicasPerShard → replicasPerShard < 2 ^ 31 →
      (∀ n, emittedPartition (inputs n) = some ((inputs (n + 1)).currentPartition : ℤ)) ∧
      ∀ m n, m ≤ n → (∀ k, m ≤ k → k < n → (inputs k).appliedHash = (inputs k).desiredHash) →
        (inputs n).currentPartition ≤ (inputs m).currentPartition) ∧
    ∀ input input' : ShardRolloutInput, SameEvidence input input' →
      emittedPartition input = emittedPartition input' ∧
      (planShardRolloutPartition input).verdict = (planShardRolloutPartition input').verdict ∧
      (planShardRolloutPartition input).hold = (planShardRolloutPartition input').hold ∧
      (planShardRolloutPartition input).holdPod = (planShardRolloutPartition input').holdPod := by
  refine ⟨?_, ?_, ?_⟩
  · intro input hreplicas hfits
    obtain ⟨partition, hemitted, hmove⟩ := exists_emittedPartition hreplicas hfits
    exact ⟨partition, hemitted, hmove.bounds, hmove.raised, hmove.dropped⟩
  · intro replicasPerShard inputs hrun hreplicas hfits
    exact ⟨hrun.currentPartition_eq hreplicas hfits,
      fun m n hle hsame => hrun.currentPartition_le hreplicas hfits hle hsame⟩
  · intro input input' hsame
    have hplan := hsame.plan
    simp only [ShardRolloutPlan.withoutReport, ShardRolloutPlan.mk.injEq] at hplan
    obtain ⟨hverdict, hpartition, hhold, hpod, -, -⟩ := hplan
    exact ⟨by rw [emittedPartition, emittedPartition, hpartition], hverdict, hhold, hpod⟩

/-- A pod that was replaced. -/
def rolledPod (ordinal : ℕ) (synced : Bool) (readySince : Option ℤ) : ShardRolloutPod :=
  ⟨ordinal, "new", true, readySince, false, synced, false⟩

/-- A shard in the middle of a rollout. -/
def rollingInput (now : ℤ) (pods : List ShardRolloutPod) : ShardRolloutInput :=
  ⟨0, 2, "t2", "t2", 2, 2, "new", "old", some 2, pods, now⟩

/-- At another time and in another order a stall is reported, and both hold the cursor. -/
theorem cursor_same_at_stall :
    let early := rollingInput 10 [rolledPod 1 true none, rolledPod 2 false (some 0)]
    let late := rollingInput 500 [rolledPod 2 false (some 0), rolledPod 1 true (some 3)]
    (planShardRolloutPartition early).blocked = false ∧ (planShardRolloutPartition late).blocked = true ∧
      emittedPartition early = emittedPartition late ∧
      ∃ partition, emittedPartition early = some partition ∧ 0 ≤ partition ∧ partition ≤ 2 := by
  intro early late
  have hsame : SameEvidence early late := ⟨rfl, .inr ⟨by decide, by decide⟩⟩
  obtain ⟨partition, hemitted, hbounds, -⟩ := cursor_monotone_of_evidence.1 early (by decide) (by decide)
  exact ⟨by decide, by decide, (cursor_monotone_of_evidence.2.2 early late hsame).1, partition, hemitted,
    hbounds⟩

/-- A shard with a new template. -/
def startingInput (replicasPerShard : ℕ) : ShardRolloutInput :=
  ⟨0, replicasPerShard, "t2", "t1", 1, 1, "old", "old", none, [], 0⟩

/-- A number of replicas beyond the 32-bit field stamps a negative partition at the start. -/
theorem cursor_negative_at_wide_shard :
    ∃ partition, emittedPartition (startingInput 2147483648) = some partition ∧ ¬ 0 ≤ partition := by
  refine ⟨(2147483648 : ℤ).bmod (2 ^ 32), ?_, by decide⟩
  rw [emittedPartition, planShardRolloutPartition_of_changed (by simp [startingInput]) (by decide)]
  rfl

end LittleRed.Cluster.Rollout
