import LittleRed.Replication.Consensus
import LittleRed.Replication.QuarantineRun

/-!
# The cooldowns of the recoveries over runs

Two rules break a deadlock by electing a master: one when no Sentinel monitors anything, one when the
Sentinels are stuck with a master that is gone. Each waits until its signature has persisted for a cooldown,
measured by a marker in the status. A pass may end before it gets to the markers, and it decides on the
status in its cache. A marker stands for an unbroken signature as long as every pass reads it as stored and
every pass without the signature gets to clear it.
-/

namespace LittleRed.Replication.Recovery

open Lib List Option

inductive Rule where
  | leaderless
  | ghostMaster

/-- How long bare Sentinels are waited for, in nanoseconds. -/
def leaderlessRecoveryCooldown : ℤ := 30 * 1000000000

/-- How long Sentinels that are stuck are waited for, in nanoseconds. -/
def ghostMasterRecoveryCooldown : ℤ := 30 * 1000000000

/-- How long the signature has to persist. -/
def Rule.cooldown : Rule → ℤ
  | .leaderless => leaderlessRecoveryCooldown
  | .ghostMaster => ghostMasterRecoveryCooldown

/-- What the rule looks for. -/
def Rule.signature (rule : Rule) (state : ReplicationState) (quorum : ℤ) : Bool :=
  match rule with
  | .leaderless => state.allSentinelsBare.1 && decide (quorum ≤ state.allSentinelsBare.2)
  | .ghostMaster => state.sentinelsMonitorGhostMaster && !state.hasHealthyKnownReplica &&
      decide (quorum ≤ state.reachableSentinels)

/-- What the rule decides. -/
def Rule.plan (rule : Rule) (state : ReplicationState) (quorum : ℤ) (allowUnsafe : Bool)
    (bootstrapMasterIP : String) (since : Option ℤ) (now : ℤ) : LeaderlessPlan :=
  match rule with
  | .leaderless => planLeaderlessRecovery state quorum allowUnsafe bootstrapMasterIP since now
      leaderlessRecoveryCooldown
  | .ghostMaster => planGhostMasterRecovery state quorum allowUnsafe bootstrapMasterIP since now
      ghostMasterRecoveryCooldown

/-- A Sentinel monitors another address than the living consensus master. -/
def wrongMaster (state : ReplicationState) (sn : SentinelNodeState) : Bool :=
  state.realMasterIP != "" && (state.isGhost sn.masterIP || sn.masterIP != state.realMasterIP) &&
    !state.isGhost state.realMasterIP && (state.redisNodes.lookup state.realMasterIP).any (·.reachable)

/-- A Sentinel holds a replica for down that is gone. -/
def ghostReplica (state : ReplicationState) (sn : SentinelNodeState) : Bool :=
  sn.replicas.any fun replica => state.isGhost replica.ip && flaggedDown replica.flags

/-- The loop over the Sentinels corrects one. It ends early at a Sentinel that knows a ghost. -/
def ghostMasterFound (state : ReplicationState) : List SentinelNodeState → Bool
  | [] => false
  | sn :: rest =>
    if !sn.reachable || !sn.monitoring then ghostMasterFound state rest
    else if wrongMaster state sn then true
    else if ghostReplica state sn then false
    else ghostMasterFound state rest

/-- What the pass reads and writes; markers are read back as times are stored. -/
structure Status where
  capture : Quarantine.Status
  since : Rule → Option ℤ

/-- The status in the cache, the readings of the clock, what is seen, the spec, and how calls end. -/
structure PassInput where
  read : Status
  desiredAt : ℤ
  gatheredAt : ℤ
  now : ℤ
  capturedAt : ℤ
  plannedAt : Rule → ℤ
  markedAt : Rule → ℤ
  endedAt : ℤ
  sight : Quarantine.Sight
  sentinelOrder : RangeOrder SentinelNodeState
  anyTerminating : Bool
  quorum : ℤ
  allowUnsafe : Bool
  bootstrapMasterIP : String
  captureWritten : Bool
  elected : Rule → Bool
  markerWritten : Rule → Bool

/-- The clock is read in the order of the pass. -/
def PassInput.Ordered (input : PassInput) : Prop :=
  input.desiredAt ≤ input.gatheredAt ∧ input.gatheredAt ≤ input.now ∧ input.now ≤ input.capturedAt ∧
    input.capturedAt ≤ input.plannedAt .leaderless ∧
    input.plannedAt .leaderless ≤ input.markedAt .leaderless ∧
    input.markedAt .leaderless ≤ input.plannedAt .ghostMaster ∧
    input.plannedAt .ghostMaster ≤ input.markedAt .ghostMaster ∧
    input.markedAt .ghostMaster ≤ input.endedAt

instance (input : PassInput) : Decidable input.Ordered := inferInstanceAs (Decidable (_ ∧ _))

/-- When a pass gathered, which signatures it saw, and which rules elected a master. -/
structure Observation where
  gatheredAt : ℤ
  signature : Rule → Bool
  election : Rule → Option ℤ

/-- The status, the time at which the last pass ended, and the passes, the newest first. -/
structure State where
  status : Status
  clock : ℤ
  log : List Observation

inductive Label where
  | pass (input : PassInput)
  | writePhase (running : Bool)

section Pass

variable (dangerous : Bool) (time : StoredTime)

/-- What the pass decides about a capture and a quarantine. -/
def captureOf (stored : Status) (input : PassInput) : Quarantine.PassRecord :=
  Quarantine.pass dangerous time input.read.capture stored.capture input.desiredAt input.now input.capturedAt
    input.sight input.captureWritten

/-- The pass gets to the markers: nothing ends it before. -/
def reachesMarkers (stored : Status) (input : PassInput) : Bool :=
  let capture := captureOf dangerous time stored input
  let state := input.sight.state
  !capture.plan.scaleToZero && !capture.verdict.forsaken && !input.anyTerminating &&
    !state.failoverProgressing &&
    !ghostMasterFound state (input.sentinelOrder.reorder state.sentinelNodes.values)

/-- What a rule decides on the status that was read. -/
def planOf (input : PassInput) (rule : Rule) : LeaderlessPlan :=
  rule.plan input.sight.state input.quorum input.allowUnsafe input.bootstrapMasterIP
    ((input.read.since rule).map time.stored) (input.plannedAt rule)

/-- A known master clears the marker, else the plan decides; nothing unread is cleared, and a set
marker stays. -/
def markerAfter (stored : Status) (input : PassInput) (rule : Rule) : Option ℤ :=
  let since := stored.since rule
  let cleared := if (input.read.since rule).isSome && input.markerWritten rule then none else since
  if input.sight.state.realMasterIP = "" then
    match (planOf time input rule).action with
    | .clearMarker => cleared
    | .startCooldown => if input.markerWritten rule then since.or (some (input.markedAt rule)) else since
    | .wait | .refuse | .refuseUnverified => since
    | .seedNoData | .promoteSurvivor | .unsafeElect => if input.elected rule then cleared else since
  else cleared

/-- The decision of a rule to elect a master, with its time. -/
def electionOf (stored : Status) (input : PassInput) (rule : Rule) : Option ℤ :=
  if reachesMarkers dangerous time stored input ∧ input.sight.state.realMasterIP = "" ∧
      (planOf time input rule).action.electsMaster then some (input.plannedAt rule)
  else none

/-- A pass, or a write of the phase. -/
def step (s : State) : Label → Option State
  | .pass input =>
    if s.clock ≤ input.desiredAt ∧ input.Ordered then
      some {
        status := {
          capture := (captureOf dangerous time s.status input).after
          since := fun rule =>
            if reachesMarkers dangerous time s.status input then markerAfter time s.status input rule
            else s.status.since rule }
        clock := input.endedAt
        log := {
          gatheredAt := input.gatheredAt
          signature := fun rule => rule.signature input.sight.state input.quorum
          election := electionOf dangerous time s.status input } :: s.log }
    else none
  | .writePhase running =>
    some { s with status := { s.status with capture := { s.status.capture with running := running } } }

/-- Runs of an instance that was in no deadlock before. -/
def recoverySystem : System State Label where
  initial s := s.status.since = (fun _ => none) ∧ s.log = []
  step := step dangerous time

end Pass

/-- Before every election the signature was there on each pass of the cooldown. -/
def Continuous (rule : Rule) (log : List Observation) : Prop :=
  ∀ recent o earlier, log = recent ++ o :: earlier → ∀ now, o.election rule = some now →
    ∀ p ∈ o :: earlier, now - p.gatheredAt < rule.cooldown → p.signature rule = true

/-- The marker is read as stored, storing it does not decide the cooldown, and a pass without the
signature gets to clear it. -/
def WatchedBy (dangerous : Bool) (time : StoredTime) (stored : Status) (input : PassInput)
    (rule : Rule) : Prop :=
  input.read.since rule = stored.since rule ∧ ∀ t ∈ stored.since rule,
    (rule.cooldown ≤ input.plannedAt rule - time.stored t → rule.cooldown ≤ input.plannedAt rule - t) ∧
      (rule.signature input.sight.state input.quorum = false →
        reachesMarkers dangerous time stored input = true ∧ input.markerWritten rule = true)

instance (dangerous : Bool) (time : StoredTime) (stored : Status) (input : PassInput) (rule : Rule) :
    Decidable (WatchedBy dangerous time stored input rule) :=
  inferInstanceAs (Decidable (_ ∧ ∀ t ∈ stored.since rule, _))

/-- The condition on a step: a pass watches both markers. -/
def Watched (dangerous : Bool) (time : StoredTime) (s : State) : Label → Prop
  | .pass input => ∀ rule, WatchedBy dangerous time s.status input rule
  | .writePhase _ => True

instance (dangerous : Bool) (time : StoredTime) (s : State) (a : Label) :
    Decidable (Watched dangerous time s a) :=
  match a with
  | .pass input =>
    decidable_of_iff (WatchedBy dangerous time s.status input .leaderless ∧
        WatchedBy dangerous time s.status input .ghostMaster)
      ⟨fun ⟨hbare, hghost⟩ rule => by cases rule <;> assumption, fun h => ⟨h _, h _⟩⟩
  | .writePhase _ => .isTrue trivial

section Plans

variable {rule : Rule} {state : ReplicationState} {quorum : ℤ} {allowUnsafe : Bool}
  {bootstrapMasterIP : String} {since : Option ℤ} {now : ℤ}

/-- Without the signature the plan clears the marker. -/
theorem plan_of_no_signature (h : rule.signature state quorum = false) :
    (rule.plan state quorum allowUnsafe bootstrapMasterIP since now).action = .clearMarker := by
  cases rule with
  | leaderless =>
    have hdetect :
        (!state.allSentinelsBare.1 || decide ((state.allSentinelsBare.2 : ℤ) < quorum)) = true := by
      simp only [Rule.signature, Bool.and_eq_false_iff, decide_eq_false_iff_not, Int.not_le] at h
      simpa using h
    simp only [Rule.plan, planLeaderlessRecovery, hdetect, if_true]
  | ghostMaster =>
    simp only [Rule.signature, Bool.and_eq_false_iff, Bool.not_eq_false', decide_eq_false_iff_not,
      Int.not_le] at h
    simp only [Rule.plan, planGhostMasterRecovery]
    rcases h with (hghost | hhealthy) | hquorate
    · rw [if_pos (by simp [hghost])]
    · rw [if_pos (by simp [hhealthy])]
    · split <;> rfl

/-- An election needs the signature and the cooldown. -/
theorem plan_elects
    (h : (rule.plan state quorum allowUnsafe bootstrapMasterIP since now).action.electsMaster = true) :
    rule.signature state quorum = true ∧ ∃ t, since = some t ∧ rule.cooldown ≤ now - t := by
  have hsignature : rule.signature state quorum = true := by
    by_contra hnone
    rw [plan_of_no_signature (Bool.not_eq_true _ ▸ hnone)] at h
    cases h
  refine ⟨hsignature, ?_⟩
  cases rule with
  | leaderless =>
    simp only [Rule.plan, planLeaderlessRecovery] at h
    split at h
    · cases h
    · exact ((recoverAfterCooldown_iff RecoveryAction.electsMaster rfl rfl rfl _ _ _ _ _).mp h).1
  | ghostMaster =>
    simp only [Rule.plan, planGhostMasterRecovery] at h
    split at h
    · cases h
    split at h
    · cases h
    · exact ((recoverAfterCooldown_iff RecoveryAction.electsMaster rfl rfl rfl _ _ _ _ _).mp h).1

end Plans

section Pass

variable {dangerous : Bool} {time : StoredTime} {stored : Status} {input : PassInput} {rule : Rule}

/-- A marker after a pass is the one before it or a new one. -/
theorem markerAfter_eq_some {t : ℤ} (h : markerAfter time stored input rule = some t) :
    stored.since rule = some t ∨ t = input.markedAt rule := by
  have hcleared : (if (input.read.since rule).isSome && input.markerWritten rule then none
      else stored.since rule) = some t → stored.since rule = some t := by
    intro hsome
    split at hsome
    · cases hsome
    · exact hsome
  simp only [markerAfter] at h
  split at h
  · split at h
    · exact .inl (hcleared h)
    · split at h
      · cases hsince : stored.since rule with
        | none =>
          rw [hsince] at h
          exact .inr (Option.some.inj h).symm
        | some t' =>
          rw [hsince] at h
          exact .inl h
      · exact .inl h
    · exact .inl h
    · exact .inl h
    · exact .inl h
    all_goals
      split at h
      · exact .inl (hcleared h)
      · exact .inl h
  · exact .inl (hcleared h)

/-- A pass without the signature clears a marker that it has read. -/
theorem markerAfter_of_no_signature (hnone : rule.signature input.sight.state input.quorum = false)
    (hread : (input.read.since rule).isSome = true) (hwritten : input.markerWritten rule = true) :
    markerAfter time stored input rule = none := by
  have hclear : (planOf time input rule).action = .clearMarker := plan_of_no_signature hnone
  simp only [markerAfter, hclear, hread, hwritten, Bool.and_self, if_true, ite_self]

/-- A rule elects only with its signature and a marker, as it was read, that is old enough. -/
theorem electionOf_eq_some {now : ℤ} (h : electionOf dangerous time stored input rule = some now) :
    now = input.plannedAt rule ∧ rule.signature input.sight.state input.quorum = true ∧
      ∃ t, input.read.since rule = some t ∧ rule.cooldown ≤ now - time.stored t := by
  rw [electionOf] at h
  obtain ⟨hplanned, rfl⟩ := of_ite_some h
  obtain ⟨hsignature, at', hstored, hcooled⟩ := plan_elects hplanned.2.2
  obtain ⟨t, ht, rfl⟩ := map_eq_some_iff.mp hstored
  exact ⟨rfl, hsignature, t, ht, hcooled⟩

end Pass

/-- The passes are in the past, and a marker stands for the signature on every pass since. -/
structure Marked (s : State) : Prop where
  past : ∀ p ∈ s.log, p.gatheredAt ≤ s.clock
  persisted : ∀ rule t, s.status.since rule = some t →
    ∀ p ∈ s.log, t < p.gatheredAt → p.signature rule = true
  continuous : ∀ rule, Continuous rule s.log

section Step

variable {dangerous : Bool} {time : StoredTime} {s s' : State} {input : PassInput} {rule : Rule}

theorem PassInput.Ordered.gathered_le (h : input.Ordered) (rule : Rule) :
    input.gatheredAt ≤ input.markedAt rule ∧ input.gatheredAt ≤ input.endedAt := by
  simp only [PassInput.Ordered] at h
  cases rule <;> omega

/-- A pass keeps what the marker stands for. -/
theorem Marked.persisted_pass (h : Marked s) (hwatched : Watched dangerous time s (.pass input))
    (hclock : s.clock ≤ input.gatheredAt) (hordered : input.Ordered) {o : Observation}
    (hgathered : o.gatheredAt = input.gatheredAt)
    (hsignature : o.signature rule = rule.signature input.sight.state input.quorum) {t : ℤ}
    (hafter : (if reachesMarkers dangerous time s.status input then markerAfter time s.status input rule
      else s.status.since rule) = some t) :
    ∀ p ∈ o :: s.log, t < p.gatheredAt → p.signature rule = true := by
  have hmarker : s.status.since rule = some t ∨ t = input.markedAt rule := by
    split at hafter
    · exact markerAfter_eq_some hafter
    · exact .inl hafter
  rcases hmarker with hsince | rfl
  · intro p hp hlt
    rcases mem_cons.mp hp with rfl | hp
    · -- A pass without the signature would have cleared the marker.
      rw [hsignature]
      by_contra hnone
      rw [Bool.not_eq_true] at hnone
      obtain ⟨hreaches, hwritten⟩ := ((hwatched rule).2 t hsince).2 hnone
      have hread : (input.read.since rule).isSome = true := by rw [(hwatched rule).1, hsince]; rfl
      rw [if_pos hreaches, markerAfter_of_no_signature hnone hread hwritten] at hafter
      cases hafter
    · exact h.persisted rule t hsince p hp hlt
  · -- A marker that the pass sets is newer than every gather.
    intro p hp hlt
    have hle : p.gatheredAt ≤ input.gatheredAt := by
      rcases mem_cons.mp hp with rfl | hp
      · exact hgathered.le
      · exact (h.past p hp).trans hclock
    exact absurd hlt (not_lt.mpr (hle.trans (hordered.gathered_le rule).1))

/-- An election of the pass is continuous. -/
theorem Marked.continuous_pass (h : Marked s) (hwatched : Watched dangerous time s (.pass input))
    {o : Observation} (hsignature : o.signature rule = rule.signature input.sight.state input.quorum)
    (helection : o.election rule = electionOf dangerous time s.status input rule) :
    Continuous rule (o :: s.log) := by
  intro recent e earlier hlog now hnow p hp hrecent
  cases recent with
  | nil =>
    obtain ⟨rfl, rfl⟩ := List.cons.inj hlog
    obtain ⟨rfl, hsigned, t, hread, hstored⟩ := electionOf_eq_some (helection ▸ hnow)
    have hsince := (hwatched rule).1.symm.trans hread
    rcases mem_cons.mp hp with rfl | hp
    · rw [hsignature, hsigned]
    · have hcooled := ((hwatched rule).2 t hsince).1 hstored
      exact h.persisted rule t hsince p hp (by omega)
  | cons first recent =>
    obtain ⟨-, hlog⟩ := List.cons.inj hlog
    exact h.continuous rule recent e earlier hlog now hnow p hp hrecent

/-- Every step keeps the invariant. -/
theorem Marked.step (h : Marked s) {a : Label} (hwatched : Watched dangerous time s a)
    (hstep : (recoverySystem dangerous time).step s a = some s') : Marked s' := by
  cases a with
  | pass input =>
    simp only [recoverySystem, Recovery.step] at hstep
    split at hstep
    · rename_i hclock
      obtain ⟨hclock, hordered⟩ := hclock
      cases hstep
      have hgathered : s.clock ≤ input.gatheredAt := hclock.trans hordered.1
      have hended := (hordered.gathered_le .leaderless).2
      refine ⟨?_, fun rule t => h.persisted_pass hwatched hgathered hordered rfl rfl,
        fun rule => h.continuous_pass hwatched rfl rfl⟩
      intro p hp
      rcases mem_cons.mp hp with rfl | hp
      · exact hended
      · exact ((h.past p hp).trans hgathered).trans hended
    · cases hstep
  | writePhase running =>
    cases hstep
    exact ⟨h.past, h.persisted, h.continuous⟩

/-- With watched markers a rule elects only if its signature was there on every pass of the
cooldown. -/
theorem recoveries_continuous (dangerous : Bool) (time : StoredTime) (s : State)
    (hreach : (recoverySystem dangerous time).Reachable (Watched dangerous time) s) :
    Continuous .leaderless s.log ∧ Continuous .ghostMaster s.log := by
  have hmarked : Marked s := by
    refine hreach.invariant Marked ?_ fun s a s' h hwatched hstep => h.step hwatched hstep
    rintro s ⟨hsince, hlog⟩
    refine ⟨?_, ?_, ?_⟩
    · rw [hlog]
      exact forall_mem_nil _
    · rw [hlog]
      exact fun _ _ _ => forall_mem_nil _
    · rw [hlog]
      intro rule recent o earlier hnil
      cases recent <;> cases hnil
  exact ⟨hmarked.continuous .leaderless, hmarked.continuous .ghostMaster⟩

end Step

section Examples

/-- One Redis pod, and two Sentinels that monitor an address or are bare. -/
def sightOf (rn : RedisNodeState) (masterIP : Option String) (flags : String) : Quarantine.Sight where
  state := determineRealMaster .asGiven
    { redisNodes := GoMap.ofPairs [(rn.ip, rn)]
      sentinelNodes := GoMap.ofPairs (["10.0.0.20", "10.0.0.21"].map fun ip =>
        (ip, { sentinelAt ip masterIP with masterFlags := flags }))
      liveTopologyIPs := [rn.ip, "10.0.0.20", "10.0.0.21"] }
  rolling := false
  redisReady := ∅

def bareSight : Quarantine.Sight := sightOf (silentNode "lr-redis-0" "10.0.0.10" .unroutable) none ""

/-- The Sentinels monitor an address that is gone. -/
def stuckSight : Quarantine.Sight :=
  sightOf (silentNode "lr-redis-0" "10.0.0.10" .unroutable) (some "10.0.0.9") "s_down,master"

def servedSight : Quarantine.Sight :=
  sightOf ⟨"lr-redis-0", "10.0.0.10", "master", "", "", 0, 0, "", "", true, .ok⟩ (some "10.0.0.10") "master"

/-- A pass that reads the stored status, all at one time. -/
def passAt (seconds : ℤ) (sight : Quarantine.Sight) (anyTerminating : Bool) : State → Label :=
  let t := seconds * 1000000000
  fun s => .pass {
    read := s.status
    desiredAt := t
    gatheredAt := t
    now := t
    capturedAt := t
    plannedAt := fun _ => t
    markedAt := fun _ => t
    endedAt := t
    sight := sight
    sentinelOrder := .asGiven
    anyTerminating := anyTerminating
    quorum := 2
    allowUnsafe := false
    bootstrapMasterIP := "10.0.0.10"
    captureWritten := true
    elected := fun _ => true
    markerWritten := fun _ => true }

def untroubled : State := ⟨⟨⟨none, none, 0, true, false⟩, fun _ => none⟩, 0, []⟩

theorem untroubled_initial (dangerous : Bool) (time : StoredTime) :
    (recoverySystem dangerous time).initial untroubled := ⟨rfl, rfl⟩

/-- The signature comes back and persists. -/
def persistent (sight : Quarantine.Sight) : List (State → Label) :=
  [passAt 0 sight false, passAt 10 servedSight false, passAt 31 sight false, passAt 45 sight true,
    passAt 61 sight false]

/-- Each rule elects a master only after the second, unbroken deadlock. -/
theorem persistent_recovered :
    ∃ bare stuck, (recoverySystem false .wholeSeconds).driveIf (Watched false .wholeSeconds) untroubled
          (persistent bareSight) = some bare ∧
        (recoverySystem false .wholeSeconds).driveIf (Watched false .wholeSeconds) untroubled
          (persistent stuckSight) = some stuck ∧
        (bare.log.map (·.election .leaderless) = [some 61000000000, none, none, none, none] ∧
          Continuous .leaderless bare.log) ∧
        (stuck.log.map (·.election .ghostMaster) = [some 61000000000, none, none, none, none] ∧
          Continuous .ghostMaster stuck.log) :=
  ⟨_, _, (some_get (by decide)).symm, (some_get (by decide)).symm,
    ⟨by decide, (recoveries_continuous _ _ _ (.of_moves (untroubled_initial _ _) (by decide))).1⟩,
    ⟨by decide, (recoveries_continuous _ _ _ (.of_moves (untroubled_initial _ _) (by decide))).2⟩⟩

/-- A pass without the signature within the cooldown breaks continuity. -/
theorem not_continuous {rule : Rule} {o p : Observation} {earlier : List Observation} {now : ℤ}
    (helected : o.election rule = some now) (hrecent : now - p.gatheredAt < rule.cooldown)
    (hnone : p.signature rule = false) : ¬Continuous rule (o :: p :: earlier) := by
  intro h
  have hsignature := h [] o (p :: earlier) rfl now helected p (by simp) hrecent
  rw [hnone] at hsignature
  cases hsignature

/-- A pass that sees the master ends before the markers. -/
def interrupted (sight : Quarantine.Sight) : Option State :=
  (recoverySystem false .wholeSeconds).driveIf System.anyStep untroubled
    [passAt 0 sight false, passAt 10 servedSight true, passAt 31 sight false]

theorem interrupted_reachable {sight : Quarantine.Sight} {s : State} (h : interrupted sight = some s) :
    (recoverySystem false .wholeSeconds).Reachable System.anyStep s :=
  .of_driveIf (.initial (untroubled_initial _ _)) h

/-- The marker survives that pass, and each rule elects at once when the deadlock is back. -/
theorem interrupted_recovered :
    ∃ bare stuck, (recoverySystem false .wholeSeconds).Reachable System.anyStep bare ∧
        (recoverySystem false .wholeSeconds).Reachable System.anyStep stuck ∧
        ¬Continuous .leaderless bare.log ∧ ¬Continuous .ghostMaster stuck.log :=
  ⟨(interrupted bareSight).get (by decide), (interrupted stuckSight).get (by decide),
    interrupted_reachable (some_get _).symm, interrupted_reachable (some_get _).symm,
    not_continuous rfl (by decide) (by decide), not_continuous rfl (by decide) (by decide)⟩

end Examples

end LittleRed.Replication.Recovery
