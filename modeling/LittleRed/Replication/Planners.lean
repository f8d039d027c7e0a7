import LittleRed.Replication.State

/-!
# The recovery planners

The pure decisions of who becomes master: `planFailover` in failover mode, `planLeaderlessRecovery` when no
Sentinel monitors anything, `planGhostMasterRecovery` when they monitor an address that is gone; and
`quarantineDataRisk`, whether the pods of a captured instance may be taken away.
-/

namespace LittleRed.Replication

open Lib

/-- What `planFailover` decides to do. -/
inductive FailoverAction where
  | none
  | wait
  | seed
  | promote
  | refuse
  | unsafeElect
  | refuseUnverified
  deriving DecidableEq

/-- What the two planners of sentinel mode decide to do. -/
inductive RecoveryAction where
  | clearMarker
  | startCooldown
  | wait
  | seedNoData
  | promoteSurvivor
  | refuse
  | unsafeElect
  | refuseUnverified
  deriving DecidableEq

/-- A decision: the pod to elect, and what the message about it names. -/
structure ElectionPlan (Action : Type) where
  action : Action
  masterIP : String := ""
  diverged : Bool := false
  forked : Bool := false
  holders : ℕ := 0
  unverified : List RedisNodeState := []
  deriving DecidableEq

abbrev FailoverPlan := ElectionPlan FailoverAction

abbrev LeaderlessPlan := ElectionPlan RecoveryAction

/-- Start from the bootstrap candidate without keys, else take the most complete holder unless that
discards writes; the parameters are the planner's actions. -/
def electByHolders {Action : Type} (wait seed promote refuse unsafeElect : Action)
    (state : ReplicationState) (allowUnsafe : Bool) (bootstrapMasterIP : String) :
    ElectionPlan Action :=
  let holders := state.dataHolders.length
  if holders = 0 then
    if bootstrapMasterIP = "" then { action := wait }
    else { action := seed, masterIP := bootstrapMasterIP }
  else
    match state.bestDataHolder with
    | (none, _, _) => { action := wait, holders := holders }
    | (some best, diverged, forked) =>
      if diverged || forked then
        if !allowUnsafe then { action := refuse, forked := forked, holders := holders }
        else
          { action := unsafeElect, masterIP := best.ip, diverged := diverged, forked := forked,
            holders := holders }
      else { action := promote, masterIP := best.ip, holders := holders }

/-- The decision of failover mode. -/
def planFailover (state : ReplicationState) (liveMasterIP : String) (allowUnsafe : Bool)
    (bootstrapMasterIP : String) (unsettled : Bool) (transitionSince : Option ℤ)
    (now cooldown : ℤ) : FailoverPlan :=
  if liveMasterIP ≠ "" then { action := .none }
  else if unsettled then { action := .wait }
  else if transitionSince.any fun since => decide (now - since < cooldown) then
    { action := .wait }
  else if 0 < state.authFailedRedisNodes.length then
    { action := .refuseUnverified, unverified := state.authFailedRedisNodes }
  else electByHolders .wait .seed .promote .refuse .unsafeElect state allowUnsafe bootstrapMasterIP

/-- The refusal that the planners of sentinel mode share: some pod refused the credential. -/
def unprovablyEmptyVeto (state : ReplicationState) : Option LeaderlessPlan :=
  if state.authFailedRedisNodes.length = 0 then none
  else some { action := .refuseUnverified, unverified := state.authFailedRedisNodes }

/-- Wait out the cooldown, then refuse or act. -/
def recoverAfterCooldown (state : ReplicationState) (since : Option ℤ) (now cooldown : ℤ)
    (act : LeaderlessPlan) : LeaderlessPlan :=
  match since with
  | none => { action := .startCooldown }
  | some since =>
    if now - since < cooldown then { action := .wait }
    else (unprovablyEmptyVeto state).getD act

/-- Who becomes master when no reachable Sentinel monitors anything. -/
def planLeaderlessRecovery (state : ReplicationState) (quorum : ℤ) (allowUnsafe : Bool)
    (bootstrapMasterIP : String) (leaderlessSince : Option ℤ) (now cooldown : ℤ) :
    LeaderlessPlan :=
  let (bare, reachable) := state.allSentinelsBare
  if !bare || decide ((reachable : ℤ) < quorum) then { action := .clearMarker }
  else recoverAfterCooldown state leaderlessSince now cooldown <|
    match state.dataHolders with
    | [] =>
      if bootstrapMasterIP = "" then { action := .wait }
      else { action := .seedNoData, masterIP := bootstrapMasterIP }
    | [holder] => { action := .promoteSurvivor, masterIP := holder.ip, holders := 1 }
    | holders =>
      if !allowUnsafe then { action := .refuse, holders := holders.length }
      else
        match state.bestDataHolder with
        | (none, _, _) => { action := .wait, holders := holders.length }
        | (some best, diverged, forked) =>
          { action := .unsafeElect, masterIP := best.ip, diverged := diverged, forked := forked,
            holders := holders.length }

/-- Who becomes master when the Sentinels monitor an address that is gone. -/
def planGhostMasterRecovery (state : ReplicationState) (quorum : ℤ) (allowUnsafe : Bool)
    (bootstrapMasterIP : String) (stuckSince : Option ℤ) (now cooldown : ℤ) : LeaderlessPlan :=
  if !state.sentinelsMonitorGhostMaster || state.hasHealthyKnownReplica then
    { action := .clearMarker }
  else if (state.reachableSentinels : ℤ) < quorum then { action := .clearMarker }
  else recoverAfterCooldown state stuckSince now cooldown <|
    electByHolders .wait .seedNoData .promoteSurvivor .refuse .unsafeElect state allowUnsafe
      bootstrapMasterIP

/-- Some pod holds keys that are not the captor's, or cannot be shown to be empty. -/
def quarantineDataRisk (state : ReplicationState) (foreignMaster : String)
    (redisReady : GoMap String Bool) : Bool × Bool :=
  (state.redisNodes.values.any fun rn => rn.reachable && decide (0 < rn.keys) &&
      !(foreignMaster != "" && rn.masterHost == foreignMaster && rn.linkStatus == "up"),
    state.redisNodes.values.any fun rn => !rn.reachable &&
      (rn.unprovablyEmpty || redisReady.lookup rn.podName != some false))

end LittleRed.Replication
