import LittleRed.Replication.State

/-!
# Stale master names

`planStaleMasterNames` decides which names other than the desired one are taken away from the
Sentinels. It surveys the lists of masters that the reachable Sentinels gave; most of its
answers are refusals, each by a gate that the message names.
-/

namespace LittleRed.Replication

open Lib

/-- The reasons of the condition `StaleMasterName`. -/
inductive StaleNamesReason where
  | converged
  | pruning
  | deferred
  | foreign
  deriving DecidableEq

inductive StaleGate where
  | g1
  | g2
  | g3
  | g4
  | g5
  | g6
  deriving DecidableEq

/-- The name of a gate. -/
def StaleGate.name : StaleGate → String
  | .g1 => "G1"
  | .g2 => "G2"
  | .g3 => "G3"
  | .g4 => "G4"
  | .g5 => "G5"
  | .g6 => "G6"

/-- The gate that the next pass of the operator opens by itself. -/
def staleGateRule0Pending : StaleGate := .g6

/-- The names that one Sentinel monitors beside the desired one. -/
structure StaleEntry where
  sentinelIP : String
  sentinelPod : String
  names : List String
  deriving DecidableEq

/-- What to remove, from which Sentinels, and what to say about it. -/
structure StaleMasterNamePlan where
  prune : List StaleEntry := []
  skipped : List String := []
  reason : StaleNamesReason
  message : String
  gate : Option StaleGate := none
  deriving DecidableEq

/-- What the survey of the Sentinels found. -/
structure StaleSurvey where
  entries : List StaleEntry := []
  skipped : List String := []
  allStale : List String := []
  failoverUnder : List String := []
  foreign : List String := []
  unattributable : List String := []

def sortedKeys (set : List String) : List String := set.dedup.insertionSort (· ≤ ·)

def quoteJoin (names : List String) : String := "[" ++ " ".intercalate (names.map quoteText) ++ "]"

def addrOrUnknown (ip : String) : String :=
  if ip = "" then "an address Sentinel did not report" else ip

/-- What is removed, per Sentinel. -/
def describeStaleEntries (entries : List StaleEntry) : String :=
  ", ".intercalate (entries.map fun e => e.sentinelPod ++ "=" ++ quoteJoin e.names)

/-- The refusal by a failover that is reported under some names, or under the desired one only. -/
def failoverInFlightMessage (names : List String) : String :=
  if names.length = 0 then
    "a Sentinel reports a failover in flight for the desired master name " ++
      "(the full monitored-master list could not be read this pass, so no other name can be named)"
  else "a failover is in flight under master name(s) " ++ quoteJoin names

/-- Wait, and say for which gate. -/
def deferStaleNames (gate : StaleGate) (why : String) (stale : List String) : StaleMasterNamePlan where
  reason := .deferred
  message := "deferred by gate " ++ gate.name ++ ": " ++ why ++
    if 0 < stale.length then "; stale master name(s) still present: " ++ quoteJoin stale else ""
  gate := some gate

section Survey

variable (state : ReplicationState) (desired : String) (rolling : Bool)

/-- Take one master of a Sentinel into account. -/
def surveyMaster (seen : StaleSurvey × List String × Bool) (m : MonitoredMaster) :
    StaleSurvey × List String × Bool :=
  let (survey, names, hasDesired) := seen
  let survey :=
    if m.failoverInProgress then { survey with failoverUnder := survey.failoverUnder ++ [m.name] }
    else survey
  if m.name = desired then (survey, names, true)
  else
    let survey := { survey with allStale := survey.allStale ++ [m.name] }
    let survey :=
      if !state.isOurs m.ip && !flaggedDown m.flags then
        let entry := quoteText m.name ++ " (at " ++ addrOrUnknown m.ip ++ ")"
        if rolling then { survey with unattributable := survey.unattributable ++ [entry] }
        else { survey with foreign := survey.foreign ++ [entry] }
      else survey
    (survey, names ++ [m.name], hasDesired)

/-- Take one Sentinel into account. Of an unread list nothing is known. -/
def surveySentinel (survey : StaleSurvey) (sn : SentinelNodeState) : StaleSurvey :=
  if !sn.reachable then survey
  else
    let (survey, names, hasDesired) :=
      sn.monitoredMasters.foldl (surveyMaster state desired rolling) (survey, [], false)
    if names.length = 0 then survey
    else if !hasDesired then { survey with skipped := survey.skipped ++ [sn.podName] }
    else
      let entry := ⟨sn.ip, sn.podName, names.insertionSort (· ≤ ·)⟩
      { survey with entries := survey.entries ++ [entry] }

/-- The survey of all Sentinels. -/
def surveySentinels : StaleSurvey :=
  state.sentinelNodes.values.foldl (surveySentinel state desired rolling) {}

end Survey

/-- No pruning under a capture. -/
def capturedNames : StaleMasterNamePlan where
  reason := .foreign
  message := "the instance is Forsaken (captured by another Sentinel deployment): " ++
    "no master-name pruning while the capture verdict holds. Do not rename to escape " ++
    "a capture — let the quarantine complete first, then rename the empty instance."

/-- Nothing is stale. -/
def convergedNames (desired : String) : StaleMasterNamePlan where
  reason := .converged
  message := "every reachable Sentinel monitors exactly " ++ quoteText desired

/-- The refusal of stale names with an address that a pod of the instance may just have left. -/
def unattributableNames (unattributable staleList : List String) : StaleMasterNamePlan :=
  deferStaleNames .g5
    ("stale master name(s) " ++ ", ".intercalate (sortedKeys unattributable) ++
      " point at an address that is not one of our pods and is not " ++
      "flagged down, but this instance's own Redis StatefulSet is mid-rollout — a pod we " ++
      "have just replaced looks exactly like this until down-after-milliseconds elapses, " ++
      "so the address is unattributable rather than foreign. Nothing was removed") staleList

/-- The verdict when a stale name belongs to somebody else. -/
def foreignNames (foreign : List String) : StaleMasterNamePlan where
  reason := .foreign
  message := "stale master name(s) " ++ ", ".intercalate (sortedKeys foreign) ++
    " point at an address that is not one of our pods and is not " ++
    "flagged down — something else is alive there and this instance may be captured. " ++
    "Nothing was removed. Do not rename to escape a capture; let the quarantine " ++
    "complete first, then rename the empty instance."

/-- The refusal when there is no living master to keep monitoring. -/
def masterGate (state : ReplicationState) : Option String :=
  let master := state.redisNodes.lookup state.realMasterIP
  if state.realMasterIP = "" then some "no living master of ours is known"
  else if !state.liveTopologyIPs.contains state.realMasterIP then
    some ("the consensus master " ++ state.realMasterIP ++ " is not one of our live pods")
  else if !(master.any fun rn => rn.reachable && rn.role == roleMaster) then
    some ("the consensus master " ++ state.realMasterIP ++
      " does not report itself a reachable master")
  else none

/-- Remove the stale names. -/
def pruningNames (desired : String) (staleList : List String) (entries : List StaleEntry)
    (skipped : List String) : StaleMasterNamePlan where
  prune := entries
  skipped := skipped
  reason := .pruning
  message := "removing stale master name(s) " ++ quoteJoin staleList ++ " from: " ++
    describeStaleEntries entries ++
    if 0 < skipped.length then
      "; skipped (does not carry " ++ quoteText desired ++
        " yet, Rule 0 registers it next pass): " ++ ", ".intercalate skipped
    else ""

/-- The decision about stale names, gate by gate. -/
def decideStaleNames (state : ReplicationState) (desired : String) (quorum : ℤ) (survey : StaleSurvey) :
    StaleMasterNamePlan :=
  let staleList := sortedKeys survey.allStale
  let entries := survey.entries.insertionSort (·.sentinelPod ≤ ·.sentinelPod)
  let skipped := survey.skipped.insertionSort (· ≤ ·)
  if 0 < survey.unattributable.length then unattributableNames survey.unattributable staleList
  else if 0 < survey.foreign.length then foreignNames survey.foreign
  else
    match masterGate state with
    | some why => deferStaleNames .g2 why staleList
    | none =>
      if 0 < survey.failoverUnder.length || state.failoverReported then
        deferStaleNames .g3 (failoverInFlightMessage (sortedKeys survey.failoverUnder)) staleList
      else if (state.reachableSentinels : ℤ) < quorum ∨ state.reachableSentinels = 0 then
        deferStaleNames .g4
          ("only " ++ toString state.reachableSentinels ++
            " Sentinel(s) are reachable, quorum is " ++ toString quorum) staleList
      else if entries.length = 0 then
        deferStaleNames staleGateRule0Pending
          ("no Sentinel carries " ++ quoteText desired ++ " yet; Rule 0 registers it next pass") staleList
      else pruningNames desired staleList entries skipped

/-- Which stale names may be removed. Without a state no ground truth was gathered. -/
def planStaleMasterNames (state : Option ReplicationState) (desired : String) (quorum : ℤ)
    (captured rolling : Bool) : StaleMasterNamePlan :=
  if captured then capturedNames
  else
    match state with
    | none => deferStaleNames .g2 "no ground truth was gathered this pass" []
    | some state =>
      if desired = "" then deferStaleNames .g1 "the desired master name is empty" []
      else
        let survey := surveySentinels state desired rolling
        if survey.allStale.length = 0 then convergedNames desired
        else decideStaleNames state desired quorum survey

/-- Some reachable Sentinel lists a name other than the desired one. -/
def StaleNameSeen (state : ReplicationState) (desired : String) : Prop :=
  ∃ sn ∈ state.sentinelNodes.values, sn.reachable = true ∧
    ∃ m ∈ sn.monitoredMasters, m.name ≠ desired

section SurveySpec

variable {state : ReplicationState} {desired : String} {rolling : Bool}

/-- A name other than the desired one is stale. -/
theorem surveyMaster_allStale (seen : StaleSurvey × List String × Bool) (m : MonitoredMaster) :
    (surveyMaster state desired rolling seen m).1.allStale =
      seen.1.allStale ++ if m.name = desired then [] else [m.name] := by
  unfold surveyMaster
  dsimp only
  split
  · split <;> simp
  split
  · split <;> (split <;> rfl)
  · split <;> rfl

/-- The stale names of a reachable Sentinel. -/
theorem surveySentinel_allStale (survey : StaleSurvey) (sn : SentinelNodeState) :
    (surveySentinel state desired rolling survey sn).allStale = survey.allStale ++
        if sn.reachable then (sn.monitoredMasters.map (·.name)).filter (· ≠ desired) else [] := by
  have hfold : ∀ (masters : List MonitoredMaster) (seen : StaleSurvey × List String × Bool),
      (masters.foldl (surveyMaster state desired rolling) seen).1.allStale =
        seen.1.allStale ++ (masters.map (·.name)).filter (· ≠ desired) := by
    intro masters
    induction masters with
    | nil => simp
    | cons m rest ih =>
      intro seen
      rw [List.foldl_cons, ih, surveyMaster_allStale]
      by_cases hname : m.name = desired <;> simp [hname]
  unfold surveySentinel
  cases hreach : sn.reachable with
  | false => simp
  | true =>
    simp only [Bool.not_true, Bool.false_eq_true, if_false, if_true]
    rw [← hfold sn.monitoredMasters (survey, [], false)]
    split
    · rfl
    · split <;> rfl

theorem surveySentinels_allStale_length (state : ReplicationState) (desired : String) (rolling : Bool) :
    (surveySentinels state desired rolling).allStale.length = 0 ↔ ¬StaleNameSeen state desired := by
  have hfold : ∀ (nodes : List SentinelNodeState) (survey : StaleSurvey),
      (nodes.foldl (surveySentinel state desired rolling) survey).allStale = [] ↔
        survey.allStale = [] ∧ ¬∃ sn ∈ nodes, sn.reachable = true ∧
          ∃ m ∈ sn.monitoredMasters, m.name ≠ desired := by
    intro nodes
    induction nodes with
    | nil => simp
    | cons sn rest ih =>
      intro survey
      rw [List.foldl_cons, ih, surveySentinel_allStale]
      cases hreach : sn.reachable <;> simp [hreach, and_assoc]
  rw [List.length_eq_zero_iff, surveySentinels, hfold]
  simp [StaleNameSeen]

theorem decideStaleNames_reason (quorum : ℤ) (survey : StaleSurvey) :
    (decideStaleNames state desired quorum survey).reason ≠ .converged := by
  unfold decideStaleNames
  dsimp only
  repeat' split
  all_goals exact nofun

/-- The plan has converged when no stale name is seen. -/
theorem planStaleMasterNames_converged_iff {quorum : ℤ} {captured : Bool} :
    (planStaleMasterNames (some state) desired quorum captured rolling).reason = .converged ↔
      captured = false ∧ desired ≠ "" ∧ ¬StaleNameSeen state desired := by
  rw [← surveySentinels_allStale_length state desired rolling, planStaleMasterNames]
  cases captured with
  | true => exact iff_of_false nofun nofun
  | false =>
    by_cases hdesired : desired = ""
    · simp [hdesired, deferStaleNames]
    · by_cases hstale : (surveySentinels state desired rolling).allStale.length = 0
      · simp [hdesired, hstale, convergedNames]
      · simp [hdesired, hstale, decideStaleNames_reason]

end SurveySpec

end LittleRed.Replication
