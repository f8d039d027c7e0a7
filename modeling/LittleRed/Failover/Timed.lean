import LittleRed.Failover.Steps
import LittleRed.Lib.Timed

/-!
# Passes in time

Failover mode measures time by two markers in the status: since when the intended master is down, and when
the last transition was made. To speak about them, runs are extended by the times of the passes and by what
each pass found out about the intended master, concluded about its death, and wrote as a new mastership.
-/

namespace LittleRed.Failover

open Lib Replication List

/-- What a pass finds out about the intended master. -/
structure MasterSighting where
  masterName : String
  masterIP : String
  reachable : Bool
  deriving DecidableEq

/-- The intent that a pass reads. -/
def passIntent (podList : List PodObject) (state : ReplicationState) : FailoverIntent :=
  resolveFailoverIntent (buildFailoverPodViews podList (some state))

/-- The intended master of a pass, and whether it answered. -/
def sighting (podList : List PodObject) (state : ReplicationState) : MasterSighting :=
  let intent := passIntent podList state
  ⟨intent.masterName, intent.masterIP, (state.redisNodes.lookup intent.masterIP).any (·.reachable)⟩

/-- The pass gets to the detection of the master's death. -/
def reachesDetection (status : FailoverStatus) (podList : List PodObject) (state : ReplicationState) :
    Bool :=
  let intent := passIntent podList state
  !status.bootstrapRequired && !(intent.masterIP != "" && needsPromotion state intent.masterIP)

/-- What a pass concludes about the intended master, unless it ends before. -/
def concludedDeath (inst : Instance) (status : FailoverStatus) (podList : List PodObject)
    (state : ReplicationState) (now : ℤ) : Option MasterDeathAction :=
  if reachesDetection status podList state then
    masterDeath inst status podList state now (passIntent podList state)
  else none

/-- What a conclusion does to the marker. -/
def markerChange : Option MasterDeathAction → DownMarker
  | some .clearMarker => .clear
  | some .startWindow => .set
  | _ => .keep

/-- The pass decides about the master: there is none, or it was declared dead. -/
def decidesMaster (inst : Instance) (status : FailoverStatus) (podList : List PodObject)
    (state : ReplicationState) (now : ℤ) : Bool :=
  let death := concludedDeath inst status podList state now
  reachesDetection status podList state && ((passIntent podList state).masterName == "" ||
    death == some .declareK8s || death == some .declareProbe)

/-- The decision about the master of a pass that makes one. -/
def failoverDecision (inst : Instance) (status : FailoverStatus) (podList : List PodObject)
    (state : ReplicationState) (now : ℤ) : FailoverPlan :=
  let intent := passIntent podList state
  let roleLabels := GoMap.ofPairs (podList.map fun p => (p.name, p.roleLabel))
  planFailover state (determineFailoverLiveMaster state intent.masterIP) inst.allowUnsafe
    (pickBootstrapMasterIP inst.pod0Name (redisMap podList))
    (failoverPromotionUnsettled intent state roleLabels) status.transitionSince now
    failoverTransitionCooldown

/-- A pass carries out a decision about the master, or changes the marker only. -/
theorem reconcile_cases (inst : Instance) (status : FailoverStatus) (podList : List PodObject)
    (state : ReplicationState) (now : ℤ) :
    if decidesMaster inst status podList state now then
      reconcileFailoverAssignments inst status podList state now =
        executeFailoverPlan podList (passIntent podList state)
          (failoverDecision inst status podList state now) else
      (reconcileFailoverAssignments inst status podList state now).transition = none ∧
        (reconcileFailoverAssignments inst status podList state now).downMarker =
          markerChange (concludedDeath inst status podList state now) := by
  unfold decidesMaster concludedDeath reachesDetection reconcileFailoverAssignments failoverDecision
    passIntent
  dsimp only
  generalize resolveFailoverIntent (buildFailoverPodViews podList (some state)) = intent
  cases hbootstrap : status.bootstrapRequired with
  | true => simp [markerChange]
  | false =>
    by_cases hpromotes : intent.masterIP ≠ "" ∧ needsPromotion state intent.masterIP = true
    · simp [hpromotes, markerChange]
    have hgoes : (intent.masterIP != "" && needsPromotion state intent.masterIP) = false := by
      simpa [imp_iff_not_or] using hpromotes
    simp only [hgoes, hpromotes, Bool.not_false, Bool.and_self, Bool.true_and, Bool.false_eq_true,
      if_true, if_false]
    by_cases hdecides : intent.masterName = "" ∨
        masterDeath inst status podList state now intent = some .declareK8s ∨
        masterDeath inst status podList state now intent = some .declareProbe
    · rw [if_pos (by simpa [or_assoc] using hdecides), if_pos hdecides]
    · rw [if_neg (by simpa [or_assoc] using hdecides), if_neg hdecides]
      split
      · exact ⟨rfl, rfl⟩
      split
      · exact ⟨rfl, rfl⟩
      · exact ⟨rfl, rfl⟩

def assigns : FailoverAction → Bool
  | .seed | .promote | .unsafeElect => true
  | _ => false

variable (podList : List PodObject) (intent : FailoverIntent) (plan : FailoverPlan)

/-- A plan that assigns is a transition to the next epoch. -/
theorem executeFailoverPlan_eq :
    executeFailoverPlan podList intent plan = if assigns plan.action then
        { stamps := assignmentStamps podList (podNameForIP podList plan.masterIP) plan.masterIP
            intent.nextEpoch (masterStartAuthorizedFor plan.action),
          transition := some intent.nextEpoch }
      else {} := by
  unfold executeFailoverPlan
  cases plan.action <;> rfl

/-- A plan leaves the marker alone. -/
theorem executeFailoverPlan_transition :
    (executeFailoverPlan podList intent plan).transition.isSome = assigns plan.action ∧
      (executeFailoverPlan podList intent plan).downMarker = .keep := by
  rw [executeFailoverPlan_eq]
  cases assigns plan.action with
  | true | false => exact ⟨rfl, rfl⟩

/-- A pass makes a transition when it decides and its decision assigns. -/
theorem reconcile_transition (inst : Instance) (status : FailoverStatus) (podList : List PodObject)
    (state : ReplicationState) (now : ℤ) :
    (reconcileFailoverAssignments inst status podList state now).transition.isSome =
      (decidesMaster inst status podList state now &&
        assigns (failoverDecision inst status podList state now).action) := by
  have hcases := reconcile_cases inst status podList state now
  cases hdecides : decidesMaster inst status podList state now with
  | true =>
    rw [hdecides] at hcases
    rw [hcases, (executeFailoverPlan_transition _ _ _).1, Bool.true_and]
  | false =>
    rw [hdecides] at hcases
    rw [hcases.1]
    rfl

/-- A pass changes the marker by its conclusion. -/
theorem reconcile_downMarker (inst : Instance) (status : FailoverStatus) (podList : List PodObject)
    (state : ReplicationState) (now : ℤ) :
    (reconcileFailoverAssignments inst status podList state now).downMarker =
      markerChange (concludedDeath inst status podList state now) := by
  have hcases := reconcile_cases inst status podList state now
  cases hdecides : decidesMaster inst status podList state now with
  | true =>
    rw [hdecides] at hcases
    rw [hcases, (executeFailoverPlan_transition _ _ _).2]
    simp only [decidesMaster, Bool.and_eq_true, Bool.or_eq_true, beq_iff_eq] at hdecides
    rcases hdecides with ⟨hreaches, (hnone | hdead) | hdead⟩
    · rw [concludedDeath, if_pos hreaches, masterDeath, if_pos hnone]
      rfl
    · rw [hdead]
      rfl
    · rw [hdead]
      rfl
  | false =>
    rw [hdecides] at hcases
    exact hcases.2

/-- The pass carries out a decision about the master. -/
def Phase.electing : Phase → Bool
  | .stamping pass => pass.transition.isSome && !pass.bootstrap
  | .idle => false

/-- Some assignment of the pass could not be written. -/
def Phase.failed : Phase → Bool
  | .stamping pass => pass.failed
  | .idle => false

/-- The intended master was declared dead by the probe: when, and the passes up to then. -/
structure ProbeDeath where
  masterName : String
  masterIP : String
  now : ℤ
  log : List (ℤ × MasterSighting)

/-- A state with times: of the last step, and of passes, deaths, masterships and unrecorded
transitions. -/
structure TimedState where
  core : State
  time : ℤ
  log : List (ℤ × MasterSighting)
  probeDeaths : List ProbeDeath
  elections : List (ℤ × String)
  unrecorded : List ℤ

/-- The assignment that a step wrote. -/
def newWrite (s s' : State) : Option Write :=
  if s.writes.length < s'.writes.length then s'.writes.head? else none

def TimedState.passTime (t : TimedState) : Option ℤ := t.log.head?.map Prod.fst

/-- The mastership that a step writes, if it carries out a decision about the master. -/
def TimedState.election (t : TimedState) (core : State) : Option (ℤ × String) := do
  let now ← t.passTime
  let w ← newWrite t.core core
  if t.core.phase.electing && w.stamp.role == roleMaster then some (now, w.stamp.podName) else none

/-- The pass has written the assignment of its master. -/
def TimedState.hasPromoted (t : TimedState) : Bool :=
  t.core.phase.electing && t.elections.any fun e => t.passTime == some e.1

/-- The passes whose transition is not recorded, after the end of one that records its own or not. -/
def TimedState.unrecordedAfter (t : TimedState) (recorded : Bool) : List ℤ :=
  (if t.hasPromoted && !recorded then t.passTime.toList else []) ++ t.unrecorded

section System

variable (inst : Instance)

/-- What a step that leads to the given state adds to the history; times only grow. -/
def TimedState.advance (t : TimedState) (a : Label) (core : State) : Option TimedState :=
  match a with
  | .assign cached podList gathered now _ =>
    if t.time < now then
      let seen := sighting podList gathered
      let log := (now, seen) :: t.log
      some { t with
        core := core
        time := now
        log := log
        probeDeaths :=
          if concludedDeath inst cached podList gathered now = some .declareProbe then
            ⟨seen.masterName, seen.masterIP, now, log⟩ :: t.probeDeaths
          else t.probeDeaths }
    else none
  | .finish now marked _ =>
    if t.time ≤ now then
      some { t with
        core := core
        time := now
        unrecorded := t.unrecordedAfter (!t.core.phase.failed && marked) }
    else none
  | .abort => some { t with core := core, unrecorded := t.unrecordedAfter false }
  | .patch _ => some { t with core := core, elections := (t.election core).toList ++ t.elections }
  | _ => some { t with core := core }

/-- A step with its time. -/
def TimedState.step (t : TimedState) (a : Label) : Option TimedState :=
  (Failover.step inst t.core a).bind (t.advance inst a)

def timedSystem : System TimedState Label where
  initial t := (failoverSystem inst).initial t.core ∧ t.log = [] ∧ t.probeDeaths = [] ∧
    t.elections = [] ∧ t.unrecorded = []
  step := TimedState.step inst

end System

/-- The steps that no pass takes. -/
def Label.aside : Label → Bool
  | .bootstrap _ _ _ | .assign _ _ _ _ _ | .get _ | .patch _ | .finish _ _ _ | .abort => false
  | _ => true

variable {a : Label} {s s' : State} {inst : Instance}

theorem TimedState.advance_aside (inst : Instance) (t : TimedState) (core : State)
    (h : a.aside = true) : t.advance inst a core = some { t with core := core } := by
  cases a <;> first | rfl | cases h

/-- What a step does to the pass and to the markers. -/
inductive PassEffect (inst : Instance) (s : State) : Label → State → Prop
  | aside {a : Label} {s' : State} (haside : a.aside = true) (hphase : s'.phase = s.phase)
      (hdown : s'.status.masterDownSince = s.status.masterDownSince)
      (htransition : s'.status.transitionSince = s.status.transitionSince) :
      PassEffect inst s a s'
  | bootstrap {cached : FailoverStatus} {pod0IP : String} {podList : List PodObject}
      {pass : EnginePass} (hidle : s.phase = .idle) :
      PassEffect inst s (.bootstrap cached pod0IP podList)
        { s with phase := .stamping ⟨pass.stamps, none, false, pass.transition, true⟩ }
  | assign {cached : FailoverStatus} {podList : List PodObject} {gathered : ReplicationState}
      {now : ℤ} {marked : Bool} {pass : EnginePass} (hidle : s.phase = .idle)
      (hpass : reconcileFailoverAssignments inst cached podList gathered now = pass) :
      PassEffect inst s (.assign cached podList gathered now marked)
        { s with
          status := if marked then s.status.mark now pass.downMarker else s.status
          phase := .stamping ⟨pass.stamps, none, false, pass.transition, false⟩ }
  | get {read : Option Annotations} {pass pass' : Stamping} (hphase : s.phase = .stamping pass)
      (htransition : pass'.transition = pass.transition) (hbootstrap : pass'.bootstrap = pass.bootstrap)
      (houtstanding : ∀ planned ∈ pass'.outstanding, planned ∈ pass.outstanding) :
      PassEffect inst s (.get read) { s with phase := .stamping pass' }
  | patch {accepted : Bool} {s' : State} {pass pass' : Stamping} (hphase : s.phase = .stamping pass)
      (hphase' : s'.phase = .stamping pass') (hstatus : s'.status = s.status)
      (htransition : pass'.transition = pass.transition) (hbootstrap : pass'.bootstrap = pass.bootstrap)
      (houtstanding : ∀ planned ∈ pass'.outstanding, planned ∈ pass.outstanding)
      (hwrites : ∀ w, newWrite s s' = some w → ∃ planned ∈ pass.outstanding, w.stamp = planned.stamp) :
      PassEffect inst s (.patch accepted) s'
  | finish {now : ℤ} {marked cleared : Bool} {failed : Bool} {transition : Option ℤ} {bootstrap : Bool}
      (hphase : s.phase = .stamping ⟨[], none, failed, transition, bootstrap⟩) :
      PassEffect inst s (.finish now marked cleared)
        { s with
          phase := .idle
          status :=
            if transition.isSome && !failed && marked then
              s.status.recordTransition now bootstrap cleared
            else s.status }
  | abort : PassEffect inst s .abort { s with phase := .idle }

/-- The steps of the pods are such. -/
theorem podStep_aside (h : podStep s a = some s') :
    a.aside = true ∧ s'.phase = s.phase ∧ s'.status = s.status := by
  cases a with
  | create name =>
    simp only [podStep] at h
    split at h
    · cases h
      exact ⟨rfl, rfl, rfl⟩
    · cases h
  | schedule name ip | project name ip | restart name | kill name =>
    obtain ⟨pod, -, h⟩ := Option.bind_eq_some_iff.mp h
    split at h <;> cases h
    exact ⟨rfl, rfl, rfl⟩
  | terminate name | remove name | report name ready restarted | relabel name role =>
    obtain ⟨pod, -, h⟩ := Option.bind_eq_some_iff.mp h
    cases h
    exact ⟨rfl, rfl, rfl⟩
  | gate name role masterIP epoch =>
    obtain ⟨pod, -, h⟩ := Option.bind_eq_some_iff.mp h
    obtain ⟨roleRead, -, h⟩ := Option.bind_eq_some_iff.mp h
    obtain ⟨masterIPRead, -, h⟩ := Option.bind_eq_some_iff.mp h
    obtain ⟨epochRead, -, h⟩ := Option.bind_eq_some_iff.mp h
    split at h
    · obtain ⟨start, -, h⟩ := Option.bind_eq_some_iff.mp h
      cases h
      exact ⟨rfl, rfl, rfl⟩
    · cases h
  | bootstrap | assign | get | patch | finish | observeReady | abort => cases h

/-- What a read does to the pass. -/
theorem passEffect_of_get {read : Option Annotations}
    (h : operatorStep inst s (.get read) = some s') : PassEffect inst s (.get read) s' := by
  simp only [operatorStep] at h
  split at h
  · rename_i planned rest failed transition bootstrap hphase
    split at h
    · cases h
      exact .get hphase rfl rfl fun p hp => mem_cons_of_mem _ hp
    · split at h
      · cases h
        exact .get hphase rfl rfl fun p hp => mem_cons_of_mem _ hp
      · cases h
        exact .get hphase rfl rfl fun p hp => hp
  · cases h

/-- What a patch does to the pass. -/
theorem passEffect_of_patch {accepted : Bool} (h : operatorStep inst s (.patch accepted) = some s') :
    PassEffect inst s (.patch accepted) s' := by
  simp only [operatorStep] at h
  split at h
  · rename_i planned rest annotations failed transition bootstrap hphase
    split at h
    · rename_i pod hpod
      cases h
      refine .patch hphase rfl rfl rfl rfl (fun p hp => mem_cons_of_mem _ hp) fun w hw => ?_
      simp only [newWrite, length_cons, Nat.lt_succ_self, if_true, List.head?_cons,
        Option.some.injEq] at hw
      exact ⟨planned, mem_cons_self, by rw [← hw]⟩
    · cases h
      refine .patch hphase rfl rfl rfl rfl (fun p hp => mem_cons_of_mem _ hp) fun w hw => ?_
      simp [newWrite] at hw
  · cases h

/-- What each step does to the pass. -/
theorem passEffect_of_step (h : Failover.step inst s a = some s') : PassEffect inst s a s' := by
  rw [Failover.step, Option.or_eq_some_iff] at h
  rcases h with hpod | ⟨-, h⟩
  · obtain ⟨haside, hphase, hstatus⟩ := podStep_aside hpod
    exact .aside haside hphase (by rw [hstatus]) (by rw [hstatus])
  · cases a with
    | bootstrap cached pod0IP podList =>
      simp only [operatorStep] at h
      split at h
      · rename_i hidle
        obtain ⟨-, rfl⟩ := of_ite_some h
        exact .bootstrap hidle
      · cases h
    | assign cached podList gathered now marked =>
      simp only [operatorStep] at h
      split at h
      · rename_i hidle
        cases h
        exact .assign hidle rfl
      · cases h
    | get read => exact passEffect_of_get h
    | patch accepted => exact passEffect_of_patch h
    | finish now marked cleared =>
      simp only [operatorStep] at h
      split at h
      · rename_i failed transition bootstrap hphase
        cases h
        exact .finish hphase
      · cases h
    | observeReady =>
      cases h
      exact .aside rfl rfl rfl rfl
    | abort =>
      cases h
      exact .abort
    | create | schedule | terminate | remove | report | relabel | project | restart | kill | gate =>
      cases h

/-- The status as it is read back. -/
def FailoverStatus.stored (time : StoredTime) (status : FailoverStatus) : FailoverStatus where
  bootstrapRequired := status.bootstrapRequired
  masterDownSince := status.masterDownSince.map time.stored
  transitionSince := status.transitionSince.map time.stored

/-- A record that keeps milliseconds as whole seconds. -/
def secondsKept : StoredTime := .wholeUnits 1000

def newTimed : TimedState := ⟨newInstance, -1, [], [], [], []⟩

theorem newTimed_initial (inst : Instance) : (timedSystem inst).initial newTimed :=
  ⟨rfl, rfl, rfl, rfl, rfl⟩

/-- Moves of the system without times. -/
def inTime (moves : List (State → Label)) : List (TimedState → Label) :=
  moves.map fun move t => move t.core

/-- A pass over the current status and pods, with the given state. -/
def assignAt (now : ℤ) (gathered : ReplicationState) : TimedState → Label :=
  fun t => .assign (t.core.status.stored secondsKept) (pairPods t.core) gathered now true

/-- A pass that writes no assignment. -/
def idlePass (now : ℤ) (gathered : ReplicationState) : List (TimedState → Label) :=
  [assignAt now gathered, fun _ => .finish now true true]

/-- The first pod as given, the second one as a replica that has lost it. -/
def pairGathered (master : RedisNodeState) : ReplicationState where
  redisNodes := GoMap.ofPairs
    [("10.0.0.1", master),
      ("10.0.0.2", ⟨"lr-redis-1", "10.0.0.2", "slave", "10.0.0.1", "down", 100, 3, "8f", "", true, .ok⟩)]
  sentinelNodes := ∅
  liveTopologyIPs := ["10.0.0.1", "10.0.0.2"]

def masterAnswers : ReplicationState :=
  pairGathered ⟨"lr-redis-0", "10.0.0.1", "master", "", "", 100, 3, "8f", "", true, .ok⟩

def masterSilent : ReplicationState :=
  pairGathered (silentNode "lr-redis-0" "10.0.0.1" .timedOut)

end LittleRed.Failover
