import LittleRed.Failover.Actuation

/-!
# The verdict of lrctl on an instance in failover mode

`lrctl verify` reads the annotations of the data pods and asks every pod for its replication state, a
terminating one too. From that it derives the intended master, the authority and its findings. For it an
assignment is there as soon as the role is annotated, and an epoch that is no number reads as zero.
-/

namespace LittleRed.Lrctl

open Lib Replication Failover

def annotationAssignedRole : String := "redis.chuck-chuck-chuck.net/assigned-role"

def annotationAssignedMasterIP : String := "redis.chuck-chuck-chuck.net/assigned-master-ip"

def annotationAssignmentEpoch : String := "redis.chuck-chuck-chuck.net/assignment-epoch"

def annotationMasterStartAuthorizedEpoch : String :=
  "redis.chuck-chuck-chuck.net/master-start-authorized-epoch"

/-- A data pod with all its annotations. -/
structure DataPod where
  name : String
  ip : String
  terminating : Bool
  ready : Bool
  restarted : Bool
  roleLabel : String
  annotations : GoMap String String

namespace DataPod

variable (p : DataPod)

/-- The annotation under a key; one that is missing reads as empty. -/
def annotation (key : String) : String := (p.annotations.lookup key).getD ""

/-- The pod as the operator reads it. -/
def object : PodObject where
  name := p.name
  ip := p.ip
  terminating := p.terminating
  ready := p.ready
  restarted := p.restarted
  roleLabel := p.roleLabel
  annotations :=
    { assignedRole := p.annotation annotationAssignedRole
      assignedMasterIP := p.annotation annotationAssignedMasterIP
      assignmentEpoch := p.annotation annotationAssignmentEpoch
      masterStartAuthorizedEpoch := p.annotation annotationMasterStartAuthorizedEpoch }

end DataPod

/-- The data pods of an instance. They have names, and no two have the same. -/
structure DataPods where
  items : List DataPod
  named : ∀ p ∈ items, p.name ≠ ""
  distinct : (items.map (·.name)).Nodup

def DataPods.objects (pods : DataPods) : List PodObject := pods.items.map (·.object)

/-- A pod as the analysis sees it. -/
structure PodView where
  name : String
  ip : String
  ready : Bool
  restarted : Bool
  terminating : Bool
  roleLabel : String
  hasAssignment : Bool
  assignedRole : String
  assignedMasterIP : String
  epoch : ℤ

/-- The view of one pod; an assignment counts when the role is annotated. -/
def podView (p : DataPod) : PodView :=
  let unassigned : PodView :=
    ⟨p.name, p.ip, p.ready, p.restarted, p.terminating, p.roleLabel, false, "", "", 0⟩
  match p.annotations.lookup annotationAssignedRole with
  | none => unassigned
  | some role =>
    { unassigned with
      hasAssignment := true
      assignedRole := role
      assignedMasterIP := p.annotation annotationAssignedMasterIP
      epoch := (atoi (p.annotation annotationAssignmentEpoch)).getD 0 }

/-- The views, sorted by name. -/
def failoverPodViews (pods : List DataPod) : List PodView :=
  (pods.map podView).insertionSort (·.name ≤ ·.name)

/-- Only digits and three dots. -/
def isIP (s : String) : Bool :=
  s.toList.all (fun c => c == '.' || ('0' ≤ c && c ≤ '9')) && s.toList.count '.' == 3

/-- The address of the pod that a host name begins with; anything else is left as it is. -/
def resolveIdentityToIP (pods : List DataPod) (identity : String) : String :=
  if identity = "" then ""
  else if isIP identity then identity
  else
    let podNameCandidate := (splitText '.' identity).headD identity
    ((pods.find? fun p => p.name == podNameCandidate && p.ip != "").map (·.ip)).getD identity

/-- The addresses of all pods, with the name of the last one at each. -/
def redisMap (pods : List DataPod) : GoMap String String :=
  GoMap.ofPairs (pods.filterMap fun p => if p.ip = "" then none else some (p.ip, p.name))

/-- lrctl runs its command in the pod that the map names, and resolves the host of a master. -/
def execProbes (pods : List DataPod) (exec : String → Except ProbeFailure ReplicationInfo) : Probes where
  redis ip :=
    match (redisMap pods).lookup ip with
    | none => .error .unknown
    | some podName => (exec podName).map fun snap =>
      { snap with masterHost := resolveIdentityToIP pods snap.masterHost }
  sentinel _ := none

/-- What lrctl gathers; there are no Sentinels in failover mode. -/
def gatherFailover (exec : String → Except ProbeFailure ReplicationInfo) (pods : List DataPod)
    (order : RangeOrder (Σ _ : String, String)) (orders : ConsensusOrders) : ReplicationState :=
  gatherReplicationState (execProbes pods exec) ((redisMap pods).reordered order) ∅ ""
    (redisMap pods).keys orders

/-- The intent that lrctl reads from the assignments. -/
structure Intent where
  masterName : String
  masterIP : String
  masterEpoch : ℤ
  maxEpoch : ℤ
  deriving DecidableEq

/-- Read one assignment. -/
def Intent.read (intent : Intent) (p : PodView) : Intent :=
  if !p.hasAssignment then intent
  else
    let intent := { intent with maxEpoch := max intent.maxEpoch p.epoch }
    if p.assignedRole ≠ roleMaster then intent
    else if intent.masterName = "" ∨ intent.masterEpoch < p.epoch ∨
        (p.epoch = intent.masterEpoch ∧ p.name < intent.masterName) then
      { intent with masterName := p.name, masterIP := p.ip, masterEpoch := p.epoch }
    else intent

/-- The intended master is the pod that is assigned the role at the highest epoch. -/
def resolveIntent (pods : List PodView) : Intent := pods.foldl Intent.read ⟨"", "", 0, 0⟩

/-- A finding fails the verification or only degrades it. -/
inductive Severity where
  | fail
  | warn
  deriving DecidableEq

structure Finding where
  severity : Severity
  message : String
  deriving DecidableEq

def listed (names : List String) : String := "[" ++ " ".intercalate names ++ "]"

/-- The views of the pods beside the intended master that are assigned its role. -/
def otherMasters (intent : Intent) (pods : List PodView) : List PodView :=
  pods.filter fun p => p.hasAssignment && p.assignedRole == roleMaster && p.name != intent.masterName

/-- The record is missing, or another pod is assigned the role of the master. -/
def checkAssignmentRecord (intent : Intent) (pods : List PodView) (anyAssignment : Bool) : List Finding :=
  let missing : List Finding :=
    if !anyAssignment then
      [⟨.fail, "no assignment annotations on any pod (instance not yet bootstrapped, " ++
        "or the intent record died with the pods)"⟩]
    else if intent.masterName = "" then
      [⟨.fail, "no master assignment on any pod (the master intent died with its pod; " ++
        "the operator should re-elect)"⟩]
    else []
  let dupSame := (((otherMasters intent pods).filter fun p => p.epoch == intent.masterEpoch).map
    (·.name)).insertionSort (· ≤ ·)
  let dupStale := (((otherMasters intent pods).filter fun p =>
    p.epoch != intent.masterEpoch && !p.terminating).map
    fun p => p.name ++ "@" ++ toString p.epoch).insertionSort (· ≤ ·)
  missing ++
    (if dupSame.isEmpty then []
    else [⟨.fail, "duplicate master assignment at epoch " ++ toString intent.masterEpoch ++ " on " ++
      listed dupSame ++ " (intent is ambiguous; tie-broken to " ++ intent.masterName ++ ")"⟩]) ++
    dupStale.map fun d =>
      ⟨.warn, "stale master assignment on " ++ d ++ " (superseded by " ++ intent.masterName ++ "@" ++
        toString intent.masterEpoch ++ ", not yet re-stamped)"⟩

/-- The pod that is a master by intent and by observation, by name and address. -/
structure Authority where
  pod : String
  ip : String
  deriving DecidableEq

/-- The authority, and the finding that there is none unless the record is known to be missing. -/
def computeAuthority (intent : Intent) (state : ReplicationState) (anyAssignment : Bool) :
    Authority × List Finding :=
  let rn := state.redisNodes.lookup intent.masterIP
  if intent.masterIP ≠ "" ∧ rn.any (fun rn => rn.reachable && rn.role == roleMaster) then
    (⟨intent.masterName, intent.masterIP⟩, [])
  else if !anyAssignment ∨ intent.masterName = "" then (⟨"", ""⟩, [])
  else
    let reason := "intended master " ++ intent.masterName ++ " " ++
      match rn with
      | none => "is unreachable"
      | some rn => if !rn.reachable then "is unreachable" else "reports role:" ++ rn.role
    (⟨"", ""⟩, [⟨.fail, "no authority master (" ++ reason ++
      "; transition in flight or awaiting operator recovery)"⟩])

structure PodCheck where
  parked : Bool := false
  findings : List Finding := []
  deriving DecidableEq

/-- The findings about a pod that answers with an assignment, against the authority. -/
def checkObserved (authority : Authority) (p : PodView) (rn : RedisNodeState) : List Finding :=
  let following : List Finding :=
    if p.ip = authority.ip then []
    else if rn.role = roleMaster then
      [⟨.fail, "pod " ++ p.name ++ " is a straggler: reports role:master but the authority master is " ++
        authority.pod ++ " (must be repointed)"⟩]
    else if rn.masterHost ≠ authority.ip then
      [⟨.fail, "replica " ++ p.name ++ " follows the wrong master " ++ rn.masterHost ++
        " (authority master is " ++ authority.pod ++ " at " ++ authority.ip ++ ")"⟩]
    else if rn.linkStatus ≠ "up" then
      [⟨.warn, "replica " ++ p.name ++
        " follows the authority master but link:down (transient resync, reduced redundancy)"⟩]
    else []
  let label : List Finding :=
    if p.roleLabel = roleMaster ∧ p.ip ≠ authority.ip then
      [⟨.fail, "pod " ++ p.name ++ " carries the master role label but the authority master is " ++
        authority.pod ++ " (the master Service routes traffic to a non-master)"⟩]
    else if p.ip = authority.ip ∧ p.roleLabel ≠ roleMaster then
      [⟨.fail, "authority master " ++ p.name ++
        " does not carry the master role label (the master Service is not routing to it)"⟩]
    else []
  following ++ label

/-- Pass over a pod about to go or without an address, else compare what answers with the authority. -/
def checkPod (authority : Authority) (state : ReplicationState) (anyAssignment : Bool) (p : PodView) :
    PodCheck :=
  if p.terminating ∨ p.ip = "" then {}
  else
    let answer := (state.redisNodes.lookup p.ip).filter (·.reachable)
    if answer.isNone ∧ p.hasAssignment ∧ !p.ready ∧ p.restarted then
      ⟨true, [⟨.warn, "pod " ++ p.name ++ " is PARKED (assignment epoch " ++ toString p.epoch ++
        " consumed; not-Ready, restarted, redis-server not running — " ++
        "waiting for an operator epoch bump)"⟩]⟩
    else if !p.hasAssignment ∧ anyAssignment then
      ⟨false, [⟨.warn, "pod " ++ p.name ++
        " has no assignment yet (fresh pod awaiting operator authorization)"⟩]⟩
    else
      match answer with
      | none => ⟨false, [⟨.warn, "pod " ++ p.name ++ " is unreachable (reduced redundancy)"⟩]⟩
      | some rn => if authority.ip = "" then {} else ⟨false, checkObserved authority p rn⟩

/-- The finding that the pods with data come from independent lineages. -/
def checkLineage (state : ReplicationState) : List Finding :=
  if state.dataHolders.length < 2 then []
  else if state.bestDataHolder.2.1 then
    [⟨.fail, "data holders " ++ listed ((state.dataHolders.map (·.podName)).insertionSort (· ≤ ·)) ++
      " span independent replication lineages (replid/replid2 disjoint) — " ++
      "electing any one discards writes"⟩]
  else []

/-- The result of the analysis. -/
structure Analysis where
  intent : Intent
  authority : Authority
  parked : List String
  findings : List Finding
  deriving DecidableEq

/-- The verdict on the pods, from their views and from what was gathered. -/
def analyze (pods : List PodView) (state : ReplicationState) : Analysis :=
  let intent := resolveIntent pods
  let anyAssignment := pods.any (·.hasAssignment)
  let authority := computeAuthority intent state anyAssignment
  { intent := intent
    authority := authority.1
    parked := ((pods.filter fun p => (checkPod authority.1 state anyAssignment p).parked).map
      (·.name)).insertionSort (· ≤ ·)
    findings := checkAssignmentRecord intent pods anyAssignment ++ authority.2 ++
      pods.flatMap (fun p => (checkPod authority.1 state anyAssignment p).findings) ++
      checkLineage state }

end LittleRed.Lrctl
