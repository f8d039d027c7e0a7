import LittleRed.Lib.GoMap
import LittleRed.Lib.Text
import Mathlib.Data.List.Sort

/-!
# The gathered view of a replicated instance

`ReplicationState` is what one pass knows about an instance: a view of every data pod and, in sentinel mode,
of every Sentinel. A pod that did not answer has a view whose fields are zero, with the reason.
-/

namespace LittleRed.Replication

open Lib

/-- Why a probe got no answer. -/
inductive ProbeFailure where
  | ok
  | unroutable
  | timedOut
  | authFailed
  | protocolError
  | unknown
  deriving DecidableEq

/-- The replication view of one data pod. -/
structure RedisNodeState where
  podName : String
  ip : String
  role : String
  masterHost : String
  linkStatus : String
  offset : ℤ
  keys : ℤ
  replid : String
  replid2 : String
  reachable : Bool
  probeFailure : ProbeFailure
  deriving DecidableEq

/-- The view of a pod whose probe failed. -/
def silentNode (podName ip : String) (probeFailure : ProbeFailure) : RedisNodeState :=
  ⟨podName, ip, "", "", "", 0, 0, "", "", false, probeFailure⟩

structure ReplicaInfo where
  ip : String
  flags : String

/-- A master that a Sentinel monitors, under whatever name. -/
structure MonitoredMaster where
  name : String
  ip : String
  flags : String
  failoverState : String
  deriving DecidableEq

/-- What one Sentinel says about the desired name, and all masters it monitors if they were read. -/
structure SentinelNodeState where
  podName : String
  ip : String
  monitoring : Bool
  masterIP : String
  reachable : Bool
  replicas : List ReplicaInfo
  masterFailoverState : String := ""
  masterFlags : String := ""
  monitoredMasters : List MonitoredMaster := []

/-- The live topology are the pods that were probed; owned are also the addresses of pods about to go. -/
structure ReplicationState where
  redisNodes : GoMap String RedisNodeState
  sentinelNodes : GoMap String SentinelNodeState
  liveTopologyIPs : List String
  ownedIPs : List String := liveTopologyIPs
  realMasterIP : String := ""
  failoverReported : Bool := false
  failoverProgressing : Bool := false

def roleMaster : String := "master"

def flaggedDown (flags : String) : Bool := containsText flags "s_down" || containsText flags "o_down"

/-- The values of `failover-state` that stand for no failover. -/
def idleFailoverStates : List String := ["", "none"]

/-- Flags and `failover-state` report a failover. -/
def failoverInProgress (flags state : String) : Bool :=
  containsText flags "failover_in_progress" || !idleFailoverStates.contains (trimSpace state)

/-- A failover of this master is under way. -/
def MonitoredMaster.failoverInProgress (m : MonitoredMaster) : Bool :=
  Replication.failoverInProgress m.flags m.failoverState

/-- The node answered, to refuse the credential: it cannot be shown to hold no data. -/
def RedisNodeState.unprovablyEmpty (n : RedisNodeState) : Bool :=
  !n.reachable && n.probeFailure == .authFailed

namespace ReplicationState

/-- Whether every reachable Sentinel monitors nothing, and how many are reachable. -/
def allSentinelsBare (s : ReplicationState) : Bool × ℕ :=
  let reachable := s.sentinelNodes.values.filter (·.reachable)
  (decide (0 < reachable.length) && reachable.countP (·.monitoring) == 0, reachable.length)

/-- The pods that refused the credential, in the order of their names. -/
def authFailedRedisNodes (s : ReplicationState) : List RedisNodeState :=
  (s.redisNodes.values.filter (·.unprovablyEmpty)).insertionSort (·.podName ≤ ·.podName)

/-- The reachable pods with keys. -/
def dataHolders (s : ReplicationState) : List RedisNodeState :=
  s.redisNodes.values.filter fun rn => rn.reachable && decide (0 < rn.keys)

end ReplicationState

/-- More than one of them is a master. -/
def holdersForked (holders : List RedisNodeState) : Bool :=
  decide (1 < holders.countP (·.role == roleMaster))

/-- The higher offset, then the higher number of keys, then the smaller address. -/
def betterHolder (best h : RedisNodeState) : RedisNodeState :=
  if h.offset ≠ best.offset then
    if best.offset < h.offset then h else best
  else if h.keys ≠ best.keys then
    if best.keys < h.keys then h else best
  else if h.ip < best.ip then h
  else best

def isZeroReplid (r : String) : Bool := r.toList.all (· == '0')

/-- The root of an ID, compressing the path; a new ID becomes its own root, and the fuel bounds the path. -/
def findRoot : ℕ → GoMap String String → String → String × GoMap String String
  | 0, parent, x => (x, parent)
  | fuel + 1, parent, x =>
    match parent.lookup x with
    | none => (x, parent.insert x x)
    | some p =>
      if p ≠ x then
        let (r, parent) := findRoot fuel parent p
        (r, parent.insert x r)
      else (x, parent)

/-- The root of a replication ID; no path is longer than the number of known IDs. -/
def find (parent : GoMap String String) (x : String) : String × GoMap String String :=
  findRoot (parent.keys.length + 1) parent x

/-- Join the lineages of two replication IDs. -/
def union (parent : GoMap String String) (a b : String) : GoMap String String :=
  let (rootA, parent) := find parent a
  let (rootB, parent) := find parent b
  parent.insert rootA rootB

/-- Join the IDs of a holder. -/
def joinLineage (parent : GoMap String String) (h : RedisNodeState) : GoMap String String :=
  if !isZeroReplid h.replid && !isZeroReplid h.replid2 then union parent h.replid h.replid2
  else if !isZeroReplid h.replid then (find parent h.replid).2
  else if !isZeroReplid h.replid2 then (find parent h.replid2).2
  else parent

/-- The lineage that a holder belongs to; one without an ID is a lineage of its own. -/
def lineageOf (parent : GoMap String String) (i : ℕ) (h : RedisNodeState) :
    String × GoMap String String :=
  if !isZeroReplid h.replid then find parent h.replid
  else if !isZeroReplid h.replid2 then find parent h.replid2
  else ("__noreplid_" ++ toString i, parent)

/-- The lineages of the holders from a given position on. -/
def lineagesFrom (parent : GoMap String String) : ℕ → List RedisNodeState → List String
  | _, [] => []
  | i, h :: rest =>
    let (lineage, parent) := lineageOf parent i h
    lineage :: lineagesFrom parent (i + 1) rest

/-- The holders fall into several classes. -/
def holdersDiverged (holders : List RedisNodeState) : Bool :=
  let parent := holders.foldl joinLineage ∅
  decide (1 < (lineagesFrom parent 0 holders).dedup.length)

namespace ReplicationState

/-- The most complete holder, and whether electing it would discard independent writes. -/
def bestDataHolder (s : ReplicationState) : Option RedisNodeState × Bool × Bool :=
  let holders := s.dataHolders
  match holders with
  | [] => (none, false, false)
  | first :: _ =>
    (some (holders.foldl betterHolder first), holdersDiverged holders, holdersForked holders)

/-- An address that is not part of the live topology. -/
def isGhost (s : ReplicationState) (ip : String) : Bool :=
  if ip = "" then false else !s.liveTopologyIPs.contains ip

def isOurs (s : ReplicationState) (ip : String) : Bool :=
  if ip = "" then false else s.ownedIPs.contains ip

/-- Some monitoring Sentinel knows a live replica that it does not hold for down. -/
def hasHealthyKnownReplica (s : ReplicationState) : Bool :=
  s.sentinelNodes.values.any fun sn => sn.reachable && sn.monitoring &&
    sn.replicas.any fun replica =>
      !s.isGhost replica.ip && !containsText replica.flags "s_down"

def reachableSentinels (s : ReplicationState) : ℕ :=
  s.sentinelNodes.values.countP (·.reachable)

/-- A majority of the reachable Sentinels monitors an address outside the live topology. -/
def sentinelsMonitorGhostMaster (s : ReplicationState) : Bool :=
  let reachable := s.sentinelNodes.values.filter (·.reachable)
  let ghost := reachable.countP fun sn =>
    sn.monitoring && sn.masterIP != "" && s.isGhost sn.masterIP
  decide (0 < reachable.length) && decide (reachable.length / 2 + 1 ≤ ghost)

end ReplicationState

end LittleRed.Replication
