import LittleRed.Lib.Votes
import LittleRed.Replication.State

/-!
# The consensus master

`determineRealMaster` takes the address that a majority of the Sentinels monitors, or else a pod that calls
itself master. Its loops range over maps, and one of them ends with the first match. `planReplicaRescue`
orders every other pod to follow that address, and Rule 0 has the bare Sentinels monitor it.
-/

namespace LittleRed.Replication

open Lib List

/-- The state of a failover that is done but for the other replicas. -/
def failoverStateReconfSlaves : String := "reconf_slaves"

def hasFlag (flags want : String) : Bool := (splitText ',' flags).any (trimSpace · == want)

namespace SentinelNodeState

variable (sn : SentinelNodeState)

/-- The Sentinel reports a failover of the master that it monitors. -/
def masterFailoverInProgress : Bool := failoverInProgress sn.masterFlags sn.masterFailoverState

/-- The failover that the Sentinel reports can never end: the replica that it promoted is down. -/
def failoverStalled : Bool :=
  if !sn.reachable || !sn.monitoring then false
  else if !sn.masterFailoverInProgress then false
  else if trimSpace sn.masterFailoverState ≠ failoverStateReconfSlaves then false
  else (sn.replicas.find? (hasFlag ·.flags "promoted")).any (flaggedDown ·.flags)

/-- A reachable Sentinel that monitors the desired name reports a failover. -/
def reportsFailover : Bool := sn.reachable && sn.monitoring && sn.masterFailoverInProgress

/-- The address that a reachable Sentinel monitors under the desired name. -/
def vote : Option String :=
  if sn.reachable && (sn.monitoring && sn.masterIP != "") then some sn.masterIP else none

end SentinelNodeState

/-- The orders of the loops of `determineRealMaster`. -/
structure ConsensusOrders where
  failovers : RangeOrder SentinelNodeState
  votes : RangeOrder SentinelNodeState
  masterCounts : RangeOrder (String × ℕ)
  redisNodes : RangeOrder RedisNodeState

/-- Every loop visits what it ranges over as it stands. -/
def ConsensusOrders.asGiven : ConsensusOrders := ⟨.asGiven, .asGiven, .asGiven, .asGiven⟩

/-- Look for a live address with a majority, and count the votes for addresses that are gone. -/
def scanCounts (s : ReplicationState) (majority : ℕ) : ℕ → List (String × ℕ) → String ⊕ ℕ
  | ghostMasterCount, [] => .inr ghostMasterCount
  | ghostMasterCount, (ip, count) :: rest =>
    let ghostMasterCount := if s.isGhost ip then ghostMasterCount + count else ghostMasterCount
    if majority ≤ count ∧ ip ∈ s.liveTopologyIPs then .inl ip
    else scanCounts s majority ghostMasterCount rest

/-- Note that some Sentinel reports a failover, and whether it can make progress. -/
def noteFailovers (orders : ConsensusOrders) (s : ReplicationState) : ReplicationState :=
  let reporting := (orders.failovers.reorder s.sentinelNodes.values).filter (·.reportsFailover)
  { s with
    failoverReported := s.failoverReported || !reporting.isEmpty
    failoverProgressing := s.failoverProgressing || reporting.any (!·.failoverStalled) }

/-- The number of votes for each address, in the order in which they are looked at. -/
def masterCounts (orders : ConsensusOrders) (s : ReplicationState) : List (String × ℕ) :=
  orders.masterCounts.reorder
    (tally ((orders.votes.reorder s.sentinelNodes.values).filterMap (·.vote)))

/-- The first reachable pod that calls itself master. -/
def redisMaster (orders : ConsensusOrders) (s : ReplicationState) : Option RedisNodeState :=
  (orders.redisNodes.reorder s.redisNodes.values).find? fun rn => rn.reachable && rn.role == roleMaster

/-- The master that the Sentinels or else the pods agree on. -/
def determineRealMaster (orders : ConsensusOrders) (s : ReplicationState) : ReplicationState :=
  let noted := noteFailovers orders s
  let reachableSentinels := (orders.votes.reorder s.sentinelNodes.values).countP (·.reachable)
  let majority := reachableSentinels / 2 + 1
  match scanCounts s majority 0 (masterCounts orders s) with
  | .inl ip => { noted with realMasterIP := ip }
  | .inr ghostMasterCount =>
    if !noted.failoverReported && decide (ghostMasterCount < majority) then
      match redisMaster orders s with
      | some rn => { noted with realMasterIP := rn.ip }
      | none => noted
    else noted

/-- The addresses that some monitoring Sentinel holds for just promoted. -/
def promotedIPs (s : ReplicationState) : List String :=
  (s.sentinelNodes.values.filter fun sn => sn.reachable && sn.monitoring).flatMap fun sn =>
    (sn.replicas.filter fun r => r.ip != "" && hasFlag r.flags "promoted").map (·.ip)

/-- The pods that are ordered to follow the master, in the order of their names. -/
def planReplicaRescue (order : RangeOrder (Σ _ : String, RedisNodeState)) (s : ReplicationState) :
    List RedisNodeState :=
  if s.realMasterIP = "" then []
  else
    let promoted := promotedIPs s
    let rescued := (order.reorder s.redisNodes.entries).filter fun entry =>
      entry.2.reachable && entry.1 != s.realMasterIP && !promoted.contains entry.1 &&
        (entry.2.role == roleMaster || entry.2.masterHost != s.realMasterIP)
    (rescued.map (·.2)).insertionSort (·.podName ≤ ·.podName)

namespace ReplicationState

variable (s : ReplicationState)

/-- How many votes are a majority of the reachable Sentinels. -/
def majority : ℕ := s.reachableSentinels / 2 + 1

def votes : List String := s.sentinelNodes.values.filterMap (·.vote)

/-- A live address with the votes of a majority. -/
structure Elected (ip : String) : Prop where
  live : ip ∈ s.liveTopologyIPs
  majority : s.majority ≤ s.votes.count ip

/-- A failover was reported before, or some Sentinel reports one. -/
def FailoverKnown : Prop :=
  s.failoverReported = true ∨ ∃ sn ∈ s.sentinelNodes.values, sn.reportsFailover = true

/-- A reachable pod that calls itself master. -/
def CallsItselfMaster (rn : RedisNodeState) : Prop :=
  rn ∈ s.redisNodes.values ∧ rn.reachable = true ∧ rn.role = roleMaster

end ReplicationState

section Scan

variable {s : ReplicationState} {majority : ℕ}

variable {counts : List (String × ℕ)}

/-- The only live address with a majority is found. -/
theorem scanCounts_of_mem {ip : String} {count : ℕ} (hmem : (ip, count) ∈ counts)
    (hmajority : majority ≤ count) (hlive : ip ∈ s.liveTopologyIPs)
    (hunique : ∀ entry ∈ counts, majority ≤ entry.2 → entry.1 = ip) (ghostMasterCount : ℕ) :
    scanCounts s majority ghostMasterCount counts = .inl ip := by
  induction counts generalizing ghostMasterCount with
  | nil => cases hmem
  | cons entry rest ih =>
    rw [forall_mem_cons] at hunique
    rw [scanCounts]
    by_cases hentry : majority ≤ entry.2 ∧ entry.1 ∈ s.liveTopologyIPs
    · rw [if_pos hentry, hunique.1 hentry.1]
    · rw [if_neg hentry]
      rcases mem_cons.mp hmem with rfl | hrest
      · exact absurd ⟨hmajority, hlive⟩ hentry
      · exact ih hrest hunique.2 _

/-- Without one all votes for ghosts are counted. -/
theorem scanCounts_of_none (hnone : ∀ entry ∈ counts, ¬(majority ≤ entry.2 ∧ entry.1 ∈ s.liveTopologyIPs))
    (ghostMasterCount : ℕ) :
    scanCounts s majority ghostMasterCount counts =
      .inr (ghostMasterCount + (counts.map fun entry => if s.isGhost entry.1 then entry.2 else 0).sum) := by
  induction counts generalizing ghostMasterCount with
  | nil => rfl
  | cons entry rest ih =>
    rw [forall_mem_cons] at hnone
    rw [scanCounts, if_neg hnone.1, ih hnone.2, map_cons]
    cases s.isGhost entry.1 with
    | true => simp [Nat.add_assoc]
    | false => simp

end Scan

section Votes

variable (s : ReplicationState)

/-- There are at most as many votes as reachable Sentinels. -/
theorem votes_length_le : s.votes.length ≤ s.reachableSentinels := by
  rw [ReplicationState.votes, length_filterMap_eq_countP]
  refine countP_mono_left fun sn _ hvote => ?_
  cases hreach : sn.reachable with
  | true => rfl
  | false => simp [SentinelNodeState.vote, hreach] at hvote

/-- A ghost master is a majority of votes for ghosts. -/
theorem sentinelsMonitorGhostMaster_iff :
    s.sentinelsMonitorGhostMaster = true ↔ s.majority ≤ s.votes.countP s.isGhost := by
  have hreachable : (s.sentinelNodes.values.filter (·.reachable)).length = s.reachableSentinels :=
    countP_eq_length_filter.symm
  have hghost : s.votes.countP s.isGhost = (s.sentinelNodes.values.filter (·.reachable)).countP
      fun sn => sn.monitoring && sn.masterIP != "" && s.isGhost sn.masterIP := by
    rw [ReplicationState.votes, countP_filterMap, countP_filter]
    refine countP_congr fun sn _ => ?_
    unfold SentinelNodeState.vote
    cases sn.reachable <;> cases sn.monitoring <;> cases hip : sn.masterIP != "" <;> simp_all
  have hle : s.votes.countP s.isGhost ≤ s.reachableSentinels :=
    Nat.le_trans countP_le_length (votes_length_le s)
  simp only [ReplicationState.sentinelsMonitorGhostMaster, ReplicationState.majority, hreachable, ← hghost,
    Bool.and_eq_true, decide_eq_true_eq]
  omega

variable {s} (orders : ConsensusOrders)

/-- The counts are those of the votes. -/
theorem mem_masterCounts_iff {ip : String} {count : ℕ} :
    (ip, count) ∈ masterCounts orders s ↔ ip ∈ s.votes ∧ s.votes.count ip = count := by
  have hvotes := (orders.votes.perm s.sentinelNodes.values).filterMap (·.vote)
  rw [masterCounts, RangeOrder.mem_reorder, mem_tally, hvotes.mem_iff, hvotes.count_eq]
  rfl

theorem sum_masterCounts (p : String → Bool) :
    ((masterCounts orders s).map fun entry => if p entry.1 then entry.2 else 0).sum = s.votes.countP p := by
  have hvotes := (orders.votes.perm s.sentinelNodes.values).filterMap (·.vote)
  rw [masterCounts, ((orders.masterCounts.perm _).map _).sum_eq, sum_tally, hvotes.countP_eq]
  rfl

theorem countP_voters :
    (orders.votes.reorder s.sentinelNodes.values).countP (·.reachable) = s.reachableSentinels :=
  (orders.votes.perm s.sentinelNodes.values).countP_eq _

theorem noteFailovers_failoverReported :
    (noteFailovers orders s).failoverReported = true ↔ s.FailoverKnown := by
  unfold noteFailovers ReplicationState.FailoverKnown
  simp [filter_eq_nil_iff, RangeOrder.mem_reorder]

end Votes

section Consensus

variable {s : ReplicationState} (orders : ConsensusOrders)

/-- An elected address is the master. -/
theorem determineRealMaster_of_elected {ip : String} (h : s.Elected ip) :
    (determineRealMaster orders s).realMasterIP = ip := by
  have hvoted : ip ∈ s.votes :=
    count_pos_iff.mp (Nat.lt_of_lt_of_le (Nat.succ_pos _) h.majority)
  have hscan : scanCounts s s.majority 0 (masterCounts orders s) = .inl ip := by
    refine scanCounts_of_mem ((mem_masterCounts_iff orders).mpr ⟨hvoted, rfl⟩) h.majority h.live ?_ 0
    rintro ⟨other, count⟩ hentry hmajority
    obtain ⟨-, rfl⟩ := (mem_masterCounts_iff orders).mp hentry
    exact majority_unique (votes_length_le s) hmajority h.majority
  rw [ReplicationState.majority] at hscan
  simp only [determineRealMaster, countP_voters, hscan]

/-- Else a pod that calls itself master, unless a failover or a ghost is known. -/
theorem determineRealMaster_of_not_elected (hnone : ∀ ip, ¬s.Elected ip) :
    (determineRealMaster orders s).realMasterIP =
      if (noteFailovers orders s).failoverReported || s.sentinelsMonitorGhostMaster then s.realMasterIP
      else ((redisMaster orders s).map (·.ip)).getD s.realMasterIP := by
  have hscan : scanCounts s s.majority 0 (masterCounts orders s) = .inr (s.votes.countP s.isGhost) := by
    rw [scanCounts_of_none, sum_masterCounts, Nat.zero_add]
    rintro ⟨ip, count⟩ hentry ⟨hmajority, hlive⟩
    obtain ⟨-, rfl⟩ := (mem_masterCounts_iff orders).mp hentry
    exact hnone ip ⟨hlive, hmajority⟩
  have hghost : decide (s.votes.countP s.isGhost < s.majority) = !s.sentinelsMonitorGhostMaster := by
    rw [Bool.eq_iff_iff, decide_eq_true_iff, Bool.not_eq_true', ← Bool.not_eq_true,
      sentinelsMonitorGhostMaster_iff, Nat.not_le]
  rw [ReplicationState.majority] at hscan hghost
  simp only [determineRealMaster, countP_voters, hscan, hghost]
  cases (noteFailovers orders s).failoverReported with
  | true => rfl
  | false =>
    cases s.sentinelsMonitorGhostMaster with
    | true => rfl
    | false => cases redisMaster orders s <;> rfl

/-- The master is decided in the same way, in whatever order the loops run. -/
def OrderIndependent (s : ReplicationState) : Prop :=
  ∀ orders orders' : ConsensusOrders,
    (determineRealMaster orders s).realMasterIP = (determineRealMaster orders' s).realMasterIP ∧
      ∀ order order' rn, rn ∈ planReplicaRescue order (determineRealMaster orders s) ↔
        rn ∈ planReplicaRescue order' (determineRealMaster orders' s)

/-- Only the notes and the master change. -/
theorem exists_determineRealMaster_eq (orders : ConsensusOrders) (s : ReplicationState) :
    ∃ ip, determineRealMaster orders s = { noteFailovers orders s with realMasterIP := ip } := by
  unfold determineRealMaster
  dsimp only
  split
  · exact ⟨_, rfl⟩
  split
  · split
    · exact ⟨_, rfl⟩
    · exact ⟨_, rfl⟩
  · exact ⟨_, rfl⟩

/-- The pods stay the same. -/
theorem determineRealMaster_nodes :
    (determineRealMaster orders s).redisNodes = s.redisNodes ∧
      (determineRealMaster orders s).sentinelNodes = s.sentinelNodes := by
  obtain ⟨ip, heq⟩ := exists_determineRealMaster_eq orders s
  rw [heq]
  exact ⟨rfl, rfl⟩

variable {rn : RedisNodeState}

/-- Whom the rescue plan orders to follow. -/
theorem mem_planReplicaRescue_iff (order : RangeOrder (Σ _ : String, RedisNodeState)) :
    rn ∈ planReplicaRescue order s ↔ s.realMasterIP ≠ "" ∧ ∃ ip, ⟨ip, rn⟩ ∈ s.redisNodes.entries ∧
      rn.reachable = true ∧ ip ≠ s.realMasterIP ∧ ip ∉ promotedIPs s ∧
        (rn.role = roleMaster ∨ rn.masterHost ≠ s.realMasterIP) := by
  unfold planReplicaRescue
  by_cases hmaster : s.realMasterIP = ""
  · simp [hmaster]
  · simp [hmaster, mem_insertionSort, RangeOrder.mem_reorder, and_assoc]

/-- The plan depends on the pods and the master only. -/
theorem mem_planReplicaRescue_congr {s' : ReplicationState} (hredis : s'.redisNodes = s.redisNodes)
    (hsentinels : s'.sentinelNodes = s.sentinelNodes) (hmaster : s'.realMasterIP = s.realMasterIP)
    (order order' : RangeOrder (Σ _ : String, RedisNodeState)) (rn : RedisNodeState) :
    rn ∈ planReplicaRescue order s' ↔ rn ∈ planReplicaRescue order' s := by
  rw [mem_planReplicaRescue_iff, mem_planReplicaRescue_iff, promotedIPs, promotedIPs, hredis,
    hsentinels, hmaster]

/-- What is found calls itself master. -/
theorem callsItselfMaster_of_redisMaster (h : redisMaster orders s = some rn) :
    s.CallsItselfMaster rn := by
  have hmaster := List.find?_some h
  rw [Bool.and_eq_true, beq_iff_eq] at hmaster
  exact ⟨orders.redisNodes.mem_reorder.mp (mem_of_find?_eq_some h), hmaster⟩

/-- With one address the order does not matter. -/
theorem redisMaster_ip_eq (orders' : ConsensusOrders)
    (hsame : ∀ rn rn', s.CallsItselfMaster rn → s.CallsItselfMaster rn' → rn.ip = rn'.ip) :
    (redisMaster orders s).map (·.ip) = (redisMaster orders' s).map (·.ip) := by
  have hfound : ∀ orders orders' : ConsensusOrders, redisMaster orders s = none →
      redisMaster orders' s = none := by
    intro orders orders' hnone
    refine List.find?_eq_none.mpr fun rn hrn => List.find?_eq_none.mp hnone rn ?_
    exact orders.redisNodes.mem_reorder.mpr (orders'.redisNodes.mem_reorder.mp hrn)
  cases h : redisMaster orders s with
  | none => rw [hfound orders orders' h]
  | some rn =>
    cases h' : redisMaster orders' s with
    | none =>
      rw [hfound orders' orders h'] at h
      cases h
    | some rn' =>
      rw [Option.map_some, Option.map_some, hsame rn rn' (callsItselfMaster_of_redisMaster orders h)
        (callsItselfMaster_of_redisMaster orders' h')]

/-- Any pod that calls itself master can come first. -/
theorem determineRealMaster_toFront (hnone : ∀ ip, ¬s.Elected ip) (hknown : ¬s.FailoverKnown)
    (hghost : s.sentinelsMonitorGhostMaster = false) (hrn : s.CallsItselfMaster rn) :
    (determineRealMaster { ConsensusOrders.asGiven with redisNodes := .toFront rn } s).realMasterIP =
      rn.ip := by
  obtain ⟨hmem, hreach, hrole⟩ := hrn
  have hfound : redisMaster { ConsensusOrders.asGiven with redisNodes := .toFront rn } s = some rn :=
    RangeOrder.find?_toFront hmem (by simp [hreach, hrole])
  rw [determineRealMaster_of_not_elected _ hnone, hghost, Bool.or_false, if_neg, hfound]
  · rfl
  · rwa [noteFailovers_failoverReported]

/-- Without two candidates the order does not matter. -/
theorem determineRealMaster_eq_of_not_elected (orders' : ConsensusOrders) (hnone : ∀ ip, ¬s.Elected ip)
    (hsame : s.FailoverKnown ∨ s.sentinelsMonitorGhostMaster = true ∨
      ∀ rn rn', s.CallsItselfMaster rn → s.CallsItselfMaster rn' → rn.ip = rn'.ip) :
    (determineRealMaster orders s).realMasterIP = (determineRealMaster orders' s).realMasterIP := by
  have hreported : (noteFailovers orders s).failoverReported =
      (noteFailovers orders' s).failoverReported := by
    rw [Bool.eq_iff_iff, noteFailovers_failoverReported, noteFailovers_failoverReported]
  rw [determineRealMaster_of_not_elected orders hnone,
    determineRealMaster_of_not_elected orders' hnone, ← hreported]
  split
  · rfl
  rename_i hopen
  rw [Bool.or_eq_true, noteFailovers_failoverReported, not_or] at hopen
  rw [redisMaster_ip_eq orders orders' ((hsame.resolve_left hopen.1).resolve_left hopen.2)]

end Consensus

/-- The order matters exactly when no live address has a majority, no failover or ghost is known,
and two addresses call themselves master. -/
theorem orderIndependent_iff (s : ReplicationState) :
    OrderIndependent s ↔ (∃ ip, s.Elected ip) ∨ s.FailoverKnown ∨ s.sentinelsMonitorGhostMaster = true ∨
        ∀ rn rn', s.CallsItselfMaster rn → s.CallsItselfMaster rn' → rn.ip = rn'.ip := by
  constructor
  · intro hsame
    by_contra hopen
    simp only [not_or, not_exists, Bool.not_eq_true] at hopen
    obtain ⟨hnone, hknown, hghost, hdiffer⟩ := hopen
    refine hdiffer fun rn rn' hrn hrn' => ?_
    rw [← determineRealMaster_toFront hnone hknown hghost hrn,
      ← determineRealMaster_toFront hnone hknown hghost hrn']
    exact (hsame _ _).1
  · intro hclosed orders orders'
    have hmaster : (determineRealMaster orders s).realMasterIP =
        (determineRealMaster orders' s).realMasterIP := by
      by_cases helected : ∃ ip, s.Elected ip
      · obtain ⟨ip, hip⟩ := helected
        rw [determineRealMaster_of_elected orders hip, determineRealMaster_of_elected orders' hip]
      · exact determineRealMaster_eq_of_not_elected orders orders' (not_exists.mp helected)
          (hclosed.resolve_left helected)
    refine ⟨hmaster, fun order order' rn => ?_⟩
    obtain ⟨hredis, hsentinels⟩ := determineRealMaster_nodes (s := s) orders
    obtain ⟨hredis', hsentinels'⟩ := determineRealMaster_nodes (s := s) orders'
    exact mem_planReplicaRescue_congr (hredis.trans hredis'.symm) (hsentinels.trans hsentinels'.symm)
      hmaster order order' rn

def firstMaster : RedisNodeState :=
  ⟨"lr-redis-0", "10.0.0.10", "master", "", "", 80, 2, "7a", "", true, .ok⟩

def secondMaster : RedisNodeState :=
  ⟨"lr-redis-1", "10.0.0.11", "master", "", "", 90, 3, "e2", "7a", true, .ok⟩

def twoMasters : ReplicationState where
  redisNodes := GoMap.ofPairs [("10.0.0.10", firstMaster), ("10.0.0.11", secondMaster)]
  sentinelNodes := GoMap.ofPairs
    [("10.0.0.20",
      { podName := "lr-sentinel-0"
        ip := "10.0.0.20"
        monitoring := false
        masterIP := ""
        reachable := true
        replicas := [] })]
  liveTopologyIPs := ["10.0.0.10", "10.0.0.11", "10.0.0.20"]

/-- Whichever pod the loop visits first becomes the master, and the other one is ordered to follow
it. -/
theorem twoMasters_order_decides :
    let decided (first : RedisNodeState) :=
      determineRealMaster { ConsensusOrders.asGiven with redisNodes := .toFront first } twoMasters
    (decided firstMaster).realMasterIP = "10.0.0.10" ∧
      planReplicaRescue .asGiven (decided firstMaster) = [secondMaster] ∧
      (decided secondMaster).realMasterIP = "10.0.0.11" ∧
      planReplicaRescue .asGiven (decided secondMaster) = [firstMaster] ∧
      ¬OrderIndependent twoMasters := by
  refine ⟨by decide, by decide, by decide, by decide, fun h => ?_⟩
  have hsame := (h { ConsensusOrders.asGiven with redisNodes := .toFront firstMaster }
    { ConsensusOrders.asGiven with redisNodes := .toFront secondMaster }).1
  exact absurd hsame (by decide)

end LittleRed.Replication
