import LittleRed.Cluster.GatherSpec
import LittleRed.Cluster.MeetPlan
import LittleRed.Cluster.Partitions
import LittleRed.Lib.ListLoops

/-!
# What the introductions of a pass achieve

A plan of introductions names every gathered pod once: as the seed, as a target or among the skipped. It
introduces exactly the nodes that answered, with an address, an identity and a view. Two nodes in one
partition suffice for a seed, and carried out it puts the seed and the targets in one partition.
-/

namespace LittleRed.Cluster

open Lib Relation List AList

section Heads

variable {live : List String} {adj : String → List String}

/-- A search extends the partition. -/
theorem explore_extends (fuel : ℕ) (queue visited partition : List String) :
    ∃ rest, (explore live.contains adj fuel queue visited partition).1 = partition ++ rest := by
  induction fuel generalizing queue visited partition with
  | zero => exact ⟨[], (append_nil partition).symm⟩
  | succ fuel ih =>
    cases queue with
    | nil => exact ⟨[], (append_nil partition).symm⟩
    | cons curr queue =>
      obtain ⟨rest, hrest⟩ := ih ((adj curr).foldl (visitNeighbor live.contains) (queue, visited)).1
        ((adj curr).foldl (visitNeighbor live.contains) (queue, visited)).2 (partition ++ [curr])
      rw [append_assoc] at hrest
      exact ⟨_, hrest⟩

/-- A partition begins with a live node, which lists some node unless it is alone. -/
def Headed (live : List String) (adj : String → List String) (block : List String) : Prop :=
  ∃ id rest, block = id :: rest ∧ id ∈ live ∧ (rest ≠ [] → adj id ≠ [])

theorem headed_explore {id : String} (hid : id ∈ live) (visited : List String) :
    Headed live adj (explore live.contains adj live.length [id] visited []).1 := by
  obtain ⟨fuel, hfuel⟩ : ∃ fuel, live.length = fuel + 1 :=
    ⟨live.length - 1, (Nat.sub_add_cancel (length_pos_of_mem hid)).symm⟩
  rw [hfuel, explore]
  obtain ⟨rest, hrest⟩ := @explore_extends live adj fuel
    ((adj id).foldl (visitNeighbor live.contains) ([], visited)).1
    ((adj id).foldl (visitNeighbor live.contains) ([], visited)).2 [id]
  refine ⟨id, rest, hrest, hid, fun hne hleaf => hne ?_⟩
  -- a start that lists nothing leaves the queue empty
  rw [hleaf] at hrest
  cases fuel <;> exact (List.cons.inj hrest).2.symm

/-- Every partition is headed by a live node. -/
theorem computePartitions_headed (live : List String) (adj : String → List String) :
    ∀ block ∈ computePartitions live adj, Headed live adj block := by
  have hrun : ∀ (ids : List String) (acc : List (List String) × List String),
      (∀ id ∈ ids, id ∈ live) → (∀ block ∈ acc.1, Headed live adj block) →
      ∀ block ∈ (ids.foldl (startPartition live adj) acc).1, Headed live adj block := by
    intro ids
    induction ids with
    | nil => exact fun acc _ hacc => hacc
    | cons id rest ih =>
      intro acc hids hacc
      rw [forall_mem_cons] at hids
      apply ih _ hids.2
      unfold startPartition
      split
      · exact hacc
      intro block hblock
      rcases mem_append.mp hblock with hold | hnew
      · exact hacc block hold
      · rw [mem_singleton.mp hnew]
        exact headed_explore hids.1 (id :: acc.2)
  exact hrun live ([], []) (fun _ => id) nofun

end Heads

section Hub

variable {live : List String} {adj : String → List String}

/-- The searches so far have visited none of the members, or have found them all in one partition. -/
def MetTogether (members : List String) (acc : List (List String) × List String) : Prop :=
  (∀ id ∈ members, id ∉ acc.2) ∨ ∃ block ∈ acc.1, ∀ id ∈ members, id ∈ block

variable {hub targetID : String} {spokes : List String}

/-- One search finds the hub with its spokes or none of them. -/
theorem MetTogether.search {start : String} {partition visited : List String}
    {acc : List (List String) × List String} (h : MetTogether (hub :: spokes) acc)
    (hlive : ∀ id ∈ hub :: spokes, id ∈ live) (hout : ∀ id ∈ spokes, id ∈ adj hub)
    (hin : ∀ id ∈ spokes, hub ∈ adj id) (hsearch : Searching live adj start acc.2 [] visited partition) :
    MetTogether (hub :: spokes) (acc.1 ++ [partition], visited) := by
  rcases h with hnone | ⟨block, hblock, hmembers⟩
  · have hsplit : ∀ id, id ∈ visited ↔ id ∈ partition ∨ id ∈ acc.2 := by
      intro id
      rw [hsearch.split.mem_iff]
      simp
    -- what a member of the partition lists is visited, and by no earlier search
    have hstep : ∀ a ∈ partition, ∀ b ∈ hub :: spokes, b ∈ adj a → b ∈ partition := by
      intro a ha b hb hlisted
      have hvisited := hsearch.closed a ha b hlisted (hlive b hb)
      exact ((hsplit b).mp hvisited).resolve_right (hnone b hb)
    by_cases hmet : ∃ id ∈ hub :: spokes, id ∈ partition
    · right
      refine ⟨partition, mem_append_right _ mem_cons_self, ?_⟩
      have hhub : hub ∈ partition := by
        obtain ⟨id, hid, hmem⟩ := hmet
        rcases mem_cons.mp hid with rfl | hspoke
        · exact hmem
        · exact hstep id hmem hub mem_cons_self (hin id hspoke)
      intro id hid
      rcases mem_cons.mp hid with rfl | hspoke
      · exact hhub
      · exact hstep hub hhub id hid (hout id hspoke)
    · left
      intro id hid hvisited
      rcases (hsplit id).mp hvisited with hmem | hearlier
      · exact hmet ⟨id, hid, hmem⟩
      · exact hnone id hid hearlier
  · exact .inr ⟨block, mem_append_left _ hblock, hmembers⟩

/-- The hub and its spokes are in one partition. -/
theorem exists_partition_of_hub (hlive : ∀ id ∈ hub :: spokes, id ∈ live) (hout : ∀ id ∈ spokes, id ∈ adj hub)
    (hin : ∀ id ∈ spokes, hub ∈ adj id) :
    ∃ block ∈ computePartitions live adj, ∀ id ∈ hub :: spokes, id ∈ block := by
  obtain ⟨-, hmet, hall⟩ := partitions_induction (MetTogether (hub :: spokes))
    (.inl fun _ _ => not_mem_nil)
    fun acc start partition visited _ h _ hsearch => h.search hlive hout hin hsearch
  rcases hmet with hnone | hfound
  · exact absurd (hall hub (hlive hub mem_cons_self)) (hnone hub mem_cons_self)
  · exact hfound

/-- The views after a `CLUSTER MEET` has joined two nodes. -/
def joinNodes (seedID : String) (adj : String → List String) (targetID : String) : String → List String :=
  fun id =>
    if id = seedID then adj id ++ [targetID]
    else if id = targetID then adj id ++ [seedID]
    else adj id

/-- The views after all introductions of a plan are carried out. -/
def afterMeets (adj : String → List String) (seedID : String) (targetIDs : List String) :
    String → List String :=
  targetIDs.foldl (joinNodes seedID) adj

theorem mem_joinNodes {seedID id listed : String} (h : listed ∈ adj id) :
    listed ∈ joinNodes seedID adj targetID id := by
  unfold joinNodes
  split
  · exact mem_append_left _ h
  split
  · exact mem_append_left _ h
  · exact h

theorem mem_afterMeets {seedID : String} {targetIDs : List String} {id listed : String}
    (h : listed ∈ adj id) : listed ∈ afterMeets adj seedID targetIDs id := by
  induction targetIDs generalizing adj with
  | nil => exact h
  | cons targetID rest ih => exact ih (mem_joinNodes h)

/-- Seed and target list each other. -/
theorem afterMeets_mutual (adj : String → List String) (seedID : String) {targetIDs : List String}
    (h : targetID ∈ targetIDs) :
    targetID ∈ afterMeets adj seedID targetIDs seedID ∧
      seedID ∈ afterMeets adj seedID targetIDs targetID := by
  induction targetIDs generalizing adj with
  | nil => cases h
  | cons first rest ih =>
    rcases mem_cons.mp h with rfl | hrest
    · have hout : targetID ∈ joinNodes seedID adj targetID seedID := by simp [joinNodes]
      have hin : seedID ∈ joinNodes seedID adj targetID targetID := by
        by_cases hsame : targetID = seedID <;> simp [joinNodes, hsame]
      exact ⟨@mem_afterMeets (joinNodes seedID adj targetID) seedID rest _ _ hout,
        @mem_afterMeets (joinNodes seedID adj targetID) seedID rest _ _ hin⟩
    · exact ih (joinNodes seedID adj first) hrest

end Hub

section Plan

variable {gt : ClusterGroundTruth} {seed : ClusterNodeState}

/-- A node that can be introduced: it answered, and has an address, an identity and a view. -/
def ClusterGroundTruth.introducible (gt : ClusterGroundTruth) (node : ClusterNodeState) : Bool :=
  node.reachable && node.podIP != "" && node.nodeID != "" && (gt.knownNodes.lookup node.nodeID).isSome

/-- A node with address, identity and view is admissible. -/
theorem admissible_attributeMeetTarget (candidate : MeetCandidate) (ourIDs : List String) :
    (attributeMeetTarget candidate ourIDs).admissibleWhenConfirmed = true ↔
      candidate.podIP ≠ "" ∧ candidate.identified = true ∧ candidate.nodeID ≠ "" ∧
        candidate.viewKnown = true := by
  unfold attributeMeetTarget
  split
  · rename_i hip
    exact iff_of_false (by decide) fun h => h.1 hip
  · rename_i hip
    split
    · rename_i hid
      refine iff_of_false (by decide) fun h => ?_
      rcases hid with hid | hid
      · rw [h.2.1] at hid
        cases hid
      · exact h.2.2.1 hid
    · rename_i hid
      rw [not_or, Bool.not_eq_false] at hid
      split
      · rename_i hview
        refine iff_of_false (by decide) fun h => ?_
        rw [h.2.2.2] at hview
        cases hview
      · rename_i hview
        -- with all the evidence, each of the remaining verdicts is admissible
        refine iff_of_true ?_ ⟨hip, hid.1, hid.2, Bool.not_eq_false _ ▸ hview⟩
        dsimp only
        split
        · rfl
        · split <;> rfl

/-- So a gathered node is exactly if it is introducible. -/
theorem admissible_meetCandidate (gt : ClusterGroundTruth) (node : ClusterNodeState) (ourIDs : List String) :
    (attributeMeetTarget (gt.meetCandidate node) ourIDs).admissibleWhenConfirmed = gt.introducible node := by
  rw [Bool.eq_iff_iff, admissible_attributeMeetTarget]
  simp only [ClusterGroundTruth.meetCandidate, ClusterGroundTruth.introducible, Bool.and_eq_true, bne_iff_ne]
  tauto

/-- The node is the seed. -/
def ClusterNodeState.isSeed (seed node : ClusterNodeState) : Bool :=
  node.nodeID != "" && node.nodeID == seed.nodeID

/-- The entry of a skipped node. -/
def ClusterGroundTruth.meetSkip (gt : ClusterGroundTruth) (ourIDs : List String) (node : ClusterNodeState) :
    MeetSkip :=
  ⟨node.podName, node.podIP, node.nodeID, attributeMeetTarget (gt.meetCandidate node) ourIDs⟩

/-- The loop divides the nodes into targets and skipped ones. -/
theorem foldl_judgeMeetTarget (gt : ClusterGroundTruth) (seed : ClusterNodeState) (ourIDs : List String)
    (nodes : List ClusterNodeState) (plan : MeetPlan) :
    (nodes.foldl (gt.judgeMeetTarget seed ourIDs) plan).seed = plan.seed ∧
      (nodes.foldl (gt.judgeMeetTarget seed ourIDs) plan).targets =
        plan.targets ++ (nodes.filter (!seed.isSeed ·)).filter gt.introducible ∧
      (nodes.foldl (gt.judgeMeetTarget seed ourIDs) plan).skipped =
        plan.skipped ++ ((nodes.filter (!seed.isSeed ·)).filter (!gt.introducible ·)).map
          (gt.meetSkip ourIDs) := by
  induction nodes generalizing plan with
  | nil => simp
  | cons node rest ih =>
    obtain ⟨hseed, htargets, hskipped⟩ := ih (gt.judgeMeetTarget seed ourIDs plan node)
    rw [foldl_cons, hseed, htargets, hskipped]
    unfold ClusterGroundTruth.judgeMeetTarget
    dsimp only
    rw [admissible_meetCandidate]
    by_cases hsame : node.nodeID ≠ "" ∧ node.nodeID = seed.nodeID
    · have hself : seed.isSeed node = true := by simpa [ClusterNodeState.isSeed] using hsame
      rw [if_pos hsame]
      simp [hself]
    · have hself : seed.isSeed node = false := by
        simpa [ClusterNodeState.isSeed] using hsame
      rw [if_neg hsame]
      cases hok : gt.introducible node <;> simp [hself, hok, ClusterGroundTruth.meetSkip]

/-- The nodes in the order of the loop. -/
def ClusterGroundTruth.judgedNodes (gt : ClusterGroundTruth) : List ClusterNodeState :=
  (gt.nodes.keys.mergeSort fun a b => decide (a ≤ b)).filterMap gt.nodes.lookup

/-- A plan with a seed. -/
theorem planPartitionMeets_of_seed (h : gt.planPartitionMeets.seed = some seed) :
    seed ∈ gt.nodes.values ∧ gt.introducible seed = true ∧ ∃ ourIDs,
      gt.planPartitionMeets.targets = (gt.judgedNodes.filter (!seed.isSeed ·)).filter gt.introducible ∧
      gt.planPartitionMeets.skipped =
        ((gt.judgedNodes.filter (!seed.isSeed ·)).filter (!gt.introducible ·)).map (gt.meetSkip ourIDs) := by
  unfold ClusterGroundTruth.planPartitionMeets at h ⊢
  cases hlargest : gt.getLargestPartitionSeed with
  | none =>
    rw [hlargest] at h
    cases h
  | some found =>
    rw [hlargest] at h
    dsimp only at h ⊢
    split at h
    · rename_i hadmissible
      rw [if_pos hadmissible]
      rw [admissible_meetCandidate] at hadmissible
      obtain ⟨hseed, -, -⟩ := foldl_judgeMeetTarget gt found _ _ _
      obtain rfl : found = seed := Option.some.inj (hseed.symm.trans h)
      obtain ⟨-, htargets, hskipped⟩ := foldl_judgeMeetTarget gt found
        ((gt.nodes.values.filter fun node => node.reachable && node.nodeID != "").map
          ClusterNodeState.nodeID) gt.judgedNodes ⟨some found, _, [], [], []⟩
      refine ⟨?_, hadmissible, _, htargets, hskipped⟩
      unfold ClusterGroundTruth.getLargestPartitionSeed at hlargest
      split at hlargest
      · exact mem_of_head? hlargest
      · obtain ⟨id, -, hfind⟩ := Option.bind_eq_some_iff.mp hlargest
        exact mem_of_find?_eq_some hfind
    · cases h

/-- An introducible first member is the seed. -/
theorem planPartitionMeets_seed (hfound : gt.getLargestPartitionSeed = some seed)
    (hok : gt.introducible seed = true) : gt.planPartitionMeets.seed = some seed := by
  unfold ClusterGroundTruth.planPartitionMeets
  rw [hfound]
  dsimp only
  rw [admissible_meetCandidate, if_pos hok, (foldl_judgeMeetTarget gt seed _ _ _).1]

end Plan

section Gathered

variable {pods : ClusterPods} {replies : String → ProbeReplies} {gt : ClusterGroundTruth}

/-- The node IDs that pods answered with, in some order. -/
structure LiveOrder (pods : ClusterPods) (replies : String → ProbeReplies) (order : List String) : Prop where
  nodup : order.Nodup
  answered : ∀ id, id ∈ order ↔ AnsweredID pods replies id

/-- A view that the gather returns, in whatever order it ranges over its maps. -/
structure GatheredInOrder (pods : ClusterPods) (replies : String → ProbeReplies)
    (gt : ClusterGroundTruth) : Prop where
  nodes : ∀ podName, gt.nodes.lookup podName = (gatherClusterGroundTruth pods replies).nodes.lookup podName
  known : ∀ id, gt.knownNodes.lookup id = (gatherClusterGroundTruth pods replies).knownNodes.lookup id
  partitions : ∃ order, LiveOrder pods replies order ∧
    gt.partitions = computePartitions order (listedBy gt.knownNodes)

/-- What is gathered, in order. -/
theorem gatheredInOrder_gather (pods : ClusterPods) (replies : String → ProbeReplies) :
    GatheredInOrder pods replies (gatherClusterGroundTruth pods replies) := by
  obtain ⟨live, hnodup, hanswered, hpartitions⟩ := exists_live_gather pods replies
  exact ⟨fun _ => rfl, fun _ => rfl, live, ⟨hnodup, hanswered⟩, hpartitions⟩

def Addressed (pods : ClusterPods) : Prop := ∀ ip podName, pods.Listed ip podName → ip ≠ ""

/-- No two pods answer with one ID. -/
def DistinctIDs (pods : ClusterPods) (replies : String → ProbeReplies) : Prop :=
  ∀ ip podName ip' podName' id, pods.Listed ip podName → pods.Listed ip' podName' →
    (replies ip).clusterID = some id → (replies ip').clusterID = some id → ip = ip'

/-- No pod answers with an empty ID. -/
def NonemptyIDs (pods : ClusterPods) (replies : String → ProbeReplies) : Prop :=
  ∀ ip podName, pods.Listed ip podName → (replies ip).clusterID ≠ some ""

/-- A node has the pod and the address that were asked. -/
theorem probedNode_own (ip podName : String) (replies : ProbeReplies) :
    (probedNode ip podName replies).podName = podName ∧ (probedNode ip podName replies).podIP = ip := by
  obtain ⟨hname, hip⟩ := identifyNode_own ip podName replies
  have hfold : ∀ (lines : List ClusterNodeInfo) (node : ClusterNodeState),
      (lines.foldl readNodeLine node).podName = node.podName ∧
        (lines.foldl readNodeLine node).podIP = node.podIP := by
    intro lines
    induction lines with
    | nil => exact fun node => ⟨rfl, rfl⟩
    | cons line rest ih =>
      intro node
      obtain ⟨hname, hip, -, -⟩ := readNodeLine_identity node line
      rw [foldl_cons, (ih _).1, (ih _).2]
      exact ⟨hname, hip⟩
  unfold probedNode probeNodeTopology
  dsimp only
  split
  · split
    · exact ⟨hname, hip⟩
    · rename_i lines _
      exact ⟨(hfold lines _).1.trans hname, (hfold lines _).2.trans hip⟩
  · exact ⟨hname, hip⟩

variable {node seed : ClusterNodeState}

section

variable (h : GatheredInOrder pods replies gt)
include h

/-- The nodes are those of the listed pods. -/
theorem GatheredInOrder.mem_nodes :
    node ∈ gt.nodes.values ↔
      ∃ ip podName, pods.Listed ip podName ∧ node = probedNode ip podName (replies ip) := by
  constructor
  · intro hmem
    obtain ⟨podName, hlookup⟩ := GoMap.exists_lookup_of_mem_values hmem
    rw [h.nodes, lookup_gather_nodes] at hlookup
    obtain ⟨ip, hlisted, rfl⟩ := hlookup
    exact ⟨ip, podName, hlisted, rfl⟩
  · rintro ⟨ip, podName, hlisted, rfl⟩
    have hlookup := (lookup_gather_nodes pods replies).mpr ⟨ip, hlisted, rfl⟩
    rw [← h.nodes] at hlookup
    exact GoMap.mem_values_of_lookup hlookup

/-- A node stands under its pod. -/
theorem GatheredInOrder.podName_of_lookup {podName : String}
    (hlookup : gt.nodes.lookup podName = some node) : node.podName = podName := by
  rw [h.nodes, lookup_gather_nodes] at hlookup
  obtain ⟨ip, -, rfl⟩ := hlookup
  exact (probedNode_own ip podName (replies ip)).1

/-- A reachable node answered with its ID. -/
theorem GatheredInOrder.answered (hmem : node ∈ gt.nodes.values) (hreach : node.reachable = true) :
    AnsweredID pods replies node.nodeID := by
  obtain ⟨ip, podName, hlisted, rfl⟩ := h.mem_nodes.mp hmem
  obtain ⟨hid, hanswered⟩ := probedNode_nodeID ip podName (replies ip)
  rw [hanswered] at hreach
  obtain ⟨id, hanswer⟩ := Option.isSome_iff_exists.mp hreach
  rw [hid, hanswer]
  exact ⟨ip, podName, hlisted, hanswer⟩

/-- An ID belongs to one node. -/
theorem GatheredInOrder.eq_of_nodeID (hdistinct : DistinctIDs pods replies)
    {node' : ClusterNodeState} (hmem : node ∈ gt.nodes.values) (hmem' : node' ∈ gt.nodes.values)
    (hid : node.nodeID ≠ "") (heq : node'.nodeID = node.nodeID) : node' = node := by
  obtain ⟨ip, podName, hlisted, rfl⟩ := h.mem_nodes.mp hmem
  obtain ⟨ip', podName', hlisted', rfl⟩ := h.mem_nodes.mp hmem'
  rw [(probedNode_nodeID ip' podName' (replies ip')).1] at heq
  rw [(probedNode_nodeID ip podName (replies ip)).1] at hid heq
  obtain ⟨id, hanswer⟩ : ∃ id, (replies ip).clusterID = some id := by
    cases hanswer : (replies ip).clusterID with
    | none => simp [hanswer] at hid
    | some id => exact ⟨id, rfl⟩
  obtain ⟨id', hanswer'⟩ : ∃ id, (replies ip').clusterID = some id := by
    cases hanswer' : (replies ip').clusterID with
    | none =>
      rw [hanswer'] at heq
      exact absurd heq.symm hid
    | some id => exact ⟨id, rfl⟩
  rw [hanswer, hanswer'] at heq
  subst heq
  obtain rfl := hdistinct ip podName ip' podName' id' hlisted hlisted' hanswer hanswer'
  obtain rfl : podName = podName' := Option.some.inj (hlisted.symm.trans hlisted')
  rfl

/-- The loop meets every pod once. -/
theorem GatheredInOrder.judgedNodes_names :
    (gt.judgedNodes.map ClusterNodeState.podName).Perm gt.nodes.keys := by
  have hkeep : ∀ names : List String, (∀ name ∈ names, name ∈ gt.nodes) →
      (names.filterMap gt.nodes.lookup).map ClusterNodeState.podName = names := by
    intro names hnames
    induction names with
    | nil => rfl
    | cons name rest ih =>
      rw [forall_mem_cons] at hnames
      obtain ⟨node, hlookup⟩ := Option.isSome_iff_exists.mp (lookup_isSome.mpr hnames.1)
      rw [filterMap_cons_some (f := fun a => gt.nodes.lookup a) hlookup, map_cons, ih hnames.2,
        h.podName_of_lookup hlookup]
  have hsorted := mergeSort_perm gt.nodes.keys fun a b => decide (a ≤ b)
  rw [ClusterGroundTruth.judgedNodes, hkeep]
  · exact hsorted
  · intro name hname
    exact mem_keys.mp (hsorted.mem_iff.mp hname)

end

/-- The loop meets the gathered nodes. -/
theorem mem_judgedNodes : node ∈ gt.judgedNodes ↔ node ∈ gt.nodes.values := by
  rw [ClusterGroundTruth.judgedNodes, mem_filterMap]
  constructor
  · rintro ⟨name, -, hlookup⟩
    exact GoMap.mem_values_of_lookup hlookup
  · intro hmem
    obtain ⟨name, hlookup⟩ := GoMap.exists_lookup_of_mem_values hmem
    refine ⟨name, ?_, hlookup⟩
    rw [(mergeSort_perm _ _).mem_iff]
    exact mem_keys.mp (lookup_isSome.mp (by rw [hlookup]; rfl))

variable {block : List String} {id : String}

/-- The seed is the head of a largest partition. -/
theorem getLargestPartitionSeed_eq (hblock : block ∈ gt.partitions) :
    ∃ largest ∈ gt.partitions, block.length ≤ largest.length ∧ gt.getLargestPartitionSeed =
      largest.head?.bind fun targetID => gt.nodes.values.find? fun node => node.nodeID == targetID := by
  unfold ClusterGroundTruth.getLargestPartitionSeed
  cases hpartitions : gt.partitions with
  | nil =>
    rw [hpartitions] at hblock
    cases hblock
  | cons first rest =>
    rw [hpartitions] at hblock
    obtain ⟨hmem, hbest⟩ := foldl_choose (r := fun a best : List String => best.length < a.length)
      (fun a b hab => by omega) (fun a b c hac => by omega) rest first
    exact ⟨_, hmem, Nat.le_of_not_lt (hbest block hblock), rfl⟩

section

variable (h : GatheredInOrder pods replies gt)
include h

/-- Who has an ID is reachable. -/
theorem GatheredInOrder.reachable_of_nodeID (hmem : node ∈ gt.nodes.values) (hid : node.nodeID ≠ "") :
    node.reachable = true := by
  obtain ⟨ip, podName, -, rfl⟩ := h.mem_nodes.mp hmem
  obtain ⟨hnodeID, hreach⟩ := probedNode_nodeID ip podName (replies ip)
  rw [hnodeID] at hid
  rw [hreach]
  cases hanswer : (replies ip).clusterID with
  | none => simp [hanswer] at hid
  | some id => rfl

/-- An ID that was answered is that of a node. -/
theorem GatheredInOrder.exists_node (hid : AnsweredID pods replies id) :
    ∃ node ∈ gt.nodes.values, node.nodeID = id := by
  obtain ⟨ip, podName, hlisted, hanswer⟩ := hid
  refine ⟨_, h.mem_nodes.mpr ⟨ip, podName, hlisted, rfl⟩, ?_⟩
  rw [(probedNode_nodeID ip podName (replies ip)).1, hanswer, Option.getD_some]

theorem GatheredInOrder.find_nodeID (hid : AnsweredID pods replies id) :
    ∃ node ∈ gt.nodes.values, node.nodeID = id ∧
      gt.nodes.values.find? (fun node => node.nodeID == id) = some node := by
  obtain ⟨node, hnode, hnodeID⟩ := h.exists_node hid
  have hfound : (gt.nodes.values.find? fun node => node.nodeID == id).isSome = true :=
    List.find?_isSome.mpr ⟨node, hnode, beq_iff_eq.mpr hnodeID⟩
  obtain ⟨found, hfind⟩ := Option.isSome_iff_exists.mp hfound
  have hmatches := List.find?_some hfind
  rw [beq_iff_eq] at hmatches
  exact ⟨found, mem_of_find?_eq_some hfind, hmatches, hfind⟩

/-- A node with a view is introducible. -/
theorem GatheredInOrder.introducible_of_view (haddressed : Addressed pods)
    (hmem : node ∈ gt.nodes.values) (hid : node.nodeID ≠ "")
    (hview : (gt.knownNodes.lookup node.nodeID).isSome = true) : gt.introducible node = true := by
  have hreach := h.reachable_of_nodeID hmem hid
  have hip : node.podIP ≠ "" := by
    obtain ⟨ip, podName, hlisted, rfl⟩ := h.mem_nodes.mp hmem
    rw [(probedNode_own ip podName (replies ip)).2]
    exact haddressed ip podName hlisted
  simp [ClusterGroundTruth.introducible, hreach, hip, hid, hview]

/-- A partition of two nodes suffices for a seed, since its head lists a node. -/
theorem GatheredInOrder.exists_seed (haddressed : Addressed pods)
    (hproper : NonemptyIDs pods replies) (hblock : block ∈ gt.partitions)
    (hlarge : 2 ≤ block.length) : gt.planPartitionMeets.seed ≠ none := by
  obtain ⟨largest, hlargest, hlength, hsearch⟩ := getLargestPartitionSeed_eq hblock
  obtain ⟨order, horder, hpartitions⟩ := h.partitions
  rw [hpartitions] at hlargest
  obtain ⟨id, others, rfl, hlive, hlists⟩ := computePartitions_headed order _ largest hlargest
  rw [length_cons] at hlength
  have hothers : others ≠ [] := ne_nil_of_length_pos (by omega)
  have hview : (gt.knownNodes.lookup id).isSome = true := by
    have hnonempty := hlists hothers
    unfold listedBy at hnonempty
    cases hlookup : gt.knownNodes.lookup id with
    | none =>
      rw [hlookup] at hnonempty
      exact absurd rfl hnonempty
    | some view => rfl
  have hanswered := (horder.answered id).mp hlive
  have hid : id ≠ "" := by
    obtain ⟨ip, podName, hlisted, hanswer⟩ := hanswered
    rintro rfl
    exact hproper ip podName hlisted hanswer
  -- whichever node is found by the ID, it can be introduced
  obtain ⟨seed, hmem, rfl, hfind⟩ := h.find_nodeID hanswered
  rw [planPartitionMeets_seed (hsearch.trans hfind) (h.introducible_of_view haddressed hmem hid hview)]
  exact Option.some_ne_none seed

/-- Every gathered pod stands in a plan exactly once: as the seed, a target or a skipped candidate. -/
theorem GatheredInOrder.plan_names (hdistinct : DistinctIDs pods replies)
    (hseed : gt.planPartitionMeets.seed = some seed) :
    (seed.podName :: (gt.planPartitionMeets.targets.map ClusterNodeState.podName ++
      gt.planPartitionMeets.skipped.map MeetSkip.podName)).Perm gt.nodes.keys := by
  obtain ⟨hmem, hok, ourIDs, htargets, hskipped⟩ := planPartitionMeets_of_seed hseed
  have hid : seed.nodeID ≠ "" := by
    simp only [ClusterGroundTruth.introducible, Bool.and_eq_true, bne_iff_ne] at hok
    exact hok.1.2
  have hnames := h.judgedNodes_names
  have hnodup : gt.judgedNodes.Nodup :=
    List.Nodup.of_map ClusterNodeState.podName (hnames.nodup_iff.mpr gt.nodes.keys_nodup)
  have hself : (gt.judgedNodes.filter seed.isSeed).Perm [seed] := by
    rw [perm_ext_iff_of_nodup (hnodup.filter _) (nodup_singleton seed)]
    intro node
    rw [mem_filter, mem_judgedNodes, mem_singleton, ClusterNodeState.isSeed, Bool.and_eq_true,
      bne_iff_ne, beq_iff_eq]
    constructor
    · rintro ⟨hnode, -, heq⟩
      exact h.eq_of_nodeID hdistinct hmem hnode hid heq
    · rintro rfl
      exact ⟨hmem, hid, rfl⟩
  have hskips : gt.planPartitionMeets.skipped.map MeetSkip.podName =
      ((gt.judgedNodes.filter (!seed.isSeed ·)).filter (!gt.introducible ·)).map ClusterNodeState.podName := by
    rw [hskipped, List.map_map]
    rfl
  rw [htargets, hskips, ← List.map_append, ← List.map_cons]
  refine List.Perm.trans (List.Perm.map _ ?_) hnames
  have hothers := filter_append_perm gt.introducible (gt.judgedNodes.filter (!seed.isSeed ·))
  exact ((hself.symm.append hothers)).trans (filter_append_perm seed.isSeed gt.judgedNodes)

end

/-- Seed and targets are introducible. -/
theorem introducible_of_mem (hseed : gt.planPartitionMeets.seed = some seed)
    (hnode : node ∈ seed :: gt.planPartitionMeets.targets) :
    node ∈ gt.nodes.values ∧ gt.introducible node = true := by
  obtain ⟨hmem, hok, ourIDs, htargets, -⟩ := planPartitionMeets_of_seed hseed
  rcases mem_cons.mp hnode with rfl | htarget
  · exact ⟨hmem, hok⟩
  · rw [htargets] at htarget
    obtain ⟨hjudged, hintroducible⟩ := mem_filter.mp htarget
    exact ⟨mem_judgedNodes.mp (mem_of_mem_filter hjudged), hintroducible⟩

/-- No introducible node is left out. -/
theorem GatheredInOrder.mem_plan (h : GatheredInOrder pods replies gt) (hdistinct : DistinctIDs pods replies)
    (hseed : gt.planPartitionMeets.seed = some seed) (hnode : node ∈ gt.nodes.values)
    (hok : gt.introducible node = true) :
    node ∈ seed :: gt.planPartitionMeets.targets := by
  obtain ⟨hmem, -, ourIDs, htargets, -⟩ := planPartitionMeets_of_seed hseed
  rw [mem_cons, htargets]
  cases hself : seed.isSeed node with
  | true =>
    rw [ClusterNodeState.isSeed, Bool.and_eq_true, bne_iff_ne, beq_iff_eq] at hself
    exact .inl (h.eq_of_nodeID hdistinct hmem hnode (hself.2 ▸ hself.1) hself.2)
  | false =>
    refine .inr (mem_filter.mpr ⟨mem_filter.mpr ⟨mem_judgedNodes.mpr hnode, ?_⟩, hok⟩)
    rw [hself]
    rfl

/-- Carried out, seed and targets are in one partition. -/
theorem GatheredInOrder.one_block (h : GatheredInOrder pods replies gt)
    (hseed : gt.planPartitionMeets.seed = some seed) {order : List String}
    (horder : LiveOrder pods replies order) :
    ∃ block ∈ computePartitions order (afterMeets (listedBy gt.knownNodes) seed.nodeID
        (gt.planPartitionMeets.targets.map ClusterNodeState.nodeID)),
      ∀ node ∈ seed :: gt.planPartitionMeets.targets, node.nodeID ∈ block := by
  let targetIDs := gt.planPartitionMeets.targets.map ClusterNodeState.nodeID
  have hlive : ∀ node ∈ seed :: gt.planPartitionMeets.targets, node.nodeID ∈ order := by
    intro node hnode
    obtain ⟨hmem, hok⟩ := introducible_of_mem hseed hnode
    simp only [ClusterGroundTruth.introducible, Bool.and_eq_true] at hok
    exact (horder.answered _).mpr (h.answered hmem hok.1.1.1)
  have hids : ∀ id ∈ seed.nodeID :: targetIDs, id ∈ order := by
    rw [← map_cons, forall_mem_map]
    exact hlive
  obtain ⟨block, hblock, hall⟩ := exists_partition_of_hub hids
    (fun id hid => (afterMeets_mutual (listedBy gt.knownNodes) seed.nodeID hid).1)
    (fun id hid => (afterMeets_mutual (listedBy gt.knownNodes) seed.nodeID hid).2)
  refine ⟨block, hblock, ?_⟩
  rwa [← map_cons, forall_mem_map] at hall

/-- With a seed every pod is in the plan once, exactly the nodes with address, ID and view are
introduced, and end up in one partition; two nodes in one partition suffice for a seed. -/
theorem planPartitionMeets_sound (h : GatheredInOrder pods replies gt) (haddressed : Addressed pods)
    (hdistinct : DistinctIDs pods replies) (hproper : NonemptyIDs pods replies) :
    (∀ seed, gt.planPartitionMeets.seed = some seed →
      (seed.podName :: (gt.planPartitionMeets.targets.map ClusterNodeState.podName ++
        gt.planPartitionMeets.skipped.map MeetSkip.podName)).Perm gt.nodes.keys ∧
      (∀ node ∈ seed :: gt.planPartitionMeets.targets, node ∈ gt.nodes.values ∧ node.reachable = true ∧
        node.podIP ≠ "" ∧ node.nodeID ≠ "" ∧ (gt.knownNodes.lookup node.nodeID).isSome = true) ∧
      (∀ node ∈ gt.nodes.values, node.reachable = true →
        (gt.knownNodes.lookup node.nodeID).isSome = true → node ∈ seed :: gt.planPartitionMeets.targets) ∧
      ∀ order, LiveOrder pods replies order →
        ∃ block ∈ computePartitions order (afterMeets (listedBy gt.knownNodes) seed.nodeID
            (gt.planPartitionMeets.targets.map ClusterNodeState.nodeID)),
          ∀ node ∈ seed :: gt.planPartitionMeets.targets, node.nodeID ∈ block) ∧
    ((∃ block ∈ gt.partitions, 2 ≤ block.length) → gt.planPartitionMeets.seed ≠ none) := by
  constructor
  · intro seed hseed
    refine ⟨h.plan_names hdistinct hseed, ?_, ?_, fun order horder => h.one_block hseed horder⟩
    · intro node hnode
      obtain ⟨hmem, hok⟩ := introducible_of_mem hseed hnode
      simp only [ClusterGroundTruth.introducible, Bool.and_eq_true, bne_iff_ne] at hok
      exact ⟨hmem, hok.1.1.1, hok.1.1.2, hok.1.2, hok.2⟩
    · intro node hnode hreach hview
      obtain ⟨ip, podName, hlisted, hown⟩ := h.mem_nodes.mp hnode
      have hip : node.podIP ≠ "" := by
        rw [hown, (probedNode_own ip podName (replies ip)).2]
        exact haddressed ip podName hlisted
      have hid : node.nodeID ≠ "" := by
        obtain ⟨ip', podName', hlisted', hanswer⟩ := h.answered hnode hreach
        intro hempty
        rw [hempty] at hanswer
        exact hproper ip' podName' hlisted' hanswer
      exact h.mem_plan hdistinct hseed hnode
        (by simp [ClusterGroundTruth.introducible, hreach, hip, hid, hview])
  · rintro ⟨block, hblock, hlarge⟩
    exact h.exists_seed haddressed hproper hblock hlarge

end Gathered

def threePods : ClusterPods where
  names := GoMap.ofPairs
    [("10.0.0.1", "lr-shard-0-0"), ("10.0.0.2", "lr-shard-1-0"), ("10.0.0.3", "lr-shard-2-0")]
  names_nodup := by decide

/-- Two know each other, the third is alone. -/
def isolatedReplies (isolatedID : String) (ip : String) : ProbeReplies :=
  let line (id : String) : ClusterNodeInfo := ⟨id, ["master"], "-", []⟩
  if ip = "10.0.0.1" then ⟨some "a", none, none, some [line "a", line "b"]⟩
  else if ip = "10.0.0.2" then ⟨some "b", none, none, some [line "b", line "a"]⟩
  else ⟨some isolatedID, none, none, some [line isolatedID]⟩

/-- The addresses of the pods. -/
theorem threePods_listed {ip podName : String} (h : threePods.Listed ip podName) :
    ip = "10.0.0.1" ∨ ip = "10.0.0.2" ∨ ip = "10.0.0.3" := by
  have hmem : ip ∈ threePods.names.keys :=
    mem_keys.mp (lookup_isSome.mp (by rw [show threePods.names.lookup ip = some podName from h]; rfl))
  have hkeys : threePods.names.keys = ["10.0.0.3", "10.0.0.2", "10.0.0.1"] := by decide
  rw [hkeys] at hmem
  simpa [or_comm, or_assoc, or_left_comm] using hmem

/-- The IDs are different. -/
theorem isolatedReplies_distinct {isolatedID : String} (ha : isolatedID ≠ "a") (hb : isolatedID ≠ "b") :
    DistinctIDs threePods (isolatedReplies isolatedID) := by
  intro ip podName ip' podName' id hlisted hlisted' hid hid'
  have hsame := hid.trans hid'.symm
  rcases threePods_listed hlisted with rfl | rfl | rfl <;>
    rcases threePods_listed hlisted' with rfl | rfl | rfl <;>
    simp [isolatedReplies, ha, hb, ha.symm, hb.symm] at hsame ⊢

/-- The isolated node is introduced to the other two. -/
theorem isolated_introduced :
    let gt := gatherClusterGroundTruth threePods (isolatedReplies "c")
    gt.partitions.length = 2 ∧ gt.planPartitionMeets.seed ≠ none ∧
      ∀ seed, gt.planPartitionMeets.seed = some seed →
        (seed.podName :: (gt.planPartitionMeets.targets.map ClusterNodeState.podName ++
          gt.planPartitionMeets.skipped.map MeetSkip.podName)).Perm gt.nodes.keys := by
  intro gt
  have hsound := planPartitionMeets_sound (gatheredInOrder_gather threePods (isolatedReplies "c"))
    (fun ip podName hlisted => by rcases threePods_listed hlisted with rfl | rfl | rfl <;> decide)
    (isolatedReplies_distinct (by decide) (by decide))
    (fun ip podName hlisted => by rcases threePods_listed hlisted with rfl | rfl | rfl <;> decide)
  exact ⟨by decide, hsound.2 (by decide), fun seed hseed => (hsound.1 seed hseed).1⟩

/-- A pod that answers with an empty node ID answers, has a view and is neither the seed nor a target. -/
theorem nameless_left_out :
    let gt := gatherClusterGroundTruth threePods (isolatedReplies "")
    Addressed threePods ∧ DistinctIDs threePods (isolatedReplies "") ∧
      ∃ seed, gt.planPartitionMeets.seed = some seed ∧ ∃ node ∈ gt.nodes.values, node.reachable = true ∧
        (gt.knownNodes.lookup node.nodeID).isSome = true ∧ node ∉ seed :: gt.planPartitionMeets.targets := by
  intro gt
  refine ⟨fun ip podName hlisted => ?_, isolatedReplies_distinct (by decide) (by decide), ?_⟩
  · rcases threePods_listed hlisted with rfl | rfl | rfl <;> decide
  · have hlargest : gt.getLargestPartitionSeed.any gt.introducible = true := by decide
    rw [Option.any_eq_true] at hlargest
    obtain ⟨seed, hfound, hok⟩ := hlargest
    have hseed := planPartitionMeets_seed hfound hok
    refine ⟨seed, hseed, ?_⟩
    have hleft : ∃ node ∈ gt.nodes.values, node.reachable = true ∧
        (gt.knownNodes.lookup node.nodeID).isSome = true ∧ node.nodeID = "" := by decide
    obtain ⟨node, hnode, hreach, hview, hempty⟩ := hleft
    refine ⟨node, hnode, hreach, hview, fun hplanned => ?_⟩
    have hok := (introducible_of_mem hseed hplanned).2
    simp [ClusterGroundTruth.introducible, hempty] at hok

end LittleRed.Cluster
