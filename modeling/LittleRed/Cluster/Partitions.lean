import LittleRed.Cluster.Gather
import LittleRed.Lib.Connectivity
import Mathlib.Data.Finset.Basic

/-!
# Partitions and connectivity

The partitions of a view are found by searches along what the nodes list. A node may list a peer that does
not list it, so a search finds what its start leads to, less what earlier ones found. That gives the
connected components, for every order, exactly when every node is reached back from the peers it lists.
-/

namespace LittleRed.Cluster

open Lib Relation List

/-- One live node lists another. -/
def Lists (live : List String) (adj : String → List String) (a b : String) : Prop :=
  a ∈ live ∧ b ∈ live ∧ b ∈ adj a

/-- The connected components of the live nodes, whichever of two lists the other. -/
structure Components (live : List String) (adj : String → List String)
    (partitions : List (List String)) : Prop where
  exact : partitions.flatten.Perm live
  nonempty : [] ∉ partitions
  connected : ∀ block ∈ partitions, ∀ a ∈ block, ∀ b, b ∈ block ↔ Connected (Lists live adj) a b

/-- The partitions as a set of sets. -/
def blocks (partitions : List (List String)) : Finset (Finset String) :=
  (partitions.map List.toFinset).toFinset

section Explore

variable {live : List String} {adj : String → List String}

/-- The neighbours that are new go to the queue. -/
theorem foldl_visitNeighbor (live neighbors queue visited : List String) (hnodup : visited.Nodup) :
    ∃ fresh, neighbors.foldl (visitNeighbor live.contains) (queue, visited) =
        (queue ++ fresh, fresh.reverse ++ visited) ∧
      (fresh.reverse ++ visited).Nodup ∧ (∀ b ∈ fresh, b ∈ live ∧ b ∈ neighbors) ∧
      ∀ b ∈ neighbors, b ∈ live → b ∈ fresh.reverse ++ visited := by
  induction neighbors generalizing queue visited with
  | nil => exact ⟨[], by simp, hnodup, nofun, nofun⟩
  | cons neighbor rest ih =>
    rw [foldl_cons, visitNeighbor]
    by_cases hnew : neighbor ∈ live ∧ neighbor ∉ visited
    · obtain ⟨hlive, hfresh⟩ := hnew
      have hcond : (live.contains neighbor && !visited.contains neighbor) = true := by
        simp [hlive, hfresh]
      obtain ⟨fresh, hfold, hnodup', hmem, hall⟩ :=
        ih (queue ++ [neighbor]) (neighbor :: visited) (nodup_cons.mpr ⟨hfresh, hnodup⟩)
      have hvisited : (neighbor :: fresh).reverse ++ visited = fresh.reverse ++ neighbor :: visited := by
        simp
      refine ⟨neighbor :: fresh, ?_, hvisited ▸ hnodup', ?_, ?_⟩
      · rw [if_pos hcond, hfold, hvisited, append_assoc, singleton_append]
      · rw [forall_mem_cons]
        exact ⟨⟨hlive, mem_cons_self⟩, fun b hb =>
          ⟨(hmem b hb).1, mem_cons_of_mem _ (hmem b hb).2⟩⟩
      · rw [hvisited, forall_mem_cons]
        exact ⟨fun _ => mem_append_right _ mem_cons_self, hall⟩
    · have hcond : (live.contains neighbor && !visited.contains neighbor) ≠ true := by
        simpa using hnew
      obtain ⟨fresh, hfold, hnodup', hmem, hall⟩ := ih queue visited hnodup
      refine ⟨fresh, by rw [if_neg hcond, hfold], hnodup',
        fun b hb => ⟨(hmem b hb).1, mem_cons_of_mem _ (hmem b hb).2⟩, ?_⟩
      rw [forall_mem_cons]
      refine ⟨fun hlive => mem_append_right _ ?_, hall⟩
      by_contra hfresh
      exact hnew ⟨hlive, hfresh⟩

/-- The search visited what is in the partition or the queue, is led there by its start, and visited all
that the partition lists. -/
structure Searching (live : List String) (adj : String → List String) (start : String)
    (before queue visited partition : List String) : Prop where
  split : visited.Perm (partition ++ queue ++ before)
  nodup : visited.Nodup
  visited_live : ∀ a ∈ visited, a ∈ live
  found : ∀ a ∈ partition ++ queue, ReflTransGen (Lists live adj) start a
  closed : ∀ a ∈ partition, ∀ b ∈ adj a, b ∈ live → b ∈ visited
  start_mem : start ∈ partition ++ queue

variable {visited partition : List String} {acc : List (List String) × List String} {id : String}

variable {start : String} {before queue : List String}

/-- One turn of the search. -/
theorem Searching.next {curr : String}
    (h : Searching live adj start before (curr :: queue) visited partition) :
    ∃ fresh, (adj curr).foldl (visitNeighbor live.contains) (queue, visited) =
        (queue ++ fresh, fresh.reverse ++ visited) ∧
      Searching live adj start before (queue ++ fresh) (fresh.reverse ++ visited) (partition ++ [curr]) := by
  obtain ⟨fresh, hfold, hnodup, hmem, hall⟩ := foldl_visitNeighbor live (adj curr) queue visited h.nodup
  have hcurr : curr ∈ partition ++ curr :: queue := mem_append_right _ mem_cons_self
  have hlive : curr ∈ live := h.visited_live _ (h.split.mem_iff.mpr (mem_append_left _ hcurr))
  refine ⟨fresh, hfold, ⟨?_, hnodup, ?_, ?_, ?_, ?_⟩⟩
  · have hregroup : (fresh ++ (partition ++ curr :: queue ++ before)).Perm
        (partition ++ [curr] ++ (queue ++ fresh) ++ before) := by
      rw [← append_assoc]
      refine .append_right before (perm_append_comm.trans ?_)
      simp
    exact (fresh.reverse_perm.append h.split).trans hregroup
  · intro a ha
    rcases mem_append.mp ha with hfresh | hold
    · exact (hmem a (mem_reverse.mp hfresh)).1
    · exact h.visited_live a hold
  · intro a ha
    have hcases : a ∈ partition ++ curr :: queue ∨ a ∈ fresh := by
      simpa [or_assoc, or_left_comm] using ha
    rcases hcases with hold | hfresh
    · exact h.found a hold
    · obtain ⟨halive, hlisted⟩ := hmem a hfresh
      exact (h.found curr hcurr).tail ⟨hlive, halive, hlisted⟩
  · intro a ha b hb hblive
    rcases mem_append.mp ha with hold | hnew
    · exact mem_append_right _ (h.closed a hold b hb hblive)
    · obtain rfl := mem_singleton.mp hnew
      exact hall b hb hblive
  · have hstart := h.start_mem
    simp only [mem_append, mem_cons] at hstart ⊢
    tauto

/-- The whole search. -/
theorem Searching.explore (fuel : ℕ) (h : Searching live adj start before queue visited partition)
    (hfuel : live.length + queue.length ≤ fuel + visited.length) :
    Searching live adj start before [] (Cluster.explore live.contains adj fuel queue visited partition).2
      (Cluster.explore live.contains adj fuel queue visited partition).1 := by
  induction fuel generalizing queue visited partition with
  | zero =>
    have hle : visited.length ≤ live.length := (h.nodup.subperm h.visited_live).length_le
    obtain rfl : queue = [] := length_eq_zero_iff.mp (by omega)
    exact h
  | succ fuel ih =>
    cases queue with
    | nil => exact h
    | cons curr queue =>
      obtain ⟨fresh, hfold, hnext⟩ := h.next
      rw [Cluster.explore]
      simp only [hfold]
      refine ih hnext ?_
      simp only [length_append, length_reverse, length_cons] at hfuel ⊢
      omega

/-- The partitions hold the visited nodes, which list no live node outside. -/
structure Partitioning (live : List String) (adj : String → List String)
    (acc : List (List String) × List String) : Prop where
  split : acc.2.Perm acc.1.flatten
  nodup : acc.2.Nodup
  visited_live : ∀ a ∈ acc.2, a ∈ live
  closed : ∀ a b, a ∈ acc.2 → Lists live adj a b → b ∈ acc.2
  nonempty : [] ∉ acc.1

theorem partitioning_nil : Partitioning live adj ([], []) :=
  ⟨.refl _, .nil, nofun, nofun, nofun⟩

/-- A search from a node that was not visited. -/
theorem Partitioning.search (h : Partitioning live adj acc) (hid : id ∈ live) (hnew : id ∉ acc.2) :
    ∃ partition visited, startPartition live adj acc id = (acc.1 ++ [partition], visited) ∧
      Searching live adj id acc.2 [] visited partition := by
  have hcond : acc.2.contains id ≠ true := by simpa using hnew
  have hbegin : Searching live adj id acc.2 [id] (id :: acc.2) [] := by
    refine ⟨.refl _, nodup_cons.mpr ⟨hnew, h.nodup⟩, ?_, ?_, nofun, mem_cons_self⟩
    · rw [forall_mem_cons]
      exact ⟨hid, h.visited_live⟩
    · intro a ha
      obtain rfl := mem_singleton.mp ha
      exact .refl
  refine ⟨_, _, by rw [startPartition, if_neg hcond], hbegin.explore live.length ?_⟩
  simp only [length_cons, length_nil]
  omega

/-- One more partition. -/
theorem Partitioning.next (h : Partitioning live adj acc)
    (hsearch : Searching live adj id acc.2 [] visited partition) :
    Partitioning live adj (acc.1 ++ [partition], visited) := by
  have hsplit : visited.Perm (partition ++ acc.2) := by simpa using hsearch.split
  have hmem : ∀ a, a ∈ visited ↔ a ∈ partition ∨ a ∈ acc.2 := fun a => by
    rw [hsplit.mem_iff, mem_append]
  refine ⟨?_, hsearch.nodup, hsearch.visited_live, ?_, ?_⟩
  · rw [flatten_append, flatten_singleton]
    exact (hsplit.trans perm_append_comm).trans (h.split.append_right partition)
  · intro a b ha hab
    rcases (hmem a).mp ha with hpart | hold
    · exact hsearch.closed a hpart b hab.2.2 hab.2.1
    · exact (hmem b).mpr (.inr (h.closed a b hold hab))
  · intro hempty
    rcases mem_append.mp hempty with hold | hnew
    · exact h.nonempty hold
    · have hstart : id ∈ partition := by simpa using hsearch.start_mem
      rw [← mem_singleton.mp hnew] at hstart
      cases hstart

/-- What every search keeps holds of all. -/
theorem partitions_induction (motive : List (List String) × List String → Prop) (hnil : motive ([], []))
    (hsearch : ∀ acc id partition visited, Partitioning live adj acc → motive acc → id ∉ acc.2 →
      Searching live adj id acc.2 [] visited partition → motive (acc.1 ++ [partition], visited)) :
    Partitioning live adj (live.foldl (startPartition live adj) ([], [])) ∧
      motive (live.foldl (startPartition live adj) ([], [])) ∧
      ∀ id ∈ live, id ∈ (live.foldl (startPartition live adj) ([], [])).2 := by
  -- the searches start from ever more of the live nodes
  have hrun : ∀ (ids : List String) (acc : List (List String) × List String),
      (∀ id ∈ ids, id ∈ live) → Partitioning live adj acc → motive acc →
      Partitioning live adj (ids.foldl (startPartition live adj) acc) ∧
        motive (ids.foldl (startPartition live adj) acc) ∧
        ∀ id, id ∈ ids ∨ id ∈ acc.2 → id ∈ (ids.foldl (startPartition live adj) acc).2 := by
    intro ids
    induction ids with
    | nil => exact fun acc _ hacc hmotive => ⟨hacc, hmotive, fun id hid => hid.resolve_left nofun⟩
    | cons first rest ih =>
      intro acc hids hacc hmotive
      rw [forall_mem_cons] at hids
      rw [foldl_cons]
      by_cases hvisited : first ∈ acc.2
      · rw [startPartition, if_pos (by simpa using hvisited)]
        obtain ⟨hall, hmotive', hmem⟩ := ih acc hids.2 hacc hmotive
        refine ⟨hall, hmotive', fun id hid => hmem id ?_⟩
        rcases hid with hid | hid
        · rcases mem_cons.mp hid with rfl | hid
          · exact .inr hvisited
          · exact .inl hid
        · exact .inr hid
      · obtain ⟨partition, visited, heq, hfound⟩ := hacc.search hids.1 hvisited
        rw [heq]
        obtain ⟨hall, hmotive', hmem⟩ := ih _ hids.2 (hacc.next hfound)
          (hsearch acc first partition visited hacc hmotive hvisited hfound)
        have hnow : ∀ id, id ∈ partition ∨ id ∈ acc.2 → id ∈ visited := fun id hid => by
          rw [hfound.split.mem_iff]
          simpa using hid
        refine ⟨hall, hmotive', fun id hid => hmem id ?_⟩
        rcases hid with hid | hid
        · rcases mem_cons.mp hid with rfl | hid
          · exact .inr (hnow id (.inl (by simpa using hfound.start_mem)))
          · exact .inl hid
        · exact .inr (hnow id (.inr hid))
  obtain ⟨hall, hmotive, hmem⟩ := hrun live ([], []) (fun _ => id) partitioning_nil hnil
  exact ⟨hall, hmotive, fun id hid => hmem id (.inl hid)⟩

/-- Each partition holds what its members lead to. -/
def FoundWhole (live : List String) (adj : String → List String)
    (acc : List (List String) × List String) : Prop :=
  ∀ block ∈ acc.1, ∀ a ∈ block, ∀ b, b ∈ block ↔ ReflTransGen (Lists live adj) a b

/-- With ways back a search finds all that its members lead to. -/
theorem FoundWhole.next (h : FoundWhole live adj acc) (hback : WaysBack (Lists live adj))
    (hacc : Partitioning live adj acc) (hnew : id ∉ acc.2)
    (hsearch : Searching live adj id acc.2 [] visited partition) :
    FoundWhole live adj (acc.1 ++ [partition], visited) := by
  intro block hblock a ha b
  rcases mem_append.mp hblock with hold | hlast
  · exact h block hold a ha b
  obtain rfl := mem_singleton.mp hlast
  have hvisited : ∀ c, c ∈ visited ↔ c ∈ block ∨ c ∈ acc.2 := fun c => by
    rw [hsearch.split.mem_iff]
    simp
  have hid : ∀ c ∈ block, ReflTransGen (Lists live adj) id c := fun c hc =>
    hsearch.found c (by simpa using hc)
  refine ⟨fun hb => (hback.reflTransGen_symm (hid a ha)).trans (hid b hb), fun hab => ?_⟩
  have hb : b ∈ visited :=
    mem_of_reflTransGen (hacc.next hsearch).closed ((hvisited a).mpr (.inl ha)) hab
  refine ((hvisited b).mp hb).resolve_right fun hold => hnew ?_
  exact mem_of_reflTransGen hacc.closed hold (hback.reflTransGen_symm ((hid a ha).trans hab))

/-- With ways back the partitions are the components. -/
theorem components_of_waysBack (hlive : live.Nodup) (hback : WaysBack (Lists live adj)) :
    Components live adj (computePartitions live adj) := by
  obtain ⟨hall, hwhole, hmem⟩ := partitions_induction (FoundWhole live adj) nofun
    fun acc id partition visited hacc h hnew hsearch => h.next hback hacc hnew hsearch
  refine ⟨?_, hall.nonempty, fun block hblock a ha b => ?_⟩
  · refine hall.split.symm.trans ((perm_ext_iff_of_nodup hall.nodup hlive).mpr fun id => ?_)
    exact ⟨hall.visited_live id, hmem id⟩
  · rw [hwhole block hblock a ha b, hback.connected_iff]

end Explore

theorem lists_perm {order live : List String} (hperm : order.Perm live) (adj : String → List String) :
    Lists order adj = Lists live adj := by
  funext a b
  simp only [Lists, hperm.mem_iff]

/-- The first partition is what the first node leads to. -/
theorem exists_first_partition (first : String) (rest : List String) (adj : String → List String) :
    ∃ block ∈ computePartitions (first :: rest) adj, first ∈ block ∧
      ∀ a ∈ block, ReflTransGen (Lists (first :: rest) adj) first a := by
  have hnil : Partitioning (first :: rest) adj ([], []) := partitioning_nil
  obtain ⟨partition, visited, heq, hsearch⟩ := hnil.search mem_cons_self not_mem_nil
  have hkept : ∀ (ids : List String) (acc : List (List String) × List String),
      partition ∈ acc.1 → partition ∈ (ids.foldl (startPartition (first :: rest) adj) acc).1 := by
    intro ids
    induction ids with
    | nil => exact fun _ h => h
    | cons id ids ih =>
      intro acc h
      refine ih _ ?_
      rw [startPartition]
      split
      · exact h
      · exact mem_append_left _ h
  refine ⟨partition, ?_, by simpa using hsearch.start_mem, fun a ha => hsearch.found a (by simpa using ha)⟩
  rw [computePartitions, foldl_cons, heq]
  exact hkept rest _ (mem_append_right _ mem_cons_self)

/-- The components are unique. -/
theorem Components.blocks_subset {live : List String} {adj : String → List String}
    {partitions partitions' : List (List String)} (h : Components live adj partitions)
    (h' : Components live adj partitions') : blocks partitions ⊆ blocks partitions' := by
  intro s hs
  simp only [blocks, mem_toFinset, mem_map] at hs ⊢
  obtain ⟨block, hblock, rfl⟩ := hs
  obtain ⟨a, ha⟩ := exists_mem_of_ne_nil block fun hnil => h.nonempty (hnil ▸ hblock)
  have hlive : a ∈ live := h.exact.mem_iff.mp (mem_flatten.mpr ⟨block, hblock, ha⟩)
  obtain ⟨block', hblock', ha'⟩ := mem_flatten.mp (h'.exact.mem_iff.mpr hlive)
  refine ⟨block', hblock', ?_⟩
  ext b
  rw [mem_toFinset, mem_toFinset, h.connected block hblock a ha b, h'.connected block' hblock' a ha' b]

/-- What a node lists, by the adjacency that was gathered. -/
def listedBy (adj : GoMap String (List String)) (id : String) : List String :=
  (adj.lookup id).getD []

/-- In every order the partitions are the connected components, and the same ones. -/
def PartitionsAreComponents (nodeIDtoPod : GoMap String String) (adj : GoMap String (List String)) :
    Prop :=
  (∀ order, order.Perm nodeIDtoPod.keys →
      Components nodeIDtoPod.keys (listedBy adj) (computePartitions order (listedBy adj))) ∧
    ∀ order order', order.Perm nodeIDtoPod.keys → order'.Perm nodeIDtoPod.keys →
      blocks (computePartitions order (listedBy adj)) = blocks (computePartitions order' (listedBy adj))

/-- That is so exactly when every live node is reached back from the live nodes it lists. -/
theorem partitionsAreComponents_iff (nodeIDtoPod : GoMap String String) (adj : GoMap String (List String)) :
    PartitionsAreComponents nodeIDtoPod adj ↔ WaysBack (Lists nodeIDtoPod.keys (listedBy adj)) := by
  have hnodup : nodeIDtoPod.keys.Nodup := nodeIDtoPod.keys_nodup
  constructor
  · rintro ⟨hall, -⟩ a b hab
    -- a search that starts at the listed node finds the one that lists it
    have hperm := perm_cons_erase hab.2.1
    obtain ⟨block, hblock, hfirst, hfound⟩ := exists_first_partition b
      (nodeIDtoPod.keys.erase b) (listedBy adj)
    rw [lists_perm hperm.symm] at hfound
    refine hfound a (((hall _ hperm.symm).connected block hblock b hfirst a).mpr ?_)
    exact .single (.of_rel_symm hab)
  · intro hback
    have hall : ∀ order, order.Perm nodeIDtoPod.keys →
        Components nodeIDtoPod.keys (listedBy adj) (computePartitions order (listedBy adj)) := by
      intro order hperm
      have hcomponents := components_of_waysBack (hperm.nodup_iff.mpr hnodup)
        ((lists_perm hperm (listedBy adj)).symm ▸ hback)
      refine ⟨hcomponents.exact.trans hperm, hcomponents.nonempty, ?_⟩
      rw [← lists_perm hperm]
      exact hcomponents.connected
    exact ⟨hall, fun order order' hperm hperm' =>
      ((hall order hperm).blocks_subset (hall order' hperm')).antisymm
        ((hall order' hperm').blocks_subset (hall order hperm))⟩

/-- Two pods in either order. -/
def splitPods (swapped : Bool) : ClusterPods where
  names := GoMap.ofPairs <|
    if swapped then [("10.0.0.2", "lr-shard-1-0"), ("10.0.0.1", "lr-shard-0-0")]
    else [("10.0.0.1", "lr-shard-0-0"), ("10.0.0.2", "lr-shard-1-0")]
  names_nodup := by cases swapped <;> decide

/-- The first node lists the second one, which does not list it yet. -/
def oneSidedReplies (ip : String) : ProbeReplies :=
  let line (id : String) : ClusterNodeInfo := ⟨id, ["master"], "-", []⟩
  if ip = "10.0.0.1" then ⟨some "a", none, none, some [line "a", line "b"]⟩
  else ⟨some "b", none, none, some [line "b"]⟩

/-- The gather finds one partition or two, by which node it visits first. -/
theorem oneSided_partitions :
    (gatherClusterGroundTruth (splitPods false) oneSidedReplies).partitions = [["a", "b"]] ∧
      (gatherClusterGroundTruth (splitPods true) oneSidedReplies).partitions = [["b"], ["a"]] ∧
      ¬ PartitionsAreComponents (GoMap.ofPairs [("a", "lr-shard-0-0"), ("b", "lr-shard-1-0")])
        (gatherClusterGroundTruth (splitPods false) oneSidedReplies).knownNodes := by
  refine ⟨by decide, by decide, fun h => ?_⟩
  exact absurd (h.2 ["a", "b"] ["b", "a"] (by decide) (by decide)) (by decide)

end LittleRed.Cluster
