import LittleRed.Cluster.Dance
import LittleRed.Cluster.Reshard

/-!
# Who owns the slots while the owner changes

At the end of the dance every reachable master is told that the destination owns the slots, in the order of a
map. If the source is told before the destination, neither claims the slots in between; a failure then leaves
it so.
-/

namespace LittleRed.Cluster

open Lib List Function

def nodeAddr (node : ClusterNodeState) : String := node.podIP ++ ":6379"

/-- The addresses that are told about a new owner, in the order in which the loop visits the nodes. -/
def reachableMasterAddrs (order : RangeOrder ClusterNodeState) (gt : ClusterGroundTruth) : List String :=
  ((order.reorder gt.nodes.values).filter fun node => node.reachable && node.role == .master).map nodeAddr

namespace Dance

/-- The move of a plan. -/
def Move.ofPlanned (move : ReshardMove) (reshardKeyBatchSize reshardMaxKeysPerReconcile : ℤ) : Move :=
  ⟨move.range, nodeAddr move.source, nodeAddr move.dest, reshardKeyBatchSize, reshardMaxKeysPerReconcile⟩

section Flip

variable {Key : Type*}

def FlipStep (_ : State Key) : Label Key → Prop
  | .setNode _ => True
  | _ => False

/-- One of the two sides claims every slot of the range. -/
def Claimed (move : Move) (s : State Key) : Prop :=
  ∀ slot ∈ move.slots, s.source.owns slot = true ∨ s.dest.owns slot = true

/-- The destination is told before the source, wherever the source stands among the addresses. -/
def DestFirst (move : Move) (addrs : List String) : Prop :=
  ∀ before rest, addrs = before ++ move.sourceAddr :: rest → move.destAddr ∈ before

/-- What a flip has reached when some addresses were told and one is in turn. -/
structure Told (move : Move) (node : Node Key) (done : List String) (addr : String) (todo : List ℤ)
    (failed : Bool) : Prop where
  dest : move.destAddr ∈ done → ∀ slot ∈ move.slots, node.owns slot = true
  turn : addr = move.destAddr → failed = false → ∀ slot ∈ move.slots, slot ∈ todo ∨ node.owns slot = true

variable {slotOf : Key → ℤ} {move : Move} {addrs : List String} {s s' : State Key}

/-- The range is claimed, and the masters before were told. -/
def Flipping (move : Move) (addrs : List String) (s : State Key) : Prop :=
  Claimed move s ∧ ∀ addr rest todo failed, s.phase = .flipping (addr :: rest) todo failed →
    ∃ done, addrs = done ++ addr :: rest ∧ Told move s.dest done addr todo failed

variable {slot : ℤ} {done rest : List String} {addr : String} {todo : List ℤ} {failed : Bool}

variable {other : ℤ} {dest : Node Key} {before : List String}

theorem owns_assign {node : Node Key} (howns : node.owns other = true) :
    (node.assign slot true).owns other = true := by
  by_cases heq : other = slot
  · rw [heq]
    exact update_self ..
  · exact (update_of_ne heq ..).trans howns

/-- With the destination first, telling a slot keeps the range claimed. -/
theorem claimed_command (hfirst : move.sourceAddr = move.destAddr ∨ DestFirst move addrs)
    (hclaimed : Claimed move s) (hsplit : addrs = done ++ addr :: rest)
    (htold : Told move s.dest done addr todo failed) (ok : Bool) (slot : ℤ) (hother : other ∈ move.slots) :
    (if ok ∧ addr = move.sourceAddr then s.source.assign slot false else s.source).owns other = true ∨
      (if ok ∧ addr = move.destAddr then s.dest.assign slot true else s.dest).owns other = true := by
  by_cases hdest : ok = true ∧ addr = move.destAddr
  · rw [if_pos hdest]
    by_cases heq : other = slot
    · exact .inr (by rw [heq]; exact update_self ..)
    · refine (hclaimed other hother).imp (fun howns => ?_) owns_assign
      split
      · exact (update_of_ne heq ..).trans howns
      · exact howns
  · rw [if_neg hdest]
    by_cases hsource : ok = true ∧ addr = move.sourceAddr
    · -- The source is told alone, so the destination was told before.
      obtain ⟨hok, rfl⟩ := hsource
      have hbefore : move.destAddr ∈ done :=
        (hfirst.resolve_left fun heq => hdest ⟨hok, heq⟩) done rest hsplit
      exact .inr (htold.dest hbefore other hother)
    · rw [if_neg hsource]
      exact hclaimed other hother

/-- One more slot is told. -/
theorem told_command {rest : List ℤ} (htold : Told move dest done addr (slot :: rest) failed) (ok : Bool) :
    Told move (if ok ∧ addr = move.destAddr then dest.assign slot true else dest) done addr rest
      (failed || !ok) := by
  constructor
  · intro hdone other hother
    split
    · exact owns_assign (htold.dest hdone other hother)
    · exact htold.dest hdone other hother
  · intro haddr hok other hother
    rw [Bool.or_eq_false_iff, Bool.not_eq_false'] at hok
    rw [if_pos ⟨hok.2, haddr⟩]
    rcases htold.turn haddr hok.1 other hother with htodo | howns
    · rcases mem_cons.mp htodo with rfl | hrest
      · exact .inr (update_self ..)
      · exact .inl hrest
    · exact .inr (owns_assign howns)

/-- A master that was told all is done. -/
theorem told_next (next : String)
    (htold : Told move dest done addr [] false) : Told move dest (done ++ [addr]) next move.slots false := by
  refine ⟨fun hdone slot hslot => ?_, fun _ _ slot hslot => .inl hslot⟩
  rcases mem_append.mp hdone with hbefore | hlast
  · exact htold.dest hbefore slot hslot
  · refine (htold.turn (mem_singleton.mp hlast).symm rfl slot hslot).resolve_left not_mem_nil

/-- A flip begins with the next master. -/
theorem flip_eq {more : List String}
    (h : (flip move rest : Phase Key) = .flipping (addr :: more) todo failed) :
    rest = addr :: more ∧ todo = move.slots ∧ failed = false := by
  unfold flip at h
  split at h
  · cases h
  · injection h with haddrs htodo hfailed
    exact ⟨haddrs, htodo.symm, hfailed.symm⟩

variable [DecidableEq Key]

/-- Every step of the flip keeps the range claimed. -/
theorem flipping_step (hfirst : move.sourceAddr = move.destAddr ∨ DestFirst move addrs) {a : Label Key}
    (h : Flipping move addrs s) (ha : FlipStep s a) (hstep : step slotOf move s a = some s') :
    Flipping move addrs s' := by
  cases a with
  | setNode ok =>
    simp only [step] at hstep
    split at hstep
    · rename_i addr rest slot todo failed hphase
      cases hstep
      obtain ⟨done, hsplit, htold⟩ := h.2 _ _ _ _ hphase
      have hnext := told_command htold ok
      refine ⟨fun other hother => claimed_command hfirst h.1 hsplit htold ok slot hother, ?_⟩
      intro addr' rest' todo' failed' hphase'
      dsimp only at hphase' ⊢
      unfold flipNext at hphase'
      split at hphase'
      · injection hphase' with haddrs htodo hfailed
        injection haddrs with haddr hrest
        subst haddr hrest htodo hfailed
        exact ⟨done, hsplit, hnext⟩
      rename_i hempty
      rw [Bool.not_eq_true', Bool.not_eq_false, List.isEmpty_iff] at hempty
      split at hphase'
      · cases hphase'
      rename_i hok
      obtain ⟨hrest, rfl, rfl⟩ := flip_eq hphase'
      rw [hempty, (Bool.not_eq_true _).mp hok] at hnext
      refine ⟨done ++ [addr], ?_, told_next addr' hnext⟩
      rw [hsplit, append_assoc]
      exact congrArg (fun more => done ++ addr :: more) hrest
    · cases hstep
  | start | setImporting | setMigrating | countKeys | getKeys | migrate | write | delete => cases ha

/-- The next slot can be told. -/
theorem exists_command (slotOf : Key → ℤ) (move : Move)
    (hphase : s.phase = .flipping (addr :: rest) (slot :: todo) false) :
    ∃ t, (danceSystem slotOf move).Path FlipStep s t ∧ t.phase = flipNext move (addr :: rest) todo false ∧
      t.source = (if addr = move.sourceAddr then s.source.assign slot false else s.source) ∧
      t.dest = if addr = move.destAddr then s.dest.assign slot true else s.dest := by
  have hstep : (danceSystem slotOf move).step s (.setNode true) = some { s with
      source := if addr = move.sourceAddr then s.source.assign slot false else s.source
      dest := if addr = move.destAddr then s.dest.assign slot true else s.dest
      phase := flipNext move (addr :: rest) todo false
      issued := ⟨addr, slot, s.source.keys⟩ :: s.issued } := by
    simp only [danceSystem, step, hphase, true_and, Bool.not_true, Bool.or_false]
  exact ⟨_, .single (a := .setNode true) trivial hstep, rfl, rfl, rfl⟩

/-- A master can be told. -/
theorem path_turn (hne : addr ≠ move.destAddr) (rest : List String)
    (hphase : s.phase = .flipping (addr :: rest) (slot :: todo) false) :
    ∃ t, (danceSystem slotOf move).Path FlipStep s t ∧ t.phase = flip move rest ∧ t.dest = s.dest := by
  induction todo generalizing s slot with
  | nil =>
    obtain ⟨t, hpath, hnext, -, hdest⟩ := exists_command slotOf move hphase
    exact ⟨t, hpath, hnext, hdest.trans (if_neg hne)⟩
  | cons next todo ih =>
    obtain ⟨t, hpath, hnext, -, hdest⟩ := exists_command slotOf move hphase
    obtain ⟨u, hpath', hnext', hdest'⟩ := ih hnext
    exact ⟨u, hpath.trans hpath', hnext', hdest'.trans (hdest.trans (if_neg hne))⟩

theorem path_before (hslots : move.slots ≠ []) (hbefore : move.destAddr ∉ before)
    (hphase : s.phase = flip move (before ++ rest)) :
    ∃ t, (danceSystem slotOf move).Path FlipStep s t ∧ t.phase = flip move rest ∧ t.dest = s.dest := by
  induction before generalizing s with
  | nil => exact ⟨s, .refl, hphase, rfl⟩
  | cons addr before ih =>
    rw [mem_cons, not_or] at hbefore
    obtain ⟨slot, todo, htodo⟩ := exists_cons_of_ne_nil hslots
    have hturn : s.phase = .flipping (addr :: (before ++ rest)) (slot :: todo) false := by
      rw [hphase, flip, htodo]
      rfl
    obtain ⟨t, hpath, hnext, hdest⟩ := path_turn (Ne.symm hbefore.1) _ hturn
    obtain ⟨u, hpath', hnext', hdest'⟩ := ih hbefore.2 hnext
    exact ⟨u, hpath.trans hpath', hnext', hdest'.trans hdest⟩

/-- With the source first the range can be unclaimed. -/
theorem exists_unclaimed (slotOf : Key → ℤ) (hslots : move.slots ≠ []) (hne : move.sourceAddr ≠ move.destAddr)
    (hbefore : move.destAddr ∉ before) (hphase : s.phase = flip move (before ++ move.sourceAddr :: rest))
    (hdest : ∀ slot ∈ move.slots, s.dest.owns slot = false) :
    ∃ t, (danceSystem slotOf move).Path FlipStep s t ∧ ¬ Claimed move t := by
  obtain ⟨slot, todo, htodo⟩ := exists_cons_of_ne_nil hslots
  obtain ⟨t, hpath, hturn, hdest'⟩ := path_before hslots hbefore hphase
  have hturn : t.phase = .flipping (move.sourceAddr :: rest) (slot :: todo) false := by
    rw [hturn, flip, htodo]
    rfl
  obtain ⟨u, hpath', -, hsource, hdest''⟩ := exists_command slotOf move hturn
  refine ⟨u, hpath.trans hpath', fun hclaimed => ?_⟩
  have hslot : slot ∈ move.slots := by
    rw [htodo]
    exact mem_cons_self
  rw [if_pos rfl] at hsource
  rw [if_neg hne, hdest'] at hdest''
  rcases hclaimed slot hslot with howns | howns
  · rw [hsource] at howns
    exact Bool.false_ne_true ((update_self ..).symm.trans howns)
  · rw [hdest'', hdest slot hslot] at howns
    cases howns

/-- A flip leaves every slot claimed, wherever it stops, exactly if it has nothing to assign or tells the
destination before the source. -/
theorem flip_claimed_iff (order : RangeOrder ClusterNodeState) (gt : ClusterGroundTruth)
    (hphase : s.phase = flip move (reachableMasterAddrs order gt))
    (hsource : ∀ slot ∈ move.slots, s.source.owns slot = true)
    (hdest : ∀ slot ∈ move.slots, s.dest.owns slot = false) :
    (∀ t, (danceSystem slotOf move).Path FlipStep s t → Claimed move t) ↔
      move.slots = [] ∨ move.sourceAddr = move.destAddr ∨ DestFirst move (reachableMasterAddrs order gt) := by
  constructor
  · intro hclaimed
    by_contra hnot
    rw [not_or, not_or] at hnot
    obtain ⟨hslots, hne, hlast⟩ := hnot
    unfold DestFirst at hlast
    push Not at hlast
    obtain ⟨before, rest, hsplit, hbefore⟩ := hlast
    rw [hsplit] at hphase
    obtain ⟨t, hpath, hunclaimed⟩ := exists_unclaimed slotOf hslots hne hbefore hphase hdest
    exact hunclaimed (hclaimed t hpath)
  · rintro (hslots | hfirst) t hpath
    · intro slot hslot
      rw [hslots] at hslot
      cases hslot
    · refine (hpath.invariant (Flipping move (reachableMasterAddrs order gt))
        (fun _ _ _ h ha hstep => flipping_step hfirst h ha hstep) ⟨fun slot hslot => ?_, ?_⟩).1
      · exact .inl (hsource slot hslot)
      · intro addr rest todo failed hturn
        rw [hphase] at hturn
        obtain ⟨hsplit, rfl, -⟩ := flip_eq hturn
        refine ⟨[], hsplit, fun hdone => ?_, fun _ _ slot hslot => .inl hslot⟩
        cases hdone

end Flip

section Examples

/-- A master. -/
def pairNode (podName podIP nodeID : String) (slots : List String) : ClusterNodeState :=
  ⟨podName, podIP, nodeID, slots, .master, "", .unknown, true⟩

def slotMove : ReshardMove :=
  ⟨⟨0, 0⟩, pairNode "shard-0-0" "10.0.0.1" "1a" ["0"], pairNode "shard-1-0" "10.0.0.2" "2b" []⟩

def pairTruth : ClusterGroundTruth :=
  ⟨GoMap.ofPairs [("shard-0-0", slotMove.source), ("shard-1-0", slotMove.dest)], [], [], "ok", 1,
    ["1a", "2b"], ∅⟩

def slotStart : State ℕ :=
  ⟨⟨∅, fun slot => slot == 0, fun _ => false, fun _ => false⟩,
    ⟨∅, fun _ => false, fun _ => false, fun _ => false⟩, ∅, [], .idle, []⟩

/-- A pass up to the flip. -/
def slotPass (order : RangeOrder ClusterNodeState) : List (Label ℕ) :=
  [.start (reachableMasterAddrs order pairTruth), .setImporting true, .setMigrating true, .countKeys true]

theorem slotStart_initial : (danceSystem (fun _ => 0) (.ofPlanned slotMove 0 0)).initial slotStart :=
  ⟨rfl, rfl, by decide⟩

def destFirstFlip : State ℕ :=
  ((danceSystem (fun _ => 0) (.ofPlanned slotMove 0 0)).follow slotStart
    (slotPass (.toFront slotMove.dest))).get (by decide)

/-- One of the two masters claims the slot wherever that flip stops. -/
theorem destFirstFlip_claimed :
    destFirstFlip.phase =
        flip (.ofPlanned slotMove 0 0) (reachableMasterAddrs (.toFront slotMove.dest) pairTruth) ∧
      ∀ t, (danceSystem (fun _ => 0) (.ofPlanned slotMove 0 0)).Path FlipStep destFirstFlip t →
        Claimed (.ofPlanned slotMove 0 0) t := by
  refine ⟨rfl, ?_⟩
  refine (flip_claimed_iff (.toFront slotMove.dest) pairTruth rfl (by decide) (by decide)).mpr (.inr (.inr ?_))
  intro before rest hsplit
  have haddrs : reachableMasterAddrs (.toFront slotMove.dest) pairTruth =
    ["10.0.0.2:6379", "10.0.0.1:6379"] := by decide
  rw [haddrs] at hsplit
  cases before with
  | nil => exact absurd (List.cons.inj hsplit).1 (by decide)
  | cons addr before =>
    rw [← (List.cons.inj hsplit).1]
    exact mem_cons_self

def sourceOnly : State ℕ :=
  ((danceSystem (fun _ => 0) (.ofPlanned slotMove 0 0)).follow slotStart
    (slotPass (.toFront slotMove.source) ++ [.setNode true, .setNode false])).get (by decide)

/-- Nobody claims the slot when that pass is over. -/
theorem sourceOnly_unclaimed :
    (danceSystem (fun _ : ℕ => 0) (.ofPlanned slotMove 0 0)).Reachable System.anyStep sourceOnly ∧
      sourceOnly.source.owns 0 = false ∧ sourceOnly.dest.owns 0 = false ∧
        (0 : ℤ) ∈ (Move.ofPlanned slotMove 0 0).slots :=
  ⟨.of_run slotStart_initial (by decide), by decide, by decide, by decide⟩

end Examples

end Dance

end LittleRed.Cluster
