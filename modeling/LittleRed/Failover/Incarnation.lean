import LittleRed.Failover.Steps

/-!
# Assignments and incarnations

An assignment is computed for a pod of a list, but it is written by name. When the controller replaces the
pod in between, the assignment lands on the replacement. Runs in which no pod is created under a name that
has an assignment outstanding, and lists show the pods that exist, write it onto the pod it is for.
-/

namespace LittleRed.Failover

open Lib Function

/-- Every assignment was written onto a pod with the address that its pod had in the list. -/
def StampsHitListedPods (s : State) : Prop := ∀ w ∈ s.writes, w.podIP = w.listedIP

instance (s : State) : Decidable (StampsHitListedPods s) :=
  inferInstanceAs (Decidable (∀ w ∈ s.writes, _))

def Label.created : Label → Option String
  | .create name => some name
  | _ => none

/-- No pod is created under an outstanding name, and listed addresses are those of the pods. -/
def identityGuard (s : State) (a : Label) : Prop :=
  (∀ name ∈ a.created, ∀ planned ∈ s.phase.outstanding, planned.stamp.podName ≠ name) ∧
    ∀ p ∈ a.podList, p.ip ≠ "" → ∀ pod ∈ s.pods p.name, pod.ip = p.ip

instance (s : State) (a : Label) : Decidable (identityGuard s a) :=
  inferInstanceAs (Decidable ((∀ name ∈ a.created, _) ∧ ∀ p ∈ a.podList, _))

/-- The assignment has an address, and it is the address of the pod of its name. -/
def Addressed (pods : String → Option Pod) (planned : PlannedStamp) : Prop :=
  planned.listedIP ≠ "" ∧ ∀ pod, pods planned.stamp.podName = some pod → pod.ip = planned.listedIP

variable {pods : String → Option Pod} {planned : PlannedStamp}

/-- A change that keeps a given address. -/
theorem Addressed.setPod (h : Addressed pods planned) {name : String} {pod pod' : Pod}
    (hpod : pods name = some pod) (hip : pod.ip = "" ∨ pod'.ip = pod.ip) :
    Addressed (update pods name (some pod')) planned := by
  refine ⟨h.1, fun found hfound => ?_⟩
  by_cases hname : planned.stamp.podName = name
  · rw [hname, update_self] at hfound
    cases hfound
    have hlisted : pod.ip = planned.listedIP := h.2 pod (hname ▸ hpod)
    rcases hip with hempty | hsame
    · exact absurd (hlisted.symm.trans hempty) h.1
    · exact hsame.trans hlisted
  · rw [update_of_ne hname] at hfound
    exact h.2 found hfound

/-- A pod goes. -/
theorem Addressed.removePod (h : Addressed pods planned) (name : String) :
    Addressed (update pods name none) planned := by
  refine ⟨h.1, fun found hfound => ?_⟩
  by_cases hname : planned.stamp.podName = name
  · rw [hname, update_self] at hfound
    cases hfound
  · rw [update_of_ne hname] at hfound
    exact h.2 found hfound

/-- A pod is created under another name. -/
theorem Addressed.createPod (h : Addressed pods planned) {name : String}
    (hname : planned.stamp.podName ≠ name) :
    Addressed (update pods name (some .fresh)) planned := by
  refine ⟨h.1, fun found hfound => ?_⟩
  rw [update_of_ne hname] at hfound
  exact h.2 found hfound

/-- An assignment has the address in the list. -/
theorem Addressed.of_fromList {s : State} {a : Label} (hguard : identityGuard s a)
    {planned : PlannedStamp} (h : FromList a.podList planned) : Addressed s.pods planned := by
  obtain ⟨p, hp, hname, hip, haddress⟩ := h
  rw [Addressed, hname, hip]
  exact ⟨haddress, fun pod hpod => hguard.2 p hp haddress pod hpod⟩

/-- All outstanding assignments are addressed, and those written hit their pods. -/
def AddressedState (s : State) : Prop :=
  (∀ planned ∈ s.phase.outstanding, Addressed s.pods planned) ∧ StampsHitListedPods s

/-- Every step keeps the outstanding assignments addressed. -/
theorem addressedState_step {s s' : State} {a : Label} (h : AddressedState s)
    (hguard : identityGuard s a) (heffect : Effect s a s') : AddressedState s' := by
  obtain ⟨hplans, hwrites⟩ := h
  cases heffect with
  | create hnew =>
    exact ⟨fun planned hmem => (hplans planned hmem).createPod (hguard.1 _ rfl planned hmem), hwrites⟩
  | report hpod hreport =>
    exact ⟨fun planned hmem => (hplans planned hmem).setPod hpod hreport.ip, hwrites⟩
  | remove => exact ⟨fun planned hmem => (hplans planned hmem).removePod _, hwrites⟩
  | restart hpod | kill hpod | start hpod =>
    exact ⟨fun planned hmem => (hplans planned hmem).setPod hpod (.inr rfl), hwrites⟩
  | decide hstamps =>
    exact ⟨fun planned hmem => Addressed.of_fromList hguard (hstamps planned hmem), hwrites⟩
  | proceed hrest => exact ⟨fun planned hmem => hplans planned (hrest planned hmem), hwrites⟩
  | patch hplanned hrest hpod =>
    refine ⟨fun planned hmem => (hplans planned (hrest planned hmem)).setPod hpod (.inr rfl), ?_⟩
    intro w hw
    rcases List.mem_cons.mp hw with rfl | hw
    · exact (hplans _ hplanned).2 _ hpod
    · exact hwrites w hw

/-- In guarded runs each assignment is written onto the pod it was computed for. -/
theorem stampsHitListedPods_of_guarded (inst : Instance) {s : State}
    (h : (failoverSystem inst).Reachable identityGuard s) : StampsHitListedPods s := by
  have haddressed : AddressedState s := by
    refine h.invariant AddressedState ?_ ?_
    · rintro s rfl
      constructor
      · intro planned hplanned
        cases hplanned
      · intro w hw
        cases hw
    · intro s a s' hs hguard hstep
      exact addressedState_step hs hguard (effect_of_step hstep)
  exact haddressed.2

def survivingReplica : Replication.ReplicationState where
  redisNodes := GoMap.ofPairs
    [("10.0.0.2", ⟨"lr-redis-1", "10.0.0.2", "slave", "10.0.0.1", "up", 100, 3, "8f", "", true, .ok⟩)]
  sentinelNodes := ∅
  liveTopologyIPs := ["10.0.0.2"]

/-- The master goes, and a pass decides for the other pod. -/
def promoteReplica : List (State → Label) :=
  bootstrappedPair true ++
    [fun _ => .terminate "lr-redis-0",
      fun s => .assign s.status (pairPods s) survivingReplica 20000 true]

def promotedPair : State :=
  ((failoverSystem pairInstance).driveIf identityGuard newInstance
    (promoteReplica ++ writeStamp)).get (by decide)

/-- The replica is promoted, and its assignment is on the pod that holds the data. -/
theorem promotedPair_hits :
    (∃ w ∈ promotedPair.writes, w.stamp.role = "master" ∧ w.podIP = "10.0.0.2") ∧
      StampsHitListedPods promotedPair :=
  ⟨by decide, stampsHitListedPods_of_guarded pairInstance (.of_moves rfl (by decide))⟩

/-- That pod is replaced before the assignment is written. -/
def promotedReplacement : State :=
  ((failoverSystem pairInstance).driveIf System.anyStep newInstance
    (promoteReplica ++ [fun _ => .remove "lr-redis-1"] ++ createPod "lr-redis-1" "10.0.0.9" ++
      writeStamp ++ startServer "lr-redis-1")).get (by decide)

/-- The role, decided for the replica with the data, makes its empty replacement a master. -/
theorem replacement_gets_stamp :
    (failoverSystem pairInstance).Reachable System.anyStep promotedReplacement ∧
      ¬StampsHitListedPods promotedReplacement ∧
      ∃ start ∈ promotedReplacement.starts, start.podName = "lr-redis-1" ∧
        start.markerFound = false ∧ start.asMaster = true :=
  ⟨.of_moves rfl (by decide), by decide, by decide⟩

end LittleRed.Failover
