import LittleRed.Failover.System

/-!
# What a step can do

Every step has one of a few effects. The invariants of the system are proved from the effects
and never look into the step function. Concrete runs are composed of the moves at the end.
-/

namespace LittleRed.Failover

open Lib Replication List Option

/-- The assignments that the pass has still to write. -/
def Phase.outstanding : Phase → List PlannedStamp
  | .idle => []
  | .stamping pass => pass.outstanding

/-- The pods that a pass lists. -/
def Label.podList : Label → List PodObject
  | .bootstrap _ _ podList => podList
  | .assign _ podList _ _ _ => podList
  | _ => []

/-- The assignment is for a pod of the list, at the address that the pod has there. -/
def FromList (podList : List PodObject) (planned : PlannedStamp) : Prop :=
  ∃ p ∈ podList, planned.stamp.podName = p.name ∧ planned.listedIP = p.ip ∧ p.ip ≠ ""

/-- Annotations and processes are as before, and an address stays once it is given. -/
structure Reported (pod pod' : Pod) : Prop where
  versions : pod'.versions = pod.versions
  marker : pod'.marker = pod.marker
  container : pod'.container = pod.container
  lastTermination : pod'.lastTermination = pod.lastTermination
  ip : pod.ip = "" ∨ pod'.ip = pod.ip

/-- The effects of a step. -/
inductive Effect (s : State) : Label → State → Prop
  | create {name : String} (hnew : s.pods name = none) :
      Effect s (.create name) (s.setPod name (some .fresh))
  | report {a : Label} {name : String} {pod pod' : Pod} (hpod : s.pods name = some pod)
      (hreport : Reported pod pod') : Effect s a (s.setPod name (some pod'))
  | remove {name : String} : Effect s (.remove name) (s.setPod name none)
  | restart {name : String} {pod : Pod} (hpod : s.pods name = some pod)
      (hdown : pod.container = .down) :
      Effect s (.restart name)
        (s.setPod name (some { pod with container := .waiting (pod.marker.getD "") }))
  | kill {name : String} {pod : Pod} (hpod : s.pods name = some pod) :
      Effect s (.kill name)
        { s.setPod name (some { pod with container := .down, lastTermination := s.clock + 1 }) with
          clock := s.clock + 1 }
  | start {a : Label} {name startedUnderEpoch : String} {pod : Pod} {annotations : Annotations}
      {start : GateStart} (hpod : s.pods name = some pod)
      (hwaiting : pod.container = .waiting startedUnderEpoch)
      (hgate : gateTurn startedUnderEpoch annotations = some start)
      (hread : annotations.masterStartAuthorizedEpoch =
        pod.file.annotations.masterStartAuthorizedEpoch) :
      Effect s a
        { s.setPod name (some { pod with container := .running, marker := some start.epoch }) with
          starts := ⟨name, startedUnderEpoch != "", start.asMaster, pod.file.authorizedAt,
            pod.lastTermination⟩ :: s.starts }
  | decide {a : Label} {status : FailoverStatus} {stamps : List PlannedStamp}
      {transition : Option ℤ} {bootstrap : Bool}
      (hstamps : ∀ planned ∈ stamps, FromList a.podList planned) :
      Effect s a { s with
        status := status
        phase := .stamping ⟨stamps, none, false, transition, bootstrap⟩ }
  | proceed {a : Label} {status : FailoverStatus} {phase : Phase}
      (hrest : ∀ planned ∈ phase.outstanding, planned ∈ s.phase.outstanding) :
      Effect s a { s with status := status, phase := phase }
  | patch {planned : PlannedStamp} {pod : Pod} {annotations : Annotations} {phase : Phase}
      (hplanned : planned ∈ s.phase.outstanding)
      (hrest : ∀ planned ∈ phase.outstanding, planned ∈ s.phase.outstanding)
      (hpod : s.pods planned.stamp.podName = some pod) :
      Effect s (.patch true)
        { s.setPod planned.stamp.podName
            (some (pod.annotate (planned.stamp.patched annotations pod.current (s.clock + 1)))) with
          clock := s.clock + 1
          writes := ⟨planned.stamp, planned.listedIP, pod.ip⟩ :: s.writes
          phase := phase }

variable {podList : List PodObject} {planned : PlannedStamp} {inst : Instance} {s s' : State} {a : Label}

/-- Assignments are for listed pods. -/
theorem assignmentStamps_fromList {masterName masterIP : String} {epoch : ℤ} {authorize : Bool}
    (hmem : planned ∈ assignmentStamps podList masterName masterIP epoch authorize) :
    FromList podList planned := by
  obtain ⟨p, hp, hstamp⟩ := mem_filterMap.mp hmem
  by_cases hskip : p.ip = "" ∨ p.terminating
  · rw [if_pos hskip] at hstamp
    cases hstamp
  · rw [if_neg hskip] at hstamp
    have hip : p.ip ≠ "" := fun hempty => hskip (.inl hempty)
    split at hstamp
    · cases hstamp
      exact ⟨p, hp, rfl, rfl, hip⟩
    · cases hstamp
      exact ⟨p, hp, rfl, rfl, hip⟩

/-- A view has the name and the address of its pod. -/
theorem failoverPodView_identity (state : Option ReplicationState) (p : PodObject) :
    (failoverPodView state p).name = p.name ∧ (failoverPodView state p).ip = p.ip := by
  simp only [failoverPodView]
  split
  · split <;> exact ⟨rfl, rfl⟩
  · exact ⟨rfl, rfl⟩

theorem planFailoverReauth_fromList {state : Option ReplicationState} {intent : FailoverIntent}
    {liveMasterIP : String}
    (hmem : planned ∈ planFailoverReauth (buildFailoverPodViews podList state) intent liveMasterIP) :
    FromList podList planned := by
  rw [planFailoverReauth, mem_insertionSort] at hmem
  obtain ⟨view, hview, hstamp⟩ := mem_filterMap.mp hmem
  obtain ⟨p, hp, rfl⟩ := mem_map.mp hview
  obtain ⟨hname, hip⟩ := failoverPodView_identity state p
  rw [reauthStamp] at hstamp
  by_cases hskip : (failoverPodView state p).ip = "" ∨ (failoverPodView state p).terminating ∨
      (failoverPodView state p).name = intent.masterName ∨ (failoverPodView state p).ip = liveMasterIP
  · rw [if_pos hskip] at hstamp
    cases hstamp
  · rw [if_neg hskip] at hstamp
    have haddress : p.ip ≠ "" := fun hempty => hskip (.inl (hip.trans hempty))
    split at hstamp
    · cases hstamp
      exact ⟨p, hp, hname, hip, haddress⟩
    · split at hstamp
      · cases hstamp
        exact ⟨p, hp, hname, hip, haddress⟩
      · cases hstamp

theorem executeFailoverPlan_fromList {intent : FailoverIntent} {plan : FailoverPlan}
    (hmem : planned ∈ (executeFailoverPlan podList intent plan).stamps) :
    FromList podList planned := by
  rw [executeFailoverPlan] at hmem
  split at hmem
  · exact assignmentStamps_fromList hmem
  · exact assignmentStamps_fromList hmem
  · exact assignmentStamps_fromList hmem
  all_goals cases hmem

/-- A pass assigns listed pods only. -/
theorem reconcile_fromList {status : FailoverStatus} {state : ReplicationState} {now : ℤ}
    (hmem : planned ∈ (reconcileFailoverAssignments inst status podList state now).stamps) :
    FromList podList planned := by
  simp only [reconcileFailoverAssignments] at hmem
  split at hmem
  · cases hmem
  split at hmem
  · cases hmem
  split at hmem
  · exact executeFailoverPlan_fromList hmem
  split at hmem
  · cases hmem
  split at hmem
  · exact planFailoverReauth_fromList hmem
  · cases hmem

/-- What a step of a pod can do. -/
theorem effect_of_podStep (h : podStep s a = some s') :
    Effect s a s' := by
  cases a with
  | create name =>
    simp only [podStep] at h
    split at h
    · cases h
      exact .create (by assumption)
    · cases h
  | schedule name ip =>
    obtain ⟨pod, hpod, h⟩ := bind_eq_some_iff.mp h
    obtain ⟨_, rfl⟩ := of_ite_some h
    exact .report hpod ⟨rfl, rfl, rfl, rfl, .inl (by assumption)⟩
  | terminate name =>
    obtain ⟨pod, hpod, h⟩ := bind_eq_some_iff.mp h
    cases h
    exact .report hpod ⟨rfl, rfl, rfl, rfl, .inr rfl⟩
  | remove name =>
    obtain ⟨pod, hpod, h⟩ := bind_eq_some_iff.mp h
    cases h
    exact .remove
  | report | relabel =>
    obtain ⟨pod, hpod, h⟩ := bind_eq_some_iff.mp h
    cases h
    exact .report hpod ⟨rfl, rfl, rfl, rfl, .inr rfl⟩
  | project name index =>
    obtain ⟨pod, hpod, h⟩ := bind_eq_some_iff.mp h
    split at h
    · cases h
      exact .report hpod ⟨rfl, rfl, rfl, rfl, .inr rfl⟩
    · cases h
  | restart name =>
    obtain ⟨pod, hpod, h⟩ := bind_eq_some_iff.mp h
    obtain ⟨_, rfl⟩ := of_ite_some h
    exact .restart hpod (by assumption)
  | kill name =>
    obtain ⟨pod, hpod, h⟩ := bind_eq_some_iff.mp h
    split at h
    · cases h
    · cases h
      exact .kill hpod
  | gate name role masterIP epoch =>
    obtain ⟨pod, hpod, h⟩ := bind_eq_some_iff.mp h
    obtain ⟨roleRead, -, h⟩ := bind_eq_some_iff.mp h
    obtain ⟨masterIPRead, -, h⟩ := bind_eq_some_iff.mp h
    obtain ⟨epochRead, -, h⟩ := bind_eq_some_iff.mp h
    split at h
    · rename_i startedUnderEpoch hwaiting
      obtain ⟨start, hgate, h⟩ := bind_eq_some_iff.mp h
      cases h
      exact .start hpod hwaiting hgate rfl
    · cases h
  | bootstrap | assign | get | patch | finish | observeReady | abort => cases h

/-- What a step of the operator can do. -/
theorem effect_of_operatorStep (h : operatorStep inst s a = some s') : Effect s a s' := by
  cases a with
  | bootstrap cached pod0IP podList =>
    simp only [operatorStep] at h
    split at h
    · split at h
      · cases h
        exact .decide fun planned hmem => assignmentStamps_fromList hmem
      · cases h
    · cases h
  | assign cached podList gathered now marked =>
    simp only [operatorStep] at h
    split at h
    · cases h
      exact .decide fun planned hmem => reconcile_fromList hmem
    · cases h
  | get read =>
    simp only [operatorStep] at h
    split at h
    · rename_i planned rest failed transition bootstrap hphase
      have hrest : ∀ p ∈ rest, p ∈ s.phase.outstanding := fun p hp => by
        rw [hphase]
        exact mem_cons_of_mem planned hp
      split at h
      · cases h
        exact .proceed hrest
      · split at h
        · cases h
          exact .proceed hrest
        · cases h
          exact .proceed fun p hp => by rwa [hphase]
    · cases h
  | patch accepted =>
    simp only [operatorStep] at h
    split at h
    · rename_i planned rest annotations failed transition bootstrap hphase
      have hrest : ∀ p ∈ rest, p ∈ s.phase.outstanding := fun p hp => by
        rw [hphase]
        exact mem_cons_of_mem planned hp
      split at h
      · rename_i pod hpod
        cases h
        exact .patch (by rw [hphase]; exact mem_cons_self) hrest hpod
      · cases h
        exact .proceed hrest
    · cases h
  | finish now marked cleared =>
    simp only [operatorStep] at h
    split at h
    · cases h
      exact .proceed nofun
    · cases h
  | observeReady =>
    cases h
    exact .proceed fun planned hmem => hmem
  | abort =>
    cases h
    exact .proceed nofun
  | create | schedule | terminate | remove | report | relabel | project | restart | kill | gate =>
    cases h

theorem effect_of_step (h : step inst s a = some s') : Effect s a s' := by
  rw [step, or_eq_some_iff] at h
  rcases h with hpod | ⟨-, hoperator⟩
  · exact effect_of_podStep hpod
  · exact effect_of_operatorStep hoperator

def pairInstance : Instance := ⟨"lr-redis-0", 5000, false⟩

def newInstance : State := ⟨fun _ => none, ⟨true, none, none⟩, .idle, 0, [], []⟩

/-- The pods of the pair as they are. -/
def pairPods (s : State) : List PodObject :=
  ["lr-redis-0", "lr-redis-1"].filterMap fun name => (s.pods name).map (·.object name)

/-- A pod is created and gets an address. -/
def createPod (name ip : String) : List (State → Label) :=
  [fun _ => .create name, fun _ => .schedule name ip]

/-- The operator writes its next assignment: it reads the pod as it is, and its patch is
accepted. -/
def writeStamp : List (State → Label) :=
  [fun s => .get (s.phase.outstanding.head?.bind fun planned =>
    (s.pods planned.stamp.podName).map (·.current.annotations)), fun _ => .patch true]

/-- The kubelet projects the newest annotations, and the script starts the server. -/
def startServer (name : String) : List (State → Label) :=
  [fun _ => .project name 0, fun _ => .gate name 0 0 0]

/-- A pass that bootstraps from the first pod. -/
def bootstrapPass (recorded : Bool) : List (State → Label) :=
  [fun s => .bootstrap s.status "10.0.0.1" (pairPods s)] ++ writeStamp ++ writeStamp ++
    [fun _ => .finish 0 recorded recorded]

/-- Both pods start after the bootstrap. -/
def bootstrappedPair (recorded : Bool) : List (State → Label) :=
  createPod "lr-redis-0" "10.0.0.1" ++ createPod "lr-redis-1" "10.0.0.2" ++
    bootstrapPass recorded ++ startServer "lr-redis-0" ++ startServer "lr-redis-1"

def crash (name : String) : List (State → Label) := [fun _ => .kill name, fun _ => .restart name]

end LittleRed.Failover
