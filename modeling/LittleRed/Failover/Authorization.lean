import LittleRed.Failover.Steps

/-!
# Permission and death

A process that finds a start marker may start as a master only with a permission that is newer than the
marker. It is meant to be given after the last process died, but the operator also gives it to pods whose
process is running, and then the next kill finds it ready. Runs without such kills keep the intent.
-/

namespace LittleRed.Failover

open Lib Function

/-- Who found a marker and started as a master had a permission from after the last death. -/
def PermissionFollowsDeath (s : State) : Prop :=
  ∀ start ∈ s.starts, start.markerFound = true → start.asMaster = true →
    start.lastTermination < start.authorizedAt

instance (s : State) : Decidable (PermissionFollowsDeath s) :=
  inferInstanceAs (Decidable (∀ start ∈ s.starts, _))

/-- No permission in the pod's annotations, past or present, is newer than its marker. -/
def NoPermissionAhead (pod : Pod) : Prop :=
  ∀ epoch ∈ pod.marker, ∀ version ∈ pod.versions,
    testGt version.annotations.masterStartAuthorizedEpoch epoch = false

instance (pod : Pod) : Decidable (NoPermissionAhead pod) :=
  inferInstanceAs (Decidable (∀ epoch ∈ pod.marker, _))

def Label.killed : Label → Option String
  | .kill name => some name
  | _ => none

/-- A container is killed only when no permission is newer than the marker of its pod. -/
def deathGuard (s : State) (a : Label) : Prop :=
  ∀ name ∈ a.killed, ∀ pod ∈ s.pods name, NoPermissionAhead pod

instance (s : State) (a : Label) : Decidable (deathGuard s a) :=
  inferInstanceAs (Decidable (∀ name ∈ a.killed, _))

/-- While no server runs, a permission newer than the marker is from after the last death. -/
structure Fenced (clock : ℕ) (pod : Pod) : Prop where
  terminated : pod.lastTermination ≤ clock
  marker_ne : pod.marker ≠ some ""
  waiting : ∀ epoch, pod.container = .waiting epoch → epoch = pod.marker.getD ""
  fenced : pod.container ≠ .running → ∀ epoch, pod.marker = some epoch →
    ∀ version ∈ pod.versions,
      testGt version.annotations.masterStartAuthorizedEpoch epoch = true →
        pod.lastTermination < version.authorizedAt

variable {clock later : ℕ} {pod : Pod} {s : State}

theorem Fenced.mono (h : Fenced clock pod) (hle : clock ≤ later) :
    Fenced later pod :=
  ⟨Nat.le_trans h.terminated hle, h.marker_ne, h.waiting, h.fenced⟩

theorem fenced_fresh (clock : ℕ) : Fenced clock .fresh where
  terminated := Nat.zero_le clock
  marker_ne := nofun
  waiting := fun _ h => (Container.waiting.inj h).symm
  fenced := nofun

/-- A kill without a permission ahead keeps the fence. -/
theorem Fenced.kill (h : Fenced clock pod) (hahead : NoPermissionAhead pod) :
    Fenced (clock + 1) { pod with container := .down, lastTermination := clock + 1 } where
  terminated := Nat.le_refl _
  marker_ne := h.marker_ne
  waiting := nofun
  fenced := by
    intro _ epoch hmarker version hversion hgt
    rw [hahead epoch hmarker version hversion] at hgt
    cases hgt

theorem Fenced.restart (h : Fenced clock pod) (hdown : pod.container = .down) :
    Fenced clock { pod with container := .waiting (pod.marker.getD "") } where
  terminated := h.terminated
  marker_ne := h.marker_ne
  waiting := fun _ heq => (Container.waiting.inj heq).symm
  fenced := fun _ => h.fenced (by rw [hdown]; nofun)

/-- A start writes the marker. -/
theorem Fenced.start (h : Fenced clock pod) {epoch : String} (hepoch : epoch ≠ "") :
    Fenced clock { pod with container := .running, marker := some epoch } where
  terminated := h.terminated
  marker_ne := fun heq => hepoch (Option.some.inj heq)
  waiting := nofun
  fenced := fun hrunning => absurd rfl hrunning

/-- A patch gives a new permission or keeps the old one. -/
theorem patched_authorization (stamp : FailoverStamp) (read : Annotations) (target : Version) (now : ℕ) :
    (stamp.patched read target now).authorizedAt = now ∨
      ((stamp.patched read target now).authorizedAt = target.authorizedAt ∧
        (stamp.patched read target now).annotations.masterStartAuthorizedEpoch =
          target.annotations.masterStartAuthorizedEpoch) := by
  rw [FailoverStamp.patched]
  cases stamp.authorizeMasterStart && read.masterStartAuthorizedEpoch != stamp.epochText with
  | true => exact .inl rfl
  | false => exact .inr ⟨rfl, rfl⟩

/-- A patch keeps the fence. -/
theorem Fenced.annotate (h : Fenced clock pod) (stamp : FailoverStamp) (read : Annotations) :
    Fenced (clock + 1) (pod.annotate (stamp.patched read pod.current (clock + 1))) where
  terminated := Nat.le_succ_of_le h.terminated
  marker_ne := h.marker_ne
  waiting := h.waiting
  fenced := by
    intro hstopped epoch hmarker version hversion hgt
    have hbefore := h.fenced hstopped epoch hmarker
    rw [Pod.versions_annotate, List.mem_cons] at hversion
    rcases hversion with rfl | hversion
    · rcases patched_authorization stamp read pod.current (clock + 1) with hnow | ⟨hat, hepoch⟩
      · rw [hnow]
        exact Nat.lt_succ_of_le h.terminated
      · rw [hepoch] at hgt
        rw [hat]
        exact hbefore pod.current List.mem_cons_self hgt
    · exact hbefore version hversion hgt

/-- A start as a master under a marker uses a permission from after the last death. -/
theorem Fenced.gate (h : Fenced clock pod) {startedUnderEpoch : String}
    (hwaiting : pod.container = .waiting startedUnderEpoch) {annotations : Annotations}
    (hread : annotations.masterStartAuthorizedEpoch =
      pod.file.annotations.masterStartAuthorizedEpoch) {start : GateStart}
    (hgate : gateTurn startedUnderEpoch annotations = some start) (hmarker : startedUnderEpoch ≠ "")
    (hmaster : start.asMaster = true) :
    pod.lastTermination < pod.file.authorizedAt := by
  have hfound := h.waiting startedUnderEpoch hwaiting
  cases hpod : pod.marker with
  | none => exact absurd (hfound.trans (by rw [hpod]; rfl)) hmarker
  | some epoch =>
    obtain rfl : startedUnderEpoch = epoch := hfound.trans (by rw [hpod]; rfl)
    have hgt := (gateTurn_eq_some hgate).2.2 hmaster hmarker
    rw [hread] at hgt
    exact h.fenced (by rw [hwaiting]; nofun) _ hpod pod.file pod.file_mem hgt

/-- All pods are fenced, and the starts so far were in order. -/
def FencedState (s : State) : Prop :=
  (∀ name pod, s.pods name = some pod → Fenced s.clock pod) ∧ PermissionFollowsDeath s

/-- One pod may be replaced by a fenced one. -/
theorem fenced_setPod (h : ∀ name pod, s.pods name = some pod → Fenced s.clock pod) (hle : s.clock ≤ later)
    (name : String) (replaced : Option Pod) (hreplaced : ∀ pod, replaced = some pod → Fenced later pod) :
    ∀ other pod, update s.pods name replaced other = some pod → Fenced later pod := by
  intro other pod hpod
  by_cases hother : other = name
  · subst hother
    rw [update_self] at hpod
    exact hreplaced pod hpod
  · rw [update_of_ne hother] at hpod
    exact (h other pod hpod).mono hle

theorem fenced_update (h : ∀ name pod, s.pods name = some pod → Fenced s.clock pod) (hle : s.clock ≤ later)
    {name : String} {replaced : Pod} (hreplaced : Fenced later replaced) :
    ∀ other pod, update s.pods name (some replaced) other = some pod → Fenced later pod :=
  fenced_setPod h hle name (some replaced) fun _ hpod => Option.some.inj hpod ▸ hreplaced

/-- Reports keep the fence. -/
theorem Fenced.report {pod' : Pod} (h : Fenced clock pod)
    (hreport : Reported pod pod') : Fenced clock pod' := by
  obtain ⟨hversions, hmarker, hcontainer, htermination, -⟩ := hreport
  constructor
  · rw [htermination]
    exact h.terminated
  · rw [hmarker]
    exact h.marker_ne
  · rw [hcontainer, hmarker]
    exact h.waiting
  · rw [hcontainer, hmarker, hversions, htermination]
    exact h.fenced

/-- Every step keeps the fence of all pods. -/
theorem fencedState_step {s' : State} {a : Label} (h : FencedState s) (hguard : deathGuard s a)
    (heffect : Effect s a s') : FencedState s' := by
  obtain ⟨hpods, hstarts⟩ := h
  cases heffect with
  | create hnew => exact ⟨fenced_update hpods (Nat.le_refl _) (fenced_fresh _), hstarts⟩
  | report hpod hreport =>
    exact ⟨fenced_update hpods (Nat.le_refl _) ((hpods _ _ hpod).report hreport), hstarts⟩
  | remove =>
    refine ⟨fenced_setPod hpods (Nat.le_refl _) _ none ?_, hstarts⟩
    intro pod hpod
    cases hpod
  | restart hpod hdown =>
    exact ⟨fenced_update hpods (Nat.le_refl _) ((hpods _ _ hpod).restart hdown), hstarts⟩
  | kill hpod =>
    have hahead := hguard _ rfl _ hpod
    exact ⟨fenced_update hpods (Nat.le_succ _) ((hpods _ _ hpod).kill hahead), hstarts⟩
  | start hpod hwaiting hgate hread =>
    have hfenced := hpods _ _ hpod
    obtain ⟨rfl, hepoch, -⟩ := gateTurn_eq_some hgate
    refine ⟨fenced_update hpods (Nat.le_refl _) (hfenced.start hepoch), ?_⟩
    intro start hstart hfound hmaster
    rcases List.mem_cons.mp hstart with rfl | hstart
    · exact hfenced.gate hwaiting hread hgate (by simpa using hfound) hmaster
    · exact hstarts start hstart hfound hmaster
  | decide | proceed => exact ⟨hpods, hstarts⟩
  | patch hplanned hrest hpod =>
    exact ⟨fenced_update hpods (Nat.le_succ _) ((hpods _ _ hpod).annotate _ _), hstarts⟩

/-- Without kills under a permission ahead, permission follows death. -/
theorem permissionFollowsDeath_of_guarded (inst : Instance) {s : State}
    (h : (failoverSystem inst).Reachable deathGuard s) : PermissionFollowsDeath s := by
  have hfenced : FencedState s := by
    refine h.invariant FencedState ?_ ?_
    · rintro s rfl
      constructor
      · intro name pod hpod
        cases hpod
      · intro start hstart
        cases hstart
    · intro s a s' hs hguard hstep
      exact fencedState_step hs hguard (effect_of_step hstep)
  exact hfenced.2

def silentPair : Replication.ReplicationState where
  redisNodes := GoMap.ofPairs
    [("10.0.0.1", Replication.silentNode "lr-redis-0" "10.0.0.1" .unroutable),
      ("10.0.0.2", Replication.silentNode "lr-redis-1" "10.0.0.2" .unroutable)]
  sentinelNodes := ∅
  liveTopologyIPs := ["10.0.0.1", "10.0.0.2"]

/-- A pair is killed, seeded again, and the first pod starts. -/
def reseededPair : State :=
  ((failoverSystem pairInstance).driveIf deathGuard newInstance
    (bootstrappedPair true ++ crash "lr-redis-0" ++ crash "lr-redis-1" ++
      [fun s => .assign s.status (pairPods s) silentPair 20000 true] ++ writeStamp ++
      startServer "lr-redis-0")).get (by decide)

/-- That start uses a permission from after the crash. -/
theorem reseededPair_follows :
    (∃ start ∈ reseededPair.starts, start.markerFound = true ∧ start.asMaster = true) ∧
      PermissionFollowsDeath reseededPair :=
  ⟨by decide, permissionFollowsDeath_of_guarded pairInstance (.of_moves rfl (by decide))⟩

/-- A bootstrap is retried on the running pair; then the master is killed and restarts. -/
def retriedBootstrap : State :=
  ((failoverSystem pairInstance).driveIf System.anyStep newInstance
    (bootstrappedPair false ++ bootstrapPass true ++ crash "lr-redis-0" ++
      startServer "lr-redis-0")).get (by decide)

/-- The retried bootstrap permits the next process to start as an empty master. -/
theorem restarted_with_permission_from_before :
    (failoverSystem pairInstance).Reachable System.anyStep retriedBootstrap ∧
      ¬PermissionFollowsDeath retriedBootstrap :=
  ⟨.of_moves rfl (by decide), by decide⟩

end LittleRed.Failover
