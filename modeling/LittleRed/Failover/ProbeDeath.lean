import LittleRed.Failover.Timed

/-!
# Deaths declared by the probe

The marker of the master's outage is a single time without the name of the master. Along a run
it stands for an unbroken series of passes that found the same intended master unreachable, as
long as no pass with another finding leaves it set.
-/

namespace LittleRed.Failover

open Lib Replication List

/-- The death is about this master: it was intended and unreachable on every pass of the window. -/
def ProbeDeath.Justified (inst : Instance) (d : ProbeDeath) : Prop :=
  ∀ o ∈ d.log, d.now - inst.downAfter ≤ o.1 → o.2 = ⟨d.masterName, d.masterIP, false⟩

/-- Every death that the probe has declared so far is justified. -/
def ProbeDeathsSustained (inst : Instance) (t : TimedState) : Prop :=
  ∀ d ∈ t.probeDeaths, d.Justified inst

/-- The kubelet holds the intended master for ready, and it stays. -/
def kubeletAlive (podList : List PodObject) (intent : FailoverIntent) : Bool :=
  let pod := failoverMasterPodView podList intent
  pod.present && pod.ready && !pod.terminating

/-- The pass finds its master alive. -/
def findsAlive (status : FailoverStatus) (podList : List PodObject) (state : ReplicationState) : Bool :=
  let intent := passIntent podList state
  reachesDetection status podList state && intent.masterName != "" && kubeletAlive podList intent &&
    (sighting podList state).reachable

/-- The kubelet sees no intended master alive, and the pass elects one. -/
def elects (inst : Instance) (status : FailoverStatus) (podList : List PodObject)
    (state : ReplicationState) (now : ℤ) : Bool :=
  let intent := passIntent podList state
  reachesDetection status podList state &&
    (intent.masterName == "" || !kubeletAlive podList intent) &&
    assigns (failoverDecision inst status podList state now).action

/-- The newest pass found the same master as the one before, and unreachable. -/
def continues (log : List (ℤ × MasterSighting)) : Bool :=
  match log with
  | o :: p :: _ => o.2 == p.2 && !o.2.reachable
  | _ => false

/-- The marker is set, and the pass that elects a master has found another one or a live one. -/
def TimedState.breaks (t : TimedState) : Bool :=
  t.core.status.masterDownSince.isSome && t.core.phase.electing && !continues t.log

section Guard

variable (inst : Instance) (time : StoredTime)

/-- Storing the marker does not decide whether the window is over. -/
def TimedState.roundsDown (t : TimedState) (now : ℤ) : Bool :=
  match t.core.status.masterDownSince with
  | none => true
  | some since => decide (now - time.stored since < inst.downAfter) ==
      decide (now - since < inst.downAfter)

/-- A pass reads the current marker. While it is set, the pass finds the same master unreachable, or
finds it alive and clears the marker, or elects one where the kubelet sees none alive. -/
def Watched (t : TimedState) : Label → Prop
  | .assign cached podList gathered now marked =>
    cached.masterDownSince = t.core.status.masterDownSince.map time.stored ∧
      t.roundsDown inst time now = true ∧
      (t.core.status.masterDownSince.isSome = true →
        continues ((now, sighting podList gathered) :: t.log) = true ∨
          (findsAlive cached podList gathered = true ∧ marked = true) ∨
          elects inst cached podList gathered now = true)
  | .finish _ marked _ => t.breaks = true → t.core.phase.failed = false ∧ marked = true
  | .abort => t.breaks = false
  | _ => True

instance (t : TimedState) (a : Label) : Decidable (Watched inst time t a) := by
  unfold Watched
  cases a <;> infer_instance

end Guard

section Detection

variable {inst : Instance} {status : FailoverStatus} {podList : List PodObject}
  {state : ReplicationState} {now : ℤ}

/-- What a pass concludes about a death. -/
theorem concludedDeath_eq_some {action : MasterDeathAction} :
    concludedDeath inst status podList state now = some action ↔
      reachesDetection status podList state = true ∧ (passIntent podList state).masterName ≠ "" ∧
        planMasterDeath (failoverMasterPodView podList (passIntent podList state))
          (sighting podList state).reachable
          (replicaLinks state (passIntent podList state).masterIP) status.masterDownSince now
          inst.downAfter = action := by
  unfold concludedDeath masterDeath
  cases reachesDetection status podList state with
  | false => simp
  | true =>
    by_cases hmaster : (passIntent podList state).masterName = ""
    · simp [hmaster]
    · simp [hmaster, sighting]

variable {pod : MasterPodView} {reachable : Bool} {links : List String} {since : Option ℤ} {downAfter : ℤ}

/-- A window starts with an unreachable master. -/
theorem planMasterDeath_startWindow
    (h : planMasterDeath pod reachable links since now downAfter = .startWindow) :
    reachable = false ∧ since = none := by
  unfold planMasterDeath at h
  split at h
  · cases h
  split at h
  · cases h
  rename_i hreachable
  split at h
  · exact ⟨by simpa using hreachable, rfl⟩
  split at h
  · cases h
  split at h
  · cases h
  · cases h

/-- The probe declares a ready master dead after the window. -/
theorem planMasterDeath_declareProbe
    (h : planMasterDeath pod reachable links since now downAfter = .declareProbe) :
    (pod.present && pod.ready && !pod.terminating) = true ∧ reachable = false ∧
      ∃ t, since = some t ∧ ¬ now - t < downAfter := by
  unfold planMasterDeath at h
  split at h
  · cases h
  rename_i hpod
  split at h
  · cases h
  rename_i hreachable
  refine ⟨by simpa [and_assoc] using hpod, by simpa using hreachable, ?_⟩
  split at h
  · cases h
  rename_i t
  split at h
  · cases h
  · exact ⟨t, rfl, by assumption⟩

/-- A master found alive clears the marker. -/
theorem concludedDeath_of_findsAlive (h : findsAlive status podList state = true) :
    concludedDeath inst status podList state now = some .clearMarker := by
  simp only [findsAlive, kubeletAlive, Bool.and_eq_true, bne_iff_ne, Bool.not_eq_true'] at h
  obtain ⟨⟨⟨hreaches, hmaster⟩, ⟨hpresent, hready⟩, hterminating⟩, hreachable⟩ := h
  refine concludedDeath_eq_some.mpr ⟨hreaches, hmaster, ?_⟩
  simp [planMasterDeath, hpresent, hready, hterminating, hreachable]

/-- An election is a transition, and no death by the probe. -/
theorem transition_of_elects (h : elects inst status podList state now = true) :
    (reconcileFailoverAssignments inst status podList state now).transition.isSome = true ∧
      concludedDeath inst status podList state now ≠ some .declareProbe := by
  simp only [elects, Bool.and_eq_true, Bool.or_eq_true, beq_iff_eq, Bool.not_eq_true'] at h
  obtain ⟨⟨hreaches, hdead⟩, hassigns⟩ := h
  rw [reconcile_transition, hassigns]
  by_cases hmaster : (passIntent podList state).masterName = ""
  · refine ⟨by simp [decidesMaster, hreaches, hmaster], fun hprobe => ?_⟩
    exact (concludedDeath_eq_some.mp hprobe).2.1 hmaster
  · have hkubelet := hdead.resolve_left hmaster
    have hdeath : concludedDeath inst status podList state now = some .declareK8s := by
      refine concludedDeath_eq_some.mpr ⟨hreaches, hmaster, ?_⟩
      unfold kubeletAlive at hkubelet
      unfold planMasterDeath
      rw [if_pos]
      simpa [imp_iff_not_or, or_assoc] using hkubelet
    exact ⟨by simp [decidesMaster, hreaches, hdeath], by simp [hdeath]⟩

end Detection

/-- Since the given time, every pass found the same master as the last one, and unreachable. -/
def Sustained (since : ℤ) (log : List (ℤ × MasterSighting)) : Prop :=
  ∃ o earlier, log = o :: earlier ∧ o.2.reachable = false ∧ ∀ p ∈ log, since ≤ p.1 → p.2 = o.2

/-- What holds along every run whose steps are watched. -/
structure Watching (inst : Instance) (t : TimedState) : Prop where
  clock : ∀ o ∈ t.log, o.1 ≤ t.time
  sustained : ∀ since, t.core.status.masterDownSince = some since → t.breaks = false →
    Sustained since t.log
  deaths : ProbeDeathsSustained inst t

variable {since now : ℤ} {log : List (ℤ × MasterSighting)}

/-- A further observation of the same kind. -/
theorem Sustained.cons (h : Sustained since log) {o : ℤ × MasterSighting}
    (hcontinues : continues (o :: log) = true) :
    Sustained since (o :: log) := by
  obtain ⟨last, earlier, rfl, -, hsame⟩ := h
  simp only [continues, Bool.and_eq_true, beq_iff_eq, Bool.not_eq_true'] at hcontinues
  refine ⟨o, last :: earlier, rfl, hcontinues.2, fun p hp hsince => ?_⟩
  rcases mem_cons.mp hp with rfl | hearlier
  · rfl
  · rw [hcontinues.1]
    exact hsame p hearlier hsince

/-- One observation is sustained. -/
theorem sustained_now {time : ℤ} (hclock : ∀ o ∈ log, o.1 ≤ time) (hnow : time < now) {seen : MasterSighting}
    (hseen : seen.reachable = false) : Sustained now ((now, seen) :: log) := by
  refine ⟨(now, seen), log, rfl, hseen, fun p hp hsince => ?_⟩
  rcases mem_cons.mp hp with rfl | hearlier
  · rfl
  · have hle := hclock p hearlier
    omega

/-- The marker was there before, or the window starts now. -/
theorem masterDownSince_of_marked {status : FailoverStatus} {marked : Bool} {death : Option MasterDeathAction}
    (h : (if marked then status.mark now (markerChange death) else status).masterDownSince = some since) :
    (status.masterDownSince = some since ∧ ¬ (marked = true ∧ death = some .clearMarker)) ∨
      (death = some .startWindow ∧ now = since) := by
  cases marked with
  | false => exact .inl ⟨h, by simp⟩
  | true =>
    rw [if_pos rfl] at h
    unfold markerChange at h
    split at h
    · cases h
    · cases hbefore : status.masterDownSince with
      | none =>
        simp only [FailoverStatus.mark, hbefore, Option.getD_none, Option.some.injEq] at h
        exact .inr ⟨rfl, h⟩
      | some t =>
        simp only [FailoverStatus.mark, hbefore, Option.getD_some] at h
        exact .inl ⟨h, by simp⟩
    · rename_i hclear _
      exact .inl ⟨h, fun hcleared => hclear hcleared.2⟩

namespace Watching

variable {inst : Instance} {time : StoredTime} {t : TimedState}

variable (h : Watching inst t)
include h

/-- A step without a pass. -/
theorem keep {t' : TimedState} (hlog : t'.log = t.log) (hdeaths : t'.probeDeaths = t.probeDeaths)
    (htime : t.time ≤ t'.time)
    (hdown : ∀ since, t'.core.status.masterDownSince = some since → t'.breaks = false →
      t.core.status.masterDownSince = some since ∧ t.breaks = false) :
    Watching inst t' := by
  refine ⟨fun o ho => ?_, fun since hsince hbreaks => ?_, ?_⟩
  · rw [hlog] at ho
    exact Int.le_trans (h.clock o ho) htime
  · obtain ⟨hbefore, hunbroken⟩ := hdown since hsince hbreaks
    rw [hlog]
    exact h.sustained since hbefore hunbroken
  · unfold ProbeDeathsSustained
    rw [hdeaths]
    exact h.deaths

/-- A step that writes an assignment. -/
theorem proceed {core : State} (elections : List (ℤ × String))
    (hdown : core.status.masterDownSince = t.core.status.masterDownSince)
    (hphase : core.phase.electing = t.core.phase.electing) :
    Watching inst { t with core := core, elections := elections } := by
  refine h.keep rfl rfl (Int.le_refl _) fun since hsince hbreaks => ⟨hdown ▸ hsince, ?_⟩
  rw [← hbreaks, TimedState.breaks, TimedState.breaks, hdown, hphase]

variable {cached : FailoverStatus} {podList : List PodObject} {gathered : ReplicationState} {now : ℤ}
  {marked : Bool}

/-- A death that the probe declares is justified. -/
theorem justified (hidle : t.core.phase = .idle)
    (hwatched : Watched inst time t (.assign cached podList gathered now marked))
    (hdeath : concludedDeath inst cached podList gathered now = some .declareProbe) :
    ProbeDeath.Justified inst ⟨(sighting podList gathered).masterName,
      (sighting podList gathered).masterIP, now, (now, sighting podList gathered) :: t.log⟩ := by
  obtain ⟨hcached, hrounds, hseries⟩ := hwatched
  obtain ⟨-, hreachable, stored, hstored, hover⟩ :=
    planMasterDeath_declareProbe (concludedDeath_eq_some.mp hdeath).2.2
  rw [hcached] at hstored
  obtain ⟨since, hsince, rfl⟩ := Option.map_eq_some_iff.mp hstored
  have hbreaks : t.breaks = false := by simp [TimedState.breaks, hidle, Phase.electing]
  have hcontinues : continues ((now, sighting podList gathered) :: t.log) = true := by
    rcases hseries (by rw [hsince]; rfl) with hcontinues | ⟨halive, -⟩ | helects
    · exact hcontinues
    · rw [concludedDeath_of_findsAlive halive] at hdeath
      cases hdeath
    · exact absurd hdeath (transition_of_elects helects).2
  obtain ⟨o, earlier, hlog, -, hsame⟩ := (h.sustained since hsince hbreaks).cons hcontinues
  obtain ⟨rfl, rfl⟩ := List.cons.inj hlog
  rw [TimedState.roundsDown, hsince, beq_iff_eq, decide_eq_decide] at hrounds
  intro p hp hwindow
  dsimp only at hwindow
  rw [hsame p hp (by omega), ← hreachable]

/-- A pass keeps the marker's claim. -/
theorem sustained_assign (hidle : t.core.phase = .idle)
    (hwatched : Watched inst time t (.assign cached podList gathered now marked)) (hnow : t.time < now)
    (hsince : (if marked then t.core.status.mark now (markerChange (concludedDeath inst cached podList
      gathered now)) else t.core.status).masterDownSince = some since)
    (hunbroken : (reconcileFailoverAssignments inst cached podList gathered now).transition.isSome =
      true → continues ((now, sighting podList gathered) :: t.log) = true) :
    Sustained since ((now, sighting podList gathered) :: t.log) := by
  have hbreaks : t.breaks = false := by simp [TimedState.breaks, hidle, Phase.electing]
  rcases masterDownSince_of_marked hsince with ⟨hbefore, hkept⟩ | ⟨hdeath, rfl⟩
  · have hcontinues : continues ((now, sighting podList gathered) :: t.log) = true := by
      rcases hwatched.2.2 (by rw [hbefore]; rfl) with hcontinues | ⟨halive, hmarked⟩ | helects
      · exact hcontinues
      · exact absurd ⟨hmarked, concludedDeath_of_findsAlive halive⟩ hkept
      · exact hunbroken (transition_of_elects helects).1
    exact (h.sustained since hbefore hbreaks).cons hcontinues
  · have hplan := (concludedDeath_eq_some.mp hdeath).2.2
    exact sustained_now h.clock hnow (planMasterDeath_startWindow hplan).1

/-- A pass begins. -/
theorem assign (hidle : t.core.phase = .idle)
    (hwatched : Watched inst time t (.assign cached podList gathered now marked))
    (hnow : t.time < now) {pass : EnginePass}
    (hpass : reconcileFailoverAssignments inst cached podList gathered now = pass) :
    Watching inst { t with
      core := { t.core with
        status := if marked then t.core.status.mark now pass.downMarker else t.core.status
        phase := .stamping ⟨pass.stamps, none, false, pass.transition, false⟩ }
      time := now
      log := (now, sighting podList gathered) :: t.log
      probeDeaths :=
        if concludedDeath inst cached podList gathered now = some .declareProbe then
          ⟨(sighting podList gathered).masterName, (sighting podList gathered).masterIP, now,
            (now, sighting podList gathered) :: t.log⟩ :: t.probeDeaths
        else t.probeDeaths } := by
  refine ⟨?_, ?_, ?_⟩
  · refine forall_mem_cons.mpr ⟨Int.le_refl _, fun o ho => ?_⟩
    exact Int.le_trans (h.clock o ho) (Int.le_of_lt hnow)
  · subst hpass
    intro since hsince hbreaks
    dsimp only at hsince
    have hset := hsince
    rw [reconcile_downMarker] at hsince
    refine h.sustained_assign hidle hwatched hnow hsince fun htransition => ?_
    simpa [TimedState.breaks, Phase.electing, hset, htransition] using hbreaks
  · unfold ProbeDeathsSustained
    dsimp only
    split
    · rename_i hdeath
      exact forall_mem_cons.mpr ⟨h.justified hidle hwatched hdeath, h.deaths⟩
    · exact h.deaths

/-- A pass ends. -/
theorem finish {cleared failed bootstrap : Bool} {transition : Option ℤ}
    (hphase : t.core.phase = .stamping ⟨[], none, failed, transition, bootstrap⟩)
    (hwatched : Watched inst time t (.finish now marked cleared)) (hnow : t.time ≤ now)
    (unrecorded : List ℤ) :
    Watching inst { t with
      core := { t.core with
        phase := .idle
        status := if transition.isSome && !failed && marked then
            t.core.status.recordTransition now bootstrap cleared
          else t.core.status }
      time := now
      unrecorded := unrecorded } := by
  refine h.keep rfl rfl hnow fun since hsince _ => ?_
  split at hsince
  · cases hsince
  rename_i hkept
  refine ⟨hsince, ?_⟩
  cases hbreaks : t.breaks with
  | false => rfl
  | true =>
    have hrecorded := hwatched hbreaks
    simp only [TimedState.breaks, hphase, Phase.electing, Bool.and_eq_true] at hbreaks
    rw [hphase] at hrecorded
    have hfailed : failed = false := hrecorded.1
    simp [hbreaks.1.2.1, hfailed, hrecorded.2] at hkept

end Watching

/-- Every step keeps the invariant. -/
theorem watching_step {inst : Instance} {time : StoredTime} {t t' : TimedState} {a : Label}
    (h : Watching inst t) (hwatched : Watched inst time t a)
    (hstep : (timedSystem inst).step t a = some t') : Watching inst t' := by
  obtain ⟨core, hcore, hadvance⟩ := Option.bind_eq_some_iff.mp hstep
  cases passEffect_of_step hcore with
  | aside haside hphase hdown _ =>
    rw [t.advance_aside inst core haside] at hadvance
    cases hadvance
    exact h.proceed t.elections hdown (by rw [hphase])
  | bootstrap hidle =>
    cases hadvance
    exact h.proceed t.elections rfl (by simp [hidle, Phase.electing])
  | assign hidle hpass =>
    obtain ⟨hnow, rfl⟩ := of_ite_some hadvance
    exact h.assign hidle hwatched hnow hpass
  | get hphase htransition hbootstrap _ =>
    cases hadvance
    exact h.proceed t.elections rfl (by simp [hphase, Phase.electing, htransition, hbootstrap])
  | patch hphase hphase' hstatus htransition hbootstrap _ _ =>
    cases hadvance
    exact h.proceed _ (by rw [hstatus])
      (by simp [hphase, hphase', Phase.electing, htransition, hbootstrap])
  | finish hphase =>
    obtain ⟨hnow, rfl⟩ := of_ite_some hadvance
    exact h.finish hphase hwatched hnow _
  | abort =>
    cases hadvance
    exact h.keep rfl rfl (Int.le_refl _) fun since hsince _ => ⟨hsince, hwatched⟩

/-- If steps are watched, a master declared dead by the probe was unreachable for the whole window. -/
theorem probeDeathsSustained_of_watched (inst : Instance) (time : StoredTime) {t : TimedState}
    (h : (timedSystem inst).Reachable (Watched inst time) t) : ProbeDeathsSustained inst t := by
  refine (h.invariant (Watching inst) ?_ fun _ _ _ hinv hwatched hstep =>
    watching_step hinv hwatched hstep).deaths
  rintro t ⟨hcore, hlog, hdeaths, -⟩
  have hnew : t.core.status.masterDownSince = none := by rw [hcore]
  exact ⟨by simp [hlog], by simp [hnew], by simp [ProbeDeathsSustained, hdeaths]⟩

/-- The pair after its bootstrap, with a ready master. -/
def readyPair : List (TimedState → Label) :=
  inTime (bootstrappedPair true ++ [fun _ => .report "lr-redis-0" true false])

def silencedPair : TimedState :=
  ((timedSystem pairInstance).driveIf (Watched pairInstance secondsKept) newTimed
    (readyPair ++ idlePass 20000 masterSilent ++ idlePass 23000 masterSilent ++
      [assignAt 26000 masterSilent])).get (by decide)

/-- It is declared dead, as it should be. -/
theorem silencedPair_declared :
    ProbeDeathsSustained pairInstance silencedPair ∧
      silencedPair.probeDeaths.map ProbeDeath.masterName = ["lr-redis-0"] :=
  ⟨probeDeathsSustained_of_watched pairInstance secondsKept
    (.of_moves (newTimed_initial pairInstance) (by decide)), by decide⟩

/-- The master is silent, answers while not ready, and is silent again. -/
def flappingPair : TimedState :=
  ((timedSystem pairInstance).driveIf System.anyStep newTimed
    (readyPair ++ idlePass 20000 masterSilent ++
      inTime [fun _ => .report "lr-redis-0" false false] ++ idlePass 22000 masterAnswers ++
      idlePass 29000 masterAnswers ++ inTime [fun _ => .report "lr-redis-0" true false] ++
      [assignAt 30000 masterSilent])).get (by decide)

/-- It is declared dead although it had answered a second before. -/
theorem flappingPair_declared :
    (timedSystem pairInstance).Reachable System.anyStep flappingPair ∧
      ¬ ProbeDeathsSustained pairInstance flappingPair := by
  refine ⟨.of_moves (newTimed_initial pairInstance) (by decide), fun h => ?_⟩
  unfold ProbeDeathsSustained ProbeDeath.Justified at h
  exact absurd h (by decide)

end LittleRed.Failover
