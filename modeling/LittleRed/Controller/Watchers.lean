import LittleRed.Lib.TransitionSystem
import Mathlib.Data.List.Nodup
import Mathlib.Logic.Function.Basic

/-!
# The watchers that passes leave behind

In sentinel and in failover mode a pass leaves a goroutine behind that watches the master. The reconciler
keeps the function that cancels it in a map of its kind, and the goroutine ends some time after that. A pass
reads its instance from a cache that lags behind the API server but never goes back, writes to the object
that it read only if no newer version exists, and is alone with its instance.
-/

namespace LittleRed.Controller

open Lib List Function

/-- The modes of an instance. -/
inductive Mode where
  | standalone
  | sentinel
  | cluster
  | failover
  | unknown (name : String)
  deriving DecidableEq

/-- The kinds of watchers, each of which has a map of its own. -/
inductive Kind where
  | sentinel
  | failover
  deriving DecidableEq

/-- The watcher of a mode. -/
def Mode.kind : Mode → Option Kind
  | .sentinel => some .sentinel
  | .failover => some .failover
  | _ => none

/-- What a pass reads: `supported` is the verdict of `Validate`, `uninitialized` that neither phase nor
bootstrap flag is set. -/
structure Instance where
  mode : Mode
  supported : Bool
  deleting : Bool
  finalizer : Bool
  uninitialized : Bool
  monitoringDisabled : Bool
  deriving DecidableEq

/-- The versions of an object that the cache may still serve: the one that it has, and newer ones. -/
structure Versions where
  cached : Option Instance
  newer : List (Option Instance)

namespace Versions

def current (v : Versions) : Option Instance := (v.cached :: v.newer).getLast (cons_ne_nil _ _)

/-- The cache moves on by so many versions. -/
def sync (v : Versions) (n : ℕ) : Versions :=
  match (v.cached :: v.newer).drop n with
  | [] => v
  | cached :: newer => ⟨cached, newer⟩

def publish (v : Versions) (object : Option Instance) : Versions :=
  { v with newer := v.newer ++ [object] }

/-- The API server takes the finalizer away; the object stays if it has other finalizers. -/
def release (v : Versions) (othersLeft : Bool) (lr : Instance) : Versions :=
  v.publish (if othersLeft then some { lr with finalizer := false } else none)

end Versions

/-- A goroutine that watches the master of an instance. -/
structure Watcher (Key : Type*) where
  id : ℕ
  slot : Kind × Key
  cancelled : Bool

/-- The maps from instances to the contexts that their watchers run under, and the goroutines. -/
structure Registry (Key : Type*) where
  monitors : Kind × Key → Option ℕ
  watchers : List (Watcher Key)
  started : ℕ

/-- How the removal of the finalizer ends; a lost reply reports a failure after it took effect. -/
inductive Removal where
  | done
  | failed
  | lost
  deriving DecidableEq

/-- How the calls of a pass end, and how far the cache moves on before the instance is read again. -/
structure Calls where
  removal : Removal
  othersLeft : Bool
  finalizerAdded : Bool
  specValid : Bool
  initialized : Bool
  refetched : ℕ
  reachesMonitor : Bool
  reread : ℕ

variable {Key : Type*} [DecidableEq Key]

/-- Cancel the watcher with the number. -/
def Watcher.cancel (id : ℕ) (w : Watcher Key) : Watcher Key :=
  if w.id = id then { w with cancelled := true } else w

namespace Registry

/-- Cancel the watcher that is registered, and forget it. -/
def stopMonitor (r : Registry Key) (slot : Kind × Key) : Registry Key :=
  match r.monitors slot with
  | none => r
  | some id =>
    { r with monitors := update r.monitors slot none, watchers := r.watchers.map (·.cancel id) }

/-- Start a watcher if none is registered, or stop it if the annotation asks for that. -/
def ensureMonitor (r : Registry Key) (slot : Kind × Key) (lr : Instance) : Registry Key :=
  if lr.monitoringDisabled then r.stopMonitor slot
  else
    match r.monitors slot with
    | some _ => r
    | none =>
      { monitors := update r.monitors slot (some r.started)
        watchers := ⟨r.started, slot, false⟩ :: r.watchers
        started := r.started + 1 }

/-- Stop the watchers of the modes that the instance is not in. -/
def stopOthers (r : Registry Key) (mode : Mode) (key : Key) : Registry Key :=
  let r := if mode ≠ .sentinel then r.stopMonitor (.sentinel, key) else r
  if mode ≠ .failover then r.stopMonitor (.failover, key) else r

/-- The watchers of a kind and an instance that have not been cancelled. -/
def live (r : Registry Key) (slot : Kind × Key) : List ℕ :=
  (r.watchers.filter fun w => w.slot = slot ∧ w.cancelled = false).map (·.id)

end Registry

/-- Take the finalizer away and then stop the watchers. -/
def reconcileDelete (calls : Calls) (key : Key) (lr : Instance) (v : Versions) (r : Registry Key) :
    Versions × Registry Key :=
  if v.newer ≠ [] then (v, r)
  else
    match calls.removal with
    | .failed => (v, r)
    | .lost => (v.release calls.othersLeft lr, r)
    | .done =>
      (v.release calls.othersLeft lr, (r.stopMonitor (.sentinel, key)).stopMonitor (.failover, key))

/-- Reconcile in the mode that was read; the watcher is ensured at the end. -/
def reconcileMode (calls : Calls) (key : Key) (v : Versions) (r : Registry Key) :
    Versions × Registry Key :=
  match v.cached.bind (·.mode.kind) with
  | none => (v, r)
  | some kind =>
    if calls.reachesMonitor then
      match (v.sync calls.reread).cached with
      | none => (v.sync calls.reread, r)
      | some lr => (v.sync calls.reread, r.ensureMonitor (kind, key) lr)
    else (v, r)

/-- A pass over an instance. A new instance is read again once its bootstrap flag is set. -/
def reconcile (calls : Calls) (key : Key) (v : Versions) (r : Registry Key) :
    Versions × Registry Key :=
  match v.cached with
  | none => (v, r)
  | some lr =>
    if lr.supported = false then (v, r)
    else if lr.deleting then reconcileDelete calls key lr v r
    else if lr.finalizer = false then
      if v.newer = [] ∧ calls.finalizerAdded then (v.publish (some { lr with finalizer := true }), r)
      else (v, r)
    else if calls.specValid = false then (v, r)
    else if lr.mode.kind.isSome ∧ lr.uninitialized then
      if calls.initialized then
        reconcileMode calls key (v.sync calls.refetched) (r.stopOthers lr.mode key)
      else (v, r.stopOthers lr.mode key)
    else reconcileMode calls key v (r.stopOthers lr.mode key)

/-- The objects and what the operator's process holds. -/
structure State (Key : Type*) where
  objects : Key → Versions
  registry : Registry Key

/-- The steps of the system. -/
inductive Label (Key : Type*) where
  | change (key : Key) (object : Option Instance)
  | sync (key : Key) (n : ℕ)
  | pass (key : Key) (calls : Calls)
  | exit (id : ℕ)
  | restart

def Registry.empty : Registry Key := ⟨fun _ => none, [], 0⟩

/-- Objects change, the cache follows, passes run, watchers end, and the operator may restart. -/
def State.next (s : State Key) : Label Key → State Key
  | .change key object =>
    { s with objects := update s.objects key ((s.objects key).publish object) }
  | .sync key n => { s with objects := update s.objects key ((s.objects key).sync n) }
  | .pass key calls =>
    let (v, r) := reconcile calls key (s.objects key) s.registry
    ⟨update s.objects key v, r⟩
  | .exit id =>
    { s with registry.watchers := s.registry.watchers.filter fun w => ¬(w.id = id ∧ w.cancelled) }
  | .restart => ⟨fun key => ⟨(s.objects key).current, []⟩, Registry.empty⟩

def State.start : State Key := ⟨fun _ => ⟨none, []⟩, Registry.empty⟩

/-- The system of all this. -/
def watcherSystem (Key : Type*) [DecidableEq Key] : System (State Key) (Label Key) where
  initial s := s = .start
  step s a := some (s.next a)

/-- Only the operator takes its finalizer away. -/
def follows : Option Instance → Option Instance → Bool
  | none, _ => true
  | some lr, none => !lr.finalizer
  | some lr, some lr' => lr'.finalizer == lr.finalizer

/-- The finalizer is left to the operator, and no reply to its removal is lost. -/
def Orderly (s : State Key) : Label Key → Prop
  | .change key object => follows (s.objects key).current object = true
  | .pass _ calls => calls.removal ≠ .lost
  | _ => True

instance : (s : State Key) → (a : Label Key) → Decidable (Orderly s a)
  | s, .change key object => inferInstanceAs (Decidable (follows (s.objects key).current object = true))
  | _, .pass _ calls => inferInstanceAs (Decidable (calls.removal ≠ .lost))
  | _, .sync _ _ | _, .exit _ | _, .restart => .isTrue trivial

namespace Registry

/-- The registered contexts are those of the watchers that have not been cancelled. -/
structure Sound (r : Registry Key) : Prop where
  registered : ∀ w : Watcher Key, w.cancelled = false → (w ∈ r.watchers ↔ r.monitors w.slot = some w.id)
  below : ∀ w ∈ r.watchers, w.id < r.started
  distinct : (r.watchers.map (·.id)).Nodup

variable {r : Registry Key}

/-- Cancelling a watcher removes its entry. -/
theorem Sound.stopMonitor (h : r.Sound) (slot : Kind × Key) : (r.stopMonitor slot).Sound := by
  unfold Registry.stopMonitor
  split
  · exact h
  next id hid =>
    have hids : (r.watchers.map (·.cancel id)).map (·.id) = r.watchers.map (·.id) := by
      rw [map_map]
      refine map_congr_left fun w _ => ?_
      rw [comp_apply, Watcher.cancel, apply_ite Watcher.id, ite_self]
    refine ⟨fun w hlive => ?_, fun w hw => ?_, hids ▸ h.distinct⟩
    · have hmem : w ∈ r.watchers.map (·.cancel id) ↔ w ∈ r.watchers ∧ w.id ≠ id := by
        grind [Watcher.cancel]
      simp only [hmem, h.registered w hlive, update_apply]
      split
      · grind
      next hother =>
        refine and_iff_left_of_imp fun hw heq => hother ?_
        -- A context belongs to one watcher.
        rw [inj_on_of_nodup_map h.distinct ((h.registered w hlive).mpr hw)
          ((h.registered ⟨id, slot, false⟩ rfl).mpr hid) heq]
    · obtain ⟨w', hw', hid'⟩ := mem_map.mp (hids ▸ mem_map_of_mem hw : w.id ∈ r.watchers.map (·.id))
      exact hid' ▸ h.below w' hw'

/-- A new watcher is registered. -/
theorem Sound.ensureMonitor (h : r.Sound) (slot : Kind × Key) (lr : Instance) :
    (r.ensureMonitor slot lr).Sound := by
  unfold Registry.ensureMonitor
  split
  · exact h.stopMonitor slot
  split
  · exact h
  next hnone =>
    have hfresh : ∀ w ∈ r.watchers, w.id ≠ r.started := fun w hw => Nat.ne_of_lt (h.below w hw)
    refine ⟨fun w hlive => ?_, fun w hw => ?_, ?_⟩
    · have hregistered := h.registered w hlive
      obtain ⟨id, slot', cancelled⟩ := w
      grind
    · rcases mem_cons.mp hw with rfl | hw
      · exact Nat.lt_succ_self _
      · exact Nat.lt_succ_of_lt (h.below w hw)
    · exact nodup_cons.mpr ⟨by simpa using hfresh, h.distinct⟩

/-- The watchers not cancelled are the registered ones. -/
theorem Sound.live_eq (h : r.Sound) (slot : Kind × Key) : r.live slot = (r.monitors slot).toList := by
  have hnodup : (r.live slot).Nodup := h.distinct.sublist (filter_sublist.map _)
  have hmem (id : ℕ) : id ∈ r.live slot ↔ r.monitors slot = some id := by
    rw [← h.registered ⟨id, slot, false⟩ rfl]
    simp only [live, mem_map, mem_filter, decide_eq_true_eq]
    constructor
    · rintro ⟨⟨_, _, _⟩, ⟨hw, rfl, rfl⟩, rfl⟩
      exact hw
    · intro hw
      exact ⟨_, ⟨hw, rfl, rfl⟩, rfl⟩
  cases hmonitor : r.monitors slot with
  | none => exact eq_nil_iff_forall_not_mem.mpr fun id hid => by simp [hmem, hmonitor] at hid
  | some id =>
    refine perm_singleton.mp ((perm_ext_iff_of_nodup hnodup (nodup_singleton id)).mpr ?_)
    intro id'
    rw [hmem, hmonitor, mem_singleton, Option.some.injEq, eq_comm]

end Registry

variable {calls : Calls} {kind : Kind} {key : Key} {v : Versions} {r r' : Registry Key}

theorem Registry.stopMonitor_monitors (r : Registry Key) (slot : Kind × Key) :
    (r.stopMonitor slot).monitors = update r.monitors slot none := by
  unfold stopMonitor
  split
  · next hnone => rw [← hnone, update_eq_self]
  · rfl

/-- What passes over an instance can do to the watchers. -/
inductive Acts (key : Key) (r : Registry Key) : Registry Key → Prop
  | refl : Acts key r r
  | stop {r' : Registry Key} (h : Acts key r r') (kind : Kind) : Acts key r (r'.stopMonitor (kind, key))
  | ensure {r' : Registry Key} (h : Acts key r r') (kind : Kind) (lr : Instance) :
      Acts key r (r'.ensureMonitor (kind, key) lr)

theorem Acts.sound (hacts : Acts key r r') (h : r.Sound) : r'.Sound := by
  induction hacts with
  | refl => exact h
  | stop _ kind ih => exact ih.stopMonitor (kind, key)
  | ensure _ kind lr ih => exact ih.ensureMonitor (kind, key) lr

theorem Acts.frame {key' : Key} (hacts : Acts key r r') (hkey : key' ≠ key) (kind : Kind) :
    r'.monitors (kind, key') = r.monitors (kind, key') := by
  have hslot (kind' : Kind) : (kind, key') ≠ (kind', key) := fun heq => hkey (Prod.mk.inj heq).2
  induction hacts with
  | refl => rfl
  | stop _ kind' ih => rw [Registry.stopMonitor_monitors, update_of_ne (hslot kind'), ih]
  | ensure _ kind' lr ih =>
    unfold Registry.ensureMonitor
    split
    · rw [Registry.stopMonitor_monitors, update_of_ne (hslot kind'), ih]
    split
    · exact ih
    · exact (update_of_ne (hslot kind') _ _).trans ih

theorem stopOthers_acts (mode : Mode) : Acts key r (r.stopOthers mode key) := by
  unfold Registry.stopOthers
  split <;> split
  · exact (Acts.refl.stop _).stop _
  · exact Acts.refl.stop _
  · exact Acts.refl.stop _
  · exact .refl

theorem reconcileMode_acts (h : Acts key r r') : Acts key r (reconcileMode calls key v r').2 := by
  unfold reconcileMode
  split
  · exact h
  split
  · split
    · exact h
    · exact h.ensure _ _
  · exact h

theorem reconcile_acts : Acts key r (reconcile calls key v r).2 := by
  unfold reconcile reconcileDelete
  repeat' split
  all_goals first
    | exact .refl
    | exact (Acts.refl.stop _).stop _
    | exact stopOthers_acts _
    | exact reconcileMode_acts (stopOthers_acts _)

omit [DecidableEq Key] in
theorem Registry.sound_empty : (Registry.empty : Registry Key).Sound :=
  ⟨fun _ _ => by simp [Registry.empty], by simp [Registry.empty], nodup_nil⟩

/-- Every step keeps it sound. -/
theorem Registry.Sound.next {s : State Key} (h : s.registry.Sound) (a : Label Key) :
    (s.next a).registry.Sound := by
  cases a with
  | change | sync => exact h
  | pass key calls => exact reconcile_acts.sound h
  | exit id =>
    refine ⟨fun w hlive => ?_, fun w hw => h.below w (mem_of_mem_filter hw), ?_⟩
    · simp [State.next, ← h.registered w hlive, hlive]
    · exact h.distinct.sublist (filter_sublist.map _)
  | restart => exact Registry.sound_empty

theorem sound_of_run {s : State Key} (h : (watcherSystem Key).Reachable System.anyStep s) :
    s.registry.Sound :=
  h.invariant (fun s => s.registry.Sound) (fun _ hs => hs ▸ Registry.sound_empty)
    fun _ a _ hs _ hstep => Option.some.inj hstep ▸ hs.next a

namespace Versions

def Finalized (v : Versions) : Prop := ∃ lr, v.current = some lr ∧ lr.finalizer = true

/-- As long as the cache may serve a version that a pass acts upon, the object is there. -/
def Kept (v : Versions) : Prop :=
  ∀ lr, some lr ∈ v.cached :: v.newer → lr.finalizer = true → lr.deleting = false → v.Finalized

/-- The cache moves forward among the versions. -/
theorem sync_spec (v : Versions) (n : ℕ) :
    (v.sync n).current = v.current ∧
      ∀ object ∈ (v.sync n).cached :: (v.sync n).newer, object ∈ v.cached :: v.newer := by
  unfold sync
  split
  · exact ⟨rfl, fun _ => id⟩
  next cached newer hdrop =>
    refine ⟨?_, fun object hobject => mem_of_mem_drop (hdrop ▸ hobject)⟩
    simp only [current, ← hdrop]
    exact getLast_drop _

variable {v : Versions} {object : Option Instance}

theorem sync_of_newer_nil (h : v.newer = []) (n : ℕ) : v.sync n = v := by
  obtain ⟨cached, newer⟩ := v
  subst h
  cases n <;> simp [sync]

theorem current_publish (v : Versions) (object : Option Instance) :
    (v.publish object).current = object := by
  simp [current, publish, getLast_cons]

theorem Finalized.sync (h : v.Finalized) (n : ℕ) : (v.sync n).Finalized := by
  rwa [Finalized, (v.sync_spec n).1]

theorem Kept.sync (h : v.Kept) (n : ℕ) : (v.sync n).Kept := fun lr hlr hfinalizer hlive =>
  (h lr ((v.sync_spec n).2 _ hlr) hfinalizer hlive).sync n

/-- Others leave the finalizer. -/
theorem Finalized.publish (h : v.Finalized)
    (hfollows : follows v.current object = true) : (v.publish object).Finalized := by
  obtain ⟨lr, hcurrent, hfinalizer⟩ := h
  rw [hcurrent] at hfollows
  cases object with
  | none => simp [follows, hfinalizer] at hfollows
  | some lr' => exact ⟨lr', current_publish _ _, (eq_of_beq hfollows).trans hfinalizer⟩

/-- So an instance that was served as live has it. -/
theorem Kept.publish (h : v.Kept) (hfollows : follows v.current object = true) : (v.publish object).Kept := by
  intro lr hlr hfinalizer hlive
  rcases mem_append.mp (show some lr ∈ (v.cached :: v.newer) ++ [object] from hlr) with hold | hnew
  · exact (h lr hold hfinalizer hlive).publish hfollows
  · exact ⟨lr, (current_publish _ _).trans (mem_singleton.mp hnew).symm, hfinalizer⟩

end Versions

/-- An instance with a watcher is there, and so is one that a pass may find in the cache. -/
def Held (v : Versions) (r : Registry Key) (key : Key) : Prop :=
  v.Kept ∧ ∀ kind, r.monitors (kind, key) ≠ none → v.Finalized

/-- Only the watcher of the mode is left. -/
theorem Registry.stopOthers_monitors (r : Registry Key) (mode : Mode) (key : Key) (kind : Kind) :
    (r.stopOthers mode key).monitors (kind, key) =
      if mode.kind = some kind then r.monitors (kind, key) else none := by
  cases mode <;> cases kind <;>
    simp [Registry.stopOthers, Registry.stopMonitor_monitors, Mode.kind]

variable {lr : Instance} {s : State Key}

/-- Deletion cancels the watchers before the finalizer goes. -/
theorem reconcileDelete_held (hremoval : calls.removal ≠ .lost) (hcached : v.cached = some lr)
    (hdeleting : lr.deleting = true) (h : Held v r key) :
    Held (reconcileDelete calls key lr v r).1 (reconcileDelete calls key lr v r).2 key := by
  unfold reconcileDelete
  split
  · exact h
  next hnewer =>
    split
    · exact h
    · next hlost => exact absurd hlost hremoval
    refine ⟨fun lr' hlr' hfinalizer hlive => ?_, fun kind hkind => absurd ?_ hkind⟩
    · rw [not_not] at hnewer
      simp only [Versions.release, Versions.publish, hnewer, hcached, nil_append, mem_cons,
        Option.some.injEq, not_mem_nil, or_false] at hlr'
      rcases hlr' with rfl | hreleased
      · simp [hdeleting] at hlive
      · split at hreleased
        · rw [Option.some.inj hreleased] at hfinalizer
          cases hfinalizer
        · cases hreleased
    · cases kind <;> simp [Registry.stopMonitor_monitors]

/-- A pass holds a watcher only for an instance with the finalizer. -/
theorem reconcile_held (hremoval : calls.removal ≠ .lost) (h : Held v r key) :
    Held (reconcile calls key v r).1 (reconcile calls key v r).2 key := by
  have hmode {v : Versions} (hkept : v.Kept) (hfinalized : v.Finalized) (r : Registry Key) :
      Held (reconcileMode calls key v r).1 (reconcileMode calls key v r).2 key := by
    unfold reconcileMode
    split
    · exact ⟨hkept, fun _ _ => hfinalized⟩
    split
    · split
      · exact ⟨hkept.sync _, fun _ _ => hfinalized.sync _⟩
      · exact ⟨hkept.sync _, fun _ _ => hfinalized.sync _⟩
    · exact ⟨hkept, fun _ _ => hfinalized⟩
  unfold reconcile
  split
  · exact h
  next lr hcached =>
    have hserved (hunfinalized : ¬lr.finalizer = false) (hdeleting : ¬lr.deleting = true) : v.Finalized :=
      h.1 lr (hcached ▸ mem_cons_self) (by simpa using hunfinalized) (by simpa using hdeleting)
    split_ifs with hunsupported hdeleting hunfinalized hadded hinvalid hnew hinitialized
    · exact h
    · exact reconcileDelete_held hremoval hcached hdeleting h
    · have hadds : (v.publish (some { lr with finalizer := true })).Finalized :=
        ⟨_, Versions.current_publish _ _, rfl⟩
      exact ⟨fun _ _ _ _ => hadds, fun _ _ => hadds⟩
    · exact h
    · exact h
    · exact hmode (h.1.sync _) ((hserved hunfinalized hdeleting).sync _) _
    · exact ⟨h.1, fun _ _ => hserved hunfinalized hdeleting⟩
    · exact hmode h.1 (hserved hunfinalized hdeleting) _

/-- What every run keeps in which the finalizer is left to the operator. -/
theorem held_of_orderly (h : (watcherSystem Key).Reachable Orderly s) (key : Key) :
    Held (s.objects key) s.registry key := by
  refine h.invariant (fun s => ∀ key, Held (s.objects key) s.registry key) ?_ ?_ key
  · rintro s rfl key
    exact ⟨fun lr hlr => by simp [State.start] at hlr, fun kind hkind => absurd rfl hkind⟩
  · rintro s a _ hheld horderly ⟨⟩ key'
    obtain ⟨hkept, hfinalized⟩ := hheld key'
    have hupdate {key : Key} {v : Versions} (hsame : key' = key → Held v s.registry key') :
        Held (update s.objects key v key') s.registry key' := by
      by_cases hkey : key' = key
      · rw [hkey, update_self, ← hkey]
        exact hsame hkey
      · rw [update_of_ne hkey]
        exact hheld key'
    cases a with
    | change key object =>
      refine hupdate fun hkey => ?_
      subst hkey
      exact ⟨hkept.publish horderly, fun kind hkind => (hfinalized kind hkind).publish horderly⟩
    | sync key n =>
      refine hupdate fun hkey => ?_
      subst hkey
      exact ⟨hkept.sync n, fun kind hkind => (hfinalized kind hkind).sync n⟩
    | pass key calls =>
      by_cases hkey : key' = key
      · subst hkey
        simpa only [State.next, update_self] using reconcile_held horderly (hheld key')
      · simpa only [State.next, Held, update_of_ne hkey, reconcile_acts.frame hkey] using hheld key'
    | exit id => exact hheld key'
    | restart =>
      refine ⟨fun lr hlr hfinalizer _ => ⟨lr, ?_, hfinalizer⟩, fun kind hkind => absurd rfl hkind⟩
      exact (mem_singleton.mp hlr).symm

/-- The instance is one that passes serve, and the calls of a pass get as far as the watcher. -/
def Served (calls : Calls) (lr : Instance) : Prop :=
  (lr.supported = true ∧ lr.deleting = false ∧ lr.finalizer = true) ∧
    calls.specValid = true ∧ calls.initialized = true ∧ calls.reachesMonitor = true

/-- A pass that is served ends with the watcher of the mode. -/
theorem reconcile_of_served (hcached : v.cached = some lr) (hnewer : v.newer = [])
    (h : Served calls lr) : ((reconcile calls key v r).2.monitors (kind, key)).isSome ↔
      lr.mode.kind = some kind ∧ lr.monitoringDisabled = false := by
  obtain ⟨⟨hsupported, hdeleting, hfinalizer⟩, hvalid, hinitialized, hreaches⟩ := h
  have hsync := Versions.sync_of_newer_nil hnewer
  have hothers := r.stopOthers_monitors lr.mode key
  have hpass : reconcile calls key v r = reconcileMode calls key v (r.stopOthers lr.mode key) := by
    simp [reconcile, hcached, hsupported, hdeleting, hfinalizer, hvalid, hinitialized, hsync]
  rw [hpass, reconcileMode, hsync, hcached, Option.bind_some]
  cases hkind : lr.mode.kind with
  | none => simp [hothers, hkind]
  | some served =>
    simp only [hreaches, if_true, Registry.ensureMonitor]
    split
    · rw [Registry.stopMonitor_monitors]
      grind
    · split <;> grind [update_apply]

/-- In every run the live goroutines are the registered ones, at most one of each kind for an instance,
and a served pass leaves exactly that of its mode. -/
theorem watchers_match_mode (h : (watcherSystem Key).Reachable System.anyStep s) (kind : Kind) (key : Key) :
    s.registry.live (kind, key) = (s.registry.monitors (kind, key)).toList ∧
    ∀ calls lr, (s.objects key).cached = some lr → (s.objects key).newer = [] → Served calls lr →
      ((s.next (.pass key calls)).registry.live (kind, key)).length =
        if lr.mode.kind = some kind ∧ lr.monitoringDisabled = false then 1 else 0 := by
  have hsound := sound_of_run h
  refine ⟨hsound.live_eq (kind, key), fun calls lr hcached hnewer hserved => ?_⟩
  rw [(hsound.next (.pass key calls)).live_eq (kind, key), Option.length_toList]
  exact if_congr (reconcile_of_served hcached hnewer hserved) rfl rfl

/-- If no reply is lost and only the operator removes its finalizer, a live goroutine has an instance. -/
theorem watchers_have_instances (h : (watcherSystem Key).Reachable Orderly s) (kind : Kind) (key : Key)
    (hlive : s.registry.live (kind, key) ≠ []) :
    ∃ lr, (s.objects key).current = some lr ∧ lr.finalizer = true := by
  have hsound := sound_of_run (h.mono_of_invariant (fun _ => True) (fun _ _ => trivial)
    (fun _ _ _ _ _ _ => trivial) fun _ _ _ _ => trivial)
  refine (held_of_orderly h key).2 kind fun hnone => hlive ?_
  rw [hsound.live_eq, hnone, Option.toList_none]

def created : Instance := ⟨.sentinel, true, false, false, false, false⟩

/-- A pass whose calls succeed, but for the removal of the finalizer. -/
def promptly (removal : Removal) : Label Unit := .pass () ⟨removal, false, true, true, true, 0, true, 0⟩

def watchedRun : List (Label Unit) :=
  [.change () created, .sync () 1, promptly .done, .sync () 1, promptly .done]

def watched : State Unit := watchedRun.foldl State.next .start

/-- It is deleted, with a given reply to the removal of the finalizer. -/
def deletedRun (removal : Removal) : List (Label Unit) :=
  [.change () (some { created with deleting := true, finalizer := true }), .sync () 1, promptly removal]

/-- The created instance has its one watcher, and the next pass leaves that one and no other. -/
theorem watched_match_mode :
    (watched.registry.live (.sentinel, ()) = [0] ∧
      watched.registry.live (.sentinel, ()) = (watched.registry.monitors (.sentinel, ())).toList) ∧
    ((watched.next (promptly .done)).registry.live (.sentinel, ())).length = 1 ∧
    ((watched.next (promptly .done)).registry.live (.failover, ())).length = 0 := by
  have hreachable : (watcherSystem Unit).Reachable System.anyStep watched :=
    @System.Reachable.of_run _ _ _ _ watchedRun rfl rfl
  have hserved : Served ⟨.done, false, true, true, true, 0, true, 0⟩ { created with finalizer := true } := by
    simp [Served, created]
  exact ⟨⟨by decide, (watchers_match_mode hreachable .sentinel ()).1⟩,
    (watchers_match_mode hreachable .sentinel ()).2 _ _ (by decide) (by decide) hserved,
    (watchers_match_mode hreachable .failover ()).2 _ _ (by decide) (by decide) hserved⟩

/-- The watcher is gone with its instance, but outlives it if the reply to the last update is lost. -/
theorem watched_have_instances :
    (∃ lr, (watched.objects ()).current = some lr ∧ lr.finalizer = true) ∧
    ((deletedRun .done).foldl State.next watched).registry.live (.sentinel, ()) = [] ∧
    ((deletedRun .lost).foldl State.next watched).registry.live (.sentinel, ()) = [0] ∧
    (((deletedRun .lost).foldl State.next watched).objects ()).current = none := by
  have horderly : (watcherSystem Unit).Reachable Orderly watched :=
    @System.Reachable.of_moves _ _ (watcherSystem Unit) Orderly .start _ rfl (watchedRun.map fun a _ => a)
      (by decide)
  exact ⟨watchers_have_instances horderly .sentinel () (by decide), by decide⟩

end LittleRed.Controller
