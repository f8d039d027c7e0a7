import LittleRed.Lib.MaximalRuns
import Mathlib.Algebra.Group.Int.Defs
import Mathlib.Data.Int.Notation

/-!
# The watcher of the master

Between reconciles a watcher probes the address of the master. When its probes of one address have failed
for long enough, it pushes one event, so that a reconcile looks at once. A success, another address or none
ends the streak of failures, and only then can the watcher push the next event.
-/

namespace LittleRed.Failover

open Lib List

/-- The failures of the watcher's probes so far. Times count nanoseconds, and the zero time is none. -/
structure FailoverProbeStreak where
  masterIP : String
  failingSince : ℤ
  fired : Bool

def FailoverProbeStreak.zero : FailoverProbeStreak := ⟨"", 0, false⟩

/-- The time between two times, as far as 64 bits hold it. -/
def timeSub (later earlier : ℤ) : ℤ := max (-2 ^ 63) (min (later - earlier) (2 ^ 63 - 1))

/-- The streak after a probe, and whether the event is pushed now. -/
def advanceFailoverProbeStreak (prev : FailoverProbeStreak) (masterIP : String) (probeOK : Bool)
    (now downAfter : ℤ) : FailoverProbeStreak × Bool :=
  if masterIP = "" then (.zero, false)
  else if probeOK then (⟨masterIP, 0, false⟩, false)
  else
    let next := if prev.masterIP ≠ masterIP ∨ prev.failingSince = 0 then ⟨masterIP, now, false⟩ else prev
    if !next.fired && decide (downAfter ≤ timeSub now next.failingSince) then
      ({ next with fired := true }, true)
    else (next, false)

structure Observation where
  masterIP : String
  probeOK : Bool
  now : ℤ

/-- The streak after an observation, and whether an event is pushed. -/
def tick (downAfter : ℤ) (prev : FailoverProbeStreak) (o : Observation) : FailoverProbeStreak × Bool :=
  advanceFailoverProbeStreak prev o.masterIP o.probeOK o.now downAfter

/-- Whether an event is pushed, tick by tick. -/
def watch (downAfter : ℤ) : FailoverProbeStreak → List Observation → List Bool
  | _, [] => []
  | prev, o :: rest => (tick downAfter prev o).2 :: watch downAfter (tick downAfter prev o).1 rest

/-- The streak after the first observations. -/
def streakAfter (downAfter : ℤ) (obs : List Observation) (i : ℕ) : FailoverProbeStreak :=
  (obs.take i).foldl (fun prev o => (tick downAfter prev o).1) .zero

/-- The observation is a failed probe of the address. -/
def failing (obs : List Observation) (ip : String) (i : ℕ) : Bool :=
  obs[i]?.any fun o => o.masterIP == ip && !o.probeOK

def timeAt (obs : List Observation) (i : ℕ) : ℤ := (obs[i]?.map Observation.now).getD 0

/-- At a tick the failures that began at another one have gone on for long enough. -/
def Due (downAfter : ℤ) (obs : List Observation) (start i : ℕ) : Prop :=
  downAfter ≤ timeAt obs i - timeAt obs start

/-- The first observation of the streak that is late enough. -/
def FirstDue (downAfter : ℤ) (obs : List Observation) (start i : ℕ) : Prop :=
  Due downAfter obs start i ∧ ∀ m, start ≤ m → m < i → ¬Due downAfter obs start m

/-- The last probe of the address did not fail, or the streak names its first failure and whether
the event was pushed. -/
inductive Tracks (downAfter : ℤ) (obs : List Observation) (i : ℕ) (ip : String) :
    FailoverProbeStreak → Prop
  | idle {streak : FailoverProbeStreak} (hopened : Opened (failing obs ip) i none)
      (hother : streak.masterIP ≠ ip ∨ streak.failingSince = 0) : Tracks downAfter obs i ip streak
  | running {streak : FailoverProbeStreak} {start : ℕ} (hopened : Opened (failing obs ip) i (some start))
      (hip : streak.masterIP = ip) (hsince : streak.failingSince = timeAt obs start)
      (hfired : streak.fired = true ↔ ∃ m, start ≤ m ∧ m < i ∧ Due downAfter obs start m) :
      Tracks downAfter obs i ip streak

section Watcher

variable {downAfter : ℤ} {obs : List Observation} {i : ℕ} {o : Observation} {prev : FailoverProbeStreak}
  {ip : String}

/-- What the watcher does at one observation. -/
theorem getElem?_watch (prev : FailoverProbeStreak) (obs : List Observation) (n : ℕ) :
    (watch downAfter prev obs)[n]? = obs[n]?.map fun o =>
      (tick downAfter ((obs.take n).foldl (fun prev o => (tick downAfter prev o).1) prev) o).2 := by
  induction obs generalizing prev n with
  | nil => rfl
  | cons o rest ih =>
    cases n with
    | zero => rfl
    | succ n =>
      rw [watch, List.getElem?_cons_succ, List.getElem?_cons_succ, ih, take_succ_cons, foldl_cons]

theorem streakAfter_succ (ho : obs[i]? = some o) :
    streakAfter downAfter obs (i + 1) = (tick downAfter (streakAfter downAfter obs i) o).1 := by
  rw [streakAfter, take_add_one, ho, foldl_append]
  rfl

theorem timeAt_of_getElem? (ho : obs[i]? = some o) : timeAt obs i = o.now := by
  rw [timeAt, ho]
  rfl

theorem failing_of_getElem? (ho : obs[i]? = some o) :
    failing obs ip i = (o.masterIP == ip && !o.probeOK) := by
  rw [failing, ho]
  rfl

/-- The saturated difference does not matter for a bound in range. -/
theorem le_timeSub_iff (hpos : 0 < downAfter) (hbound : downAfter < 2 ^ 63) (later earlier : ℤ) :
    downAfter ≤ timeSub later earlier ↔ downAfter ≤ later - earlier := by
  unfold timeSub
  omega

/-- A success or a missing address ends the streak. -/
theorem tick_of_reset (downAfter : ℤ) (prev : FailoverProbeStreak) (h : o.masterIP = "" ∨ o.probeOK = true) :
    (tick downAfter prev o).1.failingSince = 0 ∧ (tick downAfter prev o).2 = false := by
  unfold tick advanceFailoverProbeStreak
  split
  · exact ⟨rfl, rfl⟩
  rename_i hip
  rw [if_pos (h.resolve_left hip)]
  exact ⟨rfl, rfl⟩

/-- The first failure of an address begins a streak. -/
theorem tick_of_first (hip : o.masterIP ≠ "") (hfailed : o.probeOK = false)
    (hother : prev.masterIP ≠ o.masterIP ∨ prev.failingSince = 0) :
    tick downAfter prev o = (⟨o.masterIP, o.now, decide (downAfter ≤ timeSub o.now o.now)⟩,
        decide (downAfter ≤ timeSub o.now o.now)) := by
  unfold tick advanceFailoverProbeStreak
  rw [if_neg hip, hfailed, if_neg Bool.false_ne_true, if_pos hother]
  by_cases hdue : downAfter ≤ timeSub o.now o.now <;> simp [hdue]

/-- A further failure continues it. -/
theorem tick_of_further (hip : o.masterIP ≠ "") (hfailed : o.probeOK = false)
    (hsame : prev.masterIP = o.masterIP) (hsince : prev.failingSince ≠ 0) :
    tick downAfter prev o =
      ({ prev with fired := prev.fired || decide (downAfter ≤ timeSub o.now prev.failingSince) },
        !prev.fired && decide (downAfter ≤ timeSub o.now prev.failingSince)) := by
  have hnot : ¬(prev.masterIP ≠ o.masterIP ∨ prev.failingSince = 0) := by
    rw [not_or, not_not]
    exact ⟨hsame, hsince⟩
  unfold tick advanceFailoverProbeStreak
  rw [if_neg hip, hfailed, if_neg Bool.false_ne_true, if_neg hnot]
  obtain ⟨masterIP, since, fired⟩ := prev
  cases fired with
  | true => simp
  | false => by_cases hdue : downAfter ≤ timeSub o.now since <;> simp [hdue]

/-- The streak is of the address that failed. -/
theorem tick_masterIP (downAfter : ℤ) (prev : FailoverProbeStreak) (hip : o.masterIP ≠ "")
    (hfailed : o.probeOK = false) : (tick downAfter prev o).1.masterIP = o.masterIP := by
  by_cases hother : prev.masterIP ≠ o.masterIP ∨ prev.failingSince = 0
  · rw [tick_of_first hip hfailed hother]
  · rw [not_or, not_not] at hother
    rw [tick_of_further hip hfailed hother.1 hother.2]
    exact hother.1

/-- A failure has a time. -/
theorem timeAt_ne_zero (htimes : ∀ o ∈ obs, o.now ≠ 0) {start : ℕ} (hfailed : failing obs ip start = true) :
    timeAt obs start ≠ 0 := by
  cases ho : obs[start]? with
  | none =>
    rw [failing, ho] at hfailed
    cases hfailed
  | some o =>
    rw [timeAt_of_getElem? ho]
    exact htimes o (mem_of_getElem? ho)

/-- At the first failure. -/
theorem fired_iff_of_first (hpos : 0 < downAfter) (hbound : downAfter < 2 ^ 63) (ho : obs[i]? = some o) :
    decide (downAfter ≤ timeSub o.now o.now) = true ↔ ∃ m, i ≤ m ∧ m < i + 1 ∧ Due downAfter obs i m := by
  rw [decide_eq_true_iff, le_timeSub_iff hpos hbound]
  constructor
  · intro hdue
    refine ⟨i, Nat.le_refl i, Nat.lt_succ_self i, ?_⟩
    rwa [Due, timeAt_of_getElem? ho]
  · rintro ⟨m, hle, hlt, hdue⟩
    obtain rfl : m = i := by omega
    rwa [Due, timeAt_of_getElem? ho] at hdue

/-- At a further failure. -/
theorem fired_iff_of_further (hpos : 0 < downAfter) (hbound : downAfter < 2 ^ 63) (ho : obs[i]? = some o)
    {start : ℕ} (hlt : start < i) {fired : Bool} {since : ℤ} (hsince : since = timeAt obs start)
    (hfired : fired = true ↔ ∃ m, start ≤ m ∧ m < i ∧ Due downAfter obs start m) :
    (fired || decide (downAfter ≤ timeSub o.now since)) = true ↔
      ∃ m, start ≤ m ∧ m < i + 1 ∧ Due downAfter obs start m := by
  rw [Bool.or_eq_true, decide_eq_true_iff, le_timeSub_iff hpos hbound, hfired, hsince,
    ← timeAt_of_getElem? ho]
  constructor
  · rintro (⟨m, hle, hm, hdue⟩ | hdue)
    · exact ⟨m, hle, Nat.lt_succ_of_lt hm, hdue⟩
    · exact ⟨i, Nat.le_of_lt hlt, Nat.lt_succ_self i, hdue⟩
  · rintro ⟨m, hle, hm, hdue⟩
    rcases Nat.lt_succ_iff_lt_or_eq.mp hm with hbefore | rfl
    · exact .inl ⟨m, hle, hbefore, hdue⟩
    · exact .inr hdue

section Step

variable (hpos : 0 < downAfter) (hbound : downAfter < 2 ^ 63) (htimes : ∀ o ∈ obs, o.now ≠ 0)

/-- A probe that is no failure of the address. -/
theorem tracks_of_not_failing (ho : obs[i]? = some o) (hnot : failing obs ip i = false) :
    Tracks downAfter obs (i + 1) ip (tick downAfter prev o).1 := by
  apply Tracks.idle
  · exact .inr hnot
  · by_cases hreset : o.masterIP = "" ∨ o.probeOK = true
    · exact .inr (tick_of_reset downAfter prev hreset).1
    · rw [not_or, Bool.not_eq_true] at hreset
      left
      rw [tick_masterIP downAfter prev hreset.1 hreset.2]
      intro hsame
      rw [failing_of_getElem? ho, hsame, hreset.2] at hnot
      simp at hnot

include hpos hbound htimes

/-- A failure pushes the event if it is the first one due. -/
theorem tracks_of_failing (hip : ip ≠ "") (h : Tracks downAfter obs i ip prev) (ho : obs[i]? = some o)
    (hfailing : failing obs ip i = true) :
    Tracks downAfter obs (i + 1) ip (tick downAfter prev o).1 ∧
      ∃ start, Opened (failing obs ip) (i + 1) (some start) ∧
        ((tick downAfter prev o).2 = true ↔ FirstDue downAfter obs start i) := by
  have hobserved := hfailing
  rw [failing_of_getElem? ho, Bool.and_eq_true, beq_iff_eq, Bool.not_eq_true'] at hobserved
  obtain ⟨rfl, hfailed⟩ := hobserved
  cases h with
  | idle hopened hother =>
    have hnext : Opened (failing obs o.masterIP) (i + 1) (some i) := hopened.extend hfailing
    have hfired := fired_iff_of_first hpos hbound ho
    rw [tick_of_first hip hfailed hother]
    refine ⟨.running hnext rfl (timeAt_of_getElem? ho).symm hfired, i, hnext, ?_⟩
    rw [hfired]
    constructor
    · rintro ⟨m, hle, hlt, hdue⟩
      obtain rfl : m = i := by omega
      exact ⟨hdue, fun k hle' hlt' => absurd hlt' (Nat.not_lt.mpr hle')⟩
    · intro hfirst
      exact ⟨i, Nat.le_refl i, Nat.lt_succ_self i, hfirst.1⟩
  | @running start hopened hsame hsince hfired =>
    have hnext : Opened (failing obs o.masterIP) (i + 1) (some start) := hopened.extend hfailing
    have hlt : start < i := hopened.1
    have hzero : prev.failingSince ≠ 0 := by
      rw [hsince]
      exact timeAt_ne_zero htimes (hopened.2.2 start (Nat.le_refl start) hlt)
    rw [tick_of_further hip hfailed hsame hzero]
    refine ⟨.running hnext hsame hsince (fired_iff_of_further hpos hbound ho hlt hsince hfired), start,
      hnext, ?_⟩
    rw [Bool.and_eq_true, Bool.not_eq_true', ← Bool.not_eq_true, hfired, decide_eq_true_iff,
      le_timeSub_iff hpos hbound, hsince, ← timeAt_of_getElem? ho]
    constructor
    · rintro ⟨hnone, hdue⟩
      exact ⟨hdue, fun m hle hm hbefore => hnone ⟨m, hle, hm, hbefore⟩⟩
    · rintro ⟨hdue, hnone⟩
      exact ⟨fun ⟨m, hle, hm, hbefore⟩ => hnone m hle hm hbefore, hdue⟩

/-- The streak tracks every address. -/
theorem tracks_streakAfter (hip : ip ≠ "") (hi : i ≤ obs.length) :
    Tracks downAfter obs i ip (streakAfter downAfter obs i) := by
  induction i with
  | zero => exact .idle opened_zero (.inr rfl)
  | succ i ih =>
    have ho : obs[i]? = some obs[i] := List.getElem?_eq_getElem hi
    rw [streakAfter_succ ho]
    cases hfailing : failing obs ip i with
    | false => exact tracks_of_not_failing ho hfailing
    | true => exact (tracks_of_failing hpos hbound htimes hip (ih (Nat.le_of_lt hi)) ho hfailing).1

/-- A failure pushes the event exactly when it is the first one due. -/
theorem watch_of_failing (hip : ip ≠ "") (hfailing : failing obs ip i = true) :
    ∃ start, Opened (failing obs ip) (i + 1) (some start) ∧
      ((watch downAfter .zero obs)[i]? = some true ↔ FirstDue downAfter obs start i) := by
  cases ho : obs[i]? with
  | none =>
    rw [failing, ho] at hfailing
    cases hfailing
  | some o =>
    have hi : i < obs.length := (List.getElem?_eq_some_iff.mp ho).1
    have htracks := tracks_streakAfter hpos hbound htimes hip (Nat.le_of_lt hi)
    obtain ⟨-, start, hopened, hevent⟩ := tracks_of_failing hpos hbound htimes hip htracks ho hfailing
    refine ⟨start, hopened, ?_⟩
    rwa [getElem?_watch, ho, Option.map_some, Option.some_inj]

end Step

/-- Only a failure pushes an event. -/
theorem failing_of_watch {n : ℕ} (h : (watch downAfter .zero obs)[n]? = some true) :
    ∃ ip, ip ≠ "" ∧ n < obs.length ∧ failing obs ip n = true := by
  rw [getElem?_watch] at h
  obtain ⟨o, ho, hevent⟩ := Option.map_eq_some_iff.mp h
  have hn : n < obs.length := (List.getElem?_eq_some_iff.mp ho).1
  by_cases hreset : o.masterIP = "" ∨ o.probeOK = true
  · rw [(tick_of_reset downAfter _ hreset).2] at hevent
    cases hevent
  · rw [not_or, Bool.not_eq_true] at hreset
    refine ⟨o.masterIP, hreset.1, hn, ?_⟩
    rw [failing_of_getElem? ho, hreset.2, beq_self_eq_true]
    rfl

end Watcher

/-- In a maximal run of failures of one address the event is pushed once, at the first tick late
enough after its start, and elsewhere never. -/
theorem watch_fires_once (obs : List Observation) (downAfter : ℤ) (hpos : 0 < downAfter)
    (hbound : downAfter < 2 ^ 63) (htimes : ∀ o ∈ obs, o.now ≠ 0) :
    (∀ ip start stop, ip ≠ "" → MaximalRun (failing obs ip) obs.length start stop →
      ∀ n, start ≤ n → n ≤ stop →
        ((watch downAfter .zero obs)[n]? = some true ↔ FirstDue downAfter obs start n)) ∧
    ∀ n, (watch downAfter .zero obs)[n]? = some true →
      ∃ ip start stop, ip ≠ "" ∧ MaximalRun (failing obs ip) obs.length start stop ∧ start ≤ n ∧ n ≤ stop := by
  constructor
  · intro ip start stop hip hrun n hstart hstop
    obtain ⟨first, hopened, hevent⟩ := watch_of_failing hpos hbound htimes hip (hrun.all n hstart hstop)
    rwa [hrun.start_eq_opened (by omega) (by omega) hopened] at hevent
  · intro n hevent
    obtain ⟨ip, hip, hn, hfailing⟩ := failing_of_watch hevent
    obtain ⟨start, stop, hrun, hstart, hstop⟩ := exists_maximalRun hn hfailing
    exact ⟨ip, start, stop, hip, hrun, hstart, hstop⟩

/-- Two addresses fail one after the other. -/
def twoOutages : List Observation :=
  [⟨"10.0.0.1", true, 1⟩, ⟨"10.0.0.1", false, 2⟩, ⟨"10.0.0.1", false, 5⟩, ⟨"10.0.0.1", false, 6⟩,
    ⟨"", false, 7⟩,
    ⟨"10.0.0.2", false, 8⟩, ⟨"10.0.0.2", false, 11⟩]

/-- Each of them gives one event. -/
theorem twoOutages_fire :
    watch 3 .zero twoOutages = [false, false, true, false, false, false, true] ∧ (∀ n, 5 ≤ n → n ≤ 6 →
        ((watch 3 .zero twoOutages)[n]? = some true ↔ FirstDue 3 twoOutages 5 n)) :=
  ⟨by decide, (watch_fires_once twoOutages 3 (by decide) (by decide) (by decide)).1 "10.0.0.2" 5 6 (by decide)
    ⟨by decide, by decide, fun i hle hle' => by
      obtain rfl | rfl : i = 5 ∨ i = 6 := by omega
      · decide
      · decide, .inr (by decide), .inl (by decide)⟩⟩

end LittleRed.Failover
