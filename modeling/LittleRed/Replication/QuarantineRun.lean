import LittleRed.Lib.TransitionSystem
import LittleRed.Lib.Timed
import LittleRed.Replication.Quarantine

/-!
# Quarantines over runs

A pass computes the number of pods from the status, gathers, decides about the capture and the quarantine,
and writes the status, which may fail. It decides on the status in its cache, and writes onto the stored
one. The marker is written when the quarantine is armed and cleared after the settling period. A pass that
finds that period over and a capture at once leaves the marker: the instance is then neither in quarantine
nor armed again.
-/

namespace LittleRed.Replication.Quarantine

open Lib List Option

/-- What the quarantine stores; the condition of a capture stays when it is retracted. -/
structure Status where
  forsakenSince : Option ℤ
  quarantinedSince : Option ℤ
  attempts : ℤ
  running : Bool
  reported : Bool

def sentinelRedisReplicas : ℕ := 3

/-- The numbers of Redis and Sentinel pods that a pass asks for before it gathers. -/
def sentinelDesiredReplicas (dangerous : Bool) (status : Status) (now : ℤ) : ℕ × ℕ :=
  let plan := planQuarantine
    { quarantinedSince := status.quarantinedSince
      attempts := status.attempts
      dangerous := dangerous
      now := now }
  if plan.scaleToZero then (0, 0) else (sentinelRedisReplicas, sentinelProcessReplicas)

/-- Record a capture in the stored status, and the quarantine when it is armed. -/
def setForsaken (stored : Status) (t : ℤ) (plan : QuarantinePlan) : Status :=
  { stored with
    forsakenSince := stored.forsakenSince.or (some t)
    quarantinedSince := if plan.arm then some t else stored.quarantinedSince
    attempts := if plan.arm then plan.nextAttempts else stored.attempts
    reported := true }

/-- Retract a capture: a release clears the marker, a running instance also the counter, if anything
was read. -/
def clearForsaken (read stored : Status) (plan : QuarantinePlan) : Status :=
  let clearAttempts := read.running && read.attempts != 0
  if read.forsakenSince.isNone && !plan.clear && !clearAttempts && !read.reported then stored
  else
    { stored with
      forsakenSince := none
      quarantinedSince := if plan.clear || clearAttempts then none else stored.quarantinedSince
      attempts := if clearAttempts then 0 else stored.attempts
      reported := true }

/-- What a pass sees: its gather, whether the pods are being replaced, and the kubelet's view. -/
structure Sight where
  state : ReplicationState
  rolling : Bool
  redisReady : GoMap String Bool

/-- What a pass read and decided, and the stored status before and after it. -/
structure PassRecord where
  read : Status
  before : Status
  replicas : ℕ × ℕ
  verdict : ForsakenPlan
  dataAtRisk : Bool
  dataUnverified : Bool
  plan : QuarantinePlan
  recorded : Bool
  after : Status

/-- The pass comes to the verdict without a risk. -/
def PassRecord.reachesVerdict (r : PassRecord) : Bool :=
  r.verdict.forsaken && !r.dataAtRisk && !r.dataUnverified

/-- The pass armed the quarantine, and that was recorded. -/
def PassRecord.armed (r : PassRecord) : Bool := r.plan.arm && r.recorded

/-- The status, the time of the last write, and the passes, the newest first. -/
structure State where
  status : Status
  clock : ℤ
  log : List PassRecord

/-- A pass, with the status in its cache and three readings of the clock, or a write of the phase. -/
inductive Label where
  | pass (read : Status) (desiredAt now t : ℤ) (sight : Sight) (accepted : Bool)
  | writePhase (running : Bool)

section Run

variable (dangerous : Bool) (time : StoredTime)

/-- Decide on the status that was read, and write onto the stored one, since a conflict is repeated. -/
def pass (read stored : Status) (desiredAt now t : ℤ) (sight : Sight) (accepted : Bool) : PassRecord :=
  let verdict := planForsaken sight.state read.forsakenSince now sight.rolling
  let risk := quarantineDataRisk sight.state verdict.foreignMaster sight.redisReady
  let plan := quarantineOf sight.state read.forsakenSince now sight.rolling sight.redisReady
    read.quarantinedSince read.attempts dangerous
  let written :=
    if plan.scaleToZero || verdict.captured then setForsaken stored (time.stored t) plan
    else clearForsaken read stored plan
  { read := read
    before := stored
    replicas := sentinelDesiredReplicas dangerous read desiredAt
    verdict := verdict
    dataAtRisk := risk.1
    dataUnverified := risk.2
    plan := plan
    recorded := accepted
    after := if accepted then written else stored }

/-- One step. A pass reads the clock in order, and after the passes before it. -/
def step (s : State) : Label → Option State
  | .pass read desiredAt now t sight accepted =>
    if s.clock ≤ desiredAt ∧ desiredAt ≤ now ∧ now ≤ t then
      let r := pass dangerous time read s.status desiredAt now t sight accepted
      some { status := r.after, clock := t, log := r :: s.log }
    else none
  | .writePhase running => some { s with status := { s.status with running := running } }

/-- Runs of an instance that was never captured before. -/
def quarantineSystem : System State Label where
  initial s := ∃ running clock, s = ⟨⟨none, none, 0, running, false⟩, clock, []⟩
  step := step dangerous time

end Run

/-- The last release was not followed by an arming yet. -/
def released : List PassRecord → Bool
  | [] => false
  | r :: earlier => r.plan.clear || (!r.armed && released earlier)

/-- A verdict without a risk takes the pods away and arms once the last quarantine was released;
between passes that find the instance running there are at most as many armings as the limit. -/
structure Accounted (limit : ℤ) (log : List PassRecord) : Prop where
  scales : ∀ r ∈ log, r.reachesVerdict = true → r.plan.scaleToZero = true
  counts : ∀ recent r earlier, log = recent ++ r :: earlier → r.reachesVerdict = true →
    released earlier = true →
      r.plan.arm = true ∧ (r.recorded = true → r.after.attempts = r.before.attempts + 1)
  bounded : ∀ recent between earlier, log = recent ++ between ++ earlier →
    (∀ r ∈ between, r.read.running = false) →
      (between.countP PassRecord.armed : ℤ) ≤ limit ∧
        ((between.countP PassRecord.armed : ℤ) = limit → ∀ r ∈ recent, r.replicas = (0, 0))

/-- A release is due: the settling period is over, and attempts remain. -/
def releaseDue (dangerous : Bool) (status : Status) (now : ℤ) : Bool :=
  status.quarantinedSince.any fun since =>
    decide (status.attempts < attemptLimit dangerous ∧ quarantineSettlePeriod ≤ now - since)

/-- The marker and the counter that a pass read are the stored ones. -/
structure ReadsMarker (read stored : Status) : Prop where
  marker : read.quarantinedSince = stored.quarantinedSince
  attempts : read.attempts = stored.attempts

instance (read stored : Status) : Decidable (ReadsMarker read stored) :=
  decidable_of_iff (read.quarantinedSince = stored.quarantinedSince ∧ read.attempts = stored.attempts)
    ⟨fun h => ⟨h.1, h.2⟩, fun h => ⟨h.marker, h.attempts⟩⟩

/-- A pass of the step reads the stored marker and counter. -/
def ReadsCurrent (s : State) : Label → Prop
  | .pass read _ _ _ _ _ => ReadsMarker read s.status
  | .writePhase _ => True

/-- A pass reads what is stored, and comes to no verdict while a release is due. -/
def ReleasedFirst (dangerous : Bool) (time : StoredTime) (s : State) : Label → Prop
  | .pass read desiredAt now t sight accepted => ReadsMarker read s.status ∧
    ((pass dangerous time read s.status desiredAt now t sight accepted).reachesVerdict = true →
      releaseDue dangerous s.status now = false)
  | .writePhase _ => True

instance (dangerous : Bool) (time : StoredTime) (s : State) (a : Label) :
    Decidable (ReleasedFirst dangerous time s a) :=
  match a with
  | .pass read desiredAt now t sight accepted => inferInstanceAs (Decidable (ReadsMarker read s.status ∧
      ((pass dangerous time read s.status desiredAt now t sight accepted).reachesVerdict = true →
        releaseDue dangerous s.status now = false)))
  | .writePhase _ => .isTrue trivial

/-- A marker keeps the quarantine in force until the release is due, which clears it. -/
theorem planQuarantine_armed {input : QuarantineInput} {since : ℤ}
    (hsome : input.quarantinedSince = some since) :
    ((planQuarantine input).clear = true ↔
        input.attempts < attemptLimit input.dangerous ∧ quarantineSettlePeriod ≤ input.now - since) ∧
      (planQuarantine input).scaleToZero = !(planQuarantine input).clear ∧
      (planQuarantine input).arm = false := by
  simp only [planQuarantine, hsome]
  split
  · rename_i hlatched
    exact ⟨iff_of_false (by simp) fun h => by omega, rfl, rfl⟩
  · rename_i hlatched
    split
    · rename_i hsettling
      exact ⟨iff_of_false (by simp) fun h => by omega, rfl, rfl⟩
    · rename_i hsettling
      exact ⟨iff_of_true rfl ⟨by omega, by omega⟩, rfl, rfl⟩

/-- Without a marker, an arming counts one attempt. -/
theorem planQuarantine_next {input : QuarantineInput} (hnone : input.quarantinedSince = none) :
    (planQuarantine input).clear = false ∧ ((planQuarantine input).arm = true →
        (planQuarantine input).nextAttempts = input.attempts + 1) := by
  simp only [planQuarantine, hnone]
  cases input.captured <;> cases input.dataAtRisk <;> cases input.dataUnverified <;>
    cases input.forsaken <;> simp

/-- A forsaken instance is captured. -/
theorem captured_of_forsaken {state : ReplicationState} {since : Option ℤ} {now : ℤ} {rolling : Bool}
    (h : (planForsaken state since now rolling).forsaken = true) :
    (planForsaken state since now rolling).captured = true := by
  simp only [planForsaken] at h ⊢
  split at h
  · cases h
  split at h
  · cases h
  rename_i hrolling hcaptured
  rw [if_neg hrolling, if_neg hcaptured]

/-- What a pass that reads the stored marker and counter can do to them. -/
inductive Effect (r : PassRecord) : Prop
  | arms (hnone : r.before.quarantinedSince = none) (harmed : r.armed = true)
      (hmarker : r.after.quarantinedSince.isSome = true)
      (hattempts : r.after.attempts = r.before.attempts + 1)
  | keeps (harmed : r.armed = false) (hmarker : r.after.quarantinedSince = r.before.quarantinedSince)
      (hattempts : r.after.attempts = r.before.attempts)
  | releases (harmed : r.armed = false) (hclear : r.plan.clear = true)
      (hmarker : r.after.quarantinedSince = none) (hattempts : r.after.attempts = r.before.attempts)
  | resets (harmed : r.armed = false) (hscale : r.plan.scaleToZero = false)
      (hrunning : r.read.running = true) (hmarker : r.after.quarantinedSince = none)
      (hattempts : r.after.attempts = 0)

section Pass

variable {dangerous : Bool} {time : StoredTime} {read stored : Status} {desiredAt now t : ℤ} {sight : Sight}
  {accepted : Bool} {r : PassRecord}

section

variable (hr : pass dangerous time read stored desiredAt now t sight accepted = r)
include hr

/-- Without a marker a pass arms exactly on a verdict without a risk, and takes the pods away. -/
theorem pass_unarmed (hnone : read.quarantinedSince = none) :
    r.plan.scaleToZero = r.reachesVerdict ∧ r.plan.arm = r.reachesVerdict ∧ r.plan.clear = false ∧
      (r.plan.arm = true → r.plan.nextAttempts = read.attempts + 1) := by
  subst hr
  have hscale : (pass dangerous time read stored desiredAt now t sight accepted).plan.scaleToZero =
      (pass dangerous time read stored desiredAt now t sight accepted).reachesVerdict := by
    rw [Bool.eq_iff_iff]
    refine (planQuarantine_unarmed _ hnone).1.trans ?_
    simp only [PassRecord.reachesVerdict, Bool.and_eq_true, Bool.not_eq_true']
    constructor
    · rintro ⟨-, hrisk, hunverified, hforsaken⟩
      exact ⟨⟨hforsaken, hrisk⟩, hunverified⟩
    · rintro ⟨⟨hforsaken, hrisk⟩, hunverified⟩
      exact ⟨captured_of_forsaken hforsaken, hrisk, hunverified, hforsaken⟩
  refine ⟨hscale, ?_, planQuarantine_next hnone⟩
  rw [← hscale]
  exact (planQuarantine_unarmed _ hnone).2

/-- With a marker the pods stay away until the release is due, and nothing is armed. -/
theorem pass_armed (hsome : read.quarantinedSince.isSome = true) :
    r.plan.clear = releaseDue dangerous read now ∧ r.plan.scaleToZero = !r.plan.clear ∧
      r.plan.arm = false := by
  subst hr
  obtain ⟨since, hsince⟩ := isSome_iff_exists.mp hsome
  refine ⟨?_, (planQuarantine_armed hsince).2⟩
  rw [Bool.eq_iff_iff, releaseDue, hsince, any_some, decide_eq_true_iff]
  exact (planQuarantine_armed hsince).1

/-- A pass clears the marker exactly when the release is due. -/
theorem pass_clear : r.plan.clear = releaseDue dangerous read now := by
  cases hmarker : read.quarantinedSince with
  | none =>
    rw [(pass_unarmed hr hmarker).2.2.1, releaseDue, hmarker]
    rfl
  | some since => exact (pass_armed hr (by rw [hmarker]; rfl)).1

/-- Only a pass that finds no marker arms, and it takes the pods away. -/
theorem pass_arm_le (harm : r.plan.arm = true) :
    read.quarantinedSince = none ∧ r.plan.scaleToZero = true := by
  cases hmarker : read.quarantinedSince with
  | none =>
    obtain ⟨hscale, harms, -⟩ := pass_unarmed hr hmarker
    exact ⟨rfl, by rw [hscale, ← harms, harm]⟩
  | some since =>
    rw [(pass_armed hr (by rw [hmarker]; rfl)).2.2] at harm
    cases harm

/-- A pass that records the capture arms the quarantine or leaves the marker alone. -/
theorem effect_of_set (hread : ReadsMarker read stored) (hbefore : r.before = stored)
    (harmed : r.armed = r.plan.arm) (hafter : r.after = setForsaken stored (time.stored t) r.plan) :
    Effect r := by
  cases harm : r.plan.arm with
  | true =>
    obtain ⟨hnone, -⟩ := pass_arm_le hr harm
    refine .arms (by rw [hbefore, ← hread.marker, hnone]) (by rw [harmed, harm]) ?_ ?_
    · rw [hafter, setForsaken, if_pos harm]
      rfl
    · rw [hafter, hbefore, ← hread.attempts]
      exact (if_pos harm).trans ((pass_unarmed hr hnone).2.2.2 harm)
  | false =>
    refine .keeps (by rw [harmed, harm]) ?_ ?_ <;> rw [hafter, setForsaken, harm, hbefore] <;> rfl

end

/-- A pass that retracts the capture resets the counter, releases, or leaves the marker alone. -/
theorem effect_of_clear (hread : r.read = read) (hbefore : r.before = stored) (hunarmed : r.armed = false)
    (hscale : r.plan.scaleToZero = false) (hafter : r.after = clearForsaken read stored r.plan) :
    Effect r := by
  simp only [clearForsaken] at hafter
  cases hreset : read.running && read.attempts != 0 with
  | true =>
    simp only [hreset, Bool.not_true, Bool.and_false, Bool.false_and, Bool.false_eq_true, if_false,
      Bool.or_true, if_true] at hafter
    rw [Bool.and_eq_true] at hreset
    exact .resets hunarmed hscale (by rw [hread, hreset.1]) (by rw [hafter]) (by rw [hafter])
  | false =>
    cases hclear : r.plan.clear with
    | true =>
      simp only [hreset, hclear, Bool.not_true, Bool.and_false, Bool.false_and, Bool.false_eq_true, if_false,
        Bool.or_false, if_true] at hafter
      exact .releases hunarmed hclear (by rw [hafter]) (by rw [hafter, hbefore])
    | false =>
      simp only [hreset, hclear, Bool.or_false, Bool.false_eq_true, if_false] at hafter
      refine .keeps hunarmed ?_ ?_ <;> rw [hafter, hbefore] <;> split <;> rfl

/-- The effect of a pass that reads the stored marker and counter. -/
theorem pass_effect (hr : pass dangerous time read stored desiredAt now t sight accepted = r)
    (hread : ReadsMarker read stored) : Effect r := by
  have hbefore : r.before = stored := by rw [← hr]; rfl
  cases haccepted : accepted with
  | false =>
    have hafter : r.after = stored := by rw [← hr, haccepted]; rfl
    have hrecorded : r.recorded = false := by rw [← hr, haccepted]; rfl
    refine .keeps ?_ (by rw [hafter, hbefore]) (by rw [hafter, hbefore])
    rw [PassRecord.armed, hrecorded, Bool.and_false]
  | true =>
    have hrecorded : r.recorded = true := by rw [← hr, haccepted]; rfl
    have harmed : r.armed = r.plan.arm := by rw [PassRecord.armed, hrecorded, Bool.and_true]
    have hafter : r.after = if r.plan.scaleToZero || r.verdict.captured then
        setForsaken stored (time.stored t) r.plan else clearForsaken read stored r.plan := by
      rw [← hr, haccepted]
      rfl
    split at hafter
    · exact effect_of_set hr hread hbefore harmed hafter
    rename_i hclears
    rw [Bool.or_eq_true, not_or, Bool.not_eq_true] at hclears
    refine effect_of_clear (by rw [← hr]; rfl) hbefore ?_ hclears.1 hafter
    rw [harmed, ← Bool.not_eq_true]
    intro harm
    rw [(pass_arm_le hr harm).2] at hclears
    cases hclears.1

variable {status : Status}

/-- A release that is due stays so. -/
theorem releaseDue_mono {now later : ℤ} (hle : now ≤ later) (h : releaseDue dangerous status now = true) :
    releaseDue dangerous status later = true := by
  rw [releaseDue, Option.any_eq_true] at h ⊢
  obtain ⟨since, hsome, hdue⟩ := h
  rw [decide_eq_true_iff] at hdue
  exact ⟨since, hsome, decide_eq_true ⟨hdue.1, by omega⟩⟩

/-- Whether a release is due depends on the marker and the counter alone. -/
theorem ReadsMarker.releaseDue_eq (h : ReadsMarker read stored) (now : ℤ) :
    releaseDue dangerous read now = releaseDue dangerous stored now := by
  rw [releaseDue, releaseDue, h.marker, h.attempts]

/-- After the last attempt no release is due. -/
theorem releaseDue_latched (hlatched : attemptLimit dangerous ≤ status.attempts) (now : ℤ) :
    releaseDue dangerous status now = false := by
  rw [← Bool.not_eq_true, releaseDue, Option.any_eq_true]
  rintro ⟨since, -, hdue⟩
  rw [decide_eq_true_iff] at hdue
  omega

/-- After the last attempt no pod is asked for. -/
theorem sentinelDesiredReplicas_latched (hsome : status.quarantinedSince.isSome = true)
    (hlatched : attemptLimit dangerous ≤ status.attempts) (now : ℤ) :
    sentinelDesiredReplicas dangerous status now = (0, 0) := by
  obtain ⟨since, hsince⟩ := isSome_iff_exists.mp hsome
  simp only [sentinelDesiredReplicas, planQuarantine, hsince, if_pos hlatched, if_true]

end Pass

/-- What holds along every run in which releases come first. -/
structure Kept (dangerous : Bool) (s : State) : Prop where
  nonneg : 0 ≤ s.status.attempts
  le : s.status.attempts ≤ attemptLimit dangerous
  unarmed : s.status.quarantinedSince = none → s.status.attempts < attemptLimit dangerous
  tallied : ∀ between earlier, s.log = between ++ earlier →
    (∀ r ∈ between, r.read.running = false) →
      (between.countP PassRecord.armed : ℤ) ≤ s.status.attempts
  latched : ∀ recent between earlier, s.log = recent ++ between ++ earlier →
    (∀ r ∈ between, r.read.running = false) →
      (between.countP PassRecord.armed : ℤ) = attemptLimit dangerous →
        s.status.attempts = attemptLimit dangerous
  released : released s.log = true →
    s.status.quarantinedSince = none ∨ releaseDue dangerous s.status s.clock = true
  accounted : Accounted (attemptLimit dangerous) s.log

section Step

variable {dangerous : Bool} {time : StoredTime} {s s' : State} {read : Status} {desiredAt now t : ℤ}
  {sight : Sight} {accepted : Bool} {r : PassRecord}

namespace Kept

section Pass

variable (h : Kept dangerous s) (hr : pass dangerous time read s.status desiredAt now t sight accepted = r)
  (hread : ReadsMarker read s.status)

include h hr hread

/-- A pass keeps the counter within its bounds, and below the limit without a marker. -/
theorem pass_bounds :
    0 ≤ r.after.attempts ∧ r.after.attempts ≤ attemptLimit dangerous ∧
      (r.after.quarantinedSince = none → r.after.attempts < attemptLimit dangerous) := by
  have hbefore : r.before = s.status := by rw [← hr]; rfl
  have hlimit : 0 < attemptLimit dangerous := by cases dangerous <;> decide
  obtain ⟨hnonneg, hle, hunarmed⟩ := And.intro h.nonneg (And.intro h.le h.unarmed)
  rw [← hbefore] at hnonneg hle hunarmed
  cases pass_effect hr hread with
  | arms hnone _ hmarker hattempts =>
    have hlt := hunarmed hnone
    refine ⟨by omega, by omega, fun hafter => ?_⟩
    rw [hafter] at hmarker
    cases hmarker
  | keeps _ hmarker hattempts =>
    rw [hmarker, hattempts]
    exact ⟨hnonneg, hle, hunarmed⟩
  | releases _ hclear _ hattempts =>
    have hlt : r.before.attempts < attemptLimit dangerous := by
      by_contra hlatched
      rw [pass_clear hr, releaseDue_latched (by rw [hread.attempts, ← hbefore]; omega)] at hclear
      cases hclear
    exact ⟨by omega, by omega, fun _ => by omega⟩
  | resets _ _ _ _ hattempts => exact ⟨by omega, by omega, fun _ => by omega⟩

/-- The counter covers the armings since the instance was last found running. -/
theorem pass_tallied {between earlier : List PassRecord} (hlog : r :: s.log = between ++ earlier)
    (hrunning : ∀ r ∈ between, r.read.running = false) :
    (between.countP PassRecord.armed : ℤ) ≤ r.after.attempts := by
  have hbefore : r.before = s.status := by rw [← hr]; rfl
  cases between with
  | nil => exact (h.pass_bounds hr hread).1
  | cons newest between =>
    obtain ⟨rfl, hrest⟩ := List.cons.inj hlog
    rw [forall_mem_cons] at hrunning
    have htallied := h.tallied between earlier hrest hrunning.2
    rw [← hbefore] at htallied
    rw [countP_cons]
    cases pass_effect hr hread with
    | arms _ harmed _ hattempts =>
      rw [if_pos harmed]
      push_cast
      omega
    | keeps harmed _ hattempts | releases harmed _ _ hattempts =>
      rw [harmed, hattempts]
      simpa using htallied
    | resets _ _ hfound _ _ =>
      rw [hrunning.1] at hfound
      cases hfound

/-- Once the attempts are used up, a pass leaves the instance at no pods. -/
theorem pass_stays (hlatched : s.status.attempts = attemptLimit dangerous) :
    r.after.attempts = attemptLimit dangerous ∧ r.replicas = (0, 0) := by
  have hbefore : r.before = s.status := by rw [← hr]; rfl
  have hmarked : s.status.quarantinedSince ≠ none := fun hnone => by
    have hlt := h.unarmed hnone
    omega
  have hsome : read.quarantinedSince.isSome = true := by
    rw [hread.marker]
    exact ne_none_iff_isSome.mp hmarked
  have hlimit : attemptLimit dangerous ≤ read.attempts := by rw [hread.attempts, hlatched]
  obtain ⟨hclear, hscale, -⟩ := pass_armed hr hsome
  rw [releaseDue_latched hlimit] at hclear
  constructor
  · cases pass_effect hr hread with
    | arms hnone _ _ _ => exact absurd (hbefore ▸ hnone) hmarked
    | keeps _ _ hattempts => rw [hattempts, hbefore, hlatched]
    | releases _ hclear' _ _ =>
      rw [hclear] at hclear'
      cases hclear'
    | resets _ hscale' _ _ _ =>
      rw [hscale, hclear] at hscale'
      cases hscale'
  · rw [← hr]
    exact sentinelDesiredReplicas_latched hsome hlimit desiredAt

/-- A pass that does not come to the verdict while a release is due keeps the accounts right. -/
theorem pass_accounted (hnow : s.clock ≤ now)
    (hfirst : r.reachesVerdict = true → releaseDue dangerous s.status now = false) :
    Accounted (attemptLimit dangerous) (r :: s.log) := by
  refine ⟨forall_mem_cons.mpr ⟨fun hverdict => ?_, h.accounted.scales⟩, ?_, ?_⟩
  · cases hmarker : read.quarantinedSince with
    | none => rw [(pass_unarmed hr hmarker).1, hverdict]
    | some since =>
      obtain ⟨hclear, hscale, -⟩ := pass_armed hr (by rw [hmarker]; rfl)
      rw [hscale, hclear, hread.releaseDue_eq, hfirst hverdict]
      rfl
  · intro recent r' earlier hlog hverdict hreleased
    cases recent with
    | cons newest recent =>
      exact h.accounted.counts recent r' earlier (List.cons.inj hlog).2 hverdict hreleased
    | nil =>
      obtain ⟨rfl, rfl⟩ := List.cons.inj hlog
      -- The release has reached the status, since otherwise it would still be due.
      have hnone : s.status.quarantinedSince = none := by
        refine (h.released hreleased).resolve_right fun hdue => ?_
        rw [releaseDue_mono hnow hdue] at hfirst
        cases hfirst hverdict
      have harm : r.plan.arm = true := by rw [(pass_unarmed hr (hread.marker.trans hnone)).2.1, hverdict]
      refine ⟨harm, fun hrecorded => ?_⟩
      have harmed : r.armed = true := by rw [PassRecord.armed, harm, hrecorded]; rfl
      cases pass_effect hr hread with
      | arms _ _ _ hattempts => exact hattempts
      | keeps hunarmed | releases hunarmed | resets hunarmed =>
        rw [harmed] at hunarmed
        cases hunarmed
  · intro recent between earlier hlog hrunning
    cases recent with
    | nil =>
      exact ⟨Int.le_trans (h.pass_tallied hr hread hlog hrunning) (h.pass_bounds hr hread).2.1,
        fun _ r' hr' => by cases hr'⟩
    | cons newest recent =>
      obtain ⟨rfl, hrest⟩ := List.cons.inj hlog
      obtain ⟨hle, hstay⟩ := h.accounted.bounded recent between earlier hrest hrunning
      refine ⟨hle, fun hall => forall_mem_cons.mpr ⟨?_, hstay hall⟩⟩
      exact (h.pass_stays hr hread (h.latched recent between earlier hrest hrunning hall)).2

theorem pass (hnow : s.clock ≤ now) (ht : now ≤ t)
    (hfirst : r.reachesVerdict = true → releaseDue dangerous s.status now = false) :
    Kept dangerous ⟨r.after, t, r :: s.log⟩ := by
  have hbefore : r.before = s.status := by rw [← hr]; rfl
  obtain ⟨hnonneg, hle, hunarmed⟩ := h.pass_bounds hr hread
  refine ⟨hnonneg, hle, hunarmed, fun between earlier => h.pass_tallied hr hread, ?_, ?_,
    h.pass_accounted hr hread hnow hfirst⟩
  · intro recent between earlier hlog hrunning hall
    cases recent with
    | nil =>
      refine Int.le_antisymm hle ?_
      rw [← hall]
      exact h.pass_tallied hr hread hlog hrunning
    | cons newest recent =>
      obtain ⟨rfl, hrest⟩ := List.cons.inj hlog
      exact (h.pass_stays hr hread (h.latched recent between earlier hrest hrunning hall)).1
  · intro hreleased
    have hdue := pass_clear hr
    rw [hread.releaseDue_eq] at hdue
    rw [Quarantine.released, Bool.or_eq_true, Bool.and_eq_true] at hreleased
    cases pass_effect hr hread with
    | arms hnone harmed _ _ =>
      rw [releaseDue, ← hbefore, hnone] at hdue
      rw [hdue, harmed] at hreleased
      rcases hreleased with hreleased | ⟨hreleased, -⟩ <;> cases hreleased
    | keeps _ hmarker hattempts =>
      rw [hbefore] at hmarker hattempts
      have hsame : ReadsMarker r.after s.status := ⟨hmarker, hattempts⟩
      rw [hmarker, hsame.releaseDue_eq]
      rcases hreleased with hclear | ⟨-, hreleased⟩
      · exact .inr (releaseDue_mono ht (hdue.symm.trans hclear))
      · exact (h.released hreleased).imp_right (releaseDue_mono (Int.le_trans hnow ht))
    | releases _ _ hmarker | resets _ _ _ hmarker => exact .inl hmarker

end Pass

end Kept

/-- The invariant holds of an instance that was never captured. -/
theorem kept_initial (dangerous running : Bool) (clock : ℤ) :
    Kept dangerous ⟨⟨none, none, 0, running, false⟩, clock, []⟩ := by
  have hlimit : 0 < attemptLimit dangerous := by cases dangerous <;> decide
  have hnone : ∀ between earlier : List PassRecord, [] = between ++ earlier →
      (between.countP PassRecord.armed : ℤ) = 0 := by
    intro between earlier hlog
    rw [(append_eq_nil_iff.mp hlog.symm).1]
    rfl
  have hparts : ∀ recent between earlier : List PassRecord, [] = recent ++ between ++ earlier →
      recent = [] ∧ (between.countP PassRecord.armed : ℤ) = 0 := by
    intro recent between earlier hlog
    rw [append_assoc] at hlog
    obtain ⟨hrecent, hrest⟩ := append_eq_nil_iff.mp hlog.symm
    exact ⟨hrecent, hnone between earlier hrest.symm⟩
  refine ⟨Int.le_refl 0, Int.le_of_lt hlimit, fun _ => hlimit, ?_, ?_, fun _ => .inl rfl, by simp, ?_, ?_⟩
  · intro between earlier hlog _
    exact Int.le_of_eq (hnone between earlier hlog)
  · intro recent between earlier hlog _ hall
    rwa [(hparts recent between earlier hlog).2] at hall
  · intro recent r earlier hlog
    simp at hlog
  · intro recent between earlier hlog _
    obtain ⟨rfl, hcount⟩ := hparts recent between earlier hlog
    rw [hcount]
    exact ⟨Int.le_of_lt hlimit, fun _ r hr => by cases hr⟩

/-- Every step that meets the condition keeps the invariant. -/
theorem kept_step {a : Label} (h : Kept dangerous s) (hfirst : ReleasedFirst dangerous time s a)
    (hstep : (quarantineSystem dangerous time).step s a = some s') : Kept dangerous s' := by
  cases a with
  | pass read desiredAt now t sight accepted =>
    obtain ⟨hclock, rfl⟩ := of_ite_some hstep
    exact h.pass rfl hfirst.1 (Int.le_trans hclock.1 hclock.2.1) hclock.2.2 hfirst.2
  | writePhase running =>
    cases hstep
    exact ⟨h.nonneg, h.le, h.unarmed, h.tallied, h.latched, h.released, h.accounted⟩

/-- The invariant holds along every run that meets the condition. -/
theorem kept_of_reachable (h : (quarantineSystem dangerous time).Reachable (ReleasedFirst dangerous time) s) :
    Kept dangerous s := by
  refine h.invariant (Kept dangerous) ?_ fun _ _ _ hkept hfirst hstep => kept_step hkept hfirst hstep
  rintro s ⟨running, clock, rfl⟩
  exact kept_initial dangerous running clock

/-- A pass that takes the pods away on its verdict has no release due. -/
theorem releasedFirst_of_scales (hr : pass dangerous time read s.status desiredAt now t sight accepted = r)
    (hread : ReadsMarker read s.status) (hscales : r.reachesVerdict = true → r.plan.scaleToZero = true)
    (hverdict : r.reachesVerdict = true) : releaseDue dangerous s.status now = false := by
  rw [← hread.releaseDue_eq]
  cases hmarker : read.quarantinedSince with
  | none =>
    rw [releaseDue, hmarker]
    rfl
  | some since =>
    obtain ⟨hclear, hscale, -⟩ := pass_armed hr (by rw [hmarker]; rfl)
    rw [← hclear, ← Bool.not_eq_true', ← hscale]
    exact hscales hverdict

/-- The accounts hold along every run that is released first, and the first verdict while a release
is due breaks them. -/
theorem accounted_iff_releasedFirst
    (h : (quarantineSystem dangerous time).Reachable (ReleasedFirst dangerous time) s) :
    Accounted (attemptLimit dangerous) s.log ∧
      ∀ a s', (quarantineSystem dangerous time).step s a = some s' → ReadsCurrent s a →
        (Accounted (attemptLimit dangerous) s'.log ↔ ReleasedFirst dangerous time s a) := by
  have hkept := kept_of_reachable h
  refine ⟨hkept.accounted, fun a s' hstep hread =>
    ⟨fun haccounted => ?_, fun hfirst => (kept_step hkept hfirst hstep).accounted⟩⟩
  cases a with
  | pass read desiredAt now t sight accepted =>
    simp only [quarantineSystem, step] at hstep
    split at hstep <;> cases hstep
    exact ⟨hread, releasedFirst_of_scales rfl hread (haccounted.scales _ mem_cons_self)⟩
  | writePhase running => trivial

end Step

section Examples

def capturedSight : Sight := ⟨capturedPair true [] [], false, ∅⟩

def awaySight : Sight := ⟨⟨∅, ∅, [], [], "", false, false⟩, false, ∅⟩

/-- A pass that reads the stored status, all at one time. -/
def passAt (seconds : ℤ) (sight : Sight) (accepted : Bool) : State → Label :=
  let t := seconds * 1000000000
  fun s => .pass s.status t t t sight accepted

def uncaptured : State := ⟨⟨none, none, 0, true, false⟩, 0, []⟩

theorem uncaptured_initial (dangerous : Bool) (time : StoredTime) :
    (quarantineSystem dangerous time).initial uncaptured := ⟨true, 0, rfl⟩

def recaptured : State :=
  ((quarantineSystem false .wholeSeconds).driveIf (ReleasedFirst false .wholeSeconds) uncaptured
    [passAt 0 capturedSight true, fun _ => .writePhase false, passAt 30 capturedSight true,
      passAt 31 awaySight true, passAt 151 awaySight true, passAt 181 capturedSight true,
      passAt 211 capturedSight true]).get (by decide)

/-- Both captures are counted. -/
theorem recaptured_accounted :
    Accounted (attemptLimit false) recaptured.log ∧ recaptured.log.countP PassRecord.armed = 2 ∧
      recaptured.status.attempts = 2 :=
  ⟨(accounted_iff_releasedFirst (.of_moves (uncaptured_initial _ _) (by decide))).1, by decide, by decide⟩

/-- The release is not recorded before the next capture. -/
def unreleased : State :=
  ((quarantineSystem false .wholeSeconds).driveIf System.anyStep uncaptured
    [passAt 0 capturedSight true, fun _ => .writePhase false, passAt 30 capturedSight true,
      passAt 151 awaySight false, passAt 181 capturedSight true]).get (by decide)

/-- The second capture comes to the verdict without a risk, and the pods are not taken away. -/
theorem unreleased_unaccounted :
    (quarantineSystem false .wholeSeconds).Reachable System.anyStep unreleased ∧
      ¬ Accounted (attemptLimit false) unreleased.log := by
  refine ⟨.of_moves (uncaptured_initial _ _) (by decide), fun h => ?_⟩
  have hscales : ∀ r ∈ unreleased.log, r.reachesVerdict = true → r.plan.scaleToZero = true := h.scales
  exact absurd hscales (by decide)

end Examples

end LittleRed.Replication.Quarantine
