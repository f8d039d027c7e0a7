import LittleRed.Replication.Capture

/-!
# The quarantine of a captured instance

A capture that has persisted is a verdict, and a captured instance whose pods hold no data of its own is
scaled to zero. A marker in the status holds the quarantine, because the signature goes with the pods;
after a settling period they come back, and a counter bounds how often.
-/

namespace LittleRed.Replication

open Lib List

/-- How long the signature has to persist before it is a verdict, in nanoseconds. -/
def forsakenCooldown : ℤ := 30 * 1000000000

/-- The verdict on a capture: the signature is there, it has persisted, and where it points to. -/
structure ForsakenPlan where
  captured : Bool := false
  forsaken : Bool := false
  foreignMaster : String := ""
  deriving DecidableEq

/-- Whether the instance is captured; a new capture is not called one while pods are being replaced. -/
def planForsaken (state : ReplicationState) (since : Option ℤ) (now : ℤ) (rolling : Bool) :
    ForsakenPlan :=
  let (captured, foreign) := forsakenSignature state
  if rolling && since.isNone then {}
  else if !captured then {}
  else
    { captured := true
      forsaken := since.any fun t => decide (forsakenCooldown ≤ now - t)
      foreignMaster := foreign }

/-- What is decided about a quarantine. -/
inductive QuarantinePhase where
  | none
  | holdSuspected
  | holdDataPresent
  | holdDataUnknown
  | start
  | settling
  | release
  | latched
  deriving DecidableEq

def quarantineSettlePeriod : ℤ := 120 * 1000000000

/-- How often an instance is quarantined before it stays so. -/
def quarantineAttemptLimit : ℤ := 2

/-- The same for an instance whose own configuration invites the next capture. -/
def quarantineAttemptLimitDangerous : ℤ := 1

/-- What the decision reads: the verdict of the pass, the risks to data, the status and the clock. -/
structure QuarantineInput where
  captured : Bool := false
  forsaken : Bool := false
  dataAtRisk : Bool := false
  dataUnverified : Bool := false
  quarantinedSince : Option ℤ
  attempts : ℤ
  dangerous : Bool
  now : ℤ

/-- The decision: whether the pods are taken away, and what is to be written to the status. -/
structure QuarantinePlan where
  phase : QuarantinePhase
  scaleToZero : Bool := false
  arm : Bool := false
  clear : Bool := false
  nextAttempts : ℤ
  attemptLimit : ℤ
  deriving DecidableEq

/-- How many quarantines there may be. -/
def attemptLimit (dangerous : Bool) : ℤ :=
  if dangerous then quarantineAttemptLimitDangerous else quarantineAttemptLimit

/-- The decision about the quarantine. One that is in force is decided from the marker alone. -/
def planQuarantine (input : QuarantineInput) : QuarantinePlan :=
  let limit := attemptLimit input.dangerous
  let plan (phase : QuarantinePhase) : QuarantinePlan :=
    { phase := phase, nextAttempts := input.attempts, attemptLimit := limit }
  match input.quarantinedSince with
  | some since =>
    if limit ≤ input.attempts then { plan .latched with scaleToZero := true }
    else if input.now - since < quarantineSettlePeriod then { plan .settling with scaleToZero := true }
    else { plan .release with clear := true }
  | none =>
    if !input.captured then plan .none
    else if input.dataAtRisk then plan .holdDataPresent
    else if input.dataUnverified then plan .holdDataUnknown
    else if !input.forsaken then plan .holdSuspected
    else
      { plan .start with
        scaleToZero := true
        arm := true
        nextAttempts := input.attempts + 1 }

/-- The decision of a pass, from its verdict and from what it knows about the data. -/
def quarantineOf (state : ReplicationState) (forsakenSince : Option ℤ) (now : ℤ) (rolling : Bool)
    (redisReady : GoMap String Bool) (quarantinedSince : Option ℤ) (attempts : ℤ) (dangerous : Bool) :
    QuarantinePlan :=
  let verdict := planForsaken state forsakenSince now rolling
  let risk := quarantineDataRisk state verdict.foreignMaster redisReady
  planQuarantine
    { captured := verdict.captured
      forsaken := verdict.forsaken
      dataAtRisk := risk.1
      dataUnverified := risk.2
      quarantinedSince := quarantinedSince
      attempts := attempts
      dangerous := dangerous
      now := now }

/-- Without a marker the pods are taken away on a verdict without a risk, which arms. -/
theorem planQuarantine_unarmed (input : QuarantineInput) (hnone : input.quarantinedSince = none) :
    ((planQuarantine input).scaleToZero = true ↔ input.captured = true ∧ input.dataAtRisk = false ∧
        input.dataUnverified = false ∧ input.forsaken = true) ∧
      (planQuarantine input).arm = (planQuarantine input).scaleToZero := by
  simp only [planQuarantine, hnone]
  cases input.captured <;> cases input.dataAtRisk <;> cases input.dataUnverified <;>
    cases input.forsaken <;> simp

variable {state : ReplicationState}

/-- The verdict needs a capture that was seen for the cooldown. -/
theorem planForsaken_forsaken {since : Option ℤ} {now : ℤ} {rolling : Bool}
    (h : (planForsaken state since now rolling).forsaken = true) :
    (∃ t, since = some t ∧ forsakenCooldown ≤ now - t) ∧
      Captured state (planForsaken state since now rolling).foreignMaster := by
  simp only [planForsaken] at h ⊢
  split at h
  · cases h
  split at h
  · cases h
  rename_i hrolling hcaptured
  rw [if_neg hrolling, if_neg hcaptured]
  rw [Bool.not_eq_true, Bool.not_eq_false'] at hcaptured
  refine ⟨?_, (forsakenSignature_eq_true_iff state _).mp (Prod.ext hcaptured rfl)⟩
  cases since with
  | none => cases h
  | some t => exact ⟨t, rfl, by simpa using h⟩

/-- The pod holds no keys, or a copy of the captor's, or is known to be down. -/
inductive Expendable (redisReady : GoMap String Bool) (foreign : String) (rn : RedisNodeState) : Prop
  | empty (hanswered : rn.reachable = true) (hkeys : rn.keys ≤ 0)
  | copied (hanswered : rn.reachable = true) (hkeys : 0 < rn.keys) (hrole : rn.role ≠ roleMaster)
      (hhost : rn.masterHost = foreign) (hlink : rn.linkStatus = "up")
  | down (hsilent : rn.reachable = false) (hrefused : rn.probeFailure ≠ .authFailed)
      (hready : redisReady.lookup rn.podName = some false)

/-- Without a risk every pod is expendable. -/
theorem expendable_of_noRisk {foreign : String} {redisReady : GoMap String Bool}
    (hcaptured : Captured state foreign) (hrisk : (quarantineDataRisk state foreign redisReady).1 = false)
    (hunverified : (quarantineDataRisk state foreign redisReady).2 = false) {rn : RedisNodeState}
    (hrn : rn ∈ state.redisNodes.values) : Expendable redisReady foreign rn := by
  have hsafe := any_eq_false.mp hrisk rn hrn
  have hverified := any_eq_false.mp hunverified rn hrn
  cases hreach : rn.reachable with
  | true =>
    by_cases hkeys : 0 < rn.keys
    · have hcopy : foreign ≠ "" ∧ rn.masterHost = foreign ∧ rn.linkStatus = "up" := by
        simpa [hreach, hkeys, and_assoc] using hsafe
      exact .copied hreach hkeys (hcaptured.noMaster rn hrn hreach) hcopy.2.1 hcopy.2.2
    · exact .empty hreach (Int.not_lt.mp hkeys)
  | false =>
    have hdown : rn.unprovablyEmpty = false ∧ redisReady.lookup rn.podName = some false := by
      simpa [hreach] using hverified
    refine .down hreach ?_ hdown.2
    simpa [RedisNodeState.unprovablyEmpty, hreach] using hdown.1

/-- Pods are first taken away only after a long capture by one alien address that at least two Sentinels
serve, and when every pod is expendable. -/
theorem quarantineOf_sparesData (state : ReplicationState) (forsakenSince : Option ℤ) (now : ℤ)
    (rolling : Bool) (redisReady : GoMap String Bool) (attempts : ℤ) (dangerous : Bool)
    (hscale : (quarantineOf state forsakenSince now rolling redisReady none attempts
      dangerous).scaleToZero = true) :
    (∃ t, forsakenSince = some t ∧ forsakenCooldown ≤ now - t) ∧
      2 ≤ state.sentinelNodes.values.countP (·.speaks) ∧ ∃ foreign, foreign ∉ state.ownedIPs ∧
        (∀ sn ∈ state.sentinelNodes.values, sn.reachable = true →
          ∀ m ∈ monitoredAddresses sn, m.ip = foreign) ∧
        ∀ rn ∈ state.redisNodes.values, Expendable redisReady foreign rn := by
  obtain ⟨-, hrisk, hunverified, hforsaken⟩ := (planQuarantine_unarmed _ rfl).1.mp hscale
  obtain ⟨hold, hcaptured⟩ := planForsaken_forsaken hforsaken
  refine ⟨hold, hcaptured.spoken, (planForsaken state forsakenSince now rolling).foreignMaster, ?_, ?_,
    fun rn hrn => expendable_of_noRisk hcaptured hrisk hunverified hrn⟩
  · obtain ⟨m, hm⟩ := exists_mem_observations (Nat.lt_of_lt_of_le (by decide) hcaptured.spoken)
    obtain ⟨hip, hknown, hours, -⟩ := hcaptured.agreed m hm
    rw [← hip]
    simpa [ReplicationState.isOurs, hknown] using hours
  · intro sn hsn hreach m hm
    exact (hcaptured.agreed m (mem_flatMap.mpr ⟨sn, mem_filter.mpr ⟨hsn, hreach⟩, hm⟩)).1

/-- The captured pair, whose pods hold no keys, is scaled to zero half a minute after its capture. -/
theorem capturedPair_quarantined :
    let state := capturedPair true [] []
    (quarantineOf state (some 0) forsakenCooldown false ∅ none 0 true).scaleToZero = true ∧
      ∃ foreign, foreign ∉ state.ownedIPs ∧
        ∀ rn ∈ state.redisNodes.values, Expendable ∅ foreign rn := by
  intro state
  have hscale : (quarantineOf state (some 0) forsakenCooldown false ∅ none 0 true).scaleToZero = true := by
    decide
  obtain ⟨-, -, foreign, hforeign, -, hpods⟩ :=
    quarantineOf_sparesData state (some 0) forsakenCooldown false ∅ 0 true hscale
  exact ⟨hscale, foreign, hforeign, hpods⟩

end LittleRed.Replication
