import LittleRed.Replication.StaleNames

/-!
# Pruning stale master names

The plan that removes stale names is executed Sentinel by Sentinel. It aims only at Sentinels that keep the
desired name, and at names that are debris of the instance itself. When all calls succeed the next plan
removes nothing.
-/

namespace LittleRed.Replication

open Lib List

/-- How the calls end: what a Sentinel answers about a name, and whether it removes one. -/
structure SentinelCalls where
  isMonitoring : String → String → Option Bool
  remove : String → String → Bool

/-- A name that the Sentinel at an address removed. -/
structure Removal where
  sentinelIP : String
  name : String
  deriving DecidableEq

/-- Execute one entry of the plan; a failed `REMOVE` does not keep the others from being tried. -/
def pruneEntry (calls : SentinelCalls) (desired : String) (done : List String × List Removal)
    (entry : StaleEntry) : List String × List Removal :=
  if calls.isMonitoring entry.sentinelIP desired ≠ some true then
    (done.1 ++ [entry.sentinelPod], done.2)
  else
    let removed := entry.names.filter (calls.remove entry.sentinelIP)
    (done.1, done.2 ++ removed.map (⟨entry.sentinelIP, ·⟩))

/-- Execute a plan: the pods that did not confirm the desired name, and what was removed. -/
def executeStaleMasterNamePrune (calls : SentinelCalls) (desired : String) (plan : StaleMasterNamePlan) :
    List String × List Removal :=
  if plan.reason ≠ .pruning then ([], [])
  else plan.prune.foldl (pruneEntry calls desired) ([], [])

namespace SentinelNodeState

variable (desired : String) (sn : SentinelNodeState)

/-- The names that a Sentinel lists beside the desired one. -/
def staleNames : List String := (sn.monitoredMasters.map (·.name)).filter (· ≠ desired)

def lists : Bool := sn.monitoredMasters.any (·.name == desired)

/-- The Sentinel is part of the plan: it lists the desired name and others. -/
def planned : Bool := sn.reachable && sn.lists desired && !(sn.staleNames desired).isEmpty

/-- The Sentinel is skipped: it lists other names, but not yet the desired one. -/
def waits : Bool := sn.reachable && !sn.lists desired && !(sn.staleNames desired).isEmpty

def staleEntry : StaleEntry := ⟨sn.ip, sn.podName, (sn.staleNames desired).insertionSort (· ≤ ·)⟩

/-- The Sentinel without the removed names. -/
def afterRemovals (removals : List Removal) : SentinelNodeState :=
  if sn.planned desired then
    { sn with monitoredMasters := sn.monitoredMasters.filter fun m => !removals.contains ⟨sn.ip, m.name⟩ }
  else sn

end SentinelNodeState

/-- The state after some removals from the planned Sentinels. -/
def afterPrune (desired : String) (removals : List Removal) (state : ReplicationState) :
    ReplicationState :=
  { state with
    sentinelNodes := state.sentinelNodes.mapValues fun _ sn => sn.afterRemovals desired removals }

/-- A stale name at an address that is alive and not of the instance. -/
def suspicious (state : ReplicationState) (desired : String) (m : MonitoredMaster) : Bool :=
  m.name != desired && (!state.isOurs m.ip && !flaggedDown m.flags)

/-- A suspicious name with its address. -/
def describeSuspicious (m : MonitoredMaster) : String :=
  quoteText m.name ++ " (at " ++ addrOrUnknown m.ip ++ ")"

/-- What the reachable Sentinels monitor. -/
def listedMasters (nodes : List SentinelNodeState) : List MonitoredMaster :=
  (nodes.filter (·.reachable)).flatMap (·.monitoredMasters)

/-- One survey after the other. -/
def StaleSurvey.add (a b : StaleSurvey) : StaleSurvey where
  entries := a.entries ++ b.entries
  skipped := a.skipped ++ b.skipped
  allStale := a.allStale ++ b.allStale
  failoverUnder := a.failoverUnder ++ b.failoverUnder
  foreign := a.foreign ++ b.foreign
  unattributable := a.unattributable ++ b.unattributable

theorem StaleSurvey.add_assoc (a b c : StaleSurvey) : (a.add b).add c = a.add (b.add c) := by
  simp [StaleSurvey.add]

/-- The survey of some masters. -/
def surveyOfMasters (state : ReplicationState) (desired : String) (rolling : Bool)
    (masters : List MonitoredMaster) : StaleSurvey where
  allStale := (masters.map (·.name)).filter (· ≠ desired)
  failoverUnder := (masters.filter (·.failoverInProgress)).map (·.name)
  foreign := if rolling then [] else (masters.filter (suspicious state desired)).map describeSuspicious
  unattributable :=
    if rolling then (masters.filter (suspicious state desired)).map describeSuspicious else []

/-- The survey of some Sentinels. -/
def surveyOf (state : ReplicationState) (desired : String) (rolling : Bool)
    (nodes : List SentinelNodeState) : StaleSurvey :=
  { surveyOfMasters state desired rolling (listedMasters nodes) with
    entries := (nodes.filter (·.planned desired)).map (·.staleEntry desired)
    skipped := (nodes.filter (·.waits desired)).map (·.podName) }

section SurveyForm

variable (state : ReplicationState) (desired : String) (rolling : Bool)

/-- The turn of the loop over masters adds the survey of one. -/
theorem surveyMaster_eq (survey : StaleSurvey) (names : List String) (hasDesired : Bool)
    (m : MonitoredMaster) :
    surveyMaster state desired rolling (survey, names, hasDesired) m =
      (survey.add (surveyOfMasters state desired rolling [m]),
        names ++ [m.name].filter (· ≠ desired), hasDesired || m.name == desired) := by
  by_cases hname : m.name = desired
  · cases hfailover : m.failoverInProgress <;> cases rolling <;>
      simp [surveyMaster, surveyOfMasters, StaleSurvey.add, suspicious, hname, hfailover]
  · cases hfailover : m.failoverInProgress <;> cases rolling <;>
      cases hours : state.isOurs m.ip <;> cases hdown : flaggedDown m.flags <;>
      simp [surveyMaster, surveyOfMasters, StaleSurvey.add, suspicious, describeSuspicious, hname,
        hfailover, hours, hdown]

/-- The survey of masters, part by part. -/
theorem surveyOfMasters_append (masters rest : List MonitoredMaster) :
    surveyOfMasters state desired rolling (masters ++ rest) =
      (surveyOfMasters state desired rolling masters).add (surveyOfMasters state desired rolling rest) := by
  cases rolling <;> simp [surveyOfMasters, StaleSurvey.add]

/-- The loop over masters is their survey. -/
theorem foldl_surveyMaster (masters : List MonitoredMaster) (survey : StaleSurvey)
    (names : List String) (hasDesired : Bool) :
    masters.foldl (surveyMaster state desired rolling) (survey, names, hasDesired) =
      (survey.add (surveyOfMasters state desired rolling masters),
        names ++ (masters.map (·.name)).filter (· ≠ desired),
        hasDesired || masters.any (·.name == desired)) := by
  induction masters generalizing survey names hasDesired with
  | nil => simp [surveyOfMasters, StaleSurvey.add]
  | cons m rest ih =>
    rw [foldl_cons, surveyMaster_eq, ih, StaleSurvey.add_assoc, ← surveyOfMasters_append,
      append_assoc, ← filter_append, Bool.or_assoc]
    rfl

/-- The turn of the loop over Sentinels adds the survey of one. -/
theorem surveySentinel_eq (survey : StaleSurvey) (sn : SentinelNodeState) :
    surveySentinel state desired rolling survey sn = survey.add (surveyOf state desired rolling [sn]) := by
  have hform : surveySentinel state desired rolling survey sn =
      if !sn.reachable then survey
      else
        let found := survey.add (surveyOfMasters state desired rolling sn.monitoredMasters)
        if (sn.staleNames desired).length = 0 then found
        else if !sn.lists desired then { found with skipped := found.skipped ++ [sn.podName] }
        else { found with entries := found.entries ++ [sn.staleEntry desired] } := by
    rw [surveySentinel, foldl_surveyMaster]
    rfl
  rw [hform]
  cases hreach : sn.reachable with
  | false =>
    simp [surveyOf, surveyOfMasters, listedMasters, StaleSurvey.add, SentinelNodeState.planned,
      SentinelNodeState.waits, hreach]
  | true =>
    cases hstale : sn.staleNames desired with
    | nil =>
      simp [surveyOf, surveyOfMasters, listedMasters, StaleSurvey.add, SentinelNodeState.planned,
        SentinelNodeState.waits, hreach, hstale]
    | cons name names =>
      cases hlists : sn.lists desired with
      | false | true =>
        simp [surveyOf, surveyOfMasters, listedMasters, StaleSurvey.add, SentinelNodeState.planned,
          SentinelNodeState.waits, hreach, hstale, hlists]

/-- The survey of Sentinels, part by part. -/
theorem surveyOf_append (nodes rest : List SentinelNodeState) :
    surveyOf state desired rolling (nodes ++ rest) =
      (surveyOf state desired rolling nodes).add (surveyOf state desired rolling rest) := by
  have hlisted : listedMasters (nodes ++ rest) = listedMasters nodes ++ listedMasters rest := by
    simp [listedMasters]
  rw [surveyOf, hlisted, surveyOfMasters_append]
  simp [surveyOf, StaleSurvey.add]

/-- The loop over Sentinels is their survey. -/
theorem surveySentinels_eq :
    surveySentinels state desired rolling = surveyOf state desired rolling state.sentinelNodes.values := by
  have hfold : ∀ (nodes : List SentinelNodeState) (survey : StaleSurvey),
      nodes.foldl (surveySentinel state desired rolling) survey =
        survey.add (surveyOf state desired rolling nodes) := by
    intro nodes
    induction nodes with
    | nil => simp [surveyOf, surveyOfMasters, listedMasters, StaleSurvey.add]
    | cons sn rest ih =>
      intro survey
      rw [foldl_cons, surveySentinel_eq, ih, StaleSurvey.add_assoc, ← surveyOf_append, singleton_append]
  rw [surveySentinels, hfold]
  simp [StaleSurvey.add]

end SurveyForm

section Gates

/-- The gates before names are removed, save that of the desired name on some Sentinel. -/
structure PruneGates (state : ReplicationState) (quorum : ℤ) (survey : StaleSurvey) : Prop where
  attributable : survey.unattributable = []
  domestic : survey.foreign = []
  master : masterGate state = none
  quiet : survey.failoverUnder = []
  unreported : state.failoverReported = false
  quorate : quorum ≤ state.reachableSentinels
  reachable : state.reachableSentinels ≠ 0

variable {state : ReplicationState} {desired : String} {quorum : ℤ} {survey : StaleSurvey}

/-- Behind the gates names are removed where the desired name is. -/
theorem PruneGates.decideStaleNames_eq (h : PruneGates state quorum survey) :
    decideStaleNames state desired quorum survey =
      if (survey.entries.insertionSort (·.sentinelPod ≤ ·.sentinelPod)).length = 0 then
        deferStaleNames staleGateRule0Pending
          ("no Sentinel carries " ++ quoteText desired ++ " yet; Rule 0 registers it next pass")
          (sortedKeys survey.allStale) else pruningNames desired (sortedKeys survey.allStale)
          (survey.entries.insertionSort (·.sentinelPod ≤ ·.sentinelPod))
          (survey.skipped.insertionSort (· ≤ ·)) := by
  have hquorate : ¬((state.reachableSentinels : ℤ) < quorum ∨ state.reachableSentinels = 0) := by
    rintro (hfew | hzero)
    · exact absurd h.quorate (Int.not_le.mpr hfew)
    · exact h.reachable hzero
  simp only [decideStaleNames, h.attributable, h.domestic, h.master, h.quiet, h.unreported,
    length_nil, Nat.lt_irrefl, decide_false, Bool.or_self, Bool.false_eq_true, if_false,
    if_neg hquorate]

/-- Names are removed only behind the gates. -/
theorem pruneGates_of_pruning (h : (decideStaleNames state desired quorum survey).reason = .pruning) :
    PruneGates state quorum survey := by
  unfold decideStaleNames at h
  split at h
  · cases h
  rename_i hattributable
  split at h
  · cases h
  rename_i hdomestic
  split at h
  · cases h
  rename_i hmaster
  split at h
  · cases h
  rename_i hfailover
  split at h
  · cases h
  rename_i hquorate
  rw [Bool.or_eq_true, decide_eq_true_iff, not_or, Bool.not_eq_true] at hfailover
  rw [not_or] at hquorate
  exact ⟨eq_nil_of_length_eq_zero (Nat.eq_zero_of_not_pos hattributable),
    eq_nil_of_length_eq_zero (Nat.eq_zero_of_not_pos hdomestic), hmaster,
    eq_nil_of_length_eq_zero (Nat.eq_zero_of_not_pos hfailover.1), hfailover.2,
    Int.not_lt.mp hquorate.1, hquorate.2⟩

/-- Behind the master gate the real master answers as a master. -/
theorem master_of_masterGate (h : masterGate state = none) :
    state.realMasterIP ∈ state.liveTopologyIPs ∧
      ∃ rn, state.redisNodes.lookup state.realMasterIP = some rn ∧ rn.reachable = true ∧
        rn.role = roleMaster := by
  unfold masterGate at h
  dsimp only at h
  split at h
  · cases h
  split at h
  · cases h
  rename_i hlive
  split at h
  · cases h
  rename_i hmaster
  rw [Bool.not_eq_true', Bool.not_eq_false, contains_iff_mem] at hlive
  rw [Bool.not_eq_true', Bool.not_eq_false, Option.any_eq_true] at hmaster
  obtain ⟨rn, hlookup, hrn⟩ := hmaster
  rw [Bool.and_eq_true, beq_iff_eq] at hrn
  exact ⟨hlive, rn, hlookup, hrn⟩

end Gates

section Survey

variable {state : ReplicationState} {desired : String} {rolling : Bool} {nodes : List SentinelNodeState}

theorem mem_listedMasters {m : MonitoredMaster} :
    m ∈ listedMasters nodes ↔ ∃ sn ∈ nodes, sn.reachable = true ∧ m ∈ sn.monitoredMasters := by
  simp [listedMasters, and_assoc]

theorem surveyOf_failoverUnder_eq_nil :
    (surveyOf state desired rolling nodes).failoverUnder = [] ↔
      ∀ m ∈ listedMasters nodes, m.failoverInProgress = false := by
  simp [surveyOf, surveyOfMasters]

/-- Nothing suspicious is seen when no listed master is. -/
theorem surveyOf_suspicious_eq_nil :
    (surveyOf state desired rolling nodes).unattributable = [] ∧
        (surveyOf state desired rolling nodes).foreign = [] ↔
      ∀ m ∈ listedMasters nodes, suspicious state desired m = false := by
  cases rolling <;> simp [surveyOf, surveyOfMasters]

/-- No stale name is seen when no Sentinel has one. -/
theorem surveyOf_allStale_eq_nil :
    (surveyOf state desired rolling nodes).allStale = [] ↔
      ∀ sn ∈ nodes, sn.planned desired = false ∧ sn.waits desired = false := by
  have hstale : (surveyOf state desired rolling nodes).allStale = [] ↔
      ∀ sn ∈ nodes, sn.reachable = true → sn.staleNames desired = [] := by
    simp only [surveyOf, surveyOfMasters, filter_eq_nil_iff, forall_mem_map,
      SentinelNodeState.staleNames]
    constructor
    · intro h sn hsn hreach m hm
      exact h m (mem_listedMasters.mpr ⟨sn, hsn, hreach, hm⟩)
    · intro h m hm
      obtain ⟨sn, hsn, hreach, hlisted⟩ := mem_listedMasters.mp hm
      exact h sn hsn hreach m hlisted
  rw [hstale]
  refine forall₂_congr fun sn _ => ?_
  cases hreach : sn.reachable <;> cases hlists : sn.lists desired <;>
    simp [SentinelNodeState.planned, SentinelNodeState.waits, hreach, hlists]

end Survey

section Plan

variable {state : ReplicationState} {desired : String} {quorum : ℤ} {captured rolling : Bool}

/-- A plan that removes names comes from a survey behind the gates. -/
theorem planStaleMasterNames_of_pruning
    (h : (planStaleMasterNames (some state) desired quorum captured rolling).reason = .pruning) :
    captured = false ∧ desired ≠ "" ∧
      ∃ survey, survey = surveyOf state desired rolling state.sentinelNodes.values ∧
        PruneGates state quorum survey ∧ planStaleMasterNames (some state) desired quorum captured rolling =
          pruningNames desired (sortedKeys survey.allStale)
            (survey.entries.insertionSort (·.sentinelPod ≤ ·.sentinelPod))
            (survey.skipped.insertionSort (· ≤ ·)) := by
  cases captured with
  | true => cases h
  | false =>
    by_cases hdesired : desired = ""
    · simp [planStaleMasterNames, hdesired, deferStaleNames] at h
    refine ⟨rfl, hdesired, _, rfl, ?_⟩
    simp only [planStaleMasterNames, Bool.false_eq_true, if_false, if_neg hdesired,
      surveySentinels_eq] at h ⊢
    split at h
    · cases h
    rename_i hstale
    have hgates := pruneGates_of_pruning h
    rw [hgates.decideStaleNames_eq] at h ⊢
    refine ⟨hgates, ?_⟩
    rw [if_neg hstale]
    split at h
    · cases h
    · rename_i hentries
      rw [if_neg hentries]

/-- Without a planned Sentinel the plan waits for the desired name. -/
theorem planStaleMasterNames_of_gates (hcaptured : captured = false) (hdesired : desired ≠ "")
    (hgates : PruneGates state quorum (surveyOf state desired rolling state.sentinelNodes.values))
    (hnone : ∀ sn ∈ state.sentinelNodes.values, sn.planned desired = false)
    (hwaits : ∃ sn ∈ state.sentinelNodes.values, sn.waits desired = true) :
    let plan := planStaleMasterNames (some state) desired quorum captured rolling
    plan.prune = [] ∧ plan.reason = .deferred ∧ plan.gate = some staleGateRule0Pending := by
  intro plan
  have hentries : (surveyOf state desired rolling state.sentinelNodes.values).entries = [] := by
    simpa [surveyOf] using hnone
  have hstale : (surveyOf state desired rolling state.sentinelNodes.values).allStale.length ≠ 0 := by
    rw [Ne, length_eq_zero_iff, surveyOf_allStale_eq_nil]
    intro hall
    obtain ⟨sn, hsn, hwait⟩ := hwaits
    rw [(hall sn hsn).2] at hwait
    cases hwait
  have hplan : plan = deferStaleNames staleGateRule0Pending
      ("no Sentinel carries " ++ quoteText desired ++ " yet; Rule 0 registers it next pass")
      (sortedKeys (surveyOf state desired rolling state.sentinelNodes.values).allStale) := by
    simp only [plan, planStaleMasterNames, hcaptured, Bool.false_eq_true, if_false, if_neg hdesired,
      surveySentinels_eq, if_neg hstale]
    rw [hgates.decideStaleNames_eq, hentries, insertionSort_nil, if_pos length_nil]
  rw [hplan]
  exact ⟨rfl, rfl, rfl⟩

/-- A converged plan removes nothing. -/
theorem prune_eq_nil_of_converged
    (h : (planStaleMasterNames (some state) desired quorum captured rolling).reason = .converged) :
    (planStaleMasterNames (some state) desired quorum captured rolling).prune = [] := by
  obtain ⟨rfl, hdesired, hseen⟩ := planStaleMasterNames_converged_iff.mp h
  rw [← surveySentinels_allStale_length state desired rolling] at hseen
  simp only [planStaleMasterNames, Bool.false_eq_true, if_false, if_neg hdesired, if_pos hseen]
  rfl

end Plan

/-- All calls that the execution of the plan makes succeed. -/
structure CallsSucceed (calls : SentinelCalls) (desired : String) (plan : StaleMasterNamePlan) : Prop where
  confirmed : ∀ entry ∈ plan.prune, calls.isMonitoring entry.sentinelIP desired = some true
  removed : ∀ entry ∈ plan.prune, ∀ name ∈ entry.names, calls.remove entry.sentinelIP name = true

/-- All removals of a plan. -/
def plannedRemovals (plan : StaleMasterNamePlan) : List Removal :=
  plan.prune.flatMap fun entry => entry.names.map (⟨entry.sentinelIP, ·⟩)

/-- When all calls succeed the plan is carried out. -/
theorem CallsSucceed.execute {calls : SentinelCalls} {desired : String} {plan : StaleMasterNamePlan}
    (h : CallsSucceed calls desired plan) (hpruning : plan.reason = .pruning) :
    executeStaleMasterNamePrune calls desired plan = ([], plannedRemovals plan) := by
  have hfold : ∀ (entries : List StaleEntry) (done : List String × List Removal),
      (∀ entry ∈ entries, entry ∈ plan.prune) →
        entries.foldl (pruneEntry calls desired) done =
          (done.1, done.2 ++ entries.flatMap fun entry => entry.names.map (⟨entry.sentinelIP, ·⟩)) := by
    intro entries
    induction entries with
    | nil => simp
    | cons entry rest ih =>
      intro done hentries
      rw [forall_mem_cons] at hentries
      have hremoved : entry.names.filter (calls.remove entry.sentinelIP) = entry.names :=
        filter_eq_self.mpr (h.removed entry hentries.1)
      rw [foldl_cons, ih _ hentries.2, pruneEntry,
        if_neg (not_not.mpr (h.confirmed entry hentries.1)), hremoved]
      simp
  rw [executeStaleMasterNamePrune, if_neg (not_not.mpr hpruning), hfold _ _ fun _ => id]
  rfl

section Removals

variable {desired : String} {sn : SentinelNodeState} {removals : List Removal}

/-- The calls change nothing about a Sentinel but its list. -/
@[simp] theorem afterRemovals_reachable :
    (sn.afterRemovals desired removals).reachable = sn.reachable := by
  unfold SentinelNodeState.afterRemovals
  split <;> rfl

/-- Removals add nothing. -/
theorem mem_of_mem_afterRemovals {m : MonitoredMaster}
    (h : m ∈ (sn.afterRemovals desired removals).monitoredMasters) : m ∈ sn.monitoredMasters := by
  unfold SentinelNodeState.afterRemovals at h
  split at h
  · exact (mem_filter.mp h).1
  · exact h

/-- Only the desired name is left. -/
theorem afterRemovals_monitoredMasters (hplanned : sn.planned desired = true)
    (hspared : ∀ removal ∈ removals, removal.name ≠ desired)
    (hremoved : ∀ name ∈ sn.staleNames desired, ⟨sn.ip, name⟩ ∈ removals) :
    (sn.afterRemovals desired removals).monitoredMasters = sn.monitoredMasters.filter (·.name = desired) := by
  rw [SentinelNodeState.afterRemovals, if_pos hplanned]
  refine filter_congr fun m hm => ?_
  by_cases hname : m.name = desired
  · have hkept : (⟨sn.ip, m.name⟩ : Removal) ∉ removals := fun hmem => hspared _ hmem hname
    simp [hname, hname ▸ hkept]
  · have hstale : m.name ∈ sn.staleNames desired := by
      simp only [SentinelNodeState.staleNames, mem_filter, mem_map, decide_eq_true_eq]
      exact ⟨⟨m, hm, rfl⟩, hname⟩
    simp [hname, hremoved m.name hstale]

/-- A Sentinel without its stale names is not planned again. -/
theorem not_planned_afterRemovals (hspared : ∀ removal ∈ removals, removal.name ≠ desired)
    (hremoved : sn.planned desired = true → ∀ name ∈ sn.staleNames desired, ⟨sn.ip, name⟩ ∈ removals) :
    (sn.afterRemovals desired removals).planned desired = false ∧
      (sn.afterRemovals desired removals).waits desired = sn.waits desired := by
  cases hplanned : sn.planned desired with
  | false =>
    have hsame : sn.afterRemovals desired removals = sn := by
      rw [SentinelNodeState.afterRemovals, if_neg (by simp [hplanned])]
    rw [hsame]
    exact ⟨hplanned, rfl⟩
  | true =>
    have hstale : (sn.afterRemovals desired removals).staleNames desired = [] := by
      rw [SentinelNodeState.staleNames,
        afterRemovals_monitoredMasters hplanned hspared (hremoved hplanned), filter_eq_nil_iff]
      intro name hname
      obtain ⟨m, hm, rfl⟩ := mem_map.mp hname
      simpa using (mem_filter.mp hm).2
    have hlists : sn.lists desired = true := by
      rw [SentinelNodeState.planned, Bool.and_eq_true, Bool.and_eq_true] at hplanned
      exact hplanned.1.2
    simp [SentinelNodeState.planned, SentinelNodeState.waits, hstale, hlists]

end Removals

/-- What holds of the state when a plan removes names, and of the names that it removes. -/
structure PruneSound (state : ReplicationState) (desired : String) (quorum : ℤ)
    (plan : StaleMasterNamePlan) : Prop where
  named : desired ≠ ""
  spared : ∀ entry ∈ plan.prune, desired ∉ entry.names
  planned : ∀ entry, entry ∈ plan.prune ↔
    ∃ sn ∈ state.sentinelNodes.values, sn.planned desired = true ∧ entry = sn.staleEntry desired
  carried : ∀ entry ∈ plan.prune, ∃ sn ∈ state.sentinelNodes.values, sn.ip = entry.sentinelIP ∧
    sn.podName = entry.sentinelPod ∧ sn.reachable = true ∧ ∃ m ∈ sn.monitoredMasters, m.name = desired
  attributed : ∀ sn ∈ state.sentinelNodes.values, sn.reachable = true → ∀ m ∈ sn.monitoredMasters,
    m.name ≠ desired → state.isOurs m.ip = true ∨ flaggedDown m.flags = true
  live : state.realMasterIP ∈ state.liveTopologyIPs
  master : ∃ rn, state.redisNodes.lookup state.realMasterIP = some rn ∧ rn.reachable = true ∧
    rn.role = roleMaster
  quiet : ∀ sn ∈ state.sentinelNodes.values, sn.reachable = true → ∀ m ∈ sn.monitoredMasters,
    m.failoverInProgress = false
  unreported : state.failoverReported = false
  quorate : quorum ≤ state.reachableSentinels

/-- Planned Sentinels keep exactly the desired name, and the next plan removes nothing. -/
structure PruneSettles (state : ReplicationState) (desired : String) (plan : StaleMasterNamePlan)
    (removals : List Removal) (replan : ReplicationState → StaleMasterNamePlan) : Prop where
  exact : ∀ sn ∈ state.sentinelNodes.values, sn.planned desired = true →
    (sn.afterRemovals desired removals).monitoredMasters ≠ [] ∧
      ∀ m ∈ (sn.afterRemovals desired removals).monitoredMasters, m.name = desired
  nothingLeft : (replan (afterPrune desired removals state)).prune = []
  converged : plan.skipped = [] → (replan (afterPrune desired removals state)).reason = .converged
  waiting : plan.skipped ≠ [] → (replan (afterPrune desired removals state)).reason = .deferred ∧
    (replan (afterPrune desired removals state)).gate = some staleGateRule0Pending

section Main

variable {state : ReplicationState} {desired : String} {quorum : ℤ} {rolling : Bool}

variable {sn : SentinelNodeState}

/-- An entry never names the desired master. -/
theorem staleEntry_names_ne {name : String}
    (h : name ∈ (sn.staleEntry desired).names) : name ∈ sn.staleNames desired ∧ name ≠ desired := by
  have hmem : name ∈ sn.staleNames desired := (mem_insertionSort _).mp h
  exact ⟨hmem, of_decide_eq_true (mem_filter.mp hmem).2⟩

/-- Behind the gates the entries are sound. -/
theorem pruneSound_of_gates (hdesired : desired ≠ "") {plan : StaleMasterNamePlan}
    (hgates : PruneGates state quorum (surveyOf state desired rolling state.sentinelNodes.values))
    (hplan : plan.prune = (surveyOf state desired rolling state.sentinelNodes.values).entries.insertionSort
      (·.sentinelPod ≤ ·.sentinelPod)) : PruneSound state desired quorum plan := by
  have hprune : ∀ entry, entry ∈ plan.prune ↔
      ∃ sn ∈ state.sentinelNodes.values, sn.planned desired = true ∧ entry = sn.staleEntry desired := by
    intro entry
    rw [hplan, mem_insertionSort, surveyOf, mem_map]
    constructor
    · rintro ⟨sn, hsn, rfl⟩
      exact ⟨sn, (mem_filter.mp hsn).1, (mem_filter.mp hsn).2, rfl⟩
    · rintro ⟨sn, hsn, hplanned, rfl⟩
      exact ⟨sn, mem_filter.mpr ⟨hsn, hplanned⟩, rfl⟩
  obtain ⟨hlive, hmaster⟩ := master_of_masterGate hgates.master
  refine
    { named := hdesired
      spared := fun entry hentry hname => ?_
      planned := hprune
      carried := fun entry hentry => ?_
      attributed := fun sn hsn hreach m hm hname => ?_
      live := hlive
      master := hmaster
      quiet := fun sn hsn hreach m hm => ?_
      unreported := hgates.unreported
      quorate := hgates.quorate }
  · obtain ⟨sn, -, -, rfl⟩ := (hprune entry).mp hentry
    exact (staleEntry_names_ne hname).2 rfl
  · obtain ⟨sn, hsn, hplanned, rfl⟩ := (hprune entry).mp hentry
    rw [SentinelNodeState.planned, Bool.and_eq_true, Bool.and_eq_true, SentinelNodeState.lists,
      any_eq_true] at hplanned
    obtain ⟨⟨hreach, m, hm, hname⟩, -⟩ := hplanned
    exact ⟨sn, hsn, rfl, rfl, hreach, m, hm, beq_iff_eq.mp hname⟩
  · have hclear := surveyOf_suspicious_eq_nil.mp ⟨hgates.attributable, hgates.domestic⟩ m
      (mem_listedMasters.mpr ⟨sn, hsn, hreach, hm⟩)
    rwa [suspicious, bne_iff_ne.mpr hname, Bool.true_and, Bool.and_eq_false_iff, Bool.not_eq_false',
      Bool.not_eq_false'] at hclear
  · exact surveyOf_failoverUnder_eq_nil.mp hgates.quiet m (mem_listedMasters.mpr ⟨sn, hsn, hreach, hm⟩)

theorem afterPrune_values (removals : List Removal) :
    (afterPrune desired removals state).sentinelNodes.values =
      state.sentinelNodes.values.map (·.afterRemovals desired removals) :=
  GoMap.values_mapValues _ _

/-- Removals keep the gates open. -/
theorem PruneGates.afterPrune (removals : List Removal)
    (h : PruneGates state quorum (surveyOf state desired rolling state.sentinelNodes.values)) :
    PruneGates (afterPrune desired removals state) quorum (surveyOf (afterPrune desired removals state)
      desired rolling (afterPrune desired removals state).sentinelNodes.values) := by
  have hlisted : ∀ m ∈ listedMasters (Replication.afterPrune desired removals state).sentinelNodes.values,
      m ∈ listedMasters state.sentinelNodes.values := by
    intro m hm
    rw [afterPrune_values] at hm
    obtain ⟨sn', hsn', hreach, hmem⟩ := mem_listedMasters.mp hm
    obtain ⟨sn, hsn, rfl⟩ := mem_map.mp hsn'
    rw [afterRemovals_reachable] at hreach
    exact mem_listedMasters.mpr ⟨sn, hsn, hreach, mem_of_mem_afterRemovals hmem⟩
  have hreachable : (Replication.afterPrune desired removals state).reachableSentinels =
      state.reachableSentinels := by
    rw [ReplicationState.reachableSentinels, afterPrune_values, countP_map]
    exact countP_congr fun sn _ => by simp
  have hclear : ∀ m ∈ listedMasters (Replication.afterPrune desired removals state).sentinelNodes.values,
      suspicious (Replication.afterPrune desired removals state) desired m = false := fun m hm =>
    surveyOf_suspicious_eq_nil.mp ⟨h.attributable, h.domestic⟩ m (hlisted m hm)
  refine ⟨(surveyOf_suspicious_eq_nil.mpr hclear).1, (surveyOf_suspicious_eq_nil.mpr hclear).2,
    h.master, ?_, h.unreported, ?_, ?_⟩
  · exact surveyOf_failoverUnder_eq_nil.mpr fun m hm =>
      surveyOf_failoverUnder_eq_nil.mp h.quiet m (hlisted m hm)
  · rw [hreachable]
    exact h.quorate
  · rw [hreachable]
    exact h.reachable

variable {plan : StaleMasterNamePlan}

variable (h : PruneSound state desired quorum plan)
include h

/-- The desired name is never removed. -/
theorem PruneSound.name_ne : ∀ removal ∈ plannedRemovals plan, removal.name ≠ desired := by
  intro removal hmem
  obtain ⟨entry, hentry, hnames⟩ := mem_flatMap.mp hmem
  obtain ⟨name, hname, rfl⟩ := mem_map.mp hnames
  rintro rfl
  exact h.spared entry hentry hname

/-- A planned Sentinel loses all its stale names. -/
theorem PruneSound.mem_plannedRemovals (hsn : sn ∈ state.sentinelNodes.values)
    (hplanned : sn.planned desired = true) :
    ∀ name ∈ sn.staleNames desired, ⟨sn.ip, name⟩ ∈ plannedRemovals plan := by
  intro name hname
  refine mem_flatMap.mpr ⟨_, (h.planned _).mpr ⟨sn, hsn, hplanned, rfl⟩, ?_⟩
  exact mem_map.mpr ⟨name, (mem_insertionSort _).mpr hname, rfl⟩

/-- Afterwards no Sentinel is planned, and the same ones wait. -/
theorem PruneSound.afterPrune :
    (∀ sn ∈ (afterPrune desired (plannedRemovals plan) state).sentinelNodes.values,
        sn.planned desired = false) ∧
      ((∃ sn ∈ (afterPrune desired (plannedRemovals plan) state).sentinelNodes.values,
          sn.waits desired = true) ↔ ∃ sn ∈ state.sentinelNodes.values, sn.waits desired = true) := by
  have hafter : ∀ sn ∈ state.sentinelNodes.values,
      (sn.afterRemovals desired (plannedRemovals plan)).planned desired = false ∧
        (sn.afterRemovals desired (plannedRemovals plan)).waits desired = sn.waits desired :=
    fun sn hsn => not_planned_afterRemovals h.name_ne (h.mem_plannedRemovals hsn)
  rw [afterPrune_values, forall_mem_map]
  refine ⟨fun sn hsn => (hafter sn hsn).1, ?_⟩
  constructor
  · rintro ⟨sn', hsn', hwait⟩
    obtain ⟨sn, hsn, rfl⟩ := mem_map.mp hsn'
    rw [(hafter sn hsn).2] at hwait
    exact ⟨sn, hsn, hwait⟩
  · rintro ⟨sn, hsn, hwait⟩
    refine ⟨_, mem_map.mpr ⟨sn, hsn, rfl⟩, ?_⟩
    rwa [(hafter sn hsn).2]

/-- Afterwards a planned Sentinel has exactly the desired name. -/
theorem PruneSound.exact (hsn : sn ∈ state.sentinelNodes.values) (hplanned : sn.planned desired = true) :
    (sn.afterRemovals desired (plannedRemovals plan)).monitoredMasters ≠ [] ∧
      ∀ m ∈ (sn.afterRemovals desired (plannedRemovals plan)).monitoredMasters, m.name = desired := by
  rw [afterRemovals_monitoredMasters hplanned h.name_ne (h.mem_plannedRemovals hsn hplanned)]
  rw [SentinelNodeState.planned, Bool.and_eq_true, Bool.and_eq_true, SentinelNodeState.lists,
    any_eq_true] at hplanned
  obtain ⟨⟨-, m, hm, hname⟩, -⟩ := hplanned
  refine ⟨ne_nil_of_mem (mem_filter.mpr ⟨hm, by simpa using hname⟩), fun m' hm' => ?_⟩
  exact of_decide_eq_true (mem_filter.mp hm').2

end Main

/-- A plan that removes names is sound; if all calls succeed, planned Sentinels keep exactly the
desired name and the next plan removes nothing. -/
theorem pruning_sound_and_settles (state : ReplicationState) (desired : String) (quorum : ℤ)
    (captured rolling : Bool) (calls : SentinelCalls)
    (hpruning : (planStaleMasterNames (some state) desired quorum captured rolling).reason = .pruning) :
    let replan := fun state => planStaleMasterNames (some state) desired quorum captured rolling
    PruneSound state desired quorum (replan state) ∧
      (CallsSucceed calls desired (replan state) →
        ∃ removals, executeStaleMasterNamePrune calls desired (replan state) = ([], removals) ∧
          PruneSettles state desired (replan state) removals replan) := by
  intro replan
  obtain ⟨hcaptured, hdesired, survey, rfl, hgates, hplan⟩ := planStaleMasterNames_of_pruning hpruning
  have hprune : (replan state).prune =
      (surveyOf state desired rolling state.sentinelNodes.values).entries.insertionSort
        (·.sentinelPod ≤ ·.sentinelPod) := by
    rw [show replan state = _ from hplan, pruningNames]
  have hskipped : (replan state).skipped = [] ↔
      ¬∃ sn ∈ state.sentinelNodes.values, sn.waits desired = true := by
    rw [show replan state = _ from hplan, pruningNames, ← length_eq_zero_iff, length_insertionSort]
    simp [surveyOf]
  have hsound := pruneSound_of_gates hdesired hgates hprune
  obtain ⟨hnone, hwaits⟩ := hsound.afterPrune
  refine ⟨hsound, fun hcalls => ⟨_, hcalls.execute hpruning, ?_⟩⟩
  have hconverged : (replan state).skipped = [] →
      (replan (afterPrune desired (plannedRemovals (replan state)) state)).reason = .converged := by
    intro hempty
    refine planStaleMasterNames_converged_iff.mpr ⟨hcaptured, hdesired, ?_⟩
    rw [← surveySentinels_allStale_length _ desired rolling, length_eq_zero_iff, surveySentinels_eq,
      surveyOf_allStale_eq_nil]
    intro sn hsn
    refine ⟨hnone sn hsn, Bool.eq_false_iff.mpr fun hwait => ?_⟩
    exact hskipped.mp hempty (hwaits.mp ⟨sn, hsn, hwait⟩)
  have hdeferred : (replan state).skipped ≠ [] →
      let next := replan (afterPrune desired (plannedRemovals (replan state)) state)
      next.prune = [] ∧ next.reason = .deferred ∧ next.gate = some staleGateRule0Pending := by
    intro hwaiting
    rw [Ne, hskipped, not_not, ← hwaits] at hwaiting
    exact planStaleMasterNames_of_gates hcaptured hdesired
      (hgates.afterPrune (plannedRemovals (replan state))) hnone hwaiting
  refine ⟨fun sn => hsound.exact, ?_, hconverged, fun hwaiting => (hdeferred hwaiting).2⟩
  by_cases hempty : (replan state).skipped = []
  · exact prune_eq_nil_of_converged (hconverged hempty)
  · exact (hdeferred hempty).1

/-- Two Sentinels list both names, a third only the old one. -/
def renamedInstance : ReplicationState :=
  let sentinel (name ip : String) (masters : List String) : String × SentinelNodeState :=
    (ip,
      { podName := name
        ip := ip
        monitoring := masters.contains "prod"
        masterIP := "10.0.0.10"
        reachable := true
        replicas := []
        monitoredMasters := masters.map fun master => ⟨master, "10.0.0.10", "master", ""⟩ })
  { redisNodes := GoMap.ofPairs
      [("10.0.0.10", ⟨"lr-redis-0", "10.0.0.10", "master", "", "", 80, 2, "7a", "", true, .ok⟩)]
    sentinelNodes := GoMap.ofPairs
      [sentinel "lr-sentinel-0" "10.0.0.20" ["prod", "mymaster"],
        sentinel "lr-sentinel-1" "10.0.0.21" ["mymaster", "prod"],
        sentinel "lr-sentinel-2" "10.0.0.22" ["mymaster"]]
    liveTopologyIPs := ["10.0.0.10", "10.0.0.20", "10.0.0.21", "10.0.0.22"]
    realMasterIP := "10.0.0.10" }

/-- The old name is removed from the first two Sentinels, and the third one is waited for. -/
theorem renamedInstance_pruned :
    let plan := planStaleMasterNames (some renamedInstance) "prod" 2 false false
    plan.prune = [⟨"10.0.0.20", "lr-sentinel-0", ["mymaster"]⟩, ⟨"10.0.0.21", "lr-sentinel-1", ["mymaster"]⟩] ∧
      plan.skipped = ["lr-sentinel-2"] ∧ PruneSound renamedInstance "prod" 2 plan ∧
      ∃ removals, executeStaleMasterNamePrune ⟨fun _ _ => some true, fun _ _ => true⟩ "prod" plan =
          ([], removals) ∧
        PruneSettles renamedInstance "prod" plan removals fun state =>
          planStaleMasterNames (some state) "prod" 2 false false := by
  obtain ⟨hsound, hsettles⟩ := pruning_sound_and_settles renamedInstance "prod" 2 false false
    ⟨fun _ _ => some true, fun _ _ => true⟩ (by decide)
  exact ⟨by decide, by decide, hsound, hsettles ⟨fun _ _ => rfl, fun _ _ _ _ => rfl⟩⟩

end LittleRed.Replication
