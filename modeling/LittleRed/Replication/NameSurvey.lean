import LittleRed.Lib.ListLoops
import LittleRed.Replication.Gather
import LittleRed.Replication.StalePrune

/-!
# The survey of monitored names

`lrctl` surveys the names that the Sentinels monitor with `surveyMonitoredNames`, the operator with
`planStaleMasterNames`. They classify the names with different code, but conclude the same.
-/

namespace LittleRed.Replication

open Lib List

/-- The desired name, debris of the instance itself, or a name under which something else is alive. -/
inductive MasterNameClass where
  | desired
  | stale
  | foreign
  deriving DecidableEq

/-- The class of a name. -/
def classifyMonitoredName (name ip flags desired : String) (ourIPs : List String) : MasterNameClass :=
  if name = desired then .desired
  else if ourIPs.contains ip || flaggedDown flags then .stale
  else .foreign

/-- A name as one Sentinel reports it, and its class. -/
structure MonitoredNameFinding where
  sentinelPod : String
  name : String
  ip : String
  flags : String
  nameClass : MasterNameClass
  deriving DecidableEq

/-- What all reachable Sentinels monitor. A Sentinel whose list could not be read is unreported. -/
structure MasterNameScope where
  findings : List MonitoredNameFinding := []
  stale : List String := []
  foreign : List String := []
  unreported : List String := []
  deriving DecidableEq

/-- No Sentinel monitors another name than the desired one. -/
def MasterNameScope.converged (scope : MasterNameScope) : Bool :=
  scope.stale.length == 0 && scope.foreign.length == 0

/-- The order of the findings. -/
def MonitoredNameFinding.before (a b : MonitoredNameFinding) : Prop :=
  if a.sentinelPod ≠ b.sentinelPod then a.sentinelPod < b.sentinelPod else a.name ≤ b.name

instance : DecidableRel MonitoredNameFinding.before := fun a b =>
  inferInstanceAs (Decidable (if a.sentinelPod ≠ b.sentinelPod then _ else _))

section Survey

variable (state : ReplicationState) (desired : String)

/-- Note one name. -/
def surveyName (podName : String) (scope : MasterNameScope) (m : MonitoredMaster) : MasterNameScope :=
  let found : MonitoredNameFinding :=
    ⟨podName, m.name, m.ip, m.flags, classifyMonitoredName m.name m.ip m.flags desired state.ownedIPs⟩
  let scope :=
    match found.nameClass with
    | .stale => { scope with stale := scope.stale ++ [m.name] }
    | .foreign => { scope with foreign := scope.foreign ++ [m.name] }
    | .desired => scope
  { scope with findings := scope.findings ++ [found] }

/-- Note the names of one Sentinel. -/
def surveyNames (scope : MasterNameScope) (sn : SentinelNodeState) : MasterNameScope :=
  if !sn.reachable then scope
  else if sn.monitoredMasters.length = 0 then
    { scope with unreported := scope.unreported ++ [sn.podName] }
  else sn.monitoredMasters.foldl (surveyName state desired sn.podName) scope

end Survey

/-- The survey of the names that the reachable Sentinels monitor, if a name is desired. -/
def surveyMonitoredNames (state : Option ReplicationState) (desired : String) : MasterNameScope :=
  match state with
  | none => {}
  | some state =>
    if desired = "" then {}
    else
      let scope := state.sentinelNodes.values.foldl (surveyNames state desired) {}
      { findings := scope.findings.insertionSort MonitoredNameFinding.before
        stale := sortedKeys scope.stale
        foreign := sortedKeys scope.foreign
        unreported := scope.unreported.insertionSort (· ≤ ·) }

section Members

theorem mem_sortedKeys {set : List String} {name : String} : name ∈ sortedKeys set ↔ name ∈ set := by
  rw [sortedKeys, mem_insertionSort, mem_dedup]

/-- Sets with the same members are sorted alike. -/
theorem sortedKeys_congr {set set' : List String} (h : ∀ name, name ∈ set ↔ name ∈ set') :
    sortedKeys set = sortedKeys set' := by
  apply insertionSort_eq_of_perm
  · rw [perm_ext_iff_of_nodup (nodup_dedup _) (nodup_dedup _)]
    intro name
    rw [mem_dedup, mem_dedup, h]
  · intro a _ b _ hab hba
    exact String.le_antisymm hab hba

theorem sortedKeys_eq_nil_iff {set : List String} : sortedKeys set = [] ↔ ∀ name, name ∉ set := by
  simp only [eq_nil_iff_forall_not_mem, mem_sortedKeys]

end Members

section Classes

variable {state : ReplicationState} {desired : String}

/-- The class of what a Sentinel monitors. -/
def classOf (state : ReplicationState) (desired : String) (m : MonitoredMaster) : MasterNameClass :=
  classifyMonitoredName m.name m.ip m.flags desired state.ownedIPs

theorem classOf_eq_desired {m : MonitoredMaster} : classOf state desired m = .desired ↔ m.name = desired := by
  unfold classOf classifyMonitoredName
  split
  · exact iff_of_true rfl ‹_›
  · split <;> exact iff_of_false nofun ‹_›

/-- The foreign class is what the operator holds for suspicious. -/
theorem classOf_eq_foreign (howned : "" ∉ state.ownedIPs) {m : MonitoredMaster} :
    classOf state desired m = .foreign ↔ suspicious state desired m = true := by
  have hours : state.isOurs m.ip = state.ownedIPs.contains m.ip := by
    unfold ReplicationState.isOurs
    split
    · rename_i hempty
      rw [hempty, contains_eq_mem, decide_eq_false howned]
    · rfl
  unfold classOf classifyMonitoredName suspicious
  by_cases hname : m.name = desired
  · simp [hname]
  · by_cases howns : m.ip ∈ state.ownedIPs <;> simp [hname, hours, howns]

variable (state desired) in
/-- The names of a class. -/
def namesOfClass (nameClass : MasterNameClass) (masters : List MonitoredMaster) : List String :=
  (masters.filter (classOf state desired · = nameClass)).map (·.name)

/-- The names of a class, part by part. -/
theorem namesOfClass_append (nameClass : MasterNameClass) (masters rest : List MonitoredMaster) :
    namesOfClass state desired nameClass (masters ++ rest) =
      namesOfClass state desired nameClass masters ++ namesOfClass state desired nameClass rest := by
  simp [namesOfClass]

/-- One name goes to the set of its class. -/
theorem surveyName_sets (podName : String) (scope : MasterNameScope) (m : MonitoredMaster) :
    (surveyName state desired podName scope m).stale = scope.stale ++ namesOfClass state desired .stale [m] ∧
      (surveyName state desired podName scope m).foreign =
        scope.foreign ++ namesOfClass state desired .foreign [m] := by
  unfold surveyName namesOfClass
  cases hclass : classOf state desired m <;> unfold classOf at hclass <;> simp [classOf, hclass]

/-- The names of one Sentinel go to their sets. -/
theorem foldl_surveyName_sets (podName : String) (masters : List MonitoredMaster) (scope : MasterNameScope) :
    (masters.foldl (surveyName state desired podName) scope).stale =
        scope.stale ++ namesOfClass state desired .stale masters ∧
      (masters.foldl (surveyName state desired podName) scope).foreign =
        scope.foreign ++ namesOfClass state desired .foreign masters := by
  induction masters generalizing scope with
  | nil => simp [namesOfClass]
  | cons m rest ih =>
    obtain ⟨hstale, hforeign⟩ := ih (surveyName state desired podName scope m)
    obtain ⟨hstale₁, hforeign₁⟩ := @surveyName_sets state desired podName scope m
    rw [foldl_cons, hstale, hforeign, hstale₁, hforeign₁, append_assoc, append_assoc,
      ← namesOfClass_append, ← namesOfClass_append]
    exact ⟨rfl, rfl⟩

theorem foldl_surveyNames_sets (nodes : List SentinelNodeState) (scope : MasterNameScope) :
    (nodes.foldl (surveyNames state desired) scope).stale =
        scope.stale ++ namesOfClass state desired .stale (listedMasters nodes) ∧
      (nodes.foldl (surveyNames state desired) scope).foreign =
        scope.foreign ++ namesOfClass state desired .foreign (listedMasters nodes) := by
  induction nodes generalizing scope with
  | nil => simp [listedMasters, namesOfClass]
  | cons sn rest ih =>
    obtain ⟨hstale, hforeign⟩ := ih (surveyNames state desired scope sn)
    rw [foldl_cons, hstale, hforeign]
    unfold surveyNames
    cases hreach : sn.reachable with
    | false => simp [listedMasters, hreach]
    | true =>
      have hlisted : listedMasters (sn :: rest) = sn.monitoredMasters ++ listedMasters rest := by
        simp [listedMasters, hreach]
      rw [hlisted, namesOfClass_append, namesOfClass_append, ← append_assoc, ← append_assoc]
      by_cases hunread : sn.monitoredMasters.length = 0
      -- a list that could not be read has no names of any class
      · rw [length_eq_zero_iff] at hunread
        simp [hunread, namesOfClass]
      · obtain ⟨hstale₁, hforeign₁⟩ := @foldl_surveyName_sets state desired
          sn.podName sn.monitoredMasters scope
        rw [if_neg (by decide), if_neg hunread, hstale₁, hforeign₁]
        exact ⟨rfl, rfl⟩

/-- The survey has the names by class. -/
theorem surveyMonitoredNames_sets (hdesired : desired ≠ "") :
    (surveyMonitoredNames (some state) desired).stale =
        sortedKeys (namesOfClass state desired .stale (listedMasters state.sentinelNodes.values)) ∧
      (surveyMonitoredNames (some state) desired).foreign =
        sortedKeys (namesOfClass state desired .foreign (listedMasters state.sentinelNodes.values)) := by
  obtain ⟨hstale, hforeign⟩ := @foldl_surveyNames_sets state desired
    state.sentinelNodes.values {}
  simp only [surveyMonitoredNames, if_neg hdesired, hstale, hforeign, nil_append, and_self]

/-- A class is empty when no master is in it. -/
theorem sortedKeys_namesOfClass_eq_nil {nameClass : MasterNameClass} {masters : List MonitoredMaster} :
    sortedKeys (namesOfClass state desired nameClass masters) = [] ↔
      ∀ m ∈ masters, classOf state desired m ≠ nameClass := by
  simp only [sortedKeys_eq_nil_iff, namesOfClass, mem_map, mem_filter, decide_eq_true_eq]
  constructor
  · intro h m hm hclass
    exact h m.name ⟨m, ⟨hm, hclass⟩, rfl⟩
  · rintro h name ⟨m, ⟨hm, hclass⟩, -⟩
    exact h m hm hclass

end Classes

section Verdicts

variable {state : ReplicationState} {desired : String} {quorum : ℤ}

/-- The survey has converged when no stale name is seen. -/
theorem surveyMonitoredNames_converged_iff (hdesired : desired ≠ "") :
    (surveyMonitoredNames (some state) desired).converged = true ↔ ¬StaleNameSeen state desired := by
  obtain ⟨hstale, hforeign⟩ := @surveyMonitoredNames_sets state desired hdesired
  simp only [MasterNameScope.converged, hstale, hforeign, Bool.and_eq_true, beq_iff_eq,
    length_eq_zero_iff, sortedKeys_namesOfClass_eq_nil]
  constructor
  · rintro ⟨hstale, hforeign⟩ ⟨sn, hsn, hreach, m, hm, hname⟩
    have hlisted := mem_listedMasters.mpr ⟨sn, hsn, hreach, hm⟩
    cases hclass : classOf state desired m with
    | desired => exact hname (classOf_eq_desired.mp hclass)
    | stale => exact hstale m hlisted hclass
    | foreign => exact hforeign m hlisted hclass
  · intro hseen
    have hdesiredClass : ∀ m ∈ listedMasters state.sentinelNodes.values,
        classOf state desired m = .desired := by
      intro m hm
      obtain ⟨sn, hsn, hreach, hlisted⟩ := mem_listedMasters.mp hm
      exact classOf_eq_desired.mpr (by_contra fun hname => hseen ⟨sn, hsn, hreach, m, hlisted, hname⟩)
    constructor <;> intro m hm <;> rw [hdesiredClass m hm] <;> exact nofun

/-- The plan is foreign when its survey is. -/
theorem decideStaleNames_foreign_iff {survey : StaleSurvey} (hrolling : survey.unattributable = []) :
    (decideStaleNames state desired quorum survey).reason = .foreign ↔ survey.foreign ≠ [] := by
  have hbelow : ∀ plan : StaleMasterNamePlan, plan.reason ≠ .foreign → survey.foreign = [] →
      (plan.reason = .foreign ↔ survey.foreign ≠ []) :=
    fun plan hreason hforeign => iff_of_false hreason (not_not.mpr hforeign)
  unfold decideStaleNames
  rw [hrolling]
  dsimp only [length_nil]
  rw [if_neg (Nat.lt_irrefl 0)]
  split
  · rename_i hforeign
    exact iff_of_true rfl (ne_nil_of_length_pos hforeign)
  · rename_i hforeign
    have hnone := eq_nil_of_length_eq_zero (Nat.eq_zero_of_not_pos hforeign)
    refine hbelow _ ?_ hnone
    split
    · exact nofun
    · repeat' split
      all_goals exact nofun

/-- Both find somebody else's master on the same states. -/
theorem planStaleMasterNames_foreign_iff (howned : "" ∉ state.ownedIPs) (hdesired : desired ≠ "") :
    (planStaleMasterNames (some state) desired quorum false false).reason = .foreign ↔
      (surveyMonitoredNames (some state) desired).foreign ≠ [] := by
  rw [(surveyMonitoredNames_sets hdesired).2, Ne, sortedKeys_namesOfClass_eq_nil]
  have hforeign : (surveyOf state desired false state.sentinelNodes.values).foreign = [] ↔
      ∀ m ∈ listedMasters state.sentinelNodes.values, classOf state desired m ≠ .foreign := by
    simp only [surveyOf, surveyOfMasters, Ne, classOf_eq_foreign howned]
    simp
  rw [← hforeign]
  simp only [planStaleMasterNames, Bool.false_eq_true, if_false, if_neg hdesired, surveySentinels_eq]
  split
  · rename_i hconverged
    have hreason : StaleNamesReason.converged ≠ .foreign := by decide
    refine iff_of_false hreason (not_not.mpr ?_)
    rw [hforeign]
    intro m hm hclass
    -- a foreign name is also one of the stale names
    rw [classOf_eq_foreign howned, suspicious, Bool.and_eq_true] at hclass
    have hmem : m.name ∈ (surveyOf state desired false state.sentinelNodes.values).allStale :=
      mem_filter.mpr ⟨mem_map_of_mem hm, by simpa using hclass.1⟩
    rw [eq_nil_of_length_eq_zero hconverged] at hmem
    cases hmem
  · exact decideStaleNames_foreign_iff rfl

end Verdicts

section Pruned

variable {state : ReplicationState} {desired : String} {quorum : ℤ}

/-- The Sentinels that the plan skips. -/
def skippedSentinels (state : ReplicationState) (plan : StaleMasterNamePlan) : List SentinelNodeState :=
  state.sentinelNodes.values.filter fun sn => sn.reachable && plan.skipped.contains sn.podName

/-- The names that a plan removes, and those beside the desired one on the Sentinels that it skips. -/
def coveredNames (state : ReplicationState) (desired : String) (plan : StaleMasterNamePlan) : List String :=
  plan.prune.flatMap (·.names) ++ (skippedSentinels state plan).flatMap (·.staleNames desired)

theorem mem_staleNames {sn : SentinelNodeState} {name : String} :
    name ∈ sn.staleNames desired ↔ (∃ m ∈ sn.monitoredMasters, m.name = name) ∧ name ≠ desired := by
  simp [SentinelNodeState.staleNames]

section

variable (h : (planStaleMasterNames (some state) desired quorum false false).reason = .pruning)
include h

/-- What the plan removes. -/
theorem mem_prune_names_iff (name : String) :
    name ∈ (planStaleMasterNames (some state) desired quorum false false).prune.flatMap (·.names) ↔
      ∃ sn ∈ state.sentinelNodes.values, sn.planned desired = true ∧ name ∈ sn.staleNames desired := by
  obtain ⟨-, -, survey, rfl, -, hplan⟩ := planStaleMasterNames_of_pruning h
  rw [hplan]
  simp only [pruningNames, surveyOf, mem_flatMap, mem_insertionSort, mem_map, mem_filter]
  constructor
  · rintro ⟨entry, ⟨sn, ⟨hsn, hplanned⟩, rfl⟩, hname⟩
    exact ⟨sn, hsn, hplanned, (mem_insertionSort _).mp hname⟩
  · rintro ⟨sn, hsn, hplanned, hname⟩
    exact ⟨sn.staleEntry desired, ⟨sn, ⟨hsn, hplanned⟩, rfl⟩, (mem_insertionSort _).mpr hname⟩

/-- Whom the plan skips. -/
theorem mem_skipped_iff (pod : String) :
    pod ∈ (planStaleMasterNames (some state) desired quorum false false).skipped ↔
      ∃ sn ∈ state.sentinelNodes.values, sn.waits desired = true ∧ sn.podName = pod := by
  obtain ⟨-, -, survey, rfl, -, hplan⟩ := planStaleMasterNames_of_pruning h
  rw [hplan]
  simp only [pruningNames, surveyOf, mem_insertionSort, mem_map, mem_filter, and_assoc]

/-- Removed and skipped names are all stale names. -/
theorem mem_coveredNames_iff (name : String) :
    name ∈ coveredNames state desired (planStaleMasterNames (some state) desired quorum false false) ↔
      ∃ m ∈ listedMasters state.sentinelNodes.values, m.name = name ∧ name ≠ desired := by
  rw [coveredNames, mem_append, mem_prune_names_iff h]
  constructor
  · intro hcovered
    have hstale : ∃ sn ∈ state.sentinelNodes.values, sn.reachable = true ∧ name ∈ sn.staleNames desired := by
      rcases hcovered with ⟨sn, hsn, hplanned, hname⟩ | hskipped
      · simp only [SentinelNodeState.planned, Bool.and_eq_true] at hplanned
        exact ⟨sn, hsn, hplanned.1.1, hname⟩
      · obtain ⟨sn, hsn, hname⟩ := mem_flatMap.mp hskipped
        rw [skippedSentinels, mem_filter, Bool.and_eq_true] at hsn
        exact ⟨sn, hsn.1, hsn.2.1, hname⟩
    obtain ⟨sn, hsn, hreach, hname⟩ := hstale
    obtain ⟨⟨m, hm, hnamed⟩, hother⟩ := mem_staleNames.mp hname
    exact ⟨m, mem_listedMasters.mpr ⟨sn, hsn, hreach, hm⟩, hnamed, hother⟩
  · rintro ⟨m, hm, hnamed, hother⟩
    obtain ⟨sn, hsn, hreach, hlisted⟩ := mem_listedMasters.mp hm
    have hname : name ∈ sn.staleNames desired := mem_staleNames.mpr ⟨⟨m, hlisted, hnamed⟩, hother⟩
    have hsome : (sn.staleNames desired).isEmpty = false := isEmpty_eq_false_iff_exists_mem.mpr ⟨name, hname⟩
    cases hlists : sn.lists desired with
    | true => exact .inl ⟨sn, hsn, by simp [SentinelNodeState.planned, hreach, hlists, hsome], hname⟩
    | false =>
      have hwaits : sn.waits desired = true := by
        simp [SentinelNodeState.waits, hreach, hlists, hsome]
      have hskipped := (mem_skipped_iff h sn.podName).mpr ⟨sn, hsn, hwaits, rfl⟩
      refine .inr (mem_flatMap.mpr ⟨sn, mem_filter.mpr ⟨hsn, ?_⟩, hname⟩)
      rwa [hreach, Bool.true_and, contains_iff_mem]

end

theorem surveyMonitoredNames_stale_of_pruning (howned : "" ∉ state.ownedIPs)
    (h : (planStaleMasterNames (some state) desired quorum false false).reason = .pruning) :
    (surveyMonitoredNames (some state) desired).stale = sortedKeys (coveredNames state desired
        (planStaleMasterNames (some state) desired quorum false false)) := by
  obtain ⟨-, hdesired, survey, rfl, hgates, -⟩ := planStaleMasterNames_of_pruning h
  have hdomestic := surveyOf_suspicious_eq_nil.mp ⟨hgates.attributable, hgates.domestic⟩
  rw [(surveyMonitoredNames_sets hdesired).1]
  apply sortedKeys_congr
  intro name
  rw [mem_coveredNames_iff h]
  simp only [namesOfClass, mem_map, mem_filter, decide_eq_true_eq]
  constructor
  · rintro ⟨m, ⟨hm, hclass⟩, rfl⟩
    refine ⟨m, hm, rfl, fun hname => ?_⟩
    rw [classOf_eq_desired.mpr hname] at hclass
    cases hclass
  · rintro ⟨m, hm, rfl, hother⟩
    refine ⟨m, ⟨hm, ?_⟩, rfl⟩
    cases hclass : classOf state desired m with
    | desired => exact absurd (classOf_eq_desired.mp hclass) hother
    | stale => rfl
    | foreign =>
      rw [classOf_eq_foreign howned, hdomestic m hm] at hclass
      cases hclass

/-- A skipped Sentinel does not monitor the desired name. -/
theorem lists_eq_false_of_skipped
    (h : (planStaleMasterNames (some state) desired quorum false false).reason = .pruning)
    (hdistinct : ∀ sn ∈ state.sentinelNodes.values, ∀ sn' ∈ state.sentinelNodes.values,
      sn.podName = sn'.podName → sn = sn') {sn : SentinelNodeState}
    (hsn : sn ∈ skippedSentinels state (planStaleMasterNames (some state) desired quorum false false)) :
    sn.lists desired = false := by
  rw [skippedSentinels, mem_filter, Bool.and_eq_true, contains_iff_mem, mem_skipped_iff h] at hsn
  obtain ⟨hmem, -, sn', hsn', hwaits, hpod⟩ := hsn
  obtain rfl := hdistinct sn' hsn' sn hmem hpod
  simp only [SentinelNodeState.waits, Bool.and_eq_true, Bool.not_eq_true'] at hwaits
  exact hwaits.1.2

end Pruned

section Gathered

variable (probes : Probes) (redisPods sentinelPods : GoMap String String) (masterName : String)
  (ownedIPs : List String) (orders : ConsensusOrders)

/-- A gathered state owns no empty address. -/
theorem gather_ownedIPs :
    "" ∉ (gatherReplicationState probes redisPods sentinelPods masterName ownedIPs orders).ownedIPs := by
  obtain ⟨ip, heq⟩ := exists_determineRealMaster_eq orders
    (gatheredNodes probes redisPods sentinelPods masterName ownedIPs)
  have howned : (gatherReplicationState probes redisPods sentinelPods masterName ownedIPs orders).ownedIPs =
      (gatheredNodes probes redisPods sentinelPods masterName ownedIPs).ownedIPs := by
    rw [gatherReplicationState, heq]
    rfl
  rw [howned, gatheredNodes]
  simp

/-- Rule N and `lrctl` agree on when names are converged or foreign, and the stale names are those
removed or left on skipped Sentinels. -/
theorem staleNames_agree_with_survey (desired : String) (quorum : ℤ) (hdesired : desired ≠ "") :
    let state := gatherReplicationState probes redisPods sentinelPods masterName ownedIPs orders
    let plan := planStaleMasterNames (some state) desired quorum false false
    let scope := surveyMonitoredNames (some state) desired
    (plan.reason = .converged ↔ scope.converged = true) ∧
      (plan.reason = .foreign ↔ scope.foreign ≠ []) ∧
      (plan.reason = .pruning →
        scope.stale = sortedKeys (coveredNames state desired plan) ∧
        ((∀ sn ∈ state.sentinelNodes.values, ∀ sn' ∈ state.sentinelNodes.values,
            sn.podName = sn'.podName → sn = sn') →
          ∀ sn ∈ skippedSentinels state plan, sn.lists desired = false)) := by
  intro state plan scope
  have howned : "" ∉ state.ownedIPs :=
    gather_ownedIPs probes redisPods sentinelPods masterName ownedIPs orders
  refine ⟨?_, planStaleMasterNames_foreign_iff howned hdesired, fun hpruning => ⟨?_, ?_⟩⟩
  · rw [planStaleMasterNames_converged_iff, surveyMonitoredNames_converged_iff hdesired]
    simp [hdesired]
  · exact surveyMonitoredNames_stale_of_pruning howned hpruning
  · intro hdistinct sn hsn
    exact lists_eq_false_of_skipped hpruning hdistinct hsn

end Gathered

/-- Two Sentinels monitor both names, the third one only the old one. -/
def renamedProbes : Probes where
  redis ip :=
    if ip = "10.0.0.10" then .ok ⟨"master", "", "", 80, 2, "7a", ""⟩
    else .ok ⟨"slave", "10.0.0.10", "up", 80, 2, "7a", ""⟩
  sentinel ip :=
    let old : MonitoredMaster := ⟨"old", "10.0.0.10", "master", ""⟩
    if ip = "10.0.0.22" then some ⟨none, [], [old]⟩
    else some ⟨some ⟨"10.0.0.10", "master", ""⟩, [], [⟨"new", "10.0.0.10", "master", ""⟩, old]⟩

/-- The old name is what the plan removes from the first two Sentinels and leaves on the third one. -/
theorem renamedProbes_agree :
    let redisPods : GoMap String String :=
      GoMap.ofPairs [("10.0.0.10", "lr-redis-0"), ("10.0.0.11", "lr-redis-1")]
    let sentinelPods : GoMap String String := GoMap.ofPairs
      [("10.0.0.20", "lr-sentinel-0"), ("10.0.0.21", "lr-sentinel-1"), ("10.0.0.22", "lr-sentinel-2")]
    let state := gatherReplicationState renamedProbes redisPods sentinelPods "new" [] .asGiven
    let plan := planStaleMasterNames (some state) "new" 2 false false
    plan.reason = .pruning ∧ plan.skipped = ["lr-sentinel-2"] ∧
      (surveyMonitoredNames (some state) "new").stale = ["old"] ∧
      (surveyMonitoredNames (some state) "new").stale = sortedKeys (coveredNames state "new" plan) := by
  intro redisPods sentinelPods state plan
  have hpruning : plan.reason = .pruning := by decide
  have hagree := staleNames_agree_with_survey renamedProbes redisPods sentinelPods "new" [] .asGiven "new" 2
    (by decide)
  exact ⟨hpruning, by decide, by decide, (hagree.2.2 hpruning).1⟩

end LittleRed.Replication
