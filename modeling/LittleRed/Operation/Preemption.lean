import LittleRed.Operation.Queue

/-!
# Preemption

Each pass picks the first runnable operation by name. While the pending operations only become fewer that is
the one that ran before. An edit can put another one in front, and the report of the driver that ran is then
taken for the report of the other.
-/

namespace LittleRed.Operation

open Lib List

/-- Passes whose declared values may change; the driver that reports is that of the operation run before. -/
structure RegistryRun {Spec : Type*} (registry : List (HeavyOperation Spec)) (specs : ℕ → Spec)
    (report : ℕ → String → Bool) (passes : ℕ → Pass) (rows : List OperationAck) : Prop where
  distinct : (registry.map (·.name)).Nodup
  acyclic : AcyclicTable (requiresTable registry)
  rowsDistinct : (rows.map (·.name)).Nodup
  candidates : ∀ n, (passes n).candidates = operationCandidates (specs n) registry
  first : (passes 0).driverDone = false
  reported : ∀ n, (passes (n + 1)).driverDone =
    (decide ((planAt passes rows n).run ≠ "") && report (n + 1) (planAt passes rows n).run)

section Definitions

variable (input : OperationInput)

/-- The declared value of a candidate is another one than the acknowledged. -/
def Pending (c : OperationCandidate) : Prop :=
  ∃ value, input.acks.lookup c.name = some value ∧ value ≠ c.fingerprint

def AllSeeded : Prop := ∀ c ∈ input.candidates, (input.acks.lookup c.name).isSome = true

/-- The declared value of an operation is the acknowledged one. -/
def Returned (name : String) : Prop :=
  ∃ c ∈ input.candidates, c.name = name ∧ input.acks.lookup name = some c.fingerprint

/-- Every candidate has a row, this one is pending without a pending requirement, and pending ones with
smaller names wait. -/
structure Undisturbed (name : String) : Prop where
  seeded : AllSeeded input
  first : ∃ c ∈ input.candidates, c.name = name ∧ Pending input c ∧
    (∀ d ∈ input.candidates, Pending input d → d.name ∉ c.requires) ∧
    ∀ d ∈ input.candidates, Pending input d → d.name < name →
      ∃ e ∈ input.candidates, Pending input e ∧ e.name ∈ d.requires

/-- A report that the driver is done, on a settled instance with pending operations. -/
structure ReportHeeded : Prop where
  done : input.driverDone = true
  settled : input.settled = true
  seeded : AllSeeded input
  pending : ∃ c ∈ input.candidates, Pending input c

variable (passes : ℕ → Pass) (rows : List OperationAck)

/-- The last pass without a quarantine ran the operation, and it is neither acknowledged nor its value
back. -/
def Owed (n : ℕ) (name : String) : Prop :=
  name ≠ "" ∧ ∃ i < n, (planAt passes rows i).run = name ∧ ∀ k, i < k → k < n →
    name ∉ (planAt passes rows k).ack.map (·.name) ∧ ¬Returned (inputAt passes rows k) name

/-- An operation runs until it is acknowledged or its value returns. -/
def Uninterrupted : Prop :=
  ∀ n name, Owed passes rows n name → (inputAt passes rows n).quarantined = false →
    ¬Returned (inputAt passes rows n) name →
      (planAt passes rows n).run = name ∨ name ∈ (planAt passes rows n).ack.map (·.name)

/-- Whatever is acknowledged as done is the operation that the pass before ran. -/
def Attributed : Prop :=
  ∀ n, (planAt passes rows n).reason ≠ .seeded → ∀ c ∈ (planAt passes rows n).ack,
    ∃ i, n = i + 1 ∧ (planAt passes rows i).run = c.name

def Applicable (name : String) : Prop := ∃ c ∈ input.candidates, c.name = name

/-- The pass is quarantined, or the owed operation is undisturbed, or its value is back and no report
heeded, or the instance starts anew and it still applies. -/
def Steady (n : ℕ) : Prop :=
  (inputAt passes rows n).quarantined = true ∨
    ∀ name, Owed passes rows n name →
      ((inputAt passes rows n).bootstrapping = true ∧ Applicable (inputAt passes rows n) name) ∨
        Undisturbed (inputAt passes rows n) name ∨
        (Returned (inputAt passes rows n) name ∧ ¬ReportHeeded (inputAt passes rows n))

end Definitions

section Pick

variable {input : OperationInput}

theorem mem_pending_iff {c : OperationCandidate} :
    c ∈ input.pending ↔ c ∈ input.candidates ∧ Pending input c := mem_pending

/-- Every candidate has a row when none is unseeded. -/
theorem allSeeded_iff : AllSeeded input ↔ input.unseeded = [] := by
  rw [eq_nil_iff_forall_not_mem]
  constructor
  · intro h c hc
    obtain ⟨hcands, hnone⟩ := mem_unseeded.mp hc
    have hsome := h c hcands
    rw [hnone] at hsome
    cases hsome
  · intro h c hc
    rw [Option.isSome_iff_ne_none]
    exact fun hnone => h c (mem_unseeded.mpr ⟨hc, hnone⟩)

/-- The pick has the smallest name. -/
theorem name_le_of_runnable {pick : OperationCandidate} {rest : List OperationCandidate}
    (hpick : operationRunnable input.pending = pick :: rest) {c : OperationCandidate}
    (hc : c ∈ operationRunnable input.pending) : pick.name ≤ c.name := by
  have hsorted : (operationRunnable input.pending).Pairwise fun a b => a.name ≤ b.name :=
    (pairwise_insertionSort _ _).sublist (filter_sublist.trans filter_sublist)
  rw [hpick] at hsorted hc
  rcases mem_cons.mp hc with rfl | hrest
  · exact String.le_refl _
  · exact (pairwise_cons.mp hsorted).1 c hrest

/-- An undisturbed operation is the pick. -/
theorem undisturbed_iff {name : String} :
    Undisturbed input name ↔ input.unseeded = [] ∧
        ∃ pick rest, operationRunnable input.pending = pick :: rest ∧ pick.name = name := by
  constructor
  · rintro ⟨hseeded, c, hcands, rfl, hpending, hfree, hsmaller⟩
    refine ⟨allSeeded_iff.mp hseeded, ?_⟩
    have hrunnable : c ∈ operationRunnable input.pending := by
      refine mem_operationRunnable.mpr ⟨mem_pending_iff.mpr ⟨hcands, hpending⟩, fun d hd => ?_⟩
      exact hfree d (mem_pending_iff.mp hd).1 (mem_pending_iff.mp hd).2
    obtain ⟨pick, rest, hpick⟩ := exists_cons_of_ne_nil (ne_nil_of_mem hrunnable)
    refine ⟨pick, rest, hpick, ?_⟩
    obtain ⟨hpickPending, hpickFree⟩ := pending_of_pick hpick
    by_cases hlt : pick.name < c.name
    · obtain ⟨hpickCands, hpickValue⟩ := mem_pending_iff.mp hpickPending
      obtain ⟨e, he, hePending, hreq⟩ := hsmaller pick hpickCands hpickValue hlt
      exact absurd hreq (hpickFree e (mem_pending_iff.mpr ⟨he, hePending⟩))
    · exact String.le_antisymm (name_le_of_runnable hpick hrunnable) (String.not_lt.mp hlt)
  · rintro ⟨hseeded, pick, rest, hpick, rfl⟩
    obtain ⟨hpickPending, hpickFree⟩ := pending_of_pick hpick
    obtain ⟨hpickCands, hpickValue⟩ := mem_pending_iff.mp hpickPending
    refine ⟨allSeeded_iff.mpr hseeded, pick, hpickCands, rfl, hpickValue, fun d hd hdPending => ?_, ?_⟩
    · exact hpickFree d (mem_pending_iff.mpr ⟨hd, hdPending⟩)
    · intro d hd hdPending hlt
      by_contra hnone
      have hdRunnable : d ∈ operationRunnable input.pending := by
        refine mem_operationRunnable.mpr ⟨mem_pending_iff.mpr ⟨hd, hdPending⟩, fun e he hreq => ?_⟩
        exact hnone ⟨e, (mem_pending_iff.mp he).1, (mem_pending_iff.mp he).2, hreq⟩
      exact absurd (name_le_of_runnable hpick hdRunnable) (String.not_le.mpr hlt)

end Pick

section Run

variable {Spec : Type*} {registry : List (HeavyOperation Spec)} {specs : ℕ → Spec}
  {report : ℕ → String → Bool} {passes : ℕ → Pass} {rows : List OperationAck}

section

variable (run : RegistryRun registry specs report passes rows)
include run

theorem RegistryRun.distinctNames :
    DistinctNames passes rows where
  rows := run.rowsDistinct
  candidates n := by
    rw [run.candidates n, operationCandidates, map_map]
    exact run.distinct.sublist (filter_sublist.map _)

variable {n : ℕ} {name : String}

/-- Something pending can run. -/
theorem RegistryRun.exists_runnable (hne : (inputAt passes rows n).pending ≠ []) :
    operationRunnable (inputAt passes rows n).pending ≠ [] := by
  have htable : ∀ entry ∈ requirements (passes n).candidates, entry ∈ requiresTable registry := by
    intro entry hentry
    rw [run.candidates n, requirements, operationCandidates, map_map] at hentry
    obtain ⟨op, hop, rfl⟩ := mem_map.mp hentry
    exact mem_map.mpr ⟨op, (mem_filter.mp hop).1, rfl⟩
  have hacyclic : AcyclicTable (requirements (passes n).candidates) := by
    intro name hcycle
    refine run.acyclic name (Relation.TransGen.mono ?_ _ _ hcycle)
    rintro a b ⟨requires, hmem, hreq, others, hother⟩
    exact ⟨requires, htable _ hmem, hreq, others, htable _ hother⟩
  exact operationRunnable_ne_nil hacyclic (fun c hc => (mem_pending.mp hc).1) hne

/-- A report is about an owed operation. -/
theorem RegistryRun.owed_of_done (hdone : (inputAt passes rows n).driverDone = true) :
    ∃ i, n = i + 1 ∧ Owed passes rows n (planAt passes rows i).run := by
  cases n with
  | zero =>
    have hfirst : (inputAt passes rows 0).driverDone = false := run.first
    rw [hdone] at hfirst
    cases hfirst
  | succ i =>
    have hreported : (inputAt passes rows (i + 1)).driverDone = _ := run.reported i
    rw [hdone, eq_comm, Bool.and_eq_true, decide_eq_true_iff] at hreported
    exact ⟨i, rfl, hreported.1, i, Nat.lt_succ_self i, rfl, fun k hik hki => by omega⟩

/-- An owed operation has a row. -/
theorem RegistryRun.recorded_of_owed (howed : Owed passes rows n name) :
    ((inputAt passes rows n).acks.lookup name).isSome = true := by
  obtain ⟨hne, i, hin, hrun, -⟩ := howed
  have hpending : ∃ c ∈ (inputAt passes rows i).pending, c.name = name := by
    rw [planAt] at hrun
    cases planOperation_decision (inputAt passes rows i) with
    | quarantined _ hnone | bootstrapped _ _ _ hnone | seeded _ _ _ hnone | idle _ _ hnone =>
      exact absurd (hrun.symm.trans hnone) hne
    | completed _ pick rest hpick _ _ _ hnext =>
      rw [hrun] at hnext
      cases hhead : operationRunnable (operationExcept (inputAt passes rows i).pending pick.name) with
      | nil =>
        rw [hhead] at hnext
        exact absurd hnext hne
      | cons next others =>
        rw [hhead] at hnext
        exact ⟨next, (mem_filter.mp (pending_of_pick hhead).1).1, hnext.symm⟩
    | continued _ pick rest hpick _ _ hcont =>
      exact ⟨pick, (pending_of_pick hpick).1, hcont.symm.trans hrun⟩
  obtain ⟨c, hc, rfl⟩ := hpending
  obtain ⟨-, value, hvalue, -⟩ := mem_pending.mp hc
  have hseeded : (recorded passes rows i c.name).isSome = true := by
    exact Option.isSome_iff_exists.mpr ⟨value, hvalue⟩
  exact run.distinctNames.recorded_isSome (Nat.le_of_lt hin) hseeded

end

/-- Only one operation is owed. -/
theorem Uninterrupted.owed_unique (h : Uninterrupted passes rows) {name' : String}
    (howed : Owed passes rows n name) (howed' : Owed passes rows n name') : name = name' := by
  have hlater : ∀ {i i' : ℕ} {a b : String}, a ≠ "" → b ≠ "" → i < i' → i' < n →
      (planAt passes rows i).run = a →
      (∀ k, i < k → k < n → a ∉ (planAt passes rows k).ack.map (·.name) ∧
        ¬Returned (inputAt passes rows k) a) →
      (planAt passes rows i').run = b → a = b := by
    intro i i' a b ha hb hlt hin hrun hkept hrun'
    have hfree : (inputAt passes rows i').quarantined = false := by
      rw [← Bool.not_eq_true]
      intro hquarantined
      cases planOperation_decision (inputAt passes rows i') with
      | quarantined _ hnone => exact hb (hrun'.symm.trans hnone)
      | bootstrapped hfree | seeded hfree => simp [hquarantined] at hfree
      | idle hunheld | completed hunheld | continued hunheld => simp [hunheld.free] at hquarantined
    obtain ⟨hnotAcked, hnotReturned⟩ := hkept i' hlt hin
    have howedThen : Owed passes rows i' a :=
      ⟨ha, i, hlt, hrun, fun k hik hki => hkept k hik (Nat.lt_trans hki hin)⟩
    have hkeeps := (h i' a howedThen hfree hnotReturned).resolve_right hnotAcked
    exact hkeeps.symm.trans hrun'
  obtain ⟨hne, i, hi, hrun, hkept⟩ := howed
  obtain ⟨hne', i', hi', hrun', hkept'⟩ := howed'
  rcases Nat.lt_trichotomy i i' with hlt | rfl | hgt
  · exact hlater hne hne' hlt hi' hrun hkept hrun'
  · exact hrun.symm.trans hrun'
  · exact (hlater hne' hne hgt hi hrun' hkept' hrun).symm

theorem applicable_iff {input : OperationInput} :
    Applicable input name ↔ name ∈ input.sorted.map (·.name) := by
  rw [mem_map]
  refine exists_congr fun c => and_congr_left fun _ => ?_
  rw [OperationInput.sorted, mem_insertionSort]

/-- Steady passes do not interrupt. -/
theorem uninterrupted_of_steady (h : ∀ n, Steady passes rows n) : Uninterrupted passes rows := by
  intro n name howed hfree hnotReturned
  rcases h n with hquarantined | hsteady
  · rw [hfree] at hquarantined
    cases hquarantined
  rw [planAt]
  rcases hsteady name howed with ⟨hboot, happlicable⟩ | hundisturbed | ⟨hreturned, -⟩
  · have hsorted := applicable_iff.mp happlicable
    have hcands : (inputAt passes rows n).sorted ≠ [] := fun hnil => by
      rw [hnil] at hsorted
      cases hsorted
    cases planOperation_decision (inputAt passes rows n) with
    | quarantined hquarantined => simp [hfree] at hquarantined
    | bootstrapped _ _ _ _ hack =>
      rw [hack]
      exact .inr hsorted
    | seeded _ hbooted => exact absurd ⟨hboot, hcands⟩ hbooted
    | idle hunheld | completed hunheld | continued hunheld => exact absurd ⟨hboot, hcands⟩ hunheld.booted
  · obtain ⟨hseeded, pick, rest, hpick, rfl⟩ := undisturbed_iff.mp hundisturbed
    cases planOperation_decision (inputAt passes rows n) with
    | quarantined hquarantined => simp [hfree] at hquarantined
    | bootstrapped _ _ _ _ hack =>
      obtain ⟨c, hc, hname, -⟩ := hundisturbed.first
      rw [hack]
      exact .inr (applicable_iff.mp ⟨c, hc, hname⟩)
    | seeded _ _ hunseeded => exact absurd hseeded hunseeded
    | idle _ hrunnable => simp [hrunnable] at hpick
    | completed _ first others hfirst _ _ hack =>
      obtain rfl : first = pick := (List.cons.inj (hfirst.symm.trans hpick)).1
      rw [hack]
      exact .inr mem_cons_self
    | continued _ first others hfirst _ _ hrun =>
      obtain rfl : first = pick := (List.cons.inj (hfirst.symm.trans hpick)).1
      exact .inl hrun
  · exact absurd hreturned hnotReturned

/-- What is acknowledged is the pick, on a heeded report. -/
theorem completed_of_mem_ack {c : OperationCandidate} (hc : c ∈ (planAt passes rows n).ack)
    (hreason : (planAt passes rows n).reason ≠ .seeded) :
    Unheld (inputAt passes rows n) ∧ ReportHeeded (inputAt passes rows n) ∧
      ∃ rest, operationRunnable (inputAt passes rows n).pending = c :: rest := by
  rw [planAt] at hc hreason
  cases planOperation_decision (inputAt passes rows n) with
  | quarantined _ _ hack | idle _ _ _ hack | continued _ _ _ _ _ hack => simp [hack] at hc
  | bootstrapped _ _ _ _ _ hseeded | seeded _ _ _ _ _ hseeded => exact absurd hseeded hreason
  | completed hunheld pick rest hpick hdone hsettled hack =>
    obtain rfl : c = pick := by simpa [hack] using hc
    refine ⟨hunheld, ⟨hdone, hsettled, allSeeded_iff.mpr hunheld.seeded, c, ?_⟩, rest, hpick⟩
    exact mem_pending_iff.mp (pending_of_pick hpick).1

/-- With steady passes reports are attributed to their operations. -/
theorem RegistryRun.attributed_of_steady (run : RegistryRun registry specs report passes rows)
    (h : ∀ n, Steady passes rows n) : Attributed passes rows := by
  intro n hreason c hc
  obtain ⟨hunheld, hheeded, rest, hpick⟩ := completed_of_mem_ack hc hreason
  obtain ⟨i, rfl, howed⟩ := run.owed_of_done hheeded.done
  refine ⟨i, rfl, ?_⟩
  rcases h (i + 1) with hquarantined | hsteady
  · rw [hunheld.free] at hquarantined
    cases hquarantined
  rcases hsteady _ howed with ⟨hboot, happlicable⟩ | hundisturbed | ⟨-, hunheeded⟩
  · refine absurd ⟨hboot, fun hnil => ?_⟩ hunheld.booted
    have hsorted := applicable_iff.mp happlicable
    rw [hnil] at hsorted
    cases hsorted
  · obtain ⟨-, pick, others, hpick', hname⟩ := undisturbed_iff.mp hundisturbed
    rw [← hname, (List.cons.inj (hpick.symm.trans hpick')).1]
  · exact absurd hheeded hunheeded

/-- The pick is undisturbed. -/
theorem undisturbed_of_pick (hunheld : Unheld (inputAt passes rows n)) {pick : OperationCandidate}
    {rest : List OperationCandidate}
    (hpick : operationRunnable (inputAt passes rows n).pending = pick :: rest) :
    Undisturbed (inputAt passes rows n) pick.name :=
  undisturbed_iff.mpr ⟨hunheld.seeded, pick, rest, hpick, rfl⟩

variable (run : RegistryRun registry specs report passes rows)
  (huninterrupted : Uninterrupted passes rows) (hattributed : Attributed passes rows)
include run huninterrupted hattributed

/-- The acknowledged operation is the owed one. -/
theorem RegistryRun.name_eq_of_mem_ack (howed : Owed passes rows n name) {c : OperationCandidate}
    (hc : c ∈ (planAt passes rows n).ack) (hreason : (planAt passes rows n).reason ≠ .seeded) :
    name = c.name := by
  obtain ⟨-, hheeded, -⟩ := completed_of_mem_ack hc hreason
  obtain ⟨i, rfl, howed'⟩ := run.owed_of_done hheeded.done
  obtain ⟨i', hi', hrun⟩ := hattributed _ hreason c hc
  obtain rfl : i = i' := Nat.succ.inj hi'
  rw [← hrun]
  exact huninterrupted.owed_unique howed howed'

/-- No report is heeded once the value is back. -/
theorem RegistryRun.not_heeded (hfree : (inputAt passes rows n).quarantined = false)
    (hboot : (inputAt passes rows n).bootstrapping = false) (howed : Owed passes rows n name)
    (hreturned : Returned (inputAt passes rows n) name) :
    ¬ReportHeeded (inputAt passes rows n) := by
  intro hheeded
  have hpending : (inputAt passes rows n).pending ≠ [] := by
    obtain ⟨c, hc, hvalue⟩ := hheeded.pending
    exact ne_nil_of_mem (mem_pending_iff.mpr ⟨hc, hvalue⟩)
  obtain ⟨pick, rest, hpick, hplan⟩ :=
    exists_pick hfree hboot (allSeeded_iff.mp hheeded.seeded) (run.exists_runnable hpending)
  rw [if_pos ⟨hheeded.done, hheeded.settled⟩] at hplan
  have hacked : pick ∈ (planAt passes rows n).ack := by
    rw [planAt, hplan.1]
    exact mem_cons_self
  have hname := run.name_eq_of_mem_ack huninterrupted hattributed howed hacked hplan.2
  obtain ⟨hcands, value, hvalue, hdiffers⟩ := mem_pending_iff.mp (pending_of_pick hpick).1
  obtain ⟨c, hc, hcname, hsame⟩ := hreturned
  have hdistinct : ((inputAt passes rows n).candidates.map (·.name)).Nodup := run.distinctNames.candidates n
  obtain rfl := inj_on_of_nodup_map hdistinct hc hcands (hcname.trans hname)
  rw [← hcname, hvalue] at hsame
  exact hdiffers (Option.some.inj hsame)

/-- Without interruptions and false attributions the passes are steady. -/
theorem RegistryRun.steady_of_kept (n : ℕ) : Steady passes rows n := by
  by_cases hquarantined : (inputAt passes rows n).quarantined = true
  · exact .inl hquarantined
  refine .inr fun name howed => ?_
  rw [Bool.not_eq_true] at hquarantined
  by_cases hboot : (inputAt passes rows n).bootstrapping = true ∧ Applicable (inputAt passes rows n) name
  · exact .inl hboot
  refine .inr ?_
  by_cases hreturned : Returned (inputAt passes rows n) name
  · refine .inr ⟨hreturned, ?_⟩
    obtain ⟨c, hc, hname, -⟩ := id hreturned
    have hbooted : (inputAt passes rows n).bootstrapping = false := by
      rw [← Bool.not_eq_true]
      exact fun hboots => hboot ⟨hboots, c, hc, hname⟩
    exact run.not_heeded huninterrupted hattributed hquarantined hbooted howed hreturned
  · refine .inl ?_
    have hkept := huninterrupted n name howed hquarantined hreturned
    have hne := howed.1
    cases planOperation_decision (inputAt passes rows n) with
    | quarantined hheld => simp [hquarantined] at hheld
    | bootstrapped _ hboots _ hrun hack =>
      rw [planAt, hrun, hack] at hkept
      exact absurd ⟨hboots, applicable_iff.mpr (hkept.resolve_left hne.symm)⟩ hboot
    | seeded _ _ _ hrun hack =>
      rw [planAt, hrun, hack] at hkept
      obtain ⟨c, hc, rfl⟩ := mem_map.mp (hkept.resolve_left hne.symm)
      have hsome := run.recorded_of_owed howed
      rw [(mem_unseeded.mp hc).2] at hsome
      cases hsome
    | idle _ _ hrun hack =>
      rw [planAt, hrun, hack] at hkept
      exact absurd (hkept.resolve_left hne.symm) not_mem_nil
    | completed hunheld pick rest hpick _ _ hack _ hreason =>
      have hacked : pick ∈ (planAt passes rows n).ack := by
        rw [planAt, hack]
        exact mem_cons_self
      rw [run.name_eq_of_mem_ack huninterrupted hattributed howed hacked hreason]
      exact undisturbed_of_pick hunheld hpick
    | continued hunheld pick rest hpick _ hack hrun =>
      rw [planAt, hrun, hack] at hkept
      rw [← hkept.resolve_right not_mem_nil]
      exact undisturbed_of_pick hunheld hpick

end Run

/-- Along a run, no operation is interrupted or taken for another exactly when every pass is steady. -/
theorem operations_kept_iff_steady {Spec : Type*} (registry : List (HeavyOperation Spec))
    (specs : ℕ → Spec) (report : ℕ → String → Bool) (passes : ℕ → Pass) (rows : List OperationAck)
    (run : RegistryRun registry specs report passes rows) :
    Uninterrupted passes rows ∧ Attributed passes rows ↔ ∀ n, Steady passes rows n := by
  constructor
  · rintro ⟨huninterrupted, hattributed⟩
    exact run.steady_of_kept huninterrupted hattributed
  · intro hsteady
    exact ⟨uninterrupted_of_steady hsteady, run.attributed_of_steady hsteady⟩

/-- What an instance declares about the name of its master and its authentication. -/
structure DeclaredSpec where
  masterName : String
  auth : String

/-- A rename and an enablement of the authentication. -/
def twoOperations : List (HeavyOperation DeclaredSpec) :=
  [⟨"SentinelMasterNameRename", [], 900000, (·.masterName), fun _ => true⟩,
    ⟨"EnableAuth", [], 900000, (·.auth), fun _ => true⟩]

def carriedOut : List OperationAck := [⟨"SentinelMasterNameRename", "mymaster", 0⟩, ⟨"EnableAuth", "off", 0⟩]

/-- A pass on settled StatefulSets. -/
def settledPass (spec : DeclaredSpec) (driverDone : Bool) : Pass where
  candidates := operationCandidates spec twoOperations
  quarantined := false
  bootstrapping := false
  settled := true
  driverDone := driverDone
  driverBlocked := false
  active := none
  now := 0

theorem acyclic_twoOperations : AcyclicTable (requiresTable twoOperations) := by
  intro name hcycle
  obtain ⟨next, ⟨requires, hmem, hreq, -⟩, -⟩ := Relation.TransGen.head'_iff.mp hcycle
  obtain rfl : requires = [] := by
    simp only [requiresTable, twoOperations, map_cons, map_nil, mem_cons, Prod.mk.injEq,
      not_mem_nil, or_false] at hmem
    rcases hmem with ⟨-, h⟩ | ⟨-, h⟩
    · exact h
    · exact h
  cases hreq

def renameOnly (_ : ℕ) : Pass := settledPass ⟨"prod", "off"⟩ false

/-- The rename runs in every pass, and every pass is steady. -/
theorem renameOnly_steady :
    (planAt renameOnly carriedOut 7).run = "SentinelMasterNameRename" ∧
      ∀ n, Steady renameOnly carriedOut n := by
  have hrows : ∀ n, rowsAt renameOnly carriedOut n = carriedOut := by
    intro n
    induction n with
    | zero => rfl
    | succ n ih =>
      rw [rowsAt, ih, renameOnly]
      decide
  have hplan : ∀ n, (planAt renameOnly carriedOut n).run = "SentinelMasterNameRename" ∧
      (planAt renameOnly carriedOut n).ack = [] := by
    intro n
    rw [planAt, inputAt, hrows n, renameOnly]
    decide
  have hrun : RegistryRun twoOperations (fun _ => ⟨"prod", "off"⟩) (fun _ _ => false) renameOnly
      carriedOut :=
    { distinct := by decide
      acyclic := acyclic_twoOperations
      rowsDistinct := by decide
      candidates := fun _ => rfl
      first := rfl
      reported := fun _ => (Bool.and_false _).symm }
  refine ⟨(hplan 7).1, (operations_kept_iff_steady _ _ _ _ _ hrun).mp ⟨?_, ?_⟩⟩
  · rintro n name ⟨-, i, -, hname, -⟩ - -
    exact .inl ((hplan n).1.trans ((hplan i).1.symm.trans hname))
  · intro n _ c hc
    rw [(hplan n).2] at hc
    cases hc

/-- An edit turns the authentication on while the driver of the rename may report. -/
def editWhileRenaming (done : Bool) (n : ℕ) : Pass :=
  settledPass ⟨"prod", if n = 0 then "off" else "on"⟩ (done && n == 1)

/-- The enablement is acknowledged on the report of the rename, and was never carried out. -/
theorem editWhileRenaming_misattributed :
    let specs (n : ℕ) : DeclaredSpec := ⟨"prod", if n = 0 then "off" else "on"⟩
    let plans (done : Bool) := planAt (editWhileRenaming done) carriedOut
    (∀ done, RegistryRun twoOperations specs (fun n _ => done && n == 1) (editWhileRenaming done)
        carriedOut) ∧
      (plans false 0).run = "SentinelMasterNameRename" ∧ (plans false 1).run = "EnableAuth" ∧
      ¬Uninterrupted (editWhileRenaming false) carriedOut ∧
      (plans true 0).run = "SentinelMasterNameRename" ∧
      (plans true 1).ack.map (·.name) = ["EnableAuth"] ∧
      ¬Attributed (editWhileRenaming true) carriedOut := by
  intro specs plans
  have hruns : (plans false 0).run = "SentinelMasterNameRename" ∧ (plans false 1).run = "EnableAuth" ∧
      (plans true 0).run = "SentinelMasterNameRename" ∧
      (plans true 1).ack.map (·.name) = ["EnableAuth"] := by decide
  refine ⟨fun done => ?_, hruns.1, hruns.2.1, fun h => ?_, hruns.2.2.1, hruns.2.2.2, fun h => ?_⟩
  · exact
      { distinct := by decide
        acyclic := acyclic_twoOperations
        rowsDistinct := by decide
        candidates := fun _ => rfl
        first := Bool.and_false _
        reported := fun n => by
          cases n with
          | zero => cases done <;> decide
          | succ n =>
            have hlate : (done && n + 1 + 1 == 1) = false := by simp
            rw [hlate, Bool.and_false]
            exact hlate }
  · have howed : Owed (editWhileRenaming false) carriedOut 1 "SentinelMasterNameRename" :=
      ⟨by decide, 0, Nat.one_pos, hruns.1, fun k h0 h1 => by omega⟩
    have hpending : ¬Returned (inputAt (editWhileRenaming false) carriedOut 1)
        "SentinelMasterNameRename" := by
      rintro ⟨c, hc, hname, hvalue⟩
      revert c
      decide
    rcases h 1 _ howed rfl hpending with hrun | hack
    · exact absurd (hruns.2.1.symm.trans hrun) (by decide)
    · exact absurd hack (by decide)
  · obtain ⟨c, hc, hname⟩ : ∃ c ∈ (plans true 1).ack, c.name = "EnableAuth" := by decide
    obtain ⟨i, hi, hrun⟩ := h 1 (by decide) c hc
    obtain rfl : i = 0 := (Nat.succ.inj hi).symm
    rw [hname] at hrun
    exact absurd (hruns.2.2.1.symm.trans hrun) (by decide)

end LittleRed.Operation
