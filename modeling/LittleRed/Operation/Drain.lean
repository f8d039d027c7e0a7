import LittleRed.Operation.Queue

/-!
# The queue drains

While the declared values stay as they are and every running operation is reported done at last,
each pass either leaves the pending operations as they are or takes the first runnable one away.
-/

namespace LittleRed.Operation

open Lib List

/-- The same candidates on every pass, without a quarantine, and every operation that runs is later done
and settled. -/
structure FixedRun (cands : List OperationCandidate) (passes : ℕ → Pass) (rows : List OperationAck) :
    Prop where
  distinct : (cands.map (·.name)).Nodup
  acyclic : AcyclicTable (requirements cands)
  rowsDistinct : (rows.map (·.name)).Nodup
  candidates : ∀ n, (passes n).candidates = cands
  free : ∀ n, (passes n).quarantined = false
  booted : ∀ n, (passes n).bootstrapping = false
  fair : ∀ n, ∀ c ∈ cands, (planAt passes rows n).run = c.name →
    ∃ m > n, (passes m).driverDone = true ∧ (passes m).settled = true

section Steps

variable {cands : List OperationCandidate} {passes : ℕ → Pass} {rows : List OperationAck}
  (run : FixedRun cands passes rows)
include run

theorem FixedRun.distinctNames : DistinctNames passes rows where
  rows := run.rowsDistinct
  candidates n := by
    rw [run.candidates n]
    exact run.distinct

variable {n m : ℕ} {c : OperationCandidate}

theorem FixedRun.mem_pendingAt :
    c ∈ (inputAt passes rows n).pending ↔
      c ∈ cands ∧ ∃ value, recorded passes rows n c.name = some value ∧ value ≠ c.fingerprint := by
  rw [mem_pending, ← run.candidates n]
  rfl

theorem FixedRun.mem_unseededAt :
    c ∈ (inputAt passes rows n).unseeded ↔ c ∈ cands ∧ recorded passes rows n c.name = none := by
  rw [mem_unseeded, ← run.candidates n]
  rfl

theorem FixedRun.exists_runnable (hne : (inputAt passes rows n).pending ≠ []) :
    operationRunnable (inputAt passes rows n).pending ≠ [] :=
  operationRunnable_ne_nil run.acyclic (fun _ hc => (run.mem_pendingAt.mp hc).1) hne

/-- A pass records what it acknowledges. -/
theorem FixedRun.recorded_succ (n : ℕ) (hc : c ∈ cands) :
    recorded passes rows (n + 1) c.name =
      if c ∈ (planAt passes rows n).ack then some c.fingerprint else recorded passes rows n c.name := by
  obtain ⟨hwritten, hkept⟩ := run.distinctNames.recorded_succ n
  split
  · rename_i hack
    exact hwritten c hack
  · rename_i hack
    refine hkept c.name fun hname => hack ?_
    obtain ⟨d, hd, hdc⟩ := mem_map.mp hname
    have hdcands : d ∈ cands := by
      rw [← run.candidates n]
      exact (ack_sublist _).1 d hd
    rwa [← inj_on_of_nodup_map run.distinct hdcands hc hdc]

/-- What is acknowledged is no longer pending. -/
theorem FixedRun.pending_succ (n : ℕ) :
    (inputAt passes rows (n + 1)).pending =
      (inputAt passes rows n).pending.filter (· ∉ (planAt passes rows n).ack) := by
  have hsorted : ∀ n, (inputAt passes rows n).sorted = cands.insertionSort (·.name ≤ ·.name) := by
    intro n
    rw [OperationInput.sorted, ← run.candidates n]
    rfl
  rw [OperationInput.pending, OperationInput.pending, hsorted, hsorted, filter_filter]
  refine filter_congr fun c hc => ?_
  have hrecorded := run.recorded_succ n ((mem_insertionSort _).mp hc)
  have hnext : (inputAt passes rows (n + 1)).acks.lookup c.name =
      if c ∈ (planAt passes rows n).ack then some c.fingerprint
      else (inputAt passes rows n).acks.lookup c.name := hrecorded
  rw [hnext]
  by_cases hack : c ∈ (planAt passes rows n).ack
  · simp [hack]
  · simp [hack]

/-- After one pass everything has a record. -/
theorem FixedRun.unseeded_succ (n : ℕ) : (inputAt passes rows (n + 1)).unseeded = [] := by
  rw [eq_nil_iff_forall_not_mem]
  intro c hc
  obtain ⟨hcands, hnone⟩ := run.mem_unseededAt.mp hc
  rw [run.recorded_succ n hcands] at hnone
  split at hnone
  · cases hnone
  rename_i hack
  refine hack ?_
  have hunseeded := run.mem_unseededAt.mpr ⟨hcands, hnone⟩
  have hfree : (inputAt passes rows n).quarantined = false := run.free n
  have hbooted : (inputAt passes rows n).bootstrapping = false := run.booted n
  cases planOperation_decision (inputAt passes rows n) with
  | quarantined hquarantined => simp [hfree] at hquarantined
  | bootstrapped _ hboot => simp [hbooted] at hboot
  | seeded _ _ _ _ hwritten =>
    rwa [planAt, hwritten]
  | idle hunheld | completed hunheld | continued hunheld =>
    rw [hunheld.seeded] at hunseeded
    cases hunseeded

/-- Pending operations only become fewer. -/
theorem FixedRun.pending_sublist (hnm : n ≤ m) :
    (inputAt passes rows m).pending.Sublist (inputAt passes rows n).pending := by
  induction m, hnm using Nat.le_induction with
  | base => exact .refl _
  | succ m _ ih =>
    rw [run.pending_succ m]
    exact filter_sublist.trans ih

/-- What is acknowledged was pending without a pending requirement. -/
theorem FixedRun.acknowledged (hc : c ∈ (inputAt passes rows 0).pending)
    (hack : c ∈ (planAt passes rows n).ack) :
    c ∈ (inputAt passes rows n).pending ∧ ∀ d ∈ (inputAt passes rows n).pending, d.name ∉ c.requires := by
  rcases mem_ack hack (run.booted n) with hunseeded | ⟨-, ⟨rest, hpick⟩, -⟩
  · obtain ⟨hcands, value, hvalue, -⟩ := run.mem_pendingAt.mp hc
    have hseeded : (recorded passes rows 0 c.name).isSome = true := by rw [hvalue]; rfl
    have hsome := run.distinctNames.recorded_isSome (Nat.zero_le n) hseeded
    rw [(run.mem_unseededAt.mp hunseeded).2] at hsome
    cases hsome
  · exact pending_of_pick hpick

/-- What is no longer pending was acknowledged. -/
theorem FixedRun.exists_ack (hc : c ∈ (inputAt passes rows 0).pending)
    (hgone : c ∉ (inputAt passes rows n).pending) :
    ∃ m < n, c ∈ (planAt passes rows m).ack := by
  induction n with
  | zero => exact absurd hc hgone
  | succ n ih =>
    by_cases hmem : c ∈ (inputAt passes rows n).pending
    · refine ⟨n, Nat.lt_succ_self n, ?_⟩
      by_contra hack
      refine hgone ?_
      rw [run.pending_succ n]
      exact mem_filter.mpr ⟨hmem, by simpa using hack⟩
    · obtain ⟨m, hm, hack⟩ := ih hmem
      exact ⟨m, Nat.lt_succ_of_lt hm, hack⟩

/-- An operation is acknowledged once. -/
theorem FixedRun.ack_lt (hc : c ∈ (inputAt passes rows 0).pending) (hn : c ∈ (planAt passes rows n).ack)
    (hm : c ∈ (planAt passes rows m).ack) : m ≤ n := by
  by_contra hlt
  have hmem := (run.pending_sublist (Nat.lt_of_not_le hlt)).subset (run.acknowledged hc hm).1
  rw [run.pending_succ n] at hmem
  simp [hn] at hmem

/-- A pass that finds it done acknowledges an operation. -/
theorem FixedRun.length_lt (hn : (inputAt passes rows n).unseeded = [])
    (hne : (inputAt passes rows n).pending ≠ []) (hdone : (passes n).driverDone = true)
    (hsettled : (passes n).settled = true) :
    (inputAt passes rows (n + 1)).pending.length < (inputAt passes rows n).pending.length := by
  obtain ⟨pick, rest, hpick, hplan⟩ := exists_pick (run.free n) (run.booted n) hn (run.exists_runnable hne)
  rw [if_pos ⟨hdone, hsettled⟩] at hplan
  rw [run.pending_succ n, planAt, hplan.1]
  exact length_filter_lt_length_iff_exists.mpr ⟨pick, (pending_of_pick hpick).1, by simp⟩

theorem FixedRun.exists_length_lt (hn : (inputAt passes rows n).unseeded = [])
    (hne : (inputAt passes rows n).pending ≠ []) :
    ∃ m > n, (inputAt passes rows m).pending.length < (inputAt passes rows n).pending.length := by
  obtain ⟨pick, rest, hpick, hplan⟩ := exists_pick (run.free n) (run.booted n) hn (run.exists_runnable hne)
  split at hplan
  · rename_i hdone
    exact ⟨n + 1, Nat.lt_succ_self n, run.length_lt hn hne hdone.1 hdone.2⟩
  · have hcands := (run.mem_pendingAt.mp (pending_of_pick hpick).1).1
    obtain ⟨m, hm, hdone, hsettled⟩ := run.fair n pick hcands hplan
    have hsub := run.pending_sublist (Nat.le_of_lt hm)
    rcases Nat.lt_or_ge (inputAt passes rows m).pending.length (inputAt passes rows n).pending.length with
      hlt | hge
    · exact ⟨m, hm, hlt⟩
    · -- Nothing left the queue until the report, so the operation that runs is still the first.
      have hsame := hsub.eq_of_length_le hge
      have hseeded : (inputAt passes rows m).unseeded = [] := by
        obtain ⟨k, rfl⟩ : ∃ k, m = k + 1 := ⟨m - 1, by omega⟩
        exact run.unseeded_succ k
      refine ⟨m + 1, by omega, ?_⟩
      rw [← hsame] at hne ⊢
      exact run.length_lt hseeded hne hdone hsettled

theorem FixedRun.exists_pending_eq_nil : ∃ n, (inputAt passes rows n).pending = [] ∧ 0 < n := by
  have hdrain : ∀ size n, 0 < n → (inputAt passes rows n).pending.length = size →
      ∃ m, (inputAt passes rows m).pending = [] ∧ 0 < m := by
    intro size
    induction size using Nat.strong_induction_on with
    | h size ih =>
      intro n hn hsize
      by_cases hempty : (inputAt passes rows n).pending = []
      · exact ⟨n, hempty, hn⟩
      have hseeded : (inputAt passes rows n).unseeded = [] := by
        obtain ⟨k, rfl⟩ : ∃ k, n = k + 1 := ⟨n - 1, by omega⟩
        exact run.unseeded_succ k
      obtain ⟨m, hm, hlt⟩ := run.exists_length_lt hseeded hempty
      exact ih _ (hsize ▸ hlt) m (by omega) rfl
  exact hdrain _ 1 Nat.one_pos rfl

/-- Then every value is on record, for good. -/
theorem FixedRun.recorded_of_pending_eq_nil (hn : 0 < n) (hnm : n ≤ m)
    (hempty : (inputAt passes rows n).pending = []) (hc : c ∈ cands) :
    recorded passes rows m c.name = some c.fingerprint := by
  obtain ⟨k, rfl⟩ : ∃ k, m = k + 1 := ⟨m - 1, by omega⟩
  have hnotPending : c ∉ (inputAt passes rows (k + 1)).pending := fun hmem => by
    have hmem' := (run.pending_sublist hnm).subset hmem
    rw [hempty] at hmem'
    cases hmem'
  have hnotUnseeded : c ∉ (inputAt passes rows (k + 1)).unseeded := by
    rw [run.unseeded_succ k]
    exact not_mem_nil
  cases hvalue : recorded passes rows (k + 1) c.name with
  | none => exact absurd (run.mem_unseededAt.mpr ⟨hc, hvalue⟩) hnotUnseeded
  | some value =>
    by_contra hne
    refine hnotPending (run.mem_pendingAt.mpr ⟨hc, value, hvalue, fun heq => hne ?_⟩)
    rw [heq]

end Steps

/-- A quarantined pass neither acknowledges nor runs anything. -/
theorem planOperation_of_quarantined {input : OperationInput} (h : input.quarantined = true) :
    (planOperation input).ack = [] ∧ (planOperation input).run = "" := by
  cases planOperation_decision input with
  | quarantined _ hrun hack => exact ⟨hack, hrun⟩
  | bootstrapped hfree | seeded hfree => simp [h] at hfree
  | idle hunheld | completed hunheld | continued hunheld => simp [hunheld.free] at h

/-- What it means that the queue drains in the order of the requirements. -/
structure Drains (cands : List OperationCandidate) (passes : ℕ → Pass) (rows : List OperationAck) :
    Prop where
  settles : ∃ n, ∀ m ≥ n, ∀ c ∈ cands, recorded passes rows m c.name = some c.fingerprint
  once : ∀ n, ∀ c ∈ (inputAt passes rows n).pending, ∃! k, c ∈ (planAt passes rows k).ack
  ordered : ∀ n, ∀ c ∈ (inputAt passes rows n).pending, ∀ d ∈ (inputAt passes rows 0).pending,
    d.name ∈ c.requires →
      ∀ k m, c ∈ (planAt passes rows k).ack → d ∈ (planAt passes rows m).ack → m < k
  single : ∀ n, ∀ c ∈ cands, ∀ d ∈ cands, (planAt passes rows n).run = c.name →
    (planAt passes rows n).run = d.name → c = d
  runnable : ∀ n, (inputAt passes rows n).unseeded = [] → (inputAt passes rows n).pending ≠ [] →
    operationRunnable (inputAt passes rows n).pending ≠ []

/-- The queue drains in the order of the requirements. -/
theorem queue_drains (cands : List OperationCandidate) (passes : ℕ → Pass) (rows : List OperationAck)
    (run : FixedRun cands passes rows) :
    Drains cands passes rows ∧ ∀ input : OperationInput, input.quarantined = true →
      (planOperation input).ack = [] ∧ (planOperation input).run = "" := by
  obtain ⟨last, hempty, hlast⟩ := run.exists_pending_eq_nil
  have hinitial : ∀ n, ∀ c ∈ (inputAt passes rows n).pending, c ∈ (inputAt passes rows 0).pending :=
    fun n _ hc => (run.pending_sublist (Nat.zero_le n)).subset hc
  refine ⟨⟨⟨last, fun m hm c => run.recorded_of_pending_eq_nil hlast hm hempty⟩, ?_, ?_, ?_, ?_⟩,
    fun _ => planOperation_of_quarantined⟩
  · intro n c hc
    have hgone : c ∉ (inputAt passes rows last).pending := by
      rw [hempty]
      exact not_mem_nil
    obtain ⟨k, -, hack⟩ := run.exists_ack (hinitial n c hc) hgone
    refine ⟨k, hack, fun m hm => Nat.le_antisymm ?_ ?_⟩
    · exact run.ack_lt (hinitial n c hc) hack hm
    · exact run.ack_lt (hinitial n c hc) hm hack
  · intro n c hc d hd hreq k m hk hm
    have hgone : d ∉ (inputAt passes rows k).pending := fun hmem =>
      (run.acknowledged (hinitial n c hc) hk).2 d hmem hreq
    obtain ⟨m', hlt, hack⟩ := run.exists_ack hd hgone
    exact Nat.lt_of_le_of_lt (run.ack_lt hd hack hm) hlt
  · intro n c hc d hd hrun hrun'
    exact inj_on_of_nodup_map run.distinct hc hd (hrun.symm.trans hrun')
  · exact fun n _ => run.exists_runnable

def authEnable : OperationCandidate := ⟨"EnableAuth", "on", [], 900000⟩

def passwordRotation : OperationCandidate := ⟨"ChangePassword", "new", ["EnableAuth"], 900000⟩

/-- Passes with both pending, done from the second on. -/
def twoPendingPasses (n : ℕ) : Pass where
  candidates := [passwordRotation, authEnable]
  quarantined := false
  bootstrapping := false
  settled := true
  driverDone := decide (0 < n)
  driverBlocked := false
  active := none
  now := 0

def twoPendingRows : List OperationAck := [⟨"EnableAuth", "off", 0⟩, ⟨"ChangePassword", "old", 0⟩]

/-- The requirement is no cycle. -/
theorem acyclic_twoPending : AcyclicTable (requirements [passwordRotation, authEnable]) := by
  have hedge : ∀ a b, RequiresIn (requirements [passwordRotation, authEnable]) a b →
      a = "ChangePassword" ∧ b = "EnableAuth" := by
    rintro a b ⟨requires, hmem, hreq, -⟩
    simp only [requirements, passwordRotation, authEnable, map_cons, map_nil, mem_cons,
      Prod.mk.injEq, not_mem_nil, or_false] at hmem
    rcases hmem with ⟨rfl, rfl⟩ | ⟨rfl, rfl⟩
    · exact ⟨rfl, mem_singleton.mp hreq⟩
    · cases hreq
  intro name hcycle
  have hfirst : name = "ChangePassword" := by
    obtain ⟨next, hnext, -⟩ := Relation.TransGen.head'_iff.mp hcycle
    exact (hedge _ _ hnext).1
  have hlast : name = "EnableAuth" := by
    obtain ⟨previous, -, hprevious⟩ := Relation.TransGen.tail'_iff.mp hcycle
    exact (hedge _ _ hprevious).2
  rw [hfirst] at hlast
  exact absurd hlast (by decide)

/-- The enablement runs first, then the change of the password. -/
theorem twoPending_drains :
    let plans := [0, 1, 2].map fun n => planAt twoPendingPasses twoPendingRows n
    plans.map (·.run) = ["EnableAuth", "ChangePassword", ""] ∧
      plans.map (·.ack) = [[], [authEnable], [passwordRotation]] ∧
      Drains [passwordRotation, authEnable] twoPendingPasses twoPendingRows := by
  refine ⟨by decide, by decide, (queue_drains _ _ _ ?_).1⟩
  exact
    { distinct := by decide
      acyclic := acyclic_twoPending
      rowsDistinct := by decide
      candidates := fun _ => rfl
      free := fun _ => rfl
      booted := fun _ => rfl
      fair := fun n _ _ _ => ⟨n + 1, Nat.lt_succ_self n, rfl, rfl⟩ }

end LittleRed.Operation
