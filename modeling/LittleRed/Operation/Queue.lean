import LittleRed.Lib.Connectivity
import LittleRed.Operation.Plan

/-!
# The queue of operations

The passes of the operator carry the pending operations out one after the other. What a pass
acknowledges is recorded in the status, and the next pass reads it from there. While the declared
values stay as they are, the queue drains in the order of the requirements.
-/

namespace LittleRed.Operation

open Lib Relation List

/-- A row of the status: the value of an operation that was carried out. -/
structure OperationAck where
  name : String
  fingerprint : String
  acknowledgedAt : ℤ
  deriving DecidableEq

/-- Write the row of one candidate, in place where there is one. -/
def upsertOperationAck (now : ℤ) : List OperationAck → OperationCandidate → List OperationAck
  | [], c => [⟨c.name, c.fingerprint, now⟩]
  | row :: rest, c =>
    if row.name = c.name then ⟨row.name, c.fingerprint, now⟩ :: rest
    else row :: upsertOperationAck now rest c

/-- Record what is acknowledged. -/
def upsertOperationAcks (existing : List OperationAck) (ack : List OperationCandidate) (now : ℤ) :
    List OperationAck :=
  ack.foldl (upsertOperationAck now) existing

/-- What a pass finds beside the rows: the candidates and the report of the driver. -/
structure Pass where
  candidates : List OperationCandidate
  quarantined : Bool
  bootstrapping : Bool
  settled : Bool
  driverDone : Bool
  driverBlocked : Bool
  active : Option OperationStatus
  now : ℤ

/-- The rows of the status by name. -/
def acksOf (rows : List OperationAck) : GoMap String String :=
  GoMap.ofPairs (rows.map fun row => (row.name, row.fingerprint))

/-- Everything that the decision reads in a pass. -/
def buildOperationInput (rows : List OperationAck) (pass : Pass) : OperationInput where
  candidates := pass.candidates
  acks := acksOf rows
  quarantined := pass.quarantined
  bootstrapping := pass.bootstrapping
  settled := pass.settled
  driverDone := pass.driverDone
  driverBlocked := pass.driverBlocked
  active := pass.active
  now := pass.now

section Runs

variable (passes : ℕ → Pass) (rows : List OperationAck)

/-- The rows that a pass finds, when the passes before it recorded what they acknowledged. -/
def rowsAt : ℕ → List OperationAck
  | 0 => rows
  | n + 1 =>
    upsertOperationAcks (rowsAt n) (planOperation (buildOperationInput (rowsAt n) (passes n))).ack
      (passes n).now

/-- What the pass `n` plans on. -/
def inputAt (n : ℕ) : OperationInput := buildOperationInput (rowsAt passes rows n) (passes n)

/-- What the pass `n` plans. -/
def planAt (n : ℕ) : OperationPlan := planOperation (inputAt passes rows n)

end Runs

/-- Nothing keeps the pass from looking at the pending operations. -/
structure Unheld (input : OperationInput) : Prop where
  free : input.quarantined = false
  booted : ¬(input.bootstrapping = true ∧ input.sorted ≠ [])
  seeded : input.unseeded = []

/-- What a pass decides, row by row. -/
inductive Decision (input : OperationInput) (plan : OperationPlan) : Prop
  | quarantined (hquarantined : input.quarantined = true) (hrun : plan.run = "") (hack : plan.ack = [])
  | bootstrapped (hfree : input.quarantined = false) (hboot : input.bootstrapping = true)
      (hcands : input.sorted ≠ []) (hrun : plan.run = "") (hack : plan.ack = input.sorted)
      (hreason : plan.reason = .seeded)
  | seeded (hfree : input.quarantined = false)
      (hboot : ¬(input.bootstrapping = true ∧ input.sorted ≠ [])) (hunseeded : input.unseeded ≠ [])
      (hrun : plan.run = "") (hack : plan.ack = input.unseeded) (hreason : plan.reason = .seeded)
  | idle (hunheld : Unheld input) (hrunnable : operationRunnable input.pending = [])
      (hrun : plan.run = "") (hack : plan.ack = [])
  | completed (hunheld : Unheld input) (pick : OperationCandidate) (rest : List OperationCandidate)
      (hpick : operationRunnable input.pending = pick :: rest) (hdone : input.driverDone = true)
      (hsettled : input.settled = true) (hack : plan.ack = [pick])
      (hrun : plan.run =
        ((operationRunnable (operationExcept input.pending pick.name)).head?.map (·.name)).getD "")
      (hreason : plan.reason ≠ .seeded)
  | continued (hunheld : Unheld input) (pick : OperationCandidate) (rest : List OperationCandidate)
      (hpick : operationRunnable input.pending = pick :: rest)
      (hdone : ¬(input.driverDone = true ∧ input.settled = true)) (hack : plan.ack = [])
      (hrun : plan.run = pick.name)

variable (input : OperationInput) (pending : List OperationCandidate) (pick : OperationCandidate)

/-- A completed operation is acknowledged and releases the next one. -/
theorem completeOperation_spec :
    (completeOperation pending pick).ack = [pick] ∧ (completeOperation pending pick).run =
        ((operationRunnable (operationExcept pending pick.name)).head?.map (·.name)).getD "" ∧
      (completeOperation pending pick).reason ≠ .seeded := by
  unfold completeOperation
  cases hremaining : operationExcept pending pick.name with
  | nil => exact ⟨rfl, rfl, nofun⟩
  | cons first rest =>
    dsimp only
    cases hrunnable : operationRunnable (first :: rest) with
    | nil | cons => exact ⟨rfl, rfl, nofun⟩

/-- The pick is run. -/
theorem continueOperation_run : (continueOperation input pending pick).run = pick.name := by
  unfold continueOperation
  repeat' split
  all_goals rfl

/-- Which decision a pass comes to. -/
theorem planOperation_decision : Decision input (planOperation input) := by
  unfold planOperation
  by_cases hquarantined : input.quarantined = true
  · rw [if_pos hquarantined]
    split
    · exact .quarantined hquarantined rfl rfl
    · exact .quarantined hquarantined rfl rfl
  rw [if_neg hquarantined]
  rw [Bool.not_eq_true] at hquarantined
  have hboots : (input.bootstrapping && decide (0 < input.sorted.length)) = true ↔
      input.bootstrapping = true ∧ input.sorted ≠ [] := by
    rw [Bool.and_eq_true, decide_eq_true_iff, length_pos_iff]
  by_cases hboot : input.bootstrapping = true ∧ input.sorted ≠ []
  · rw [if_pos (hboots.mpr hboot)]
    exact .bootstrapped hquarantined hboot.1 hboot.2 rfl rfl rfl
  rw [if_neg (mt hboots.mp hboot)]
  by_cases hunseeded : input.unseeded = []
  · have hunheld : Unheld input := ⟨hquarantined, hboot, hunseeded⟩
    rw [hunseeded, length_nil]
    cases hpending : input.pending with
    | nil => exact .idle hunheld (by rw [hpending]; rfl) rfl rfl
    | cons first others =>
      dsimp only
      rw [← hpending]
      cases hrunnable : operationRunnable input.pending with
      | nil => exact .idle hunheld hrunnable rfl rfl
      | cons pick rest =>
        dsimp only
        by_cases hdone : input.driverDone = true ∧ input.settled = true
        · rw [if_pos (Bool.and_eq_true_iff.mpr hdone)]
          obtain ⟨hack, hrun, hreason⟩ := completeOperation_spec input.pending pick
          exact .completed hunheld pick rest hrunnable hdone.1 hdone.2 hack hrun hreason
        · rw [if_neg (mt Bool.and_eq_true_iff.mp hdone)]
          exact .continued hunheld pick rest hrunnable hdone (continueOperation_ack _ _ _)
            (continueOperation_run _ _ _)
  · rw [if_pos (length_pos_iff.mpr hunseeded)]
    exact .seeded hquarantined hboot hunseeded rfl rfl rfl

section Rows

/-- A row is replaced or appended. -/
theorem map_name_upsertOperationAck (now : ℤ) (rows : List OperationAck) (c : OperationCandidate) :
    (upsertOperationAck now rows c).map (·.name) =
      if c.name ∈ rows.map (·.name) then rows.map (·.name) else rows.map (·.name) ++ [c.name] := by
  induction rows with
  | nil => rfl
  | cons row rest ih =>
    rw [upsertOperationAck]
    by_cases hname : row.name = c.name
    · simp [hname]
    have hname' : ¬c.name = row.name := fun h => hname h.symm
    rw [if_neg hname, map_cons, ih]
    by_cases hmem : c.name ∈ rest.map (·.name)
    · rw [if_pos hmem, map_cons, if_pos (mem_cons_of_mem _ hmem)]
    · rw [if_neg hmem, map_cons, if_neg (not_mem_cons_of_ne_of_not_mem hname' hmem)]
      rfl

variable {now : ℤ} {rows : List OperationAck} {c : OperationCandidate}

/-- Names stay different. -/
theorem nodup_upsertOperationAck
    (hrows : (rows.map (·.name)).Nodup) : ((upsertOperationAck now rows c).map (·.name)).Nodup := by
  rw [map_name_upsertOperationAck]
  split
  · exact hrows
  · rename_i hnew
    exact (nodup_append_comm.mp (nodup_cons.mpr ⟨hnew, hrows⟩))

/-- What the rows record afterwards. -/
theorem mem_upsertOperationAck (hrows : (rows.map (·.name)).Nodup) {name fingerprint : String} :
    (name, fingerprint) ∈ (upsertOperationAck now rows c).map (fun row => (row.name, row.fingerprint)) ↔
      if name = c.name then fingerprint = c.fingerprint
      else (name, fingerprint) ∈ rows.map fun row => (row.name, row.fingerprint) := by
  induction rows with
  | nil => by_cases hname : name = c.name <;> simp [upsertOperationAck, hname]
  | cons row rest ih =>
    obtain ⟨hrow, hrest⟩ := nodup_cons.mp hrows
    have hfresh : ∀ value, (row.name, value) ∉ rest.map fun row => (row.name, row.fingerprint) := by
      intro value hmem
      obtain ⟨other, hother, heq⟩ := mem_map.mp hmem
      exact hrow (mem_map.mpr ⟨other, hother, (Prod.mk.inj heq).1⟩)
    rw [upsertOperationAck]
    by_cases hname : row.name = c.name
    · rw [if_pos hname]
      by_cases heq : name = c.name
      · obtain rfl : name = row.name := heq.trans hname.symm
        rw [if_pos heq, map_cons, mem_cons, or_iff_left (hfresh fingerprint), Prod.mk.injEq]
        exact and_iff_right rfl
      · have hne : name ≠ row.name := fun h => heq (h.trans hname)
        simp [heq, hne]
    · rw [if_neg hname, map_cons, mem_cons, ih hrest]
      by_cases heq : name = c.name
      · have hne : name ≠ row.name := fun h => hname (h.symm.trans heq)
        simp [heq ▸ hne, heq]
      · simp [heq]

/-- One value is on record afterwards. -/
theorem lookup_upsertOperationAck (hrows : (rows.map (·.name)).Nodup) (name : String) :
    (acksOf (upsertOperationAck now rows c)).lookup name =
      if name = c.name then some c.fingerprint else (acksOf rows).lookup name := by
  have hfound : ∀ rows : List OperationAck, (rows.map (·.name)).Nodup → ∀ value,
      (acksOf rows).lookup name = some value ↔
        (name, value) ∈ rows.map fun row => (row.name, row.fingerprint) := by
    intro rows hrows value
    refine GoMap.lookup_ofPairs_eq_some ?_
    rwa [List.map_map]
  refine Option.ext fun value => ?_
  rw [hfound _ (nodup_upsertOperationAck hrows), mem_upsertOperationAck hrows]
  split
  · rw [Option.some.injEq, eq_comm]
  · rw [hfound _ hrows]

/-- All acknowledged values are on record, and the others as before. -/
theorem lookup_upsertOperationAcks (ack : List OperationCandidate) (hack : (ack.map (·.name)).Nodup)
    (rows : List OperationAck) (hrows : (rows.map (·.name)).Nodup) :
    ((upsertOperationAcks rows ack now).map (·.name)).Nodup ∧
      (∀ c ∈ ack, (acksOf (upsertOperationAcks rows ack now)).lookup c.name = some c.fingerprint) ∧
      ∀ name, name ∉ ack.map (·.name) →
        (acksOf (upsertOperationAcks rows ack now)).lookup name = (acksOf rows).lookup name := by
  induction ack generalizing rows with
  | nil => exact ⟨hrows, nofun, fun _ _ => rfl⟩
  | cons c rest ih =>
    obtain ⟨hc, hrest⟩ := nodup_cons.mp hack
    obtain ⟨hnodup, hwritten, hkept⟩ :=
      ih hrest (upsertOperationAck now rows c) (nodup_upsertOperationAck hrows)
    refine ⟨hnodup, ?_, ?_⟩
    · rw [forall_mem_cons]
      refine ⟨(hkept c.name hc).trans ?_, hwritten⟩
      rw [lookup_upsertOperationAck hrows, if_pos rfl]
    · intro name hname
      rw [map_cons, mem_cons, not_or] at hname
      refine (hkept name hname.2).trans ?_
      rw [lookup_upsertOperationAck hrows, if_neg hname.1]

end Rows

section Candidates

variable {input : OperationInput} {c : OperationCandidate}

/-- Pending is a candidate with another value on record. -/
theorem mem_pending :
    c ∈ input.pending ↔ c ∈ input.candidates ∧
      ∃ value, input.acks.lookup c.name = some value ∧ value ≠ c.fingerprint := by
  rw [OperationInput.pending, mem_filter, OperationInput.sorted]
  simp [Option.any_eq_true]

/-- The unseeded candidates have no row. -/
theorem mem_unseeded :
    c ∈ input.unseeded ↔ c ∈ input.candidates ∧ input.acks.lookup c.name = none := by
  rw [OperationInput.unseeded, mem_filter, OperationInput.sorted, mem_insertionSort,
    Option.isNone_iff_eq_none]

/-- Runnable is what requires nothing pending. -/
theorem mem_operationRunnable {pending : List OperationCandidate} :
    c ∈ operationRunnable pending ↔ c ∈ pending ∧ ∀ d ∈ pending, d.name ∉ c.requires := by
  rw [operationRunnable, mem_filter, Bool.not_eq_true', any_eq_false]
  simp only [any_eq_true, beq_iff_eq, not_exists, not_and]
  refine and_congr_right fun _ => ⟨fun h d hd hmem => h d.name hmem d hd rfl, ?_⟩
  rintro h req hreq d hd rfl
  exact h d hd hreq

/-- The pick is pending and requires nothing pending. -/
theorem pending_of_pick {pending rest : List OperationCandidate}
    (hpick : operationRunnable pending = c :: rest) :
    c ∈ pending ∧ ∀ d ∈ pending, d.name ∉ c.requires := by
  refine mem_operationRunnable.mp ?_
  rw [hpick]
  exact mem_cons_self

end Candidates

/-- An operation requires another one of a table of names and requirements. -/
def RequiresIn (table : List (String × List String)) (name req : String) : Prop :=
  ∃ requires, (name, requires) ∈ table ∧ req ∈ requires ∧ ∃ others, (req, others) ∈ table

/-- The requirements of the candidates. -/
def requirements (cands : List OperationCandidate) : List (String × List String) :=
  cands.map fun c => (c.name, c.requires)

/-- No operation of the table requires itself, through others or directly. -/
def AcyclicTable (table : List (String × List String)) : Prop :=
  ∀ name, ¬TransGen (RequiresIn table) name name

/-- Without a cycle something pending can run. -/
theorem operationRunnable_ne_nil {cands pending : List OperationCandidate}
    (hacyclic : AcyclicTable (requirements cands)) (hpending : ∀ c ∈ pending, c ∈ cands)
    (hne : pending ≠ []) : operationRunnable pending ≠ [] := by
  have hnames : pending.map (·.name) ≠ [] := by simpa using hne
  obtain ⟨name, hname, hfree⟩ := exists_forall_not_rel hacyclic hnames
  obtain ⟨c, hc, rfl⟩ := mem_map.mp hname
  refine ne_nil_of_mem (mem_operationRunnable.mpr ⟨hc, fun d hd hreq => ?_⟩)
  refine hfree d.name (mem_map_of_mem hd) ⟨c.requires, ?_, hreq, d.requires, ?_⟩
  · exact mem_map.mpr ⟨c, hpending c hc, rfl⟩
  · exact mem_map.mpr ⟨d, hpending d hd, rfl⟩

section Acknowledgments

variable {input : OperationInput}

/-- What is acknowledged is new, or the pick that is done and settled. -/
theorem mem_ack {c : OperationCandidate} (h : c ∈ (planOperation input).ack)
    (hboot : input.bootstrapping = false) :
    c ∈ input.unseeded ∨
      Unheld input ∧ (∃ rest, operationRunnable input.pending = c :: rest) ∧ input.driverDone = true ∧
        input.settled = true := by
  cases planOperation_decision input with
  | quarantined _ _ hack | idle _ _ _ hack | continued _ _ _ _ _ hack => simp [hack] at h
  | bootstrapped _ hboots => simp [hboot] at hboots
  | seeded _ _ _ _ hack => exact .inl (hack ▸ h)
  | completed hunheld pick rest hpick hdone hsettled hack =>
    obtain rfl : c = pick := by simpa [hack] using h
    exact .inr ⟨hunheld, ⟨rest, hpick⟩, hdone, hsettled⟩

/-- A pass that nothing keeps from it acknowledges the first operation or lets it run. -/
theorem exists_pick (hfree : input.quarantined = false) (hboot : input.bootstrapping = false)
    (hseeded : input.unseeded = []) (hrunnable : operationRunnable input.pending ≠ []) :
    ∃ pick rest, operationRunnable input.pending = pick :: rest ∧
      if input.driverDone = true ∧ input.settled = true then
        (planOperation input).ack = [pick] ∧ (planOperation input).reason ≠ .seeded
      else (planOperation input).run = pick.name := by
  cases planOperation_decision input with
  | quarantined hquarantined => simp [hfree] at hquarantined
  | bootstrapped _ hboots => simp [hboot] at hboots
  | seeded _ _ hunseeded => exact absurd hseeded hunseeded
  | idle _ hnone => exact absurd hnone hrunnable
  | completed _ pick rest hpick hdone hsettled hack _ hreason =>
    exact ⟨pick, rest, hpick, by rw [if_pos ⟨hdone, hsettled⟩]; exact ⟨hack, hreason⟩⟩
  | continued _ pick rest hpick hnot _ hrun => exact ⟨pick, rest, hpick, by rwa [if_neg hnot]⟩

/-- Only candidates are acknowledged, each once. -/
theorem ack_sublist (input : OperationInput) :
    (∀ c ∈ (planOperation input).ack, c ∈ input.candidates) ∧
      ((input.candidates.map (·.name)).Nodup → ((planOperation input).ack.map (·.name)).Nodup) := by
  have hperm : input.sorted.Perm input.candidates := perm_insertionSort _ _
  have hsorted : (input.candidates.map (·.name)).Nodup → (input.sorted.map (·.name)).Nodup :=
    (hperm.map _).nodup_iff.mpr
  cases planOperation_decision input with
  | quarantined _ _ hack | idle _ _ _ hack | continued _ _ _ _ _ hack => simp [hack]
  | bootstrapped _ _ _ _ hack =>
    rw [hack]
    exact ⟨fun c => hperm.mem_iff.mp, hsorted⟩
  | seeded _ _ _ _ hack =>
    rw [hack]
    exact ⟨fun c hc => (mem_unseeded.mp hc).1,
      fun hdistinct => (hsorted hdistinct).sublist (filter_sublist.map _)⟩
  | completed _ pick rest hpick _ _ hack =>
    rw [hack]
    refine ⟨fun c hc => ?_, fun _ => nodup_singleton _⟩
    obtain rfl := mem_singleton.mp hc
    exact (mem_pending.mp (pending_of_pick hpick).1).1

end Acknowledgments

section Recorded

variable (passes : ℕ → Pass) (rows : List OperationAck)

/-- The value that the status has for an operation when a pass begins. -/
def recorded (n : ℕ) (name : String) : Option String := (acksOf (rowsAt passes rows n)).lookup name

/-- The rows of the status have distinct names, as do the candidates of each pass. -/
structure DistinctNames : Prop where
  rows : (rows.map (·.name)).Nodup
  candidates : ∀ n, ((passes n).candidates.map (·.name)).Nodup

variable {passes rows}

variable (h : DistinctNames passes rows)
include h

/-- The rows have different names. -/
theorem DistinctNames.rowsAt (n : ℕ) : ((rowsAt passes rows n).map (·.name)).Nodup := by
  induction n with
  | zero => exact h.rows
  | succ n ih =>
    have hack := (ack_sublist (inputAt passes rows n)).2 (h.candidates n)
    exact (lookup_upsertOperationAcks _ hack _ ih).1

/-- A pass records what it acknowledges and nothing else. -/
theorem DistinctNames.recorded_succ (n : ℕ) :
    (∀ c ∈ (planAt passes rows n).ack, recorded passes rows (n + 1) c.name = some c.fingerprint) ∧
      ∀ name, name ∉ (planAt passes rows n).ack.map (·.name) →
        recorded passes rows (n + 1) name = recorded passes rows n name := by
  have hack := (ack_sublist (inputAt passes rows n)).2 (h.candidates n)
  exact (lookup_upsertOperationAcks _ hack _ (h.rowsAt n)).2

/-- What is on record stays there. -/
theorem DistinctNames.recorded_isSome {n m : ℕ} (hnm : n ≤ m) {name : String}
    (hsome : (recorded passes rows n name).isSome = true) :
    (recorded passes rows m name).isSome = true := by
  induction m, hnm using Nat.le_induction with
  | base => exact hsome
  | succ m _ ih =>
    obtain ⟨hwritten, hkept⟩ := h.recorded_succ m
    by_cases hmem : name ∈ (planAt passes rows m).ack.map (·.name)
    · obtain ⟨c, hc, rfl⟩ := mem_map.mp hmem
      rw [hwritten c hc]
      rfl
    · rw [hkept name hmem]
      exact ih

end Recorded

end LittleRed.Operation
