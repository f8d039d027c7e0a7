import LittleRed.Lib.GoMap
import Mathlib.Data.Int.Notation
import Mathlib.Data.List.Sort

/-!
# Declared operations

A heavy operation is declared by an edit of the instance, and stays pending until a row in the
status acknowledges the value that was asked for. `planOperation` decides in each pass which
pending operation runs, which one is acknowledged, and what is reported.
-/

namespace LittleRed.Operation

open Lib List

/-- The reasons that `planOperation` reports. -/
inductive OperationReason where
  | converged
  | running
  | blocked
  | stalled
  | quarantined
  | seeded
  deriving DecidableEq

/-- A registered operation with the digest of its declared value; a budget of zero reports no stall. -/
structure OperationCandidate where
  name : String
  fingerprint : String
  requires : List String
  stallAfter : ℤ
  deriving DecidableEq

/-- A row of the registry of operations. -/
structure HeavyOperation (Spec : Type*) where
  name : String
  requires : List String
  stallAfter : ℤ
  fingerprint : Spec → String
  applies : Spec → Bool

/-- The registered operations that apply to an instance, with the values that it declares. -/
def operationCandidates {Spec : Type*} (spec : Spec) (ops : List (HeavyOperation Spec)) :
    List OperationCandidate :=
  (ops.filter (·.applies spec)).map fun op => ⟨op.name, op.fingerprint spec, op.requires, op.stallAfter⟩

/-- The names and requirements of the registered operations. -/
def requiresTable {Spec : Type*} (ops : List (HeavyOperation Spec)) : List (String × List String) :=
  ops.map fun op => (op.name, op.requires)

/-- The operation that the status reports. The start may be missing. -/
structure OperationStatus where
  name : String
  startedAt : Option ℤ
  reason : OperationReason
  pending : List String
  deriving DecidableEq

/-- Everything that the decision reads. -/
structure OperationInput where
  candidates : List OperationCandidate
  acks : GoMap String String
  quarantined : Bool
  bootstrapping : Bool
  settled : Bool
  driverDone : Bool
  driverBlocked : Bool
  active : Option OperationStatus
  now : ℤ

/-- The operation that runs, the one reported and those behind it, and what to acknowledge. -/
structure OperationPlan where
  run : String := ""
  report : String := ""
  pending : List String := []
  reason : OperationReason
  ack : List OperationCandidate := []
  detail : String := ""
  deriving DecidableEq

namespace OperationInput

variable (input : OperationInput)

def sorted : List OperationCandidate := input.candidates.insertionSort (·.name ≤ ·.name)

def unseeded : List OperationCandidate :=
  input.sorted.filter fun c => (input.acks.lookup c.name).isNone

/-- The candidates whose acknowledged value is another one. -/
def pending : List OperationCandidate :=
  input.sorted.filter fun c => (input.acks.lookup c.name).any (· != c.fingerprint)

end OperationInput

def operationNames (cands : List OperationCandidate) : List String := cands.map (·.name)

/-- The candidates with another name. -/
def operationExcept (cands : List OperationCandidate) (name : String) : List OperationCandidate :=
  cands.filter (·.name ≠ name)

/-- The pending candidates that require no pending one. -/
def operationRunnable (pending : List OperationCandidate) : List OperationCandidate :=
  pending.filter fun c => !c.requires.any fun req => pending.any (·.name == req)

/-- The operation has been active for longer than its budget. -/
def operationStalled (input : OperationInput) (c : OperationCandidate) : Bool :=
  match input.active with
  | none => false
  | some active =>
    if c.stallAfter ≤ 0 ∨ active.name ≠ c.name then false
    else active.startedAt.any fun startedAt => decide (c.stallAfter < input.now - startedAt)

/-- The operation is done: it is acknowledged, and the queue behind it is released. -/
def completeOperation (pending : List OperationCandidate) (pick : OperationCandidate) : OperationPlan :=
  let remaining := operationExcept pending pick.name
  let detail := "completed: " ++ pick.name ++ " converged and the instance settled"
  match remaining with
  | [] => { reason := .converged, ack := [pick], detail := detail }
  | first :: rest =>
    match operationRunnable remaining with
    | [] =>
      { reason := .blocked
        ack := [pick]
        report := first.name
        pending := operationNames rest
        detail := detail ++ "; the queue is blocked on a required operation" }
    | next :: _ =>
      { reason := .running
        ack := [pick]
        run := next.name
        report := next.name
        pending := operationNames (operationExcept remaining next.name)
        detail := detail }

/-- The operation goes on; what is reported about it gets louder. -/
def continueOperation (input : OperationInput) (pending : List OperationCandidate)
    (pick : OperationCandidate) : OperationPlan :=
  let plan (reason : OperationReason) (detail : String) : OperationPlan :=
    { run := pick.name
      report := pick.name
      pending := operationNames (operationExcept pending pick.name)
      reason := reason
      detail := detail }
  if operationStalled input pick then
    plan .stalled (pick.name ++ " has run past its StallAfter budget; it is not " ++
      "auto-exited (a timer would be the defect with a delay)")
  else if input.driverBlocked then
    plan .blocked (pick.name ++ " reported blocked; the queue is held rather than skipped")
  else if input.driverDone then
    plan .running (pick.name ++ " converged, but the instance is still rolling; " ++
      "acknowledgment waits for it to settle")
  else plan .running (pick.name ++ " is in progress")

/-- Which operation runs in this pass, which one is acknowledged, and what is reported. -/
def planOperation (input : OperationInput) : OperationPlan :=
  let cands := input.sorted
  let unseeded := input.unseeded
  let pending := input.pending
  if input.quarantined then
    match pending with
    | [] => { reason := .converged }
    | first :: rest =>
      { report := first.name
        pending := operationNames rest
        reason := .quarantined
        detail := "held: the instance is quarantined and has no pods to carry " ++ first.name ++ " out" }
  else if input.bootstrapping && decide (0 < cands.length) then
    { reason := .seeded
      ack := cands
      detail := "seeded at bootstrap: the instance already declares these values" }
  else if 0 < unseeded.length then
    { reason := .seeded
      ack := unseeded
      detail := "seeded: no completion record yet, and the instance is already in " ++
        "the state its spec asks for" }
  else
    match pending with
    | [] => { reason := .converged }
    | first :: rest =>
      match operationRunnable pending with
      | [] =>
        { report := first.name
          pending := operationNames rest
          reason := .blocked
          detail := "blocked: every pending operation is waiting on a required operation" }
      | pick :: _ =>
        if input.driverDone && input.settled then completeOperation pending pick
        else continueOperation input pending pick

theorem continueOperation_ack (input : OperationInput) (pending : List OperationCandidate)
    (pick : OperationCandidate) : (continueOperation input pending pick).ack = [] := by
  unfold continueOperation
  dsimp only
  repeat' split
  all_goals rfl

/-- When the only pending operation is acknowledged. -/
theorem mem_ack_iff_of_single {input : OperationInput} {c : OperationCandidate}
    (hpending : input.pending = [c]) :
    (c ∈ (planOperation input).ack ∧ (planOperation input).reason ≠ .seeded) ↔
      input.quarantined = false ∧ input.bootstrapping = false ∧ input.unseeded = [] ∧
        c.name ∉ c.requires ∧ input.driverDone = true ∧ input.settled = true := by
  have hsorted : 0 < input.sorted.length := by
    have hc : c ∈ input.pending := by rw [hpending]; exact mem_cons_self
    exact length_pos_of_mem (mem_filter.mp hc).1
  have hrunnable : operationRunnable [c] = if c.name ∈ c.requires then [] else [c] := by
    unfold operationRunnable
    by_cases hself : c.name ∈ c.requires
    · simp [hself]
    · have hother : ∀ req ∈ c.requires, c.name ≠ req := fun req hreq hname => hself (hname ▸ hreq)
      simpa [hself] using hother
  unfold planOperation
  dsimp only
  rw [hpending, hrunnable]
  cases input.quarantined with
  | true => simp
  | false =>
    cases input.bootstrapping with
    | true => simp [hsorted]
    | false =>
      by_cases hunseeded : input.unseeded = []
      · by_cases hself : c.name ∈ c.requires
        · simp [hunseeded, hself]
        · cases hdone : input.driverDone && input.settled with
          | true =>
            have hboth : input.driverDone = true ∧ input.settled = true := by simpa using hdone
            simp [hunseeded, hself, hboth, completeOperation, operationExcept]
          | false =>
            have hboth : ¬(input.driverDone = true ∧ input.settled = true) := by simpa using hdone
            simp [hunseeded, hself, hboth, continueOperation_ack]
      · simp [hunseeded, length_pos_iff]

end LittleRed.Operation
