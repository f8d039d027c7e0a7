import LittleRed.Lib.CycleSearch
import LittleRed.Operation.Queue

/-!
# Cycles of the registry

The order of the queue rests on requirements without a cycle. The registry is searched for one depth first;
a name that is not registered is passed over, and the cycle is the stack from the repeated name on.
-/

namespace LittleRed.Operation

open Lib Lib.CycleSearch Relation List

variable {Spec : Type*}

/-- The registered operations that an operation requires, looked up by its name. -/
def registeredRequires (ops : List (HeavyOperation Spec)) (name : String) : List String :=
  let requires := GoMap.ofPairs (requiresTable ops)
  ((requires.lookup name).getD []).filter (· ∈ requires)

/-- The search for a cycle with a bound on the nested visits. -/
def requiresCycleWithin (fuel : ℕ) (ops : List (HeavyOperation Spec)) : Option (List String) :=
  searchFrom (registeredRequires ops) fuel (ops.map (·.name)) .start

/-- One cycle of the requirements as the names on the way, the first one repeated at the end, or none. -/
def operationRequiresCycle (ops : List (HeavyOperation Spec)) : List String :=
  (requiresCycleWithin ops.length ops).getD []

section Registry

variable {ops : List (HeavyOperation Spec)}

/-- The table has the registered names. -/
theorem exists_mem_requiresTable {name : String} :
    (∃ requires, (name, requires) ∈ requiresTable ops) ↔ name ∈ ops.map (·.name) := by
  rw [mem_map]
  constructor
  · rintro ⟨requires, hmem⟩
    obtain ⟨op, hop, heq⟩ := mem_map.mp hmem
    exact ⟨op, hop, congrArg Prod.fst heq⟩
  · rintro ⟨op, hop, rfl⟩
    exact ⟨op.requires, mem_map.mpr ⟨op, hop, rfl⟩⟩

/-- The search follows the requirements between registered operations. -/
theorem edge_registeredRequires (hdistinct : (ops.map (·.name)).Nodup) :
    Edge (registeredRequires ops) = RequiresIn (requiresTable ops) := by
  have hkeys : ((requiresTable ops).map Prod.fst).Nodup := by
    simpa [requiresTable, Function.comp_def] using hdistinct
  funext name req
  apply propext
  rw [Edge, registeredRequires, mem_filter, decide_eq_true_iff, GoMap.mem_ofPairs, RequiresIn]
  constructor
  · rintro ⟨hreq, hknown⟩
    cases hlookup : (GoMap.ofPairs (requiresTable ops)).lookup name with
    | none => simp [hlookup] at hreq
    | some requires =>
      rw [hlookup] at hreq
      exact ⟨requires, GoMap.mem_of_lookup_ofPairs hlookup, hreq, hknown⟩
  · rintro ⟨requires, hmem, hreq, hknown⟩
    rw [(GoMap.lookup_ofPairs_eq_some hkeys).mpr hmem]
    exact ⟨hreq, hknown⟩

/-- What it follows is registered. -/
theorem mem_names_of_registeredRequires {name req : String} (h : req ∈ registeredRequires ops name) :
    req ∈ ops.map (·.name) := by
  rw [registeredRequires, mem_filter, decide_eq_true_iff, GoMap.mem_ofPairs] at h
  exact exists_mem_requiresTable.mp h.2

/-- Accessible names have no cycle. -/
theorem acyclicTable_of_acc (hdistinct : (ops.map (·.name)).Nodup)
    (hacc : ∀ name ∈ ops.map (·.name), Acc (fun req name => Edge (registeredRequires ops) name req) name) :
    AcyclicTable (requiresTable ops) := by
  intro name hback
  have hname : name ∈ ops.map (·.name) := by
    obtain ⟨next, ⟨requires, hmem, -⟩, -⟩ := TransGen.head'_iff.mp hback
    exact exists_mem_requiresTable.mp ⟨requires, hmem⟩
  rw [← edge_registeredRequires hdistinct] at hback
  exact not_transGen_of_acc (hacc name hname) hback

/-- With distinct names the search ends with one result: empty exactly without a cycle, and else a cycle
of the requirements between registered operations. -/
theorem operationRequiresCycle_correct (hdistinct : (ops.map (·.name)).Nodup) :
    (∀ fuel, ops.length ≤ fuel → requiresCycleWithin fuel ops = some (operationRequiresCycle ops)) ∧
      (operationRequiresCycle ops = [] ↔ AcyclicTable (requiresTable ops)) ∧
      (operationRequiresCycle ops ≠ [] → 2 ≤ (operationRequiresCycle ops).length ∧
        (operationRequiresCycle ops).head? = (operationRequiresCycle ops).getLast? ∧
        (operationRequiresCycle ops).dropLast.Nodup ∧
        (operationRequiresCycle ops).IsChain (RequiresIn (requiresTable ops))) := by
  have hclosed : ∀ a ∈ ops.map (·.name), ∀ b ∈ registeredRequires ops a, b ∈ ops.map (·.name) :=
    fun a _ b hb => mem_names_of_registeredRequires hb
  obtain ⟨result, hends, hresult⟩ := exists_searchFrom hclosed
  rw [length_map] at hends
  have heq : operationRequiresCycle ops = result := by
    rw [operationRequiresCycle, requiresCycleWithin, hends _ le_rfl, Option.getD_some]
  rw [heq]
  refine ⟨hends, ?_, fun hne => ?_⟩
  · rcases hresult with hcycle | ⟨hnil, hacc⟩
    · rw [edge_registeredRequires hdistinct] at hcycle
      obtain ⟨a, -, hback⟩ := hcycle.transGen
      refine iff_of_false (fun hnil => ?_) fun hacyclic => hacyclic a hback
      simpa [hnil] using hcycle.two_le
    · exact iff_of_true hnil (acyclicTable_of_acc hdistinct hacc)
  · have hcycle := hresult.resolve_right fun h => hne h.1
    rw [edge_registeredRequires hdistinct] at hcycle
    exact ⟨hcycle.two_le, hcycle.closed, hcycle.nodup, hcycle.path⟩

end Registry

/-- An operation with requirements. -/
def requiring (name : String) (requires : List String) : HeavyOperation Unit :=
  ⟨name, requires, 0, fun _ => "", fun _ => true⟩

/-- Two of three operations require each other. -/
def knotted : List (HeavyOperation Unit) :=
  [requiring "a" ["b"], requiring "b" ["ghost", "c", "c"], requiring "c" ["b"]]

/-- The cycle is reported without the way into it, and no larger bound changes the report. -/
theorem knotted_cycle :
    operationRequiresCycle knotted = ["b", "c", "b"] ∧
      (∀ fuel, 3 ≤ fuel → requiresCycleWithin fuel knotted = some ["b", "c", "b"]) ∧
      ¬AcyclicTable (requiresTable knotted) := by
  have hfound : operationRequiresCycle knotted = ["b", "c", "b"] := by decide
  obtain ⟨hends, hnil, -⟩ := @operationRequiresCycle_correct Unit knotted (by decide)
  rw [hfound] at hends hnil
  exact ⟨hfound, hends, fun hacyclic => cons_ne_nil _ _ (hnil.mpr hacyclic)⟩

end LittleRed.Operation
