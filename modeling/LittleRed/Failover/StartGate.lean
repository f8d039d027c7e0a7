import LittleRed.Failover.Intent

/-!
# The start gate of failover mode

The startup script polls the projected annotations until they allow it to start a server. A start marker
of an earlier process makes it ask for a newer epoch, and for a permission before it starts as a master.
-/

namespace LittleRed.Failover

open Lib Replication

/-- The shell's `a -gt b`, which fails unless both are numbers. Epochs are decimals that the operator
wrote, so the leading blanks that a shell allows do not occur. -/
def testGt (a b : String) : Bool :=
  match atoi a, atoi b with
  | some x, some y => decide (y < x)
  | _, _ => false

/-- How the script starts the server, with the epoch that it writes into the marker. -/
structure GateStart where
  asMaster : Bool
  masterIP : String
  epoch : String

/-- One turn of the script's loop; no marker is the empty text. -/
def gateTurn (startedUnderEpoch : String) (annotations : Annotations) : Option GateStart :=
  let role := annotations.assignedRole
  let epoch := annotations.assignmentEpoch
  let masterStartAuth := annotations.masterStartAuthorizedEpoch
  if role = "" ∨ epoch = "" then none
  else if role = roleReplica ∧ annotations.assignedMasterIP = "" then none
  else if startedUnderEpoch ≠ "" ∧ testGt epoch startedUnderEpoch = false then none
  else if (role = roleMaster ∧ startedUnderEpoch ≠ "") ∧
      (masterStartAuth = "" ∨ testGt masterStartAuth startedUnderEpoch = false) then none
  else some ⟨role == roleMaster, annotations.assignedMasterIP, epoch⟩

/-- A start has an epoch, and as a master under a marker a newer permission. -/
theorem gateTurn_eq_some {startedUnderEpoch : String} {annotations : Annotations}
    {start : GateStart} (h : gateTurn startedUnderEpoch annotations = some start) :
    start = ⟨annotations.assignedRole == roleMaster, annotations.assignedMasterIP,
        annotations.assignmentEpoch⟩ ∧ annotations.assignmentEpoch ≠ "" ∧
      (start.asMaster = true → startedUnderEpoch ≠ "" →
        testGt annotations.masterStartAuthorizedEpoch startedUnderEpoch = true) := by
  simp only [gateTurn] at h
  split at h
  · cases h
  rename_i hassigned
  split at h
  · cases h
  split at h
  · cases h
  split at h
  · cases h
  rename_i hauthorized
  cases h
  refine ⟨rfl, fun hepoch => hassigned (.inr hepoch), fun hmaster hmarker => ?_⟩
  have hrole : annotations.assignedRole = roleMaster := by simpa using hmaster
  by_contra hnot
  exact hauthorized ⟨⟨hrole, hmarker⟩, .inr (Bool.eq_false_iff.mpr hnot)⟩

end LittleRed.Failover
