import LittleRed.Lib.Poll
import Mathlib.Data.Nat.Find

/-!
# The startup script of sentinel mode

The container asks Sentinel before it starts a server. Two queries before the loop decide whether it
restarts the process of the monitored master, in which case it counts the turns of the loop in which
Sentinel still names it. A query whose reply is lost has no output.
-/

namespace LittleRed.Startup.Sentinel

open Lib List

def output (reply : Option (List String)) : List String := reply.getD []

def firstLine (lines : List String) : String := lines.headD ""

def secondLine (lines : List String) : String := (lines.drop 1).headD ""

/-- The first line that follows a line `runid`; the first argument is the line before. -/
def runidAfter : String → List String → String
  | _, [] => ""
  | prev, line :: rest => if prev = "runid" then line else runidAfter line rest

/-- The number of turns after which the script gives up yielding. -/
def yieldLimit : ℕ := 60

/-- The number of times a replica pings its master before it starts. -/
def pingAttempts : ℕ := 6

structure LoopState where
  yieldMaster : Bool
  yieldCount : ℕ

/-- What one turn of the loop hears: Sentinel's reply, and the outcome of each ping. -/
structure LoopAnswers where
  masterAddr : Option (List String)
  ping : ℕ → Bool

inductive ServerStart where
  | master
  | replicaOf (host port : String)
  | bare

/-- The variables before the loop, from the two queries. -/
def startState (podIP : String) (storedMaster masterAddr : Option (List String)) : LoopState where
  yieldMaster := firstLine (output masterAddr) == podIP &&
    runidAfter "" (output storedMaster) != ""
  yieldCount := 0

/-- One turn of the loop. -/
def loopTurn (podIP : String) (s : LoopState) (answers : LoopAnswers) :
    Turn LoopState ServerStart :=
  let host := firstLine (output answers.masterAddr)
  let port := secondLine (output answers.masterAddr)
  if host ≠ "" then
    if host = podIP then
      if s.yieldMaster then
        if yieldLimit ≤ s.yieldCount + 1 then .done .master
        else .again { s with yieldCount := s.yieldCount + 1 }
      else .done .master
    else if (List.range pingAttempts).any answers.ping then .done (.replicaOf host port)
    else .done .bare
  else .again s

/-- Sentinel names this pod. -/
def namesPod (podIP : String) (answers : LoopAnswers) : Bool :=
  firstLine (output answers.masterAddr) == podIP

theorem loopTurn_lost (podIP : String) (s : LoopState) (ping : ℕ → Bool) :
    loopTurn podIP s ⟨none, ping⟩ = .again s := rfl

section Restart

/-- Sentinel holds a run-id for a master at this pod's address and names that address throughout. -/
structure MonitoredMaster where
  podIP : String
  podIP_ne : podIP ≠ ""
  details : List String
  runid_ne : runidAfter "" details ≠ ""
  masterAddr : ℕ → List String
  masterAddr_self : ∀ query, firstLine (masterAddr query) = podIP

/-- Which of the script's queries are answered, and how its pings end. -/
structure Outcomes where
  storedMaster : Bool
  masterAddr : Bool
  loop : ℕ → Bool
  ping : ℕ → ℕ → Bool

/-- The reply to a query, unless it is lost. -/
def reply (answered : Bool) (lines : List String) : Option (List String) :=
  if answered then some lines else none

variable (sentinel : MonitoredMaster) (outcomes : Outcomes)

/-- The variables before the loop. -/
def restartState : LoopState :=
  startState sentinel.podIP (reply outcomes.storedMaster sentinel.details)
    (reply outcomes.masterAddr (sentinel.masterAddr 0))

/-- What the turn hears. -/
def turnAnswers (turn : ℕ) : LoopAnswers :=
  ⟨reply (outcomes.loop turn) (sentinel.masterAddr (turn + 1)), outcomes.ping turn⟩

def firstAnswers (turns : ℕ) : List LoopAnswers :=
  (List.range turns).map (turnAnswers sentinel outcomes)

/-- A start as a master comes after Sentinel named this pod in enough turns. -/
def YieldsMastership : Prop :=
  ∀ turn, DoneAt (loopTurn sentinel.podIP) (restartState sentinel outcomes)
      (firstAnswers sentinel outcomes turn) (turnAnswers sentinel outcomes turn) .master →
    yieldLimit ≤ (firstAnswers sentinel outcomes (turn + 1)).countP (namesPod sentinel.podIP)

variable {sentinel outcomes}

/-- Sentinel names the pod whenever it answers. -/
theorem firstLine_turnAnswers (turn : ℕ) :
    firstLine (output (turnAnswers sentinel outcomes turn).masterAddr) =
      if outcomes.loop turn then sentinel.podIP else "" := by
  cases hanswered : outcomes.loop turn with
  | true => simp [turnAnswers, reply, hanswered, output, sentinel.masterAddr_self]
  | false => simp [turnAnswers, reply, hanswered, output, firstLine]

/-- A turn counts when it is answered. -/
theorem namesPod_turnAnswers (turn : ℕ) :
    namesPod sentinel.podIP (turnAnswers sentinel outcomes turn) = outcomes.loop turn := by
  rw [namesPod, firstLine_turnAnswers]
  cases outcomes.loop turn with
  | true => simp
  | false => simpa using sentinel.podIP_ne.symm

/-- The script yields when both queries are answered. -/
theorem restartState_yieldMaster :
    (restartState sentinel outcomes).yieldMaster = (outcomes.masterAddr && outcomes.storedMaster) := by
  have hrunid : (runidAfter "" sentinel.details != "") = true := by simpa using sentinel.runid_ne
  cases haddr : outcomes.masterAddr <;> cases hstored : outcomes.storedMaster <;>
    simp [restartState, startState, reply, output, haddr, hstored, sentinel.masterAddr_self,
      hrunid, runidAfter]
  simpa [firstLine] using sentinel.podIP_ne.symm

variable {turn : ℕ} {s : LoopState}

/-- Without yielding an answer starts a master. -/
theorem loopTurn_answered (hanswered : outcomes.loop turn = true) (hyield : s.yieldMaster = false) :
    loopTurn sentinel.podIP s (turnAnswers sentinel outcomes turn) = .done .master := by
  rw [loopTurn, firstLine_turnAnswers, if_pos hanswered]
  simp [sentinel.podIP_ne, hyield]

theorem loopTurn_unanswered (hlost : outcomes.loop turn = false) (s : LoopState) :
    loopTurn sentinel.podIP s (turnAnswers sentinel outcomes turn) = .again s := by
  rw [turnAnswers, hlost]
  exact loopTurn_lost _ _ _

/-- While yielding a turn hears nothing, hears its own address, or starts as no master. -/
theorem loopTurn_yielding (podIP : String) (hyield : s.yieldMaster = true) (answers : LoopAnswers) :
    (firstLine (output answers.masterAddr) = "" ∧ loopTurn podIP s answers = .again s) ∨
      (firstLine (output answers.masterAddr) = podIP ∧ loopTurn podIP s answers =
        if yieldLimit ≤ s.yieldCount + 1 then .done .master
        else .again { s with yieldCount := s.yieldCount + 1 }) ∨
      ∃ start, start ≠ .master ∧ loopTurn podIP s answers = .done start := by
  rw [loopTurn]
  by_cases hhost : firstLine (output answers.masterAddr) = ""
  · exact .inl ⟨hhost, if_neg (not_not_intro hhost)⟩
  rw [if_pos hhost]
  by_cases hself : firstLine (output answers.masterAddr) = podIP
  · rw [if_pos hself, if_pos hyield]
    exact .inr (.inl ⟨hself, rfl⟩)
  · rw [if_neg hself]
    by_cases hping : (List.range pingAttempts).any answers.ping = true
    · exact .inr (.inr ⟨.replicaOf _ _, nofun, if_pos hping⟩)
    · exact .inr (.inr ⟨.bare, nofun, if_neg hping⟩)

/-- While the script yields, it counts the turns that named this pod. -/
def Counting (podIP : String) (past : List LoopAnswers) (s : LoopState) : Prop :=
  s.yieldMaster = true ∧ s.yieldCount = past.countP (namesPod podIP)

variable {podIP : String} {past : List LoopAnswers} {answers : LoopAnswers}

/-- The turns that name the pod are counted. -/
theorem counting_again (hpod : podIP ≠ "") {s' : LoopState} (hcount : Counting podIP past s)
    (hturn : loopTurn podIP s answers = .again s') : Counting podIP (past ++ [answers]) s' := by
  obtain ⟨hyield, hcount⟩ := hcount
  rw [Counting, countP_append, countP_singleton, namesPod]
  rcases loopTurn_yielding podIP hyield answers with
    ⟨hhost, heq⟩ | ⟨hhost, heq⟩ | ⟨start, -, heq⟩
  · obtain rfl := Turn.again.inj (heq.symm.trans hturn)
    simp [hhost, hpod.symm, hyield, hcount]
  · rw [heq] at hturn
    split at hturn
    · cases hturn
    · obtain rfl := Turn.again.inj hturn
      simp [hhost, hyield, hcount]
  · cases heq.symm.trans hturn

/-- A master starts after enough of them. -/
theorem counting_done (hcount : Counting podIP past s) (hturn : loopTurn podIP s answers = .done .master) :
    yieldLimit ≤ (past ++ [answers]).countP (namesPod podIP) := by
  obtain ⟨hyield, hcount⟩ := hcount
  rw [countP_append, countP_singleton, namesPod, ← hcount]
  rcases loopTurn_yielding podIP hyield answers with
    ⟨-, heq⟩ | ⟨hhost, heq⟩ | ⟨start, hstart, heq⟩
  · cases heq.symm.trans hturn
  · rw [heq] at hturn
    split at hturn
    · rename_i hlimit
      simpa [hhost] using hlimit
    · cases hturn
  · exact absurd (Turn.done.inj (heq.symm.trans hturn)) hstart

theorem firstAnswers_succ (turn : ℕ) :
    firstAnswers sentinel outcomes (turn + 1) =
      firstAnswers sentinel outcomes turn ++ [turnAnswers sentinel outcomes turn] := by
  rw [firstAnswers, range_succ, map_append]
  rfl

/-- With both queries answered the script yields. -/
theorem yieldsMastership_of_answered (hstored : outcomes.storedMaster = true)
    (haddr : outcomes.masterAddr = true) : YieldsMastership sentinel outcomes := by
  rintro turn ⟨s, hpoll, hturn⟩
  have hstart : Counting sentinel.podIP [] (restartState sentinel outcomes) :=
    ⟨by rw [restartState_yieldMaster, haddr, hstored]; rfl, rfl⟩
  have hcount := poll_invariant (Counting sentinel.podIP) hstart
    (fun _ _ _ _ hpast hagain => counting_again sentinel.podIP_ne hpast hagain) hpoll
  rw [firstAnswers_succ]
  exact counting_done hcount hturn

/-- Else the first answer starts a master. -/
theorem doneAt_first_answer (hyield : (restartState sentinel outcomes).yieldMaster = false)
    (hanswered : outcomes.loop turn = true) (hfirst : ∀ before < turn, outcomes.loop before = false) :
    DoneAt (loopTurn sentinel.podIP) (restartState sentinel outcomes)
      (firstAnswers sentinel outcomes turn) (turnAnswers sentinel outcomes turn) .master := by
  refine ⟨restartState sentinel outcomes, poll_idle ?_, loopTurn_answered hanswered hyield⟩
  intro answers hmem
  obtain ⟨before, hbefore, rfl⟩ := mem_map.mp hmem
  exact loopTurn_unanswered (hfirst before (mem_range.mp hbefore)) _

theorem countP_first_answer (hanswered : outcomes.loop turn = true)
    (hfirst : ∀ before < turn, outcomes.loop before = false) :
    (firstAnswers sentinel outcomes (turn + 1)).countP (namesPod sentinel.podIP) = 1 := by
  have hnone : (firstAnswers sentinel outcomes turn).countP (namesPod sentinel.podIP) = 0 := by
    rw [countP_eq_zero]
    intro answers hmem
    obtain ⟨before, hbefore, rfl⟩ := mem_map.mp hmem
    rw [namesPod_turnAnswers, hfirst before (mem_range.mp hbefore)]
    exact Bool.false_ne_true
  rw [firstAnswers_succ, countP_append, hnone, countP_singleton, namesPod_turnAnswers, if_pos hanswered]

/-- The process yields exactly when both queries are answered, or no query of the loop ever is. -/
theorem yieldsMastership_iff (sentinel : MonitoredMaster) (outcomes : Outcomes) :
    YieldsMastership sentinel outcomes ↔ (outcomes.storedMaster = true ∧ outcomes.masterAddr = true) ∨
        ∀ turn, outcomes.loop turn = false := by
  constructor
  · intro hyields
    by_cases hheard : ∃ turn, outcomes.loop turn = true
    · refine .inl ?_
      by_contra hlost
      have hyield : (restartState sentinel outcomes).yieldMaster = false := by
        rw [restartState_yieldMaster, Bool.and_eq_false_iff]
        by_contra hboth
        simp only [not_or, Bool.not_eq_false] at hboth
        exact hlost ⟨hboth.2, hboth.1⟩
      have hanswered := Nat.find_spec hheard
      have hfirst : ∀ before < Nat.find hheard, outcomes.loop before = false := fun before hlt =>
        Bool.eq_false_iff.mpr (Nat.find_min hheard hlt)
      have hcount := hyields _ (doneAt_first_answer hyield hanswered hfirst)
      rw [countP_first_answer hanswered hfirst] at hcount
      exact absurd hcount (by decide)
    · refine .inr fun turn => Bool.eq_false_iff.mpr fun hanswered => ?_
      exact hheard ⟨turn, hanswered⟩
  · rintro (⟨hstored, haddr⟩ | hsilent)
    · exact yieldsMastership_of_answered hstored haddr
    · rintro turn ⟨s, -, hturn⟩
      rw [loopTurn_unanswered (hsilent turn)] at hturn
      cases hturn

def monitoredAt7 : MonitoredMaster where
  podIP := "10.0.0.7"
  podIP_ne := by decide
  details := ["name", "mymaster", "ip", "10.0.0.7", "port", "6379", "runid", "8f1a"]
  runid_ne := by decide
  masterAddr := fun _ => ["10.0.0.7", "6379"]
  masterAddr_self := fun _ => by decide

/-- Only the first query is lost, and the empty server starts as a master at once. -/
theorem started_after_lost_runid :
    ¬YieldsMastership monitoredAt7 ⟨false, true, fun _ => true, fun _ _ => true⟩ := by
  intro hyields
  exact absurd (hyields 0 ⟨_, rfl, rfl⟩) (by decide)

end Restart

end LittleRed.Startup.Sentinel
