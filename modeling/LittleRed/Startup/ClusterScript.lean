import LittleRed.Lib.LineTools
import LittleRed.Lib.Poll

/-!
# The startup script of cluster mode

A container that finds `nodes.conf` restarts a process whose memory is lost. It asks its peers, up to twelve
times, whether they still see its address as a master with slots, and starts the server when they no longer
do. Under `set -e` a `grep` without a match, in an assignment, ends the script. The commands on local files
succeed. A peer's answer is a list of entries; the script works on the lines that they print.
-/

namespace LittleRed.Startup.Cluster

open Lib

/-- The flags of an entry. -/
inductive NodeFlag where
  | myself
  | master
  | slave
  | pfail
  | fail
  | handshake
  | noaddr
  | nofailover
  | noflags
  deriving DecidableEq

/-- The flag as it is printed. -/
def NodeFlag.text : NodeFlag → List Char
  | .myself => "myself".toList
  | .master => "master".toList
  | .slave => "slave".toList
  | .pfail => "fail?".toList
  | .fail => "fail".toList
  | .handshake => "handshake".toList
  | .noaddr => "noaddr".toList
  | .nofailover => "nofailover".toList
  | .noflags => "noflags".toList

/-- An entry of a `CLUSTER NODES` text. After the port stand the bus port and the host name. -/
structure NodeEntry where
  id : String
  ip : String
  port : String
  bus : String
  flags : List NodeFlag
  master : String
  pingSent : String
  pongRecv : String
  configEpoch : String
  linkState : String
  slots : List String
  deriving DecidableEq

namespace NodeEntry

def address (e : NodeEntry) : List Char :=
  e.ip.toList ++ ':' :: (e.port.toList ++ e.bus.toList)

/-- The fields of the line. -/
def fields (e : NodeEntry) : List (List Char) :=
  [e.id.toList, e.address, joinFields ',' (e.flags.map NodeFlag.text), e.master.toList,
    e.pingSent.toList, e.pongRecv.toList, e.configEpoch.toList, e.linkState.toList] ++
    e.slots.map String.toList

def line (e : NodeEntry) : List Char := joinFields ' ' e.fields

/-- No field is empty, and none holds a blank or a line break. -/
def WellFormed (e : NodeEntry) : Prop :=
  ∀ field ∈ e.fields, field ≠ [] ∧ ' ' ∉ field ∧ '\n' ∉ field

instance (e : NodeEntry) : Decidable e.WellFormed :=
  inferInstanceAs (Decidable (∀ field ∈ e.fields, _))

end NodeEntry

/-- A well-formed `CLUSTER NODES` text: a peer lists at least itself. -/
structure NodesReply where
  entries : List NodeEntry
  nonempty : entries ≠ []
  wellFormed : ∀ e ∈ entries, e.WellFormed

def NodesReply.lines (reply : NodesReply) : List (List Char) := reply.entries.map NodeEntry.line

/-- A peer that the script may ask, with its answer if there is one. -/
abbrev Peer := String × Option NodesReply

/-- The pattern by which the script looks for its own line. -/
def addressPattern (podIP : String) : List Char := podIP.toList ++ ":6379".toList

/-- The lines that `grep` takes for the script's own. -/
def myLines (podIP : String) (reply : NodesReply) : List (List Char) :=
  reply.lines.filter (grepLine (addressPattern podIP))

/-- Some own line has the word `master` in its flags, and some own line has a ninth field. -/
def ownsSlots (mine : List (List Char)) : Bool :=
  mine.any (fun line => occursIn "master".toList (awkField 3 line)) &&
    mine.any fun line => awkField 9 line != []

/-- A replica of this node that is not failing, or nothing; `grep` takes each line of its pattern for one. -/
def replicaIP (lines mine : List (List Char)) : List Char :=
  let patterns :=
    match mine.map (awkField 1) with
    | [] => []
    | first :: rest => ("slave ".toList ++ first) :: rest
  let candidates := lines.filter fun line =>
    patterns.any (grepLine · line) && !occursIn "fail".toList line
  cutFirst '@' (cutFirst ':' (awkField 2 (candidates.headD [])))

/-- The variables of one attempt, with the replicas told to take over so far. -/
structure AttemptState where
  peersContacted : ℕ
  stillOwnSlots : Bool
  takeovers : List (List Char)

/-- Ask one peer; the loop is left with nothing when the script ends, with its variables on `break`. -/
def askPeer (podIP : String) (attempt : ℕ) (s : AttemptState) (peer : Peer) :
    Turn AttemptState (Option AttemptState) :=
  if peer.1 = podIP then .again s
  else
    match peer.2 with
    | none => .again s
    | some reply =>
      let s := { s with peersContacted := s.peersContacted + 1 }
      let mine := myLines podIP reply
      -- `grep` fails without a match, and the assignment with it.
      if mine = [] then .done none
      else if ownsSlots mine then
        let replica := replicaIP reply.lines mine
        let takeovers := if 6 ≤ attempt ∧ replica ≠ [] then s.takeovers ++ [replica] else s.takeovers
        .done (some { s with stillOwnSlots := true, takeovers := takeovers })
      else .again s

inductive ScriptEnd where
  | exec
  | parked
  | exited
  deriving DecidableEq

/-- The end of the script, with the replicas that it told to take over. -/
structure ScriptRun where
  outcome : ScriptEnd
  takeovers : List (List Char)

structure ScriptState where
  stillOwnSlots : Bool
  takeovers : List (List Char)

/-- What the script does after it went through the peers of an attempt. -/
def closeAttempt (s : AttemptState) : Turn ScriptState ScriptRun :=
  if !s.stillOwnSlots && decide (0 < s.peersContacted) then .done ⟨.exec, s.takeovers⟩
  else .again ⟨s.stillOwnSlots, s.takeovers⟩

/-- One attempt. -/
def attemptTurn (podIP : String) (s : ScriptState) (attempt : ℕ × List Peer) :
    Turn ScriptState ScriptRun :=
  match poll (askPeer podIP attempt.1) ⟨0, false, s.takeovers⟩ attempt.2 with
  | .again s => closeAttempt s
  | .done (some s) => closeAttempt s
  | .done none => .done ⟨.exited, s.takeovers⟩

def attemptLimit : ℕ := 12

/-- The attempts with their numbers. -/
def numbered (attempts : ℕ → List Peer) (limit : ℕ) : List (ℕ × List Peer) :=
  (List.range limit).map fun i => (i + 1, attempts i)

/-- The script, given whether `nodes.conf` is there and the peers of each attempt. -/
def startup (podIP : String) (nodesConf : Bool) (attempts : ℕ → List Peer) : ScriptRun :=
  if nodesConf then
    match poll (attemptTurn podIP) ⟨false, []⟩ (numbered attempts attemptLimit) with
    | .again s => ⟨if s.stillOwnSlots then .parked else .exec, s.takeovers⟩
    | .done run => run
  else ⟨.exec, []⟩

end LittleRed.Startup.Cluster
