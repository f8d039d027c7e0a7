import LittleRed.Startup.ClusterScript
import Mathlib.Data.Nat.Find

/-!
# When a restarted cluster node starts its server

The answers of an attempt amount to one of four verdicts, by the first answer that does not list the address
of the pod or shows it as a master with slots. The script waits through attempts that are silent or in which
its slots are held; the first other attempt decides, or else the last one. Slots that are released are gone
for every peer that answers. The converse fails: the script also takes lines for its own that are not.
-/

namespace LittleRed.Startup.Cluster

open Lib List

variable (podIP : String)

/-- The entries whose line the script takes for its own. -/
def mentioned (reply : NodesReply) : List NodeEntry :=
  reply.entries.filter fun e => grepLine (addressPattern podIP) e.line

/-- The answer has a line that the script takes for its own. -/
def listed (reply : NodesReply) : Bool := mentioned podIP reply != []

/-- Among the lines that the script takes for its own, one is a master's and one has slots. -/
def heldBy (reply : NodesReply) : Bool :=
  (mentioned podIP reply).any (fun e => e.flags.contains .master) &&
    (mentioned podIP reply).any fun e => e.slots != []

/-- The answer of a peer other than the pod itself. -/
def answer (peer : Peer) : Option NodesReply := if peer.1 = podIP then none else peer.2

/-- The answers of an attempt, in the order in which the script hears them. -/
def answers (peers : List Peer) : List NodesReply := peers.filterMap (answer podIP)

/-- An answer at which the script does not just go on to the next peer. -/
def objects (reply : NodesReply) : Bool := !listed podIP reply || heldBy podIP reply

inductive Verdict where
  | silent
  | released
  | held
  | unlisted
  deriving DecidableEq

/-- What the answers of an attempt amount to. -/
def verdict (peers : List Peer) : Verdict :=
  match (answers podIP peers).find? (objects podIP) with
  | some reply => if listed podIP reply then .held else .unlisted
  | none => if (answers podIP peers).isEmpty then .silent else .released

variable {podIP}

variable {e : NodeEntry}

/-- A field of the line. -/
theorem awkField_line (hwf : e.WellFormed) (number : ℕ) :
    awkField number e.line = e.fields.getD (number - 1) [] := by
  have hfields : e.fields ≠ [] := cons_ne_nil _ _
  rw [awkField, NodeEntry.line, awkFields_joinFields hfields]
  exact fun field hmem => ⟨(hwf field hmem).1, (hwf field hmem).2.1⟩

/-- The flags tell a master. -/
theorem occursIn_master (hwf : e.WellFormed) :
    occursIn "master".toList (awkField 3 e.line) = e.flags.contains .master := by
  have hflag : ∀ flag : NodeFlag, occursIn "master".toList flag.text = true ↔ flag = .master := by
    intro flag
    cases flag <;> decide
  rw [awkField_line hwf, Bool.eq_iff_iff, contains_iff_mem]
  refine (occursIn_joinFields (by decide) (by decide) _).trans ?_
  simp only [mem_map, exists_exists_and_eq_and, hflag, exists_eq_right]

/-- The ninth field tells slots. -/
theorem ninthField_ne (hwf : e.WellFormed) :
    (awkField 9 e.line != []) = (e.slots != []) := by
  rw [awkField_line hwf]
  cases hslots : e.slots with
  | nil => simp [NodeEntry.fields, hslots]
  | cons slot rest =>
    have hslot : slot.toList ∈ e.fields := by simp [NodeEntry.fields, hslots]
    have hninth : e.fields.getD (9 - 1) [] = slot.toList := by simp [NodeEntry.fields, hslots]
    rw [hninth, bne_iff_ne.mpr (hwf _ hslot).1]
    rfl

/-- The lines taken for its own are of the entries that mention it. -/
theorem myLines_eq (reply : NodesReply) :
    myLines podIP reply = (mentioned podIP reply).map NodeEntry.line := by
  rw [myLines, NodesReply.lines, filter_map]
  rfl

theorem ownsSlots_myLines (reply : NodesReply) :
    ownsSlots (myLines podIP reply) = heldBy podIP reply := by
  have hwf : ∀ e ∈ mentioned podIP reply, e.WellFormed := fun e hmem =>
    reply.wellFormed e (mem_of_mem_filter hmem)
  rw [ownsSlots, heldBy, myLines_eq, any_map, any_map, Bool.eq_iff_iff]
  simp only [Bool.and_eq_true, any_eq_true, Function.comp_apply]
  refine and_congr (exists_congr fun e => and_congr_right fun hmem => ?_)
    (exists_congr fun e => and_congr_right fun hmem => ?_)
  · rw [occursIn_master (hwf e hmem)]
  · rw [ninthField_ne (hwf e hmem)]

/-- What one peer does to the attempt. -/
theorem askPeer_eq (podIP : String) (attempt : ℕ) (s : AttemptState) (peer : Peer) :
    match answer podIP peer with
    | none => askPeer podIP attempt s peer = .again s
    | some reply =>
      if listed podIP reply then
        if heldBy podIP reply then
          ∃ takeovers, askPeer podIP attempt s peer =
            .done (some ⟨s.peersContacted + 1, true, takeovers⟩)
        else
          askPeer podIP attempt s peer = .again ⟨s.peersContacted + 1, s.stillOwnSlots, s.takeovers⟩
      else askPeer podIP attempt s peer = .done none := by
  obtain ⟨name, reply⟩ := peer
  rw [answer, askPeer]
  by_cases hself : name = podIP
  · simp [hself]
  cases reply with
  | none => simp [hself]
  | some reply =>
    have hmine : myLines podIP reply = [] ↔ listed podIP reply = false := by
      rw [myLines_eq, map_eq_nil_iff, listed, bne_eq_false_iff_eq]
    simp only [hself, if_false, ownsSlots_myLines, hmine]
    cases hlisted : listed podIP reply with
    | false => simp
    | true =>
      cases hheld : heldBy podIP reply with
      | false | true => simp

variable {peer : Peer} {peers : List Peer}

/-- Without an objection the attempt goes on. -/
theorem askPeer_again (hpeer : (answer podIP peer).any (objects podIP) = false) (attempt : ℕ)
    (s : AttemptState) : ∃ s', askPeer podIP attempt s peer = .again s' := by
  have hask := askPeer_eq podIP attempt s peer
  cases hanswer : answer podIP peer with
  | none =>
    rw [hanswer] at hask
    exact ⟨_, hask⟩
  | some reply =>
    simp only [hanswer, Option.any_some, objects, Bool.or_eq_false_iff, Bool.not_eq_false'] at hpeer
    simp only [hanswer, hpeer.1, hpeer.2, Bool.false_eq_true, if_true, if_false] at hask
    exact ⟨_, hask⟩

theorem askPeer_counts {attempt : ℕ} {past : List Peer} {s s' : AttemptState}
    (hpast : s.peersContacted = (answers podIP past).length ∧ s.stillOwnSlots = false)
    (hturn : askPeer podIP attempt s peer = .again s') :
    s'.peersContacted = (answers podIP (past ++ [peer])).length ∧ s'.stillOwnSlots = false := by
  have hask := askPeer_eq podIP attempt s peer
  cases hanswer : answer podIP peer with
  | none =>
    rw [hanswer] at hask
    obtain rfl := Turn.again.inj (hask.symm.trans hturn)
    simpa [hanswer, answers] using hpast
  | some reply =>
    simp only [hanswer] at hask
    split at hask
    · split at hask
      · obtain ⟨takeovers, hdone⟩ := hask
        cases hdone.symm.trans hturn
      · obtain rfl := Turn.again.inj (hask.symm.trans hturn)
        simpa [hanswer, answers] using hpast
    · cases hask.symm.trans hturn

theorem askPeer_againAll (hclear : ∀ peer ∈ peers, (answer podIP peer).any (objects podIP) = false)
    (attempt : ℕ) :
    ∀ peer ∈ peers, ∀ s, ∃ s', askPeer podIP attempt s peer = .again s' :=
  fun peer hmem s => askPeer_again (hclear peer hmem) attempt s

/-- Without any objection all peers are asked. -/
theorem pollPeers_clear (hclear : ∀ peer ∈ peers, (answer podIP peer).any (objects podIP) = false)
    (attempt : ℕ) (takeovers : List (List Char)) :
    ∃ s, poll (askPeer podIP attempt) ⟨0, false, takeovers⟩ peers = .again s ∧
      s.peersContacted = (answers podIP peers).length ∧ s.stillOwnSlots = false := by
  obtain ⟨s, hpoll⟩ := poll_again (askPeer_againAll hclear attempt) ⟨0, false, takeovers⟩
  refine ⟨s, hpoll, ?_⟩
  exact poll_invariant
    (fun past s => s.peersContacted = (answers podIP past).length ∧ s.stillOwnSlots = false)
    ⟨rfl, rfl⟩ (fun _ _ _ _ hpast hturn => askPeer_counts hpast hturn) hpoll

section FirstObjection

variable {before : List Peer} {peer : Peer} {reply : NodesReply}

/-- The first answer that does not list the node ends the script. -/
theorem pollPeers_unlisted (hbefore : ∀ peer ∈ before, (answer podIP peer).any (objects podIP) = false)
    (hanswer : answer podIP peer = some reply) (hlisted : listed podIP reply = false)
    (attempt : ℕ) (s : AttemptState) (after : List Peer) :
    poll (askPeer podIP attempt) s (before ++ peer :: after) = .done none := by
  have hask : ∀ s, askPeer podIP attempt s peer = .done none := by
    intro s
    have hpeer := askPeer_eq podIP attempt s peer
    simpa only [hanswer, hlisted, Bool.false_eq_true, if_false] using hpeer
  obtain ⟨result, hpoll, rfl⟩ := poll_done (· = none) (askPeer_againAll hbefore attempt)
    (fun s => ⟨none, hask s, rfl⟩) s after
  exact hpoll

/-- The first one that shows its slots ends the attempt. -/
theorem pollPeers_held (hbefore : ∀ peer ∈ before, (answer podIP peer).any (objects podIP) = false)
    (hanswer : answer podIP peer = some reply) (hlisted : listed podIP reply = true)
    (hheld : heldBy podIP reply = true) (attempt : ℕ) (s : AttemptState) (after : List Peer) :
    ∃ s', poll (askPeer podIP attempt) s (before ++ peer :: after) = .done (some s') ∧
      s'.stillOwnSlots = true := by
  have hask : ∀ s, ∃ takeovers, askPeer podIP attempt s peer =
      .done (some ⟨s.peersContacted + 1, true, takeovers⟩) := by
    intro s
    have hpeer := askPeer_eq podIP attempt s peer
    simpa only [hanswer, hlisted, hheld, if_true] using hpeer
  obtain ⟨result, hpoll, s', rfl, hstill⟩ := poll_done
    (fun result => ∃ s', result = some s' ∧ s'.stillOwnSlots = true)
    (askPeer_againAll hbefore attempt)
    (fun s => (hask s).elim fun takeovers hdone => ⟨_, hdone, _, rfl, rfl⟩) s after
  exact ⟨s', hpoll, hstill⟩

end FirstObjection

/-- What an attempt does, by its verdict. -/
theorem attemptTurn_eq (podIP : String) (s : ScriptState) (number : ℕ) (peers : List Peer) :
    ∃ takeovers, attemptTurn podIP s (number, peers) =
      match verdict podIP peers with
      | .silent => .again ⟨false, takeovers⟩
      | .held => .again ⟨true, takeovers⟩
      | .released => .done ⟨.exec, takeovers⟩
      | .unlisted => .done ⟨.exited, takeovers⟩ := by
  rw [attemptTurn, verdict, answers, List.find?_filterMap]
  cases hfind : peers.find? fun peer => (answer podIP peer).any (objects podIP) with
  | none =>
    have hclear : ∀ peer ∈ peers, (answer podIP peer).any (objects podIP) = false :=
      fun peer hmem => Bool.eq_false_iff.mpr (List.find?_eq_none.mp hfind peer hmem)
    obtain ⟨s', hpoll, hcount, hheld⟩ := pollPeers_clear hclear number s.takeovers
    refine ⟨s'.takeovers, ?_⟩
    rw [hpoll]
    simp only [closeAttempt, hheld, hcount, answers, Option.bind_none]
    cases hanswers : peers.filterMap (answer podIP) with
    | nil | cons => simp
  | some peer =>
    obtain ⟨hobjects, before, after, rfl, hfirst⟩ := List.find?_eq_some_iff_append.mp hfind
    have hbefore : ∀ peer ∈ before, (answer podIP peer).any (objects podIP) = false :=
      fun peer hmem => by simpa using hfirst peer hmem
    cases hanswer : answer podIP peer with
    | none => simp [hanswer] at hobjects
    | some reply =>
      simp only [Option.bind_some, hanswer]
      cases hlisted : listed podIP reply with
      | false =>
        have hpoll := pollPeers_unlisted hbefore hanswer hlisted number ⟨0, false, s.takeovers⟩ after
        exact ⟨s.takeovers, by simp [hpoll]⟩
      | true =>
        have hheld : heldBy podIP reply = true := by simpa [hanswer, objects, hlisted] using hobjects
        obtain ⟨s', hpoll, hstill⟩ :=
          pollPeers_held hbefore hanswer hlisted hheld number ⟨0, false, s.takeovers⟩ after
        exact ⟨s'.takeovers, by simp [hpoll, closeAttempt, hstill]⟩

def Verdict.waits : Verdict → Bool
  | .silent | .held => true
  | .released | .unlisted => false

variable {attempts : ℕ → List Peer}

/-- The first attempts wait. -/
theorem attemptTurn_waits (limit : ℕ) (hwaits : ∀ i < limit, (verdict podIP (attempts i)).waits = true) :
    ∀ attempt ∈ numbered attempts limit, ∀ s, ∃ s', attemptTurn podIP s attempt = .again s' := by
  intro attempt hmem s
  obtain ⟨i, hi, rfl⟩ := mem_map.mp hmem
  obtain ⟨takeovers, hturn⟩ := attemptTurn_eq podIP s (i + 1) (attempts i)
  have hwait := hwaits i (mem_range.mp hi)
  cases hverdict : verdict podIP (attempts i) with
  | silent | held => exact ⟨_, hverdict ▸ hturn⟩
  | released | unlisted => simp [hverdict, Verdict.waits] at hwait

/-- An attempt with those before it. -/
theorem numbered_split (attempts : ℕ → List Peer) {i limit : ℕ} (hi : i < limit) :
    ∃ after, numbered attempts limit = numbered attempts i ++ (i + 1, attempts i) :: after := by
  obtain ⟨rest, rfl⟩ : ∃ rest, limit = i + (rest + 1) := ⟨limit - (i + 1), by omega⟩
  refine ⟨(((List.range rest).map Nat.succ).map (i + ·)).map fun j => (j + 1, attempts j), ?_⟩
  simp [numbered, range_add, range_succ_eq_map]

/-- The first attempt that does not wait decides. -/
theorem startup_of_decided {i : ℕ} (hi : i < attemptLimit)
    (hwaits : ∀ j < i, (verdict podIP (attempts j)).waits = true)
    (hdecides : (verdict podIP (attempts i)).waits = false) :
    (startup podIP true attempts).outcome =
      if verdict podIP (attempts i) = .released then .exec else .exited := by
  have hdone : ∀ s, ∃ run, attemptTurn podIP s (i + 1, attempts i) = .done run ∧
      run.outcome = if verdict podIP (attempts i) = .released then .exec else .exited := by
    intro s
    obtain ⟨takeovers, hturn⟩ := attemptTurn_eq podIP s (i + 1) (attempts i)
    cases hverdict : verdict podIP (attempts i) with
    | silent | held => simp [hverdict, Verdict.waits] at hdecides
    | released | unlisted => exact ⟨_, hverdict ▸ hturn, rfl⟩
  obtain ⟨after, hsplit⟩ := numbered_split attempts hi
  obtain ⟨run, hpoll, hrun⟩ := poll_done _ (attemptTurn_waits i hwaits) hdone ⟨false, []⟩ after
  rwa [startup, hsplit, hpoll]

/-- After the last attempt its own verdict does. -/
theorem startup_of_waiting (hwaits : ∀ j < attemptLimit, (verdict podIP (attempts j)).waits = true) :
    (startup podIP true attempts).outcome =
      if verdict podIP (attempts (attemptLimit - 1)) = .held then .parked else .exec := by
  obtain ⟨s, hbefore⟩ := poll_again (attemptTurn_waits (attemptLimit - 1)
    fun j hj => hwaits j (Nat.lt_of_lt_of_le hj (Nat.sub_le _ _))) ⟨false, []⟩
  obtain ⟨takeovers, hturn⟩ := attemptTurn_eq podIP s attemptLimit (attempts (attemptLimit - 1))
  have hlast := hwaits (attemptLimit - 1) (by decide)
  have hsplit : numbered attempts attemptLimit = numbered attempts (attemptLimit - 1) ++
      [(attemptLimit, attempts (attemptLimit - 1))] := by
    simp [numbered, attemptLimit, range_succ]
  rw [startup, hsplit, poll_concat, hbefore]
  simp only [hturn]
  cases hverdict : verdict podIP (attempts (attemptLimit - 1)) with
  | silent | held => rfl
  | released | unlisted => simp [hverdict, Verdict.waits] at hlast

/-- A slot or a range of slots that the node owns, not one that is migrating. -/
def ownedSlot (slot : String) : Bool := slot.toList.head? != some '['

/-- The answer lists the address as a master with at least one slot. -/
def ownerListed (podIP : String) (reply : NodesReply) : Bool :=
  reply.entries.any fun e => e.ip == podIP && e.flags.contains .master && e.slots.any ownedSlot

/-- Some peer answers, and none lists the address as a master with slots. -/
def confirmed (podIP : String) (peers : List Peer) : Bool :=
  !(answers podIP peers).isEmpty && (answers podIP peers).all fun reply => !ownerListed podIP reply

/-- Some attempt confirms that the slots are gone. -/
def Confirms (podIP : String) (attempts : ℕ → List Peer) : Prop :=
  ∃ i < attemptLimit, confirmed podIP (attempts i) = true

instance (podIP : String) (attempts : ℕ → List Peer) : Decidable (Confirms podIP attempts) :=
  inferInstanceAs (Decidable (∃ i < attemptLimit, _))

/-- The server is started exactly when some attempt confirms that the slots are gone. -/
def YieldsProperly (podIP : String) (attempts : ℕ → List Peer) : Prop :=
  ((startup podIP true attempts).outcome = .exec ↔ Confirms podIP attempts) ∧
    (startup podIP true attempts).outcome ≠ .exited

instance (podIP : String) (attempts : ℕ → List Peer) : Decidable (YieldsProperly podIP attempts) :=
  inferInstanceAs (Decidable (_ ∧ _))

/-- An answer that lists the address lists it with the Redis port. -/
def OnRedisPort (podIP : String) (reply : NodesReply) : Prop :=
  ∀ e ∈ reply.entries, e.ip = podIP → e.port = "6379"

instance (podIP : String) (reply : NodesReply) : Decidable (OnRedisPort podIP reply) :=
  inferInstanceAs (Decidable (∀ e ∈ reply.entries, _))

/-- The slots are found held although nobody who answers lists the address as a master with slots. -/
def mistaken (podIP : String) (peers : List Peer) : Bool :=
  verdict podIP peers == .held && (answers podIP peers).all fun reply => !ownerListed podIP reply

section Confirmed

variable {reply : NodesReply}

/-- The script finds the line of an entry with its address and the Redis port. -/
theorem grepLine_of_address (hwf : e.WellFormed) (hip : e.ip = podIP) (hport : e.port = "6379") :
    grepLine (addressPattern podIP) e.line = true := by
  have haddress : addressPattern podIP <+: e.address := by
    rw [NodeEntry.address, hip, hport]
    exact ⟨e.bus.toList, by simp [addressPattern]⟩
  have hfield : e.address ∈ e.fields := by simp [NodeEntry.fields]
  have hclean : ' ' ∉ addressPattern podIP := fun hblank => (hwf _ hfield).2.1 (haddress.subset hblank)
  apply grepLine_of_infix
  rw [← occursIn_iff, NodeEntry.line, occursIn_joinFields (by simp [addressPattern]) hclean]
  exact ⟨_, hfield, (occursIn_iff _ _).mpr haddress.isInfix⟩

/-- An owner that is listed on the Redis port is seen by the script. -/
theorem objects_of_ownerListed (hport : OnRedisPort podIP reply) (h : ownerListed podIP reply = true) :
    objects podIP reply = true := by
  obtain ⟨e, he, howns⟩ := any_eq_true.mp h
  simp only [Bool.and_eq_true, beq_iff_eq] at howns
  have hmine : e ∈ mentioned podIP reply := mem_filter.mpr
    ⟨he, grepLine_of_address (reply.wellFormed e he) howns.1.1 (hport e he howns.1.1)⟩
  have hslots : e.slots ≠ [] := by
    rintro hnone
    rw [hnone] at howns
    cases howns.2
  have hheld : heldBy podIP reply = true := by
    rw [heldBy, Bool.and_eq_true, any_eq_true, any_eq_true]
    exact ⟨⟨e, hmine, howns.1.2⟩, e, hmine, bne_iff_ne.mpr hslots⟩
  rw [objects, hheld, Bool.or_true]

/-- Slots that are released are gone for every peer that answers. -/
theorem confirmed_of_released (hport : ∀ reply ∈ answers podIP peers, OnRedisPort podIP reply)
    (h : verdict podIP peers = .released) : confirmed podIP peers = true := by
  unfold verdict at h
  split at h
  · split at h <;> cases h
  rename_i hnone
  split at h
  · cases h
  rename_i hanswered
  rw [confirmed, Bool.and_eq_true, all_eq_true]
  refine ⟨by simpa using hanswered, fun reply hreply => ?_⟩
  by_contra howner
  rw [Bool.not_eq_true, Bool.not_eq_false'] at howner
  exact List.find?_eq_none.mp hnone reply hreply (objects_of_ownerListed (hport reply hreply) howner)

/-- An attempt through which the script waits confirms that the slots are gone only if it is mistaken. -/
theorem confirmed_eq_mistaken (hwaits : (verdict podIP peers).waits = true) :
    confirmed podIP peers = mistaken podIP peers := by
  rw [confirmed, mistaken]
  cases hanswers : answers podIP peers with
  | nil =>
    have hsilent : verdict podIP peers = .silent := by rw [verdict, hanswers]; rfl
    rw [hsilent]
    rfl
  | cons reply rest =>
    have hheld : verdict podIP peers = .held := by
      cases hverdict : verdict podIP peers with
      | silent =>
        simp only [verdict, hanswers] at hverdict
        split at hverdict
        · split at hverdict <;> cases hverdict
        · cases hverdict
      | held => rfl
      | released | unlisted => rw [hverdict] at hwaits; cases hwaits
    rw [hheld]
    rfl

end Confirmed

/-- The view of a peer in which the restarted node still owns its slots. -/
def ownerView : NodesReply where
  entries := [⟨"1a", "10.0.0.1", "6379", "@16379", [.master, .pfail], "-", "0", "0", "3", "connected",
    ["0-16383"]⟩, ⟨"2c", "10.0.0.2", "6379", "@16379", [.myself, .slave], "1a", "0", "0", "3", "connected", []⟩]
  nonempty := by decide
  wellFormed := by decide

def takenOverView : NodesReply where
  entries := [⟨"1a", "10.0.0.1", "6379", "@16379", [.slave], "2c", "0", "0", "4", "connected", []⟩,
    ⟨"2c", "10.0.0.2", "6379", "@16379", [.myself, .master], "-", "0", "0", "4", "connected", ["0-16383"]⟩]
  nonempty := by decide
  wellFormed := by decide

def forgottenView : NodesReply where
  entries := [⟨"2c", "10.0.0.2", "6379", "@16379", [.myself, .master], "-", "0", "0", "3",
    "connected", ["0-16383"]⟩]
  nonempty := by decide
  wellFormed := by decide

/-- The node is a replica, and its master's address ends like its own. -/
def similarView : NodesReply where
  entries := [⟨"1a", "10.0.0.1", "6379", "@16379", [.slave], "2c", "0", "0", "3", "connected", []⟩,
    ⟨"2c", "110.0.0.1", "6379", "@16379", [.myself, .master], "-", "0", "0", "3", "connected",
      ["0-16383"]⟩]
  nonempty := by decide
  wellFormed := by decide

end LittleRed.Startup.Cluster
