import LittleRed.Lib.Decimal
import LittleRed.Lib.LineTools
import LittleRed.Replication.Gather

/-!
# The text in which a server reports on itself

INFO is a text of lines with a field each, of headings, and of one line for each database that has keys. The
operator reads from it the fields by their names, and the number of keys as the sum over the databases.
-/

namespace LittleRed.Replication

open Lib List

/-- The value of the first line that begins with the field. The loop looks at the start of every line. -/
def parseInfoField (info field : String) : String :=
  match (splitText '\n' info).findSome? (cutFront (field ++ ":")) with
  | some value => String.ofList (cutFirst '\r' value.toList)
  | none => ""

/-- The number of keys in the line of a database. -/
def lineKeys (line : String) : Option ℤ :=
  let line := trimSpace line
  if (cutFront "db" line).isNone then none
  else
    (line.toList.tails.find? "keys=".toList.isPrefixOf).bind fun found =>
      atoi (trimSpace (String.ofList (cutFirst ',' (found.drop 5))))

/-- The number of keys of all databases, in 64 bits. -/
def parseKeyspaceKeys (info : String) : ℤ :=
  ((splitText '\n' info).filterMap lineKeys).foldl (fun total n => (total + n).bmod (2 ^ 64)) 0

/-- What is read from the text. -/
def getReplicationInfo (info : String) : ReplicationInfo :=
  let role := parseInfoField info "role"
  let offsetField := if role = roleMaster then "master_repl_offset" else "slave_repl_offset"
  { role
    masterHost := parseInfoField info "master_host"
    masterLinkStatus := parseInfoField info "master_link_status"
    offset := parseInt64 (parseInfoField info offsetField)
    keys := parseKeyspaceKeys info
    replid := parseInfoField info "master_replid"
    replid2 := parseInfoField info "master_replid2" }

/-- A line of the text; a database has further statistics behind its number of keys. -/
inductive InfoLine where
  | field (key value : String)
  | database (number keys : ℕ) (others : String)
  | heading (text : String)

namespace InfoLine

/-- Name and value of a line. -/
def entry : InfoLine → Option (String × String)
  | .field key value => some (key, value)
  | .database number keys others => some ("db" ++ toString number, "keys=" ++ toString keys ++ "," ++ others)
  | .heading _ => none

/-- The line as it is written. -/
def text : InfoLine → String
  | .heading text => text
  | .field key value => key ++ ":" ++ value
  | .database number keys others =>
    "db" ++ toString number ++ ":" ++ ("keys=" ++ toString keys ++ "," ++ others)

def keys : InfoLine → ℕ
  | .database _ keys _ => keys
  | _ => 0

/-- The line is one that servers write: keys have no colons, and only databases have `keys=`. -/
def WellFormed (line : InfoLine) : Prop :=
  ('\r' ∉ line.text.toList ∧ '\n' ∉ line.text.toList) ∧
    match line with
    | .field key value => ':' ∉ key.toList ∧ ¬ "keys=".toList <:+: (key ++ ":" ++ value).toList
    | .database _ keys others => keys < 2 ^ 63 ∧ Spaceless others.toList
    | .heading text => ':' ∉ text.toList ∧ ¬ "keys=".toList <:+: text.toList

instance : DecidablePred WellFormed
  | .field .. | .database .. | .heading .. => inferInstanceAs (Decidable (_ ∧ _))

end InfoLine

def infoText : List InfoLine → String
  | [] => ""
  | line :: rest => line.text ++ "\r\n" ++ infoText rest

/-- The value of a field, or nothing. -/
def fieldValue (lines : List InfoLine) (key : String) : String :=
  ((lines.filterMap InfoLine.entry).lookup key).getD ""

def totalKeys (lines : List InfoLine) : ℕ := (lines.map InfoLine.keys).sum

variable {lines : List InfoLine}

/-- The text is split into its lines. -/
theorem splitText_infoText (hlines : ∀ line ∈ lines, line.WellFormed) :
    splitText '\n' (infoText lines) = lines.map (·.text ++ "\r") ++ [""] := by
  induction lines with
  | nil => rfl
  | cons line rest ih =>
    rw [forall_mem_cons] at hlines
    have hbreak : '\n' ∉ (line.text ++ "\r").toList := by simpa using hlines.1.1.2
    have htext : infoText (line :: rest) = line.text ++ "\r" ++ String.singleton '\n' ++ infoText rest := by
      simp [infoText, String.append_assoc]
    rw [htext, splitText_append hbreak, ih hlines.2, map_cons, cons_append]

section Fields

/-- The text before the colon is the name. -/
theorem colon_prefix_iff {key key' : List Char} (hkey : ':' ∉ key) (hkey' : ':' ∉ key') (value : List Char) :
    key ++ [':'] <+: key' ++ ':' :: value ↔ key = key' := by
  constructor
  · rintro ⟨rest, hrest⟩
    have hcut := congrArg (cutFirst ':') hrest
    rwa [append_assoc, singleton_append, cutFirst_append hkey, cutFirst_append hkey'] at hcut
  · rintro rfl
    exact ⟨value, by simp⟩

/-- A line is a heading, or a name and a value. -/
theorem InfoLine.WellFormed.text_cases {line : InfoLine} (h : line.WellFormed) :
    (line.entry = none ∧ ':' ∉ line.text.toList) ∨ ∃ key value, line.entry = some (key, value) ∧
      (':' ∉ key.toList ∧ '\r' ∉ value.toList) ∧ line.text = key ++ ":" ++ value := by
  have hreturn {key value : String} (htext : line.text = key ++ ":" ++ value) : '\r' ∉ value.toList :=
    fun hmem => h.1.1 (by simp [htext, hmem])
  cases line with
  | field key value => exact .inr ⟨key, value, rfl, ⟨h.2.1, hreturn rfl⟩, rfl⟩
  | database number keys others =>
    have hkey : ':' ∉ ("db" ++ toString number).toList := by
      simpa using notMem_toString (show ':'.isDigit = false by decide) number
    exact .inr ⟨_, _, rfl, ⟨hkey, hreturn rfl⟩, rfl⟩
  | heading text => exact .inl ⟨rfl, h.2.1⟩

/-- A field is read by its name. -/
theorem parseInfoField_infoText (hlines : ∀ line ∈ lines, line.WellFormed) {key : String}
    (hkey : ':' ∉ key.toList) : parseInfoField (infoText lines) key = fieldValue lines key := by
  rw [parseInfoField, splitText_infoText hlines]
  induction lines with
  | nil => simp [cutFront, fieldValue]
  | cons line rest ih =>
    rw [forall_mem_cons] at hlines
    rw [map_cons, cons_append, List.findSome?_cons, fieldValue]
    rcases hlines.1.text_cases with ⟨hentry, hcolon⟩ | ⟨key', value, hentry, ⟨hkey', hreturn⟩, htext⟩
    · have hnone : cutFront (key ++ ":") (line.text ++ "\r") = none := by
        refine cutFront_eq_none fun hfront => hcolon ?_
        simpa using hfront.subset (show ':' ∈ (key ++ ":").toList by simp)
      rw [hnone, filterMap_cons_none hentry]
      exact ih hlines.2
    · rw [htext, filterMap_cons_some hentry, lookup_cons]
      by_cases heq : key = key'
      · have hvalue := cutFirst_append hreturn []
        rw [heq, String.append_assoc, cutFront_append, beq_self_eq_true]
        simp [hvalue]
      · have hnone : cutFront (key ++ ":") (key' ++ ":" ++ value ++ "\r") = none := by
          refine cutFront_eq_none fun hfront => heq (String.toList_inj.mp ?_)
          exact (colon_prefix_iff hkey hkey' _).mp (by simpa using hfront)
        rw [hnone, beq_eq_false_iff_ne.mpr heq]
        exact ih hlines.2

end Fields

section Keys

/-- Trimming takes the end of the line off. -/
theorem trimSpace_append {s back : String} (hne : s.toList ≠ []) (hs : Spaceless s.toList)
    (hback : back.toList.all isSpace = true) : trimSpace (s ++ back) = s := by
  have hkeep {cs : List Char} (more : List Char) (hne : cs ≠ []) (hcs : Spaceless cs) :
      (cs ++ more).dropWhile isSpace = cs ++ more := by
    cases cs with
    | nil => exact absurd rfl hne
    | cons c cs => exact dropWhile_cons_of_neg (by simp [hcs c mem_cons_self])
  have hreversed := hkeep [] (reverse_ne_nil_iff.mpr hne) fun c hc => hs c (mem_reverse.mp hc)
  rw [append_nil] at hreversed
  rw [trimSpace, String.toList_append, hkeep _ hne hs, reverse_append,
    dropWhile_append_of_pos (by simpa using hback), hreversed, reverse_reverse,
    String.ofList_toList]

/-- The search skips what cannot begin a match. -/
theorem find?_tails_append {part before rest : List Char} {c : Char} (h : c ∉ before) :
    (before ++ c :: rest).tails.find? (c :: part).isPrefixOf =
      (c :: rest).tails.find? (c :: part).isPrefixOf := by
  induction before with
  | nil => rfl
  | cons c' before ih =>
    rw [mem_cons, not_or] at h
    rw [cons_append, tails_cons, List.find?_cons_of_neg (by simp [h.1]), ih h.2]

/-- A line that does not speak of keys has none. -/
theorem lineKeys_of_absent {s : String} (h : ¬ "keys=".toList <:+: s.toList) :
    lineKeys (s ++ "\r") = none := by
  have hnone : (trimSpace (s ++ "\r")).toList.tails.find? "keys=".toList.isPrefixOf = none := by
    rw [List.find?_eq_none]
    intro tail htail hfound
    obtain ⟨front, back, hchars, -, -⟩ := exists_trimSpace (s ++ "\r")
    have htrimmed := ((mem_tails _ _).mp htail).isInfix.trans ⟨front, back, hchars.symm⟩
    have hinfix := (List.isPrefixOf_iff_prefix.mp hfound).isInfix.trans htrimmed
    rw [String.toList_append] at hinfix
    rcases (infix_append_cons_iff (by decide) (by decide) _ []).mp hinfix with hline | hnil
    · exact h hline
    · exact absurd hnil (by decide)
  rw [lineKeys, hnone]
  exact ite_self none

/-- The keys of a database are read. -/
theorem lineKeys_database (number : ℕ) {keys : ℕ} {others : String} (hkeys : keys < 2 ^ 63)
    (hothers : Spaceless others.toList) :
    lineKeys ((InfoLine.database number keys others).text ++ "\r") = some (keys : ℤ) := by
  obtain ⟨text, htext⟩ : ∃ text, text = (InfoLine.database number keys others).text := ⟨_, rfl⟩
  have hspaceless : Spaceless text.toList := by
    simp only [htext, InfoLine.text, String.toList_append, spaceless_append]
    exact ⟨⟨⟨by decide, spaceless_toString number⟩, by decide⟩,
      ⟨⟨by decide, spaceless_toString keys⟩, by decide⟩, hothers⟩
  have hchars : text.toList = ('d' :: 'b' :: ((toString number).toList ++ [':'])) ++
      'k' :: ("eys=".toList ++ ((toString keys).toList ++ ',' :: others.toList)) := by
    simp [htext, InfoLine.text]
  have hfound : text.toList.tails.find? "keys=".toList.isPrefixOf =
      some ("keys=".toList ++ ((toString keys).toList ++ ',' :: others.toList)) := by
    rw [hchars]
    refine (@find?_tails_append "eys=".toList _ _ 'k' ?_).trans (List.find?_cons_of_pos ?_)
    · simpa using notMem_toString (show 'k'.isDigit = false by decide) number
    · exact isPrefixOf_iff_prefix.mpr (prefix_append "keys=".toList _)
  have hdb : (cutFront "db" text).isNone = false := by
    rw [htext, InfoLine.text, String.append_assoc, String.append_assoc, cutFront_append, Option.isNone_some]
  have hdigits : trimSpace (toString keys) = toString keys := by
    have htrim := @trimSpace_append (toString keys) "" (by simp) (spaceless_toString keys) (by simp)
    rwa [String.append_empty] at htrim
  have hfive : "keys=".toList.length = 5 := rfl
  rw [← htext, lineKeys, trimSpace_append (by simp [hchars]) hspaceless (by decide), hfound, hdb,
    if_neg Bool.false_ne_true, Option.bind_some, drop_left' hfive,
    cutFirst_append (notMem_toString (by decide) keys), String.ofList_toList, hdigits, atoi_toString hkeys]

/-- Only databases have keys. -/
theorem lineKeys_text {line : InfoLine} (h : line.WellFormed) :
    lineKeys (line.text ++ "\r") = none ∧ line.keys = 0 ∨
      lineKeys (line.text ++ "\r") = some (line.keys : ℤ) := by
  cases line with
  | field | heading => exact .inl ⟨lineKeys_of_absent h.2.2, rfl⟩
  | database => exact .inr (lineKeys_database _ h.2.1 h.2.2)

/-- The keys of all databases are added up. -/
theorem parseKeyspaceKeys_infoText (hlines : ∀ line ∈ lines, line.WellFormed)
    (hkeys : totalKeys lines < 2 ^ 63) :
    parseKeyspaceKeys (infoText lines) = totalKeys lines := by
  have hfold (total : ℕ) (htotal : total + totalKeys lines < 2 ^ 63) :
      ((lines.map (·.text ++ "\r")).filterMap lineKeys).foldl
        (fun total n => (total + n).bmod (2 ^ 64)) (total : ℤ) = (total + totalKeys lines : ℕ) := by
    clear hkeys
    induction lines generalizing total with
    | nil => rfl
    | cons line rest ih =>
      rw [forall_mem_cons] at hlines
      rw [show totalKeys (line :: rest) = line.keys + totalKeys rest from sum_cons] at htotal ⊢
      rw [map_cons]
      rcases lineKeys_text hlines.1 with ⟨hnone, hzero⟩ | hsome
      · rw [filterMap_cons_none hnone, hzero, Nat.zero_add]
        exact ih hlines.2 total (by omega)
      · have hadd : ((total : ℤ) + line.keys).bmod (2 ^ 64) = ((total + line.keys : ℕ) : ℤ) := by
          rw [Int.bmod_eq_of_le (by omega) (by omega), Int.natCast_add]
        rw [filterMap_cons_some hsome, foldl_cons, hadd, ih hlines.2 _ (by omega), Nat.add_assoc]
  have hlast : [""].filterMap lineKeys = [] := rfl
  rw [parseKeyspaceKeys, splitText_infoText hlines, filterMap_append, hlast, append_nil]
  exact (hfold 0 (by omega)).trans (by rw [Nat.zero_add])

end Keys

/-- Whatever other lines there are, in whatever order, the view has the fields of the server, the offset
of its role and the keys of all databases. -/
theorem getRedisState_reads_info {probes : Probes} {ip : String} {offset : ℤ} (podName : String)
    (hprobe : probes.redis ip = .ok (getReplicationInfo (infoText lines)))
    (hlines : ∀ line ∈ lines, line.WellFormed) (hkeys : totalKeys lines < 2 ^ 63)
    (hoffset : fieldValue lines (if fieldValue lines "role" = roleMaster then "master_repl_offset"
      else "slave_repl_offset") = toString offset) (hfits : -2 ^ 63 ≤ offset ∧ offset < 2 ^ 63) :
    probes.getRedisState podName ip = ⟨podName, ip, fieldValue lines "role", fieldValue lines "master_host",
        fieldValue lines "master_link_status", offset, totalKeys lines, fieldValue lines "master_replid",
        fieldValue lines "master_replid2", true, .ok⟩ := by
  have hread {key : String} := @parseInfoField_infoText lines hlines key
  have hoffsets : parseInt64 (parseInfoField (infoText lines) (if fieldValue lines "role" = roleMaster
      then "master_repl_offset" else "slave_repl_offset")) = offset := by
    rw [hread (by split <;> decide), hoffset, parseInt64_toString, clamp64_of_fits hfits.1 hfits.2]
  simp (disch := decide) only [Probes.getRedisState, hprobe, getReplicationInfo, hread, hoffsets,
    parseKeyspaceKeys_infoText hlines hkeys]

/-- What a replica with keys in two databases reports. -/
def replicaInfo : List InfoLine :=
  [.heading "# Replication", .field "role" "slave", .field "master_host" "10.0.0.1",
    .field "master_link_status" "up", .field "slave_repl_offset" "42", .field "master_replid" "a1",
    .field "master_replid2" "00", .field "master_repl_offset" "40", .heading "", .heading "# Keyspace",
    .database 0 7 "expires=0,avg_ttl=0", .database 15 3 "expires=1,avg_ttl=9"]

/-- The text of a replica is read. -/
theorem replicaInfo_read :
    Probes.getRedisState ⟨fun _ => .ok (getReplicationInfo (infoText replicaInfo)), fun _ => none⟩
        "lr-redis-1" "10.0.0.2" =
      ⟨"lr-redis-1", "10.0.0.2", "slave", "10.0.0.1", "up", 42, 10, "a1", "00", true, .ok⟩ :=
  @getRedisState_reads_info replicaInfo _ "10.0.0.2" 42 "lr-redis-1" rfl (by decide) (by decide)
    (by decide) (by decide)

end LittleRed.Replication
