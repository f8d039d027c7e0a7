import LittleRed.Lib.Words
import LittleRed.Replication.State

/-!
# The masters that a Sentinel monitors, read by lrctl and by the operator

A Sentinel lists its masters as records of fields, the name first. The operator reads the records from the
reply itself, as arrays or as maps; lrctl reads the lines that `redis-cli` prints, and takes every line for a
key whose value is the next line. The two agree unless the name of a master is one of the keys.
-/

namespace LittleRed.Lrctl

open Lib Replication List AList

def fieldName : String := "name"

def fieldIP : String := "ip"

def fieldFlags : String := "flags"

def fieldFailoverState : String := "failover-state"

/-- The keys of the fields that are read into a record beside its name. -/
def valueKeys : List String := [fieldIP, fieldFlags, fieldFailoverState]

section Lines

/-- The records so far, and the one that is being read. -/
structure MastersScan where
  masters : List MonitoredMaster
  cur : Option MonitoredMaster

/-- The record that is being read ends; without a name it is dropped. -/
def MastersScan.flush (s : MastersScan) : MastersScan where
  masters := s.masters ++ (s.cur.filter (·.name ≠ "")).toList
  cur := none

/-- Take a field over. -/
def setField (resolve : String → String) (key val : String) (m : MonitoredMaster) : MonitoredMaster :=
  if key = fieldIP then { m with ip := resolve val }
  else if key = fieldFlags then { m with flags := val }
  else if key = fieldFailoverState then { m with failoverState := val }
  else m

/-- Take a line for a key, and the next one for its value. -/
def MastersScan.readLine (resolve : String → String) (s : MastersScan) (line next : String) : MastersScan :=
  let key := trimSpace line
  let val := trimSpace next
  if key = fieldName then { s.flush with cur := some ⟨val, "", "", ""⟩ }
  else { s with cur := s.cur.map (setField resolve key val) }

/-- Take every line for a key. -/
def scanLines (resolve : String → String) : MastersScan → List String → MastersScan
  | s, line :: next :: rest => scanLines resolve (s.readLine resolve line next) (next :: rest)
  | s, _ => s

/-- The masters in what `redis-cli` prints. Without a way to resolve addresses they are kept. -/
def parseSentinelMasters (out : String) (resolve : Option (String → String)) : List MonitoredMaster :=
  let lines := splitText '\n' (String.ofList (out.toList.filter (· ≠ '\r')))
  (scanLines (resolve.getD id) ⟨[], none⟩ lines).flush.masters

/-- What `redis-cli` prints: each element on a line of its own. -/
def renderLines : List String → String
  | [] => ""
  | line :: rest => line ++ String.singleton '\n' ++ renderLines rest

end Lines

section Reply

/-- A value in a reply. The entries of a map stand in the order in which a loop visits them. -/
inductive Reply where
  | text (s : String)
  | number (n : ℤ)
  | array (items : List Reply)
  | map (entries : List (Reply × Reply))

/-- A field of two texts. -/
def textPair : Reply × Reply → Option (String × String)
  | (.text key, .text value) => some (key, value)
  | _ => none

/-- The elements of a list in twos; a last one without a partner is dropped. -/
def pairUp {α : Type*} : List α → List (α × α)
  | first :: second :: rest => (first, second) :: pairUp rest
  | _ => []

/-- The fields of a record. -/
def recordFields : Reply → Option (GoMap String String)
  | .map entries => some (GoMap.ofPairs (entries.filterMap textPair))
  | .array items => some (GoMap.ofPairs ((pairUp items).filterMap textPair))
  | _ => none

/-- The master with these fields, if it has a name. -/
def masterOfFields (fields : GoMap String String) : Option MonitoredMaster :=
  match fields.lookup fieldName with
  | none => none
  | some name =>
    if name = "" then none
    else some ⟨name, (fields.lookup fieldIP).getD "", (fields.lookup fieldFlags).getD "",
      (fields.lookup fieldFailoverState).getD ""⟩

/-- The masters of a reply. -/
def parseMonitoredMasters (reply : List Reply) : List MonitoredMaster :=
  reply.filterMap fun entry => (recordFields entry).bind masterOfFields

end Reply

/-- The pattern of `spec.sentinel.masterName`: letters, digits, `.`, `_` and `-`, with a letter or digit
at both ends. -/
def isMasterName (s : String) : Bool :=
  s.toList.all (fun c => c.isAlphanum || c == '.' || c == '_' || c == '-') &&
    s.toList.head?.any (·.isAlphanum) && s.toList.getLast?.any (·.isAlphanum) && decide (s.length ≤ 128)

def IsWord (s : String) : Prop := ∀ c ∈ s.toList, isSpace c = false

instance (s : String) : Decidable (IsWord s) := List.decidableBAll (fun c => isSpace c = false) s.toList

/-- The name, then fields under distinct keys, whose values are words but none of the keys looked for. -/
structure MasterRecord where
  name : String
  fields : List (String × String)
  allowed : isMasterName name = true
  distinct : (fieldName :: fields.map Prod.fst).Nodup
  keys : ∀ field ∈ fields, field.1 ≠ "" ∧ IsWord field.1
  values : ∀ field ∈ fields, IsWord field.2 ∧ field.2 ∉ fieldName :: valueKeys

namespace MasterRecord

variable (r : MasterRecord)

def pairs : List (String × String) := (fieldName, r.name) :: r.fields

def elements : List String := r.pairs.flatMap fun field => [field.1, field.2]

def resp2 : Reply := .array (r.elements.map .text)

/-- The record as a map, which a loop visits in some order. -/
def resp3 (order : RangeOrder (Reply × Reply)) : Reply :=
  .map (order.reorder (r.pairs.map fun field => (.text field.1, .text field.2)))

/-- The master that the record is about. -/
def master : MonitoredMaster :=
  let fields := GoMap.ofPairs r.fields
  ⟨r.name, (fields.lookup fieldIP).getD "", (fields.lookup fieldFlags).getD "",
    (fields.lookup fieldFailoverState).getD ""⟩

end MasterRecord

section Words

/-- The characters of names are printable. -/
theorem toNat_of_nameChar {c : Char} (h : (c.isAlphanum || c == '.' || c == '_' || c == '-') = true) :
    0x20 < c.toNat ∧ c.toNat < 0x7F := by
  simp only [Bool.or_eq_true, beq_iff_eq] at h
  rcases h with ((halphanum | rfl) | rfl) | rfl
  · have hclasses : ((decide (c.val ≥ 65 ∧ c.val ≤ 90) || (decide (c.val ≥ 97) && decide (c.val ≤ 122))) ||
        (decide (c.val ≥ 48) && decide (c.val ≤ 57))) = true := halphanum
    simp only [Bool.or_eq_true, Bool.and_eq_true, decide_eq_true_eq, ge_iff_le,
      UInt32.le_iff_toNat_le] at hclasses
    have hbounds : ((65 ≤ c.toNat ∧ c.toNat ≤ 90) ∨ (97 ≤ c.toNat ∧ c.toNat ≤ 122)) ∨
        (48 ≤ c.toNat ∧ c.toNat ≤ 57) := hclasses
    omega
  · decide
  · decide
  · decide

/-- A name is a word. -/
theorem word_of_isMasterName {s : String} (h : isMasterName s = true) : s ≠ "" ∧ IsWord s := by
  simp only [isMasterName, Bool.and_eq_true] at h
  constructor
  · intro hempty
    rw [hempty] at h
    exact absurd h.1.1.2 (by decide)
  · intro c hc
    exact isSpace_of_bounds (toNat_of_nameChar (all_eq_true.mp h.1.1.1 c hc))

theorem dropWhile_isSpace {cs : List Char} (h : ∀ c ∈ cs, isSpace c = false) : cs.dropWhile isSpace = cs := by
  cases cs with
  | nil => rfl
  | cons c rest => rw [dropWhile_cons_of_neg (by simp [h c mem_cons_self])]

/-- Trimming leaves a word alone. -/
theorem trimSpace_of_word {s : String} (h : IsWord s) : trimSpace s = s := by
  have hback : s.toList.reverse.dropWhile isSpace = s.toList.reverse :=
    dropWhile_isSpace fun c hc => h c (mem_reverse.mp hc)
  rw [trimSpace, dropWhile_isSpace h, hback, reverse_reverse, String.ofList_toList]

theorem word_fieldName : IsWord fieldName := by decide

/-- The printed lines are read back. -/
theorem splitText_renderLines {lines : List String} (h : ∀ line ∈ lines, IsWord line) :
    splitText '\n' (String.ofList ((renderLines lines).toList.filter (· ≠ '\r'))) = lines ++ [""] := by
  have hchar : ∀ line ∈ lines, '\n' ∉ line.toList ∧ '\r' ∉ line.toList := by
    intro line hline
    constructor
    · intro hc
      exact absurd (h line hline _ hc) (by decide)
    · intro hc
      exact absurd (h line hline _ hc) (by decide)
  have hkept : (renderLines lines).toList.filter (· ≠ '\r') = (renderLines lines).toList := by
    clear h
    induction lines with
    | nil => rfl
    | cons line rest ih =>
      have hrest := ih fun line hline => hchar line (mem_cons_of_mem _ hline)
      have hline : line.toList.filter (· ≠ '\r') = line.toList := by
        apply filter_eq_self.mpr
        intro c hc
        have hne : c ≠ '\r' := fun heq => (hchar line mem_cons_self).2 (heq ▸ hc)
        simpa using hne
      have hbreak : (String.singleton '\n').toList.filter (· ≠ '\r') = (String.singleton '\n').toList := by
        decide
      rw [renderLines, String.toList_append, String.toList_append, filter_append, filter_append,
        hline, hrest, hbreak]
  rw [hkept, String.ofList_toList]
  clear hkept h
  induction lines with
  | nil => decide
  | cons line rest ih =>
    rw [renderLines, splitText_append (hchar line mem_cons_self).1,
      ih fun line hline => hchar line (mem_cons_of_mem _ hline), cons_append]

end Words

section Scan

variable {s : MastersScan} {m : MonitoredMaster} {key val : String}

/-- One line is read. -/
theorem scanLines_cons (resolve : String → String) (s : MastersScan) (line next : String)
    (rest : List String) :
    scanLines resolve s (line :: next :: rest) =
      scanLines resolve (s.readLine resolve line next) (next :: rest) := by
  rw [scanLines]

/-- A line that is no key changes nothing. -/
theorem readLine_of_notMem (hword : IsWord key) (hkey : key ∉ fieldName :: valueKeys) :
    s.readLine id key val = s := by
  simp only [valueKeys, mem_cons, not_mem_nil, or_false, not_or] at hkey
  have hset : setField id key (trimSpace val) = id := by
    funext m
    simp [setField, hkey]
  unfold MastersScan.readLine
  rw [trimSpace_of_word hword, if_neg hkey.1, hset, Option.map_id_fun, id_eq]

/-- A key sets its field. -/
theorem readLine_of_ne (hword : IsWord key) (hval : IsWord val) (hkey : key ≠ fieldName) :
    (⟨s.masters, some m⟩ : MastersScan).readLine id key val = ⟨s.masters, some (setField id key val m)⟩ := by
  unfold MastersScan.readLine
  rw [trimSpace_of_word hword, trimSpace_of_word hval, if_neg hkey, Option.map_some]

/-- The key of the name begins a master. -/
theorem readLine_name (hval : IsWord val) :
    s.readLine id fieldName val = ⟨s.flush.masters, some ⟨val, "", "", ""⟩⟩ := by
  have hname : trimSpace fieldName = fieldName := trimSpace_of_word word_fieldName
  unfold MastersScan.readLine
  rw [hname, if_pos rfl, trimSpace_of_word hval]

/-- Take fields over. -/
def setFields (fields : List (String × String)) (m : MonitoredMaster) : MonitoredMaster :=
  fields.foldl (fun m field => setField id field.1 field.2 m) m

/-- The name stays. -/
theorem name_setFields (fields : List (String × String)) (m : MonitoredMaster) :
    (setFields fields m).name = m.name := by
  induction fields generalizing m with
  | nil => rfl
  | cons field rest ih =>
    have hstep : (setField id field.1 field.2 m).name = m.name := by
      unfold setField
      split_ifs <;> rfl
    exact (ih (setField id field.1 field.2 m)).trans hstep

/-- The lines of fields are read as fields. -/
theorem scanLines_fields {fields : List (String × String)}
    (hkeys : ∀ field ∈ fields, field.1 ≠ fieldName ∧ IsWord field.1)
    (hvalues : ∀ field ∈ fields, IsWord field.2 ∧ field.2 ∉ fieldName :: valueKeys)
    (masters : List MonitoredMaster) (m : MonitoredMaster) (line : String) (rest : List String) :
    scanLines id ⟨masters, some m⟩ (fields.flatMap (fun field => [field.1, field.2]) ++ line :: rest) =
      scanLines id ⟨masters, some (setFields fields m)⟩ (line :: rest) := by
  induction fields generalizing m with
  | nil => rfl
  | cons field later ih =>
    obtain ⟨hkey, hword⟩ := hkeys field mem_cons_self
    obtain ⟨hval, hplain⟩ := hvalues field mem_cons_self
    have hlater := ih (fun f hf => hkeys f (mem_cons_of_mem _ hf))
      (fun f hf => hvalues f (mem_cons_of_mem _ hf)) (setField id field.1 field.2 m)
    obtain ⟨next, others, hnext⟩ : ∃ next others,
        later.flatMap (fun field => [field.1, field.2]) ++ line :: rest = next :: others := by
      cases later with
      | nil => exact ⟨line, rest, rfl⟩
      | cons second later => exact ⟨second.1, _, rfl⟩
    rw [hnext] at hlater
    rw [flatMap_cons, append_assoc, hnext, cons_append, singleton_append, scanLines_cons,
      scanLines_cons, @readLine_of_ne ⟨masters, none⟩ m _ _ hword hval hkey, readLine_of_notMem hval hplain,
      hlater, setFields, setFields, foldl_cons]

end Scan

section Fields

variable {key val : String} {M M' : GoMap String String}

/-- The master of a name with the fields of a map. -/
def describedBy (name : String) (M : GoMap String String) : MonitoredMaster :=
  ⟨name, (M.lookup fieldIP).getD "", (M.lookup fieldFlags).getD "", (M.lookup fieldFailoverState).getD ""⟩

/-- A field is one more entry. -/
theorem setField_describedBy (name key val : String) (M : GoMap String String) :
    setField id key val (describedBy name M) = describedBy name (M.insert key val) := by
  have hother : ∀ field, key ≠ field → (M.insert key val).lookup field = M.lookup field :=
    fun field hne => lookup_insert_ne (Ne.symm hne)
  unfold setField describedBy
  by_cases hip : key = fieldIP
  · subst hip
    rw [hother fieldFlags (by decide), hother fieldFailoverState (by decide)]
    rfl
  · rw [if_neg hip, hother fieldIP hip]
    by_cases hflags : key = fieldFlags
    · subst hflags
      rw [hother fieldFailoverState (by decide)]
      rfl
    · rw [if_neg hflags, hother fieldFlags hflags]
      by_cases hstate : key = fieldFailoverState
      · subst hstate
        rfl
      · rw [if_neg hstate, hother fieldFailoverState hstate]

/-- Fields are more entries. -/
theorem setFields_describedBy (name : String) (fields : List (String × String)) (M : GoMap String String) :
    setFields fields (describedBy name M) = describedBy name (GoMap.insertAll M fields) := by
  induction fields generalizing M with
  | nil => rfl
  | cons field rest ih =>
    have hrest := ih (M.insert field.1 field.2)
    rwa [← setField_describedBy] at hrest

theorem describedBy_eq_iff {name : String} :
    describedBy name M = describedBy name M' ↔
      ∀ key ∈ valueKeys, (M.lookup key).getD "" = (M'.lookup key).getD "" := by
  simp [describedBy, valueKeys]

end Fields

namespace MasterRecord

variable {r : MasterRecord}

theorem ne_fieldName {field : String × String} (h : field ∈ r.fields) : field.1 ≠ fieldName := by
  intro heq
  exact (nodup_cons.mp r.distinct).1 (heq ▸ mem_map_of_mem h)

/-- The fields of a record override what was there. -/
theorem lookup_insertAll_fields (M : GoMap String String) (key : String) :
    (GoMap.insertAll M r.fields).lookup key =
      if key ∈ r.fields.map Prod.fst then (GoMap.ofPairs r.fields).lookup key else M.lookup key := by
  have hnodup := (nodup_cons.mp r.distinct).2
  split
  · rename_i hmem
    obtain ⟨field, hfield, rfl⟩ := mem_map.mp hmem
    rw [GoMap.lookup_insertAll_of_mem M hnodup hfield, GoMap.ofPairs,
      GoMap.lookup_insertAll_of_mem ∅ hnodup hfield]
  · rename_i hmem
    apply GoMap.lookup_insertAll_of_notMem
    intro field hfield heq
    exact hmem (heq ▸ mem_map_of_mem hfield)

section Operator

/-- The fields of a record give its master. -/
theorem masterOfFields_eq {fields : GoMap String String}
    (h : ∀ key, fields.lookup key = (GoMap.ofPairs r.pairs).lookup key) :
    masterOfFields fields = some r.master := by
  have hpairs : ∀ key, (GoMap.ofPairs r.pairs).lookup key =
      (GoMap.insertAll ((∅ : GoMap String String).insert fieldName r.name) r.fields).lookup key := fun _ => rfl
  have hname : fields.lookup fieldName = some r.name := by
    rw [h, hpairs, lookup_insertAll_fields, if_neg (nodup_cons.mp r.distinct).1, lookup_insert]
  have hvalue : ∀ key ∈ valueKeys, (fields.lookup key).getD "" =
      ((GoMap.ofPairs r.fields).lookup key).getD "" := by
    intro key hkey
    have hne : key ≠ fieldName := fun heq => absurd (heq ▸ hkey) (by decide)
    rw [h, hpairs, lookup_insertAll_fields]
    split
    · rfl
    · rename_i hmem
      rw [lookup_insert_ne hne, GoMap.ofPairs, lookup_insertAll_fields, if_neg hmem]
  have hmaster : describedBy r.name fields = describedBy r.name (GoMap.ofPairs r.fields) :=
    describedBy_eq_iff.mpr hvalue
  unfold masterOfFields
  rw [hname]
  dsimp only
  rw [if_neg (word_of_isMasterName r.allowed).1]
  exact congrArg some hmaster

/-- The elements are paired up again. -/
theorem pairUp_elements (pairs : List (String × String)) :
    (pairUp ((pairs.flatMap fun field => [field.1, field.2]).map Reply.text)).filterMap textPair = pairs := by
  induction pairs with
  | nil => rfl
  | cons field rest ih =>
    have hfront : pairUp (((field :: rest).flatMap fun field => [field.1, field.2]).map Reply.text) =
        (.text field.1, .text field.2) ::
          pairUp ((rest.flatMap fun field => [field.1, field.2]).map Reply.text) := rfl
    have htext : textPair (.text field.1, .text field.2) = some field := rfl
    rw [hfront, filterMap_cons_some htext, ih]

theorem read_resp2 (r : MasterRecord) : (recordFields r.resp2).bind masterOfFields = some r.master := by
  apply masterOfFields_eq
  intro key
  rw [elements, pairUp_elements]

/-- The operator reads a map. -/
theorem read_resp3 (r : MasterRecord) (order : RangeOrder (Reply × Reply)) :
    (recordFields (r.resp3 order)).bind masterOfFields = some r.master := by
  apply masterOfFields_eq
  intro key
  have hpairs : (r.pairs.map fun field => (Reply.text field.1, Reply.text field.2)).filterMap textPair =
      r.pairs := by
    rw [filterMap_map]
    exact filterMap_some
  have hperm := (order.perm (r.pairs.map fun field => (Reply.text field.1, Reply.text field.2))).filterMap
    textPair
  have hdistinct : (r.pairs.map Prod.fst).Nodup := r.distinct
  rw [hpairs] at hperm
  exact (GoMap.lookup_ofPairs_perm hdistinct hperm.symm key).symm

/-- The operator reads all masters from both. -/
theorem parseMonitoredMasters_eq (records : List MasterRecord) (order : RangeOrder (Reply × Reply)) :
    parseMonitoredMasters (records.map resp2) = records.map master ∧
      parseMonitoredMasters (records.map (·.resp3 order)) = records.map master := by
  unfold parseMonitoredMasters
  rw [filterMap_map, filterMap_map]
  have htwo : (fun entry => (recordFields entry).bind masterOfFields) ∘ resp2 = some ∘ master := by
    funext r
    exact read_resp2 r
  have hthree : (fun entry => (recordFields entry).bind masterOfFields) ∘ (·.resp3 order) = some ∘ master := by
    funext r
    exact read_resp3 r order
  rw [htwo, hthree, ← filterMap_map, filterMap_some]
  exact ⟨rfl, rfl⟩

end Operator

section Cli

variable (r)

/-- The line after the name: the key of the first field, or the line after the record. -/
def next (line : String) : String := (r.fields.map Prod.fst).headD line

/-- The record that is open after the line of the name, which was read as a key too. -/
def opened (after : String) : MonitoredMaster :=
  if r.name = fieldName then describedBy after ∅ else setField id r.name after (describedBy r.name ∅)

/-- What lrctl makes of a record: a master named like the key of the name opens a second one. -/
def read (after : String) : List MonitoredMaster :=
  (if r.name = fieldName then [describedBy r.name ∅] else []) ++
    ((some (setFields r.fields (r.opened after))).filter (·.name ≠ "")).toList

variable {r}

variable (records : List MasterRecord) (s : MastersScan) {line : String}

theorem word_next (hline : IsWord line) : IsWord (r.next line) := by
  unfold next
  cases hfields : r.fields with
  | nil => exact hline
  | cons field rest => exact (r.keys field (hfields ▸ mem_cons_self)).2

/-- What lrctl reads from the lines of a record. -/
theorem scanLines_elements (hline : IsWord line) (rest : List String) :
    scanLines id s (r.elements ++ line :: rest) =
      scanLines id ⟨s.flush.masters ++ (if r.name = fieldName then [describedBy r.name ∅] else []),
        some (setFields r.fields (r.opened (r.next line)))⟩ (line :: rest) := by
  obtain ⟨hne, hword⟩ := word_of_isMasterName r.allowed
  obtain ⟨others, hothers⟩ : ∃ others,
      r.fields.flatMap (fun field => [field.1, field.2]) ++ line :: rest = r.next line :: others := by
    unfold next
    cases r.fields with
    | nil => exact ⟨rest, rfl⟩
    | cons field later => exact ⟨_, rfl⟩
  have hnamed : (s.readLine id fieldName r.name).readLine id r.name (r.next line) =
      ⟨s.flush.masters ++ (if r.name = fieldName then [describedBy r.name ∅] else []),
        some (r.opened (r.next line))⟩ := by
    rw [readLine_name hword]
    unfold opened
    by_cases hname : r.name = fieldName
    · have hflushed : (⟨s.flush.masters, some ⟨r.name, "", "", ""⟩⟩ : MastersScan).flush.masters =
          s.flush.masters ++ [describedBy r.name ∅] := by
        simp [MastersScan.flush, Option.filter, hne, describedBy]
      rw [if_pos hname, if_pos hname, ← hflushed]
      nth_rewrite 2 [hname]
      exact readLine_name (word_next hline)
    · rw [if_neg hname, if_neg hname, append_nil]
      exact @readLine_of_ne s.flush _ _ _ hword (word_next hline) hname
  rw [elements, pairs, flatMap_cons, append_assoc, hothers, cons_append,
    singleton_append, scanLines_cons, scanLines_cons, hnamed, ← hothers]
  exact scanLines_fields (fun field hfield => ⟨ne_fieldName hfield, (r.keys field hfield).2⟩) r.values
    _ _ line rest

/-- The line after a record: the key of the name of the next one, or the end. -/
def following : List MasterRecord → String
  | [] => ""
  | _ :: _ => fieldName

/-- What lrctl makes of a list of records. -/
def readAll : List MasterRecord → List MonitoredMaster
  | [] => []
  | r :: rest => r.read (r.next (following rest)) ++ readAll rest

theorem scanLines_records :
    (scanLines id s (records.flatMap elements ++ [""])).flush.masters = s.flush.masters ++ readAll records := by
  induction records generalizing s with
  | nil => exact (append_nil _).symm
  | cons r rest ih =>
    obtain ⟨others, hothers⟩ : ∃ others, rest.flatMap elements ++ [""] = following rest :: others := by
      cases rest with
      | nil => exact ⟨[], rfl⟩
      | cons second later => exact ⟨_, rfl⟩
    have hline : IsWord (following rest) := by
      cases rest with
      | nil => decide
      | cons second later => exact word_fieldName
    rw [flatMap_cons, append_assoc, hothers, scanLines_elements s hline, ← hothers, ih, readAll]
    simp only [MastersScan.flush, read, append_assoc]

/-- What lrctl reads from the printed lines. -/
theorem parseSentinelMasters_eq :
    parseSentinelMasters (renderLines (records.flatMap elements)) none = readAll records := by
  have hwords : ∀ line ∈ records.flatMap elements, IsWord line := by
    intro line hline
    obtain ⟨r, -, hline⟩ := mem_flatMap.mp hline
    obtain ⟨field, hfield, hline⟩ := mem_flatMap.mp hline
    simp only [mem_cons, not_mem_nil, or_false] at hline
    rcases mem_cons.mp hfield with rfl | hfield
    · rcases hline with rfl | rfl
      · exact word_fieldName
      · exact (word_of_isMasterName r.allowed).2
    · rcases hline with rfl | rfl
      · exact (r.keys field hfield).2
      · exact (r.values field hfield).1
  unfold parseSentinelMasters
  rw [splitText_renderLines hwords]
  exact scanLines_records records ⟨[], none⟩

end Cli

section Agreement

variable {rest : List MasterRecord}

/-- The name is no key, or the last line, or the key of a field that the record has. -/
def Distinguished (r : MasterRecord) (rest : List MasterRecord) : Prop :=
  (r.fields = [] ∧ rest = []) ∨
    (r.name ≠ fieldName ∧ (r.name ∈ valueKeys → r.name ∈ r.fields.map Prod.fst))

/-- Nothing follows the name of a last record without fields. -/
theorem next_eq_empty_iff : r.next (following rest) = "" ↔ r.fields = [] ∧ rest = [] := by
  unfold next
  cases hfields : r.fields with
  | nil =>
    cases rest with
    | nil => simp [following]
    | cons second later => simp [following, fieldName]
  | cons field later =>
    have hkey := (r.keys field (hfields ▸ mem_cons_self)).1
    simp [hkey]

/-- A name that is a key is read as one more field. -/
theorem read_of_ne (hname : r.name ≠ fieldName) (after : String) :
    r.read after =
      [describedBy r.name (GoMap.insertAll ((∅ : GoMap String String).insert r.name after) r.fields)] := by
  have hne := (word_of_isMasterName r.allowed).1
  rw [read, opened, if_neg hname, if_neg hname, setField_describedBy, setFields_describedBy]
  simp [describedBy, Option.filter, hne]

/-- That does no harm if the record has the field. -/
theorem read_eq_master_iff (hname : r.name ≠ fieldName) (after : String) :
    r.read after = [r.master] ↔ (r.name ∈ valueKeys → r.name ∉ r.fields.map Prod.fst → after = "") := by
  have hmaster : r.master = describedBy r.name (GoMap.ofPairs r.fields) := rfl
  have hfields : ∀ key, (GoMap.ofPairs r.fields).lookup key =
      if key ∈ r.fields.map Prod.fst then (GoMap.ofPairs r.fields).lookup key else none := fun key =>
    lookup_insertAll_fields ∅ key
  rw [read_of_ne hname, hmaster, List.cons.injEq, and_iff_left rfl, describedBy_eq_iff]
  simp only [lookup_insertAll_fields]
  constructor
  · intro h hkey habsent
    have hsame := h r.name hkey
    rwa [if_neg habsent, lookup_insert, hfields, if_neg habsent] at hsame
  · intro h key hkey
    split
    · rfl
    rename_i habsent
    rw [hfields, if_neg habsent]
    by_cases hsame : key = r.name
    · subst hsame
      rw [lookup_insert, h hkey habsent]
      rfl
    · rw [lookup_insert_ne hsame]
      rfl

/-- A record is read as its master exactly when the name is distinguished. -/
theorem read_eq_iff : r.read (r.next (following rest)) = [r.master] ↔ Distinguished r rest := by
  unfold Distinguished
  rw [← next_eq_empty_iff]
  by_cases hname : r.name = fieldName
  · have hread : ∀ after, r.read after = [describedBy r.name ∅] ++
        (if after = "" then [] else [setFields r.fields (describedBy after ∅)]) := by
      intro after
      rw [read, opened, if_pos hname, if_pos hname]
      by_cases hafter : after = ""
      · simp [hafter, Option.filter, name_setFields, describedBy]
      · simp [hafter, Option.filter, name_setFields, describedBy]
    rw [hread]
    constructor
    · intro h
      by_contra hafter
      rw [if_neg fun hempty => hafter (.inl hempty)] at h
      have hlength := congrArg List.length h
      simp at hlength
    · intro h
      have hempty := h.resolve_right fun hother => hother.1 hname
      have hfields := (next_eq_empty_iff.mp hempty).1
      rw [if_pos hempty, master, hfields]
      rfl
  · rw [read_eq_master_iff hname]
    constructor
    · intro h
      by_cases hempty : r.next (following rest) = ""
      · exact .inl hempty
      · exact .inr ⟨hname, fun hkey => by_contra fun habsent => hempty (h hkey habsent)⟩
    · intro h hkey habsent
      exact h.resolve_right fun hother => habsent (hother.2 hkey)

theorem one_le_length_read (r : MasterRecord) (after : String) : 1 ≤ (r.read after).length := by
  by_cases hname : r.name = fieldName
  · rw [read, if_pos hname, length_append, length_singleton]
    omega
  · rw [read_of_ne hname, length_singleton]

theorem length_le_readAll (records : List MasterRecord) : records.length ≤ (readAll records).length := by
  induction records with
  | nil => exact Nat.le_refl _
  | cons r rest ih =>
    have hread := one_le_length_read r (r.next (following rest))
    rw [readAll, length_append, length_cons]
    omega

/-- All records are read as their masters exactly when all names are distinguished. -/
theorem readAll_eq_iff (records : List MasterRecord) :
    readAll records = records.map master ↔ ∀ r rest, r :: rest <:+ records → Distinguished r rest := by
  induction records with
  | nil => simp [readAll]
  | cons first later ih =>
    have hsplit : readAll (first :: later) = (first :: later).map master ↔
        first.read (first.next (following later)) = [first.master] ∧ readAll later = later.map master := by
      rw [readAll, map_cons]
      constructor
      · intro h
        have hlength := congrArg List.length h
        have hlater := length_le_readAll later
        rw [length_append, length_cons, length_map] at hlength
        have hread := one_le_length_read first (first.next (following later))
        have hone : (first.read (first.next (following later))).length = 1 := by omega
        obtain ⟨m, hm⟩ := length_eq_one_iff.mp hone
        rw [hm, singleton_append, List.cons.injEq] at h
        rw [hm, h.1]
        exact ⟨rfl, h.2⟩
      · rintro ⟨hfirst, hlater⟩
        rw [hfirst, hlater]
        rfl
    rw [hsplit, read_eq_iff, ih]
    constructor
    · rintro ⟨hfirst, hlater⟩ r rest hsuffix
      rcases suffix_cons_iff.mp hsuffix with heq | hsuffix
      · obtain ⟨rfl, rfl⟩ := List.cons.inj heq
        exact hfirst
      · exact hlater r rest hsuffix
    · intro h
      exact ⟨h first later (suffix_refl _),
        fun r rest hsuffix => h r rest (hsuffix.trans (suffix_cons first later))⟩

/-- lrctl reads the masters that the operator reads exactly when all names are distinguished. -/
theorem parsers_agree_iff (records : List MasterRecord) (order : RangeOrder (Reply × Reply)) :
    (parseSentinelMasters (renderLines (records.flatMap elements)) none =
        parseMonitoredMasters (records.map resp2) ∧
      parseSentinelMasters (renderLines (records.flatMap elements)) none =
        parseMonitoredMasters (records.map (·.resp3 order))) ↔
    ∀ r rest, r :: rest <:+ records → Distinguished r rest := by
  obtain ⟨htwo, hthree⟩ := parseMonitoredMasters_eq records order
  rw [htwo, hthree, and_self, parseSentinelMasters_eq, readAll_eq_iff]

end Agreement

end MasterRecord

/-- A record with the given name. -/
def recordNamed (name : String) (hallowed : isMasterName name = true) : MasterRecord where
  name := name
  fields := [("ip", "10.0.0.1"), ("port", "6379"), ("flags", "master")]
  allowed := hallowed
  distinct := by decide
  keys := by decide
  values := by decide

/-- A master named `name` is read as two without an address, one named `failover-state` with a false state. -/
theorem recordNamed_misread :
    parseSentinelMasters (renderLines (recordNamed "name" (by decide)).elements) none =
        [⟨"name", "", "", ""⟩, ⟨"ip", "10.0.0.1", "master", ""⟩] ∧
      parseMonitoredMasters [(recordNamed "name" (by decide)).resp2] = [⟨"name", "10.0.0.1", "master", ""⟩] ∧
      parseSentinelMasters (renderLines (recordNamed "failover-state" (by decide)).elements) none =
        [⟨"failover-state", "10.0.0.1", "master", "ip"⟩] ∧
      parseMonitoredMasters [(recordNamed "failover-state" (by decide)).resp2] =
        [⟨"failover-state", "10.0.0.1", "master", ""⟩] := by
  decide +kernel

end LittleRed.Lrctl
