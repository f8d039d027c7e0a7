import LittleRed.Cluster.Gather
import LittleRed.Lib.Decimal

/-!
# The text of CLUSTER NODES

A node answers with one line per node that it knows: eight fields, and behind them the ranges that the node
owns, mixed with markers of slots on the move. What is written for a list of nodes reads back as these nodes,
without the markers, and with numbers beyond 64 bits as the nearest one.
-/

namespace LittleRed.Cluster

open Lib List Function

/-- A line of the answer with all that is read from it. -/
structure ParsedNode extends ClusterNodeInfo where
  addr : String
  hostname : String
  pingSent : ℤ
  pongRecv : ℤ
  configEpoch : ℤ
  linkState : String
  deriving DecidableEq

/-- The address without the port of the cluster bus. -/
def stripCport (ipPort : String) : String := String.ofList (ipPort.toList.takeWhile (· ≠ '@'))

/-- A slot that migrates or is imported, which the node does not own. -/
def isMarker (s : String) : Bool := ['['].isPrefixOf s.toList

/-- A node from the fields of a line. -/
def parseNodeFields : List String → Option ParsedNode
  | nodeID :: address :: flags :: masterID :: pingSent :: pongRecv :: configEpoch :: linkState :: slots =>
    let addrParts := splitText ',' address
    some
      { nodeID := nodeID
        masterID := masterID
        hostname := addrParts.getD 1 ""
        addr := stripCport (addrParts.headD "")
        flags := splitText ',' flags
        pingSent := parseInt64 pingSent
        pongRecv := parseInt64 pongRecv
        configEpoch := parseInt64 configEpoch
        linkState := linkState
        slots := slots.filter fun s => !isMarker s }
  | _ => none

/-- The nodes of the text. -/
def parseClusterNodes (output : String) : List ParsedNode :=
  (splitText '\n' (trimSpace output)).filterMap fun line =>
    if line = "" then none else parseNodeFields (fields line)

/-- A field of a line: not empty and without white space. -/
def IsField (s : String) : Prop := s.toList ≠ [] ∧ Spaceless s.toList

instance (s : String) : Decidable (IsField s) :=
  inferInstanceAs (Decidable (s.toList ≠ [] ∧ Spaceless s.toList))

/-- A range that the node owns, or a slot on its way. -/
inductive SlotItem where
  | owned (range : SlotRange)
  | migrating (slot : ℤ) (nodeID : String)
  | importing (slot : ℤ) (nodeID : String)

namespace SlotItem

/-- The item as it is written. -/
def text : SlotItem → String
  | owned range => formatSlotRange range
  | migrating slot nodeID => "[" ++ toString slot ++ "->-" ++ nodeID ++ "]"
  | importing slot nodeID => "[" ++ toString slot ++ "-<-" ++ nodeID ++ "]"

def ownedText : SlotItem → Option String
  | owned range => some (formatSlotRange range)
  | _ => none

/-- The ID in a marker has no white space. -/
def Written : SlotItem → Prop
  | owned _ => True
  | migrating _ nodeID => Spaceless nodeID.toList
  | importing _ nodeID => Spaceless nodeID.toList

instance : (item : SlotItem) → Decidable item.Written
  | owned _ => inferInstanceAs (Decidable True)
  | migrating _ nodeID => inferInstanceAs (Decidable (Spaceless nodeID.toList))
  | importing _ nodeID => inferInstanceAs (Decidable (Spaceless nodeID.toList))

end SlotItem

/-- A node as it is reported. -/
structure NodeRecord where
  nodeID : String
  ip : String
  port : ℕ
  cport : Option ℕ
  hostname : Option String
  flags : List String
  masterID : String
  pingSent : ℤ
  pongRecv : ℤ
  configEpoch : ℤ
  linkState : String
  slots : List SlotItem
  field_nodeID : IsField nodeID
  field_masterID : IsField masterID
  field_linkState : IsField linkState
  plain_ip : Spaceless ip.toList ∧ ',' ∉ ip.toList ∧ '@' ∉ ip.toList
  plain_hostname : ∀ host ∈ hostname, Spaceless host.toList ∧ ',' ∉ host.toList
  plain_flags : ∀ flag ∈ flags, Spaceless flag.toList ∧ ',' ∉ flag.toList
  some_flags : flags ≠ [] ∧ flags ≠ [""]
  written_slots : ∀ item ∈ slots, item.Written

inductive LineEnd where
  | lf
  | crlf

def LineEnd.spaces : LineEnd → List Char
  | lf => []
  | crlf => ['\r']

def LineEnd.text (lineEnd : LineEnd) : String := String.ofList (lineEnd.spaces ++ ['\n'])

namespace NodeRecord

variable (r : NodeRecord)

/-- The address without the port of the cluster bus. -/
def addr : String := r.ip ++ ":" ++ toString r.port

/-- The address with port and host name. -/
def address : String :=
  r.addr ++ (r.cport.elim "" fun cport => "@" ++ toString cport) ++ r.hostname.elim "" fun host => "," ++ host

/-- The fields of the line. -/
def texts : List String :=
  [r.nodeID, r.address, ",".intercalate r.flags, r.masterID, toString r.pingSent, toString r.pongRecv,
    toString r.configEpoch, r.linkState] ++ r.slots.map SlotItem.text

def line : String := " ".intercalate r.texts

/-- The node as it is reported, without the markers. -/
def entry : ParsedNode where
  nodeID := r.nodeID
  masterID := r.masterID
  hostname := r.hostname.getD ""
  addr := r.addr
  flags := r.flags
  pingSent := r.pingSent
  pongRecv := r.pongRecv
  configEpoch := r.configEpoch
  linkState := r.linkState
  slots := r.slots.filterMap SlotItem.ownedText

/-- The node as it is read, with the nearest times and epoch of 64 bits. -/
def readEntry : ParsedNode :=
  { r.entry with
    pingSent := clamp64 r.pingSent
    pongRecv := clamp64 r.pongRecv
    configEpoch := clamp64 r.configEpoch }

/-- The times and the epoch are numbers of 64 bits. -/
structure FitsInt64 : Prop where
  pingSent : -2 ^ 63 ≤ r.pingSent ∧ r.pingSent < 2 ^ 63
  pongRecv : -2 ^ 63 ≤ r.pongRecv ∧ r.pongRecv < 2 ^ 63
  configEpoch : -2 ^ 63 ≤ r.configEpoch ∧ r.configEpoch < 2 ^ 63

end NodeRecord

/-- The answer for a list of nodes, with or without a line end behind the last line. -/
def renderNodes (lineEnd : LineEnd) (closed : Bool) (records : List NodeRecord) : String :=
  lineEnd.text.intercalate (records.map NodeRecord.line) ++ if closed then lineEnd.text else ""

section Reading

/-- The text is read by words. -/
theorem parseClusterNodes_eq (output : String) :
    parseClusterNodes output =
      (lineWords output.toList).filterMap fun ws => parseNodeFields (ws.map String.ofList) := by
  rw [parseClusterNodes, ← lineWords_trimSpace, lineWords, splitText, filterMap_map, filterMap_filter,
    filterMap_map]
  congr 1
  funext chars
  have hfields : fields (String.ofList chars) = (words chars).map String.ofList := by
    rw [fields, String.toList_ofList]
  simp only [comp_apply, hfields, decide_eq_true_eq]
  by_cases hwords : words chars = []
  · rw [hwords, if_neg (not_not.mpr rfl)]
    split
    · rfl
    · rfl
  · have hline : String.ofList chars ≠ "" := by
      intro hempty
      have hchars : chars = [] := by simpa using congrArg String.toList hempty
      exact hwords (by rw [hchars, words_nil])
    rw [if_neg hline, if_pos hwords]

end Reading

section Texts

/-- A range is a word and no marker. -/
theorem isField_formatSlotRange (range : SlotRange) :
    IsField (formatSlotRange range) ∧ isMarker (formatSlotRange range) = false := by
  obtain ⟨hne, hspaceless⟩ := spaceless_toString_int range.start
  have hfirst : ∀ rest, ['['].isPrefixOf ((toString range.start).toList ++ rest) = false := by
    intro rest
    cases hchars : (toString range.start).toList with
    | nil => exact absurd hchars hne
    | cons c cs =>
      have hc : '[' ≠ c := by
        rintro rfl
        have hmem := mem_toString_int (hchars ▸ mem_cons_self : '[' ∈ (toString range.start).toList)
        revert hmem
        decide
      rw [cons_append, isPrefixOf_cons_cons, beq_false_of_ne hc, Bool.false_and]
  unfold formatSlotRange IsField isMarker
  split
  · have hrest := hfirst []
    rw [append_nil] at hrest
    exact ⟨⟨hne, hspaceless⟩, hrest⟩
  · rw [String.toList_append, String.toList_append, append_assoc]
    refine ⟨⟨append_ne_nil_of_left_ne_nil hne _, ?_⟩, hfirst _⟩
    rw [spaceless_append, spaceless_append]
    exact ⟨hspaceless, by decide, (spaceless_toString_int range.stop).2⟩

theorem isMarker_append (s : String) : isMarker ("[" ++ s) = true := by
  rw [isMarker, String.toList_append]
  rfl

/-- An item is a word. -/
theorem SlotItem.isField_text {item : SlotItem} (h : item.Written) : IsField item.text := by
  have hmarker : ∀ (slot : ℤ) (arrow nodeID : String), Spaceless arrow.toList → Spaceless nodeID.toList →
      IsField ("[" ++ toString slot ++ arrow ++ nodeID ++ "]") := by
    intro slot arrow nodeID harrow hnodeID
    unfold IsField
    simp only [String.toList_append, spaceless_append]
    exact ⟨by simp, ⟨⟨⟨by decide, (spaceless_toString_int slot).2⟩, harrow⟩, hnodeID⟩, by decide⟩
  cases item with
  | owned range => exact (isField_formatSlotRange range).1
  | migrating slot nodeID => exact hmarker slot "->-" nodeID (by decide) h
  | importing slot nodeID => exact hmarker slot "-<-" nodeID (by decide) h

/-- What is not owned is a marker. -/
theorem SlotItem.isMarker_text (item : SlotItem) : isMarker item.text = item.ownedText.isNone := by
  cases item with
  | owned range => exact (isField_formatSlotRange range).2
  | migrating | importing =>
    rw [SlotItem.text, String.append_assoc, String.append_assoc, String.append_assoc, isMarker_append]
    rfl

/-- The ranges are what is left without the markers. -/
theorem filter_isMarker (slots : List SlotItem) :
    (slots.map SlotItem.text).filter (fun s => !isMarker s) = slots.filterMap SlotItem.ownedText := by
  induction slots with
  | nil => rfl
  | cons item rest ih =>
    rw [map_cons, filter_cons, SlotItem.isMarker_text, ih]
    cases item with
    | owned | migrating | importing => rfl

end Texts

namespace NodeRecord

variable (r : NodeRecord)

/-- The address has no separators. -/
theorem plain_addr : Spaceless r.addr.toList ∧ ',' ∉ r.addr.toList ∧ '@' ∉ r.addr.toList := by
  obtain ⟨hspaceless, hcomma, hat⟩ := r.plain_ip
  unfold addr
  simp only [String.toList_append, spaceless_append, mem_append, not_or]
  exact ⟨⟨⟨hspaceless, by decide⟩, spaceless_toString r.port⟩,
    ⟨⟨hcomma, by decide⟩, notMem_toString (by decide) _⟩,
    ⟨hat, by decide⟩, notMem_toString (by decide) _⟩

/-- The bus port is cut off. -/
theorem stripCport_addr (cport : Option ℕ) :
    ',' ∉ (r.addr ++ cport.elim "" fun n => "@" ++ toString n).toList ∧
      stripCport (r.addr ++ cport.elim "" fun n => "@" ++ toString n) = r.addr := by
  obtain ⟨-, hcomma, hat⟩ := r.plain_addr
  have hkeep : ∀ c ∈ r.addr.toList, decide (c ≠ '@') = true :=
    fun c hc => decide_eq_true fun heq => hat (heq ▸ hc)
  cases cport with
  | none =>
    simp only [Option.elim_none, String.append_empty]
    refine ⟨hcomma, ?_⟩
    rw [stripCport, takeWhile_eq_self_iff.mpr hkeep, String.ofList_toList]
  | some n =>
    simp only [Option.elim_some, String.toList_append, mem_append, not_or]
    refine ⟨⟨hcomma, by decide, notMem_toString (by decide) n⟩, ?_⟩
    have hcut : (r.addr.toList ++ ("@".toList ++ (toString n).toList)).takeWhile (· ≠ '@') = r.addr.toList := by
      rw [takeWhile_append_of_pos hkeep]
      exact append_nil _
    rw [stripCport, String.toList_append, String.toList_append, hcut, String.ofList_toList]

/-- Address and host name are read back. -/
theorem read_address :
    stripCport ((splitText ',' r.address).headD "") = r.addr ∧
      (splitText ',' r.address).getD 1 "" = r.hostname.getD "" := by
  obtain ⟨hcomma, hstrip⟩ := r.stripCport_addr r.cport
  rw [address]
  cases hhost : r.hostname with
  | none =>
    simp only [Option.elim_none, String.append_empty]
    rw [splitText_singleton hcomma]
    exact ⟨hstrip, rfl⟩
  | some host =>
    have hcut := splitText_singleton (r.plain_hostname host hhost).2
    have hparts := @splitText_append ',' _ host hcomma
    rw [hcut, String.append_assoc] at hparts
    simp only [Option.elim_some]
    rw [show "," ++ host = String.singleton ',' ++ host from rfl, hparts]
    exact ⟨hstrip, rfl⟩

/-- The address is a word. -/
theorem isField_address : IsField r.address := by
  have hcport : Spaceless (r.cport.elim "" fun cport => "@" ++ toString cport).toList := by
    cases r.cport with
    | none => decide
    | some n =>
      rw [Option.elim_some, String.toList_append, spaceless_append]
      exact ⟨by decide, spaceless_toString n⟩
  have hhost : Spaceless (r.hostname.elim "" fun host => "," ++ host).toList := by
    cases hhost : r.hostname with
    | none => decide
    | some host =>
      rw [Option.elim_some, String.toList_append, spaceless_append]
      exact ⟨by decide, (r.plain_hostname host hhost).1⟩
  unfold IsField address
  simp only [String.toList_append, spaceless_append]
  exact ⟨by simp [addr], ⟨r.plain_addr.1, hcport⟩, hhost⟩

theorem isField_flags : IsField (",".intercalate r.flags) := by
  unfold IsField
  rw [String.toList_intercalate]
  constructor
  · obtain ⟨hnone, hempty⟩ := r.some_flags
    cases hflags : r.flags with
    | nil => exact absurd hflags hnone
    | cons flag rest =>
      cases rest with
      | nil =>
        rw [hflags] at hempty
        simpa using hempty
      | cons next others => simp [intercalate_cons_cons]
  · intro c hc
    rcases mem_intercalate hc with hcomma | ⟨part, hpart, hmem⟩
    · rw [mem_singleton.mp hcomma]
      decide
    · obtain ⟨flag, hflag, rfl⟩ := mem_map.mp hpart
      exact (r.plain_flags flag hflag).1 c hmem

theorem isField_texts : ∀ text ∈ r.texts, IsField text := by
  have hslots : ∀ text ∈ r.slots.map SlotItem.text, IsField text := by
    intro text htext
    obtain ⟨item, hitem, rfl⟩ := mem_map.mp htext
    exact SlotItem.isField_text (r.written_slots item hitem)
  simp only [texts, cons_append, nil_append, forall_mem_cons]
  exact ⟨r.field_nodeID, r.isField_address, r.isField_flags, r.field_masterID, spaceless_toString_int _,
    spaceless_toString_int _, spaceless_toString_int _, r.field_linkState, hslots⟩

theorem words_line : words r.line.toList = r.texts.map String.toList := by
  rw [line, String.toList_intercalate]
  refine words_intercalate fun w hw => ?_
  obtain ⟨text, htext, rfl⟩ := mem_map.mp hw
  exact r.isField_texts text htext

/-- A line has no newline. -/
theorem newline_notMem_line : '\n' ∉ r.line.toList := by
  intro hmem
  rw [line, String.toList_intercalate] at hmem
  rcases mem_intercalate hmem with hblank | ⟨part, hpart, hc⟩
  · exact absurd hblank (by decide)
  · obtain ⟨text, htext, rfl⟩ := mem_map.mp hpart
    exact absurd ((r.isField_texts text htext).2 '\n' hc) (by decide)

/-- The fields are read back. -/
theorem parseNodeFields_texts : parseNodeFields r.texts = some r.readEntry := by
  obtain ⟨haddr, hhost⟩ := r.read_address
  have hflags : splitText ',' (",".intercalate r.flags) = r.flags :=
    splitText_intercalate r.some_flags.1 fun flag hflag => (r.plain_flags flag hflag).2
  simp only [texts, cons_append, nil_append, parseNodeFields, haddr, hhost, hflags,
    parseInt64_toString, filter_isMarker, readEntry, entry]

end NodeRecord

section RoundTrip

variable (lineEnd : LineEnd) (closed : Bool) (records : List NodeRecord)

/-- The text is read as its lines. -/
theorem lineWords_renderNodes :
    lineWords (renderNodes lineEnd closed records).toList = records.map fun r => r.texts.map String.toList := by
  have hspaces : ∀ c ∈ lineEnd.spaces, isSpace c = true := by
    rw [← all_eq_true]
    cases lineEnd with
    | lf | crlf => rfl
  have hend : ∀ c ∈ (if closed then lineEnd.text else "").toList, isSpace c = true := by
    rw [← all_eq_true]
    cases lineEnd with
    | lf | crlf => cases closed <;> rfl
  -- A line has no line break and at least its eight words, so no line is lost or cut.
  have hlines : ∀ line ∈ (records.map NodeRecord.line).map String.toList, '\n' ∉ line ∧ words line ≠ [] := by
    intro line hline
    rw [map_map] at hline
    obtain ⟨r, -, rfl⟩ := mem_map.mp hline
    refine ⟨r.newline_notMem_line, ?_⟩
    rw [comp_apply, r.words_line]
    exact cons_ne_nil _ _
  have htext : lineEnd.text.toList = lineEnd.spaces ++ ['\n'] := String.toList_ofList
  rw [renderNodes, String.toList_append, lineWords_append_spaces hend, String.toList_intercalate, htext,
    lineWords_intercalate hspaces hlines, map_map, map_map]
  exact map_congr_left fun r _ => r.words_line

/-- The nodes are read back. -/
theorem parseClusterNodes_renderNodes :
    parseClusterNodes (renderNodes lineEnd closed records) = records.map NodeRecord.readEntry := by
  have hread : ((fun ws => parseNodeFields (ws.map String.ofList)) ∘ fun r : NodeRecord =>
      r.texts.map String.toList) = some ∘ NodeRecord.readEntry := by
    funext r
    have htexts : (r.texts.map String.toList).map String.ofList = r.texts := by
      rw [map_map]
      simp [comp_def]
    rw [comp_apply, htexts, r.parseNodeFields_texts, comp_apply]
  rw [parseClusterNodes_eq, lineWords_renderNodes, filterMap_map, hread, filterMap_eq_map]

/-- For 64-bit numbers a written list of nodes reads back, in order and without the markers, whatever
line ends are used. -/
theorem parseClusterNodes_inverts_rendering (lineEnd : LineEnd) (closed : Bool) (records : List NodeRecord)
    (hfits : ∀ r ∈ records, r.FitsInt64) :
    parseClusterNodes (renderNodes lineEnd closed records) = records.map NodeRecord.entry := by
  rw [parseClusterNodes_renderNodes]
  refine map_congr_left fun r hr => ?_
  obtain ⟨hping, hpong, hepoch⟩ := hfits r hr
  rw [NodeRecord.readEntry, clamp64_of_fits hping.1 hping.2, clamp64_of_fits hpong.1 hpong.2,
    clamp64_of_fits hepoch.1 hepoch.2]
  rfl

def busyMaster : NodeRecord where
  nodeID := "07c37df"
  ip := "10.0.0.1"
  port := 6379
  cport := some 16379
  hostname := some "lr-shard-0-0"
  flags := ["myself", "master"]
  masterID := "-"
  pingSent := 0
  pongRecv := 1426238317239
  configEpoch := 4
  linkState := "connected"
  slots := [.owned ⟨0, 5460⟩, .migrating 93 "292f8b3", .owned ⟨7000, 7000⟩, .importing 77 "e7d1eec"]
  field_nodeID := by decide
  field_masterID := by decide
  field_linkState := by decide
  plain_ip := by decide
  plain_hostname := by decide
  plain_flags := by decide
  some_flags := by decide
  written_slots := by decide

def lateMaster : NodeRecord := { busyMaster with configEpoch := 2 ^ 63 }

/-- The master is read back, and its slots on the move are no slots. -/
theorem busyMaster_read :
    parseClusterNodes (renderNodes .crlf true [busyMaster]) = [busyMaster.entry] ∧
      busyMaster.entry.slots = ["0-5460", "7000"] := by
  refine ⟨parseClusterNodes_inverts_rendering .crlf true [busyMaster] ?_, by decide⟩
  intro r hr
  rw [mem_singleton.mp hr]
  exact ⟨by decide, by decide, by decide⟩

/-- An epoch beyond 64 bits is not read back. -/
theorem lateMaster_misread :
    parseClusterNodes (renderNodes .lf false [lateMaster]) ≠ [lateMaster.entry] ∧
      (parseClusterNodes (renderNodes .lf false [lateMaster])).map (·.configEpoch) = [2 ^ 63 - 1] := by
  rw [parseClusterNodes_renderNodes]
  decide

end RoundTrip

end LittleRed.Cluster
