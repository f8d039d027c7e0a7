import LittleRed.Lib.GoMap
import LittleRed.Lib.Words
import Mathlib.Data.List.Sort
import Mathlib.Data.Set.Basic
import Mathlib.Data.String.Basic
import Mathlib.Order.Defs.LinearOrder

/-!
# The namespaces that an operator watches

Two environment variables name the namespaces that an operator watches, or those that it ignores, in any
order, with blanks and more than once. What is read from them is a mode and a set of namespaces; the text
that names the lease depends on nothing else. The cache holds the objects of exactly these namespaces.
-/

namespace LittleRed.Watch

open Lib List

/-- All namespaces are watched, only the listed ones, or all but the listed ones. -/
inductive Mode where
  | none
  | allow
  | deny
  deriving DecidableEq

def Mode.text : Mode → String
  | .none => "none"
  | .allow => "allow"
  | .deny => "deny"

structure Config where
  mode : Mode
  namespaces : List String
  leaderElectionID : String

/-- Add a part of a list to the namespaces collected so far, unless it is blank or among them. -/
def collect (out : List String) (part : String) : List String :=
  if trimSpace part = "" ∨ trimSpace part ∈ out then out else out ++ [trimSpace part]

/-- The namespaces of a list between commas, trimmed, without empty ones and repetitions, in order. -/
def splitNamespaces (raw : String) : List String :=
  ((splitText ',' raw).foldl collect []).insertionSort (· ≤ ·)

/-- The lease of an operator that watches all namespaces. -/
def baseLeaderElectionID : String := "64adfe7c.chuck-chuck-chuck.net"

/-- How much of the digest is in the name of the lease. -/
def leaseSuffixLen : ℕ := 8

/-- The text whose hash becomes part of the name of the lease. -/
def leaseHashInput (mode : Mode) (namespaces : List String) : String :=
  mode.text ++ "\x00" ++ ",".intercalate namespaces

def errBothSet : String :=
  "WATCH_NAMESPACE (allow-list) and IGNORE_NAMESPACE (deny-list) are mutually exclusive; set at most one"

section Parse

variable (hexDigest : String → String)

/-- The lease of an operator with a scope; the digest of a text in hexadecimal is given. -/
def deriveLeaseID (mode : Mode) (namespaces : List String) : String :=
  let suffix := String.ofList ((hexDigest (leaseHashInput mode namespaces)).toList.take leaseSuffixLen)
  baseLeaderElectionID ++ "-" ++ mode.text ++ "-" ++ suffix

/-- Read the two variables. -/
def parse (watchNamespace ignoreNamespace : String) : Except String Config :=
  let watch := splitNamespaces watchNamespace
  let ignore := splitNamespaces ignoreNamespace
  if 0 < watch.length ∧ 0 < ignore.length then .error errBothSet
  else if 0 < watch.length then .ok ⟨.allow, watch, deriveLeaseID hexDigest .allow watch⟩
  else if 0 < ignore.length then .ok ⟨.deny, ignore, deriveLeaseID hexDigest .deny ignore⟩
  else .ok ⟨.none, [], baseLeaderElectionID⟩

end Parse

/-- A field of an object that must not have a value. -/
structure NotEqual where
  field : String
  value : String

/-- The cache holds objects of the given namespaces, if any, whose fields meet all conditions. -/
structure CacheOptions where
  defaultNamespaces : Option (GoMap String Unit) := none
  defaultFieldSelector : List NotEqual := []

def namespaceFieldSelector : String := "metadata.namespace"

/-- What the cache is asked to hold. -/
def Config.cacheOptions (c : Config) : CacheOptions :=
  match c.mode with
  | .allow => { defaultNamespaces := some (GoMap.ofPairs (c.namespaces.map fun ns => (ns, ()))) }
  | .deny => { defaultFieldSelector := c.namespaces.map fun ns => ⟨namespaceFieldSelector, ns⟩ }
  | .none => {}

/-- The cache holds the objects of a namespace. -/
def CacheOptions.admits (options : CacheOptions) (ns : String) : Bool :=
  let get (field : String) : String := if field = namespaceFieldSelector then ns else ""
  (options.defaultNamespaces.all fun listed => decide (ns ∈ listed)) &&
    options.defaultFieldSelector.all fun term => get term.field != term.value

/-- The text that the name of the lease is derived from. -/
def Config.hashed (c : Config) : Option String :=
  if c.mode = .none then none else some (leaseHashInput c.mode c.namespaces)

/-- The namespaces that a list names. -/
def entries (raw : String) : Set String := {ns | ns ≠ "" ∧ ∃ part ∈ splitText ',' raw, trimSpace part = ns}

/-- What the two variables stand for. If both name namespaces, they stand for nothing. -/
def Denotes (watch ignore : String) : Mode → Set String → Prop
  | .none, scope => entries watch = ∅ ∧ entries ignore = ∅ ∧ scope = ∅
  | .allow, scope => (entries watch).Nonempty ∧ entries ignore = ∅ ∧ scope = entries watch
  | .deny, scope => entries watch = ∅ ∧ (entries ignore).Nonempty ∧ scope = entries ignore

/-- The mode and the set ask for the namespace. -/
def Watches : Mode → Set String → String → Prop
  | .none, _, _ => True
  | .allow, scope, ns => ns ∈ scope
  | .deny, scope, ns => ns ∉ scope

/-- The namespaces of a set in order, each once, without commas. -/
structure Lists (names : List String) (scope : Set String) : Prop where
  sorted : names.Pairwise (· ≤ ·)
  nodup : names.Nodup
  mem_iff : ∀ ns, ns ∈ names ↔ ns ∈ scope
  plain : ∀ ns ∈ names, ',' ∉ ns.toList

/-- A configuration keeps a mode and a set, and its lease is named by the hash of a text. -/
structure Keeps (hexDigest : String → String) (c : Config) (mode : Mode) (scope : Set String) : Prop where
  mode_eq : c.mode = mode
  lists : Lists c.namespaces scope
  lease : c.leaderElectionID = c.hashed.elim baseLeaderElectionID fun text =>
    baseLeaderElectionID ++ "-" ++ mode.text ++ "-" ++
      String.ofList ((hexDigest text).toList.take leaseSuffixLen)

section Split

variable {raw : String} {names names' : List String} {scope scope' : Set String}

/-- A set has one list. -/
theorem Lists.unique (h : Lists names scope) (h' : Lists names' scope) : names = names' := by
  refine List.Perm.eq_of_pairwise (fun _ _ _ _ => le_antisymm) h.sorted h'.sorted ?_
  refine (perm_ext_iff_of_nodup h.nodup h'.nodup).mpr fun ns => ?_
  rw [h.mem_iff, h'.mem_iff]

theorem Lists.scope_eq (h : Lists names scope) (h' : Lists names scope') : scope = scope' := by
  ext ns
  rw [← h.mem_iff, h'.mem_iff]

theorem Lists.ne_nil (h : Lists names scope) (hscope : scope.Nonempty) : names ≠ [] := by
  obtain ⟨ns, hns⟩ := hscope
  exact ne_nil_of_mem ((h.mem_iff ns).mpr hns)

theorem lists_nil : Lists [] ∅ where
  sorted := .nil
  nodup := .nil
  mem_iff _ := by simp
  plain _ hns := absurd hns not_mem_nil

/-- An entry is collected once. -/
theorem nodup_collect {out : List String} (hout : out.Nodup) (part : String) : (collect out part).Nodup := by
  unfold collect
  split_ifs with hskip
  · exact hout
  · rw [not_or] at hskip
    exact hout.append (nodup_singleton _) (disjoint_singleton.mpr hskip.2)

/-- What is collected is a trimmed entry. -/
theorem mem_collect {out : List String} {part ns : String} :
    ns ∈ collect out part ↔ ns ∈ out ∨ ns ≠ "" ∧ trimSpace part = ns := by
  unfold collect
  split_ifs with hskip
  · refine ⟨.inl, fun h => h.elim id ?_⟩
    rintro ⟨hne, rfl⟩
    exact hskip.resolve_left hne
  · rw [not_or] at hskip
    rw [mem_append, mem_singleton]
    refine or_congr_right ⟨?_, fun h => h.2.symm⟩
    rintro rfl
    exact ⟨hskip.1, rfl⟩

/-- All entries are collected, each once. -/
theorem foldl_collect_spec (parts out : List String) (hout : out.Nodup) :
    (parts.foldl collect out).Nodup ∧
      ∀ ns, ns ∈ parts.foldl collect out ↔ ns ∈ out ∨ ns ≠ "" ∧ ∃ part ∈ parts, trimSpace part = ns := by
  induction parts generalizing out with
  | nil => simp [hout]
  | cons part rest ih =>
    obtain ⟨hnodup, hmem⟩ := ih _ (nodup_collect hout part)
    rw [foldl_cons]
    refine ⟨hnodup, fun ns => ?_⟩
    rw [hmem, mem_collect, or_assoc, ← and_or_left, exists_mem_cons_iff]

/-- A variable is read as the list of its entries. -/
theorem lists_splitNamespaces (raw : String) : Lists (splitNamespaces raw) (entries raw) := by
  obtain ⟨hnodup, hmem⟩ := foldl_collect_spec (splitText ',' raw) [] nodup_nil
  have hiff : ∀ ns, ns ∈ splitNamespaces raw ↔ ns ∈ entries raw := by
    intro ns
    rw [splitNamespaces, mem_insertionSort]
    exact (hmem ns).trans (or_iff_right not_mem_nil)
  refine ⟨pairwise_insertionSort _ _, (perm_insertionSort _ _).nodup_iff.mpr hnodup, hiff, ?_⟩
  intro ns hns hcomma
  obtain ⟨-, part, hpart, rfl⟩ := (hiff ns).mp hns
  exact notMem_of_mem_splitText hpart (mem_trimSpace hcomma)

example : splitNamespaces " team-b,team-a ,, team-b" = ["team-a", "team-b"] := by decide

theorem splitNamespaces_length_pos : 0 < (splitNamespaces raw).length ↔ (entries raw).Nonempty := by
  rw [length_pos_iff_exists_mem]
  exact exists_congr (lists_splitNamespaces raw).mem_iff

theorem splitNamespaces_not_pos (h : entries raw = ∅) : ¬ 0 < (splitNamespaces raw).length := by
  rw [splitNamespaces_length_pos, h]
  exact Set.not_nonempty_empty

end Split

section Lease

variable {names names' : List String} {mode mode' : Mode}

/-- The hashed text tells mode and namespaces. -/
theorem leaseHashInput_inj (hmode : mode ≠ .none) (hmode' : mode' ≠ .none) (hne : names ≠ [])
    (hne' : names' ≠ []) (hplain : ∀ ns ∈ names, ',' ∉ ns.toList) (hplain' : ∀ ns ∈ names', ',' ∉ ns.toList)
    (h : leaseHashInput mode names = leaseHashInput mode' names') : mode = mode' ∧ names = names' := by
  have hchars := congrArg String.toList h
  simp only [leaseHashInput, String.toList_append] at hchars
  -- The modes that are hashed differ in their first letters.
  have hsame : mode = mode' := by
    have hinitials := congrArg List.head? hchars
    cases mode with
    | none => exact absurd rfl hmode
    | allow =>
      cases mode' with
      | none => exact absurd rfl hmode'
      | allow => rfl
      | deny => exact absurd (show some 'a' = some 'd' from hinitials) (by decide)
    | deny =>
      cases mode' with
      | none => exact absurd rfl hmode'
      | allow => exact absurd (show some 'd' = some 'a' from hinitials) (by decide)
      | deny => rfl
  subst hsame
  have hjoined : ",".intercalate names = ",".intercalate names' :=
    String.toList_injective (append_cancel_left hchars)
  refine ⟨rfl, ?_⟩
  calc names = splitText ',' (",".intercalate names) := (splitText_intercalate hne hplain).symm
    _ = splitText ',' (",".intercalate names') := by rw [hjoined]
    _ = names' := splitText_intercalate hne' hplain'

end Lease

section Parse

variable (hexDigest : String → String) {watch ignore : String} {mode : Mode} {scope : Set String}

/-- Variables that stand for a mode and a set are read as such. -/
theorem parse_of_denotes (h : Denotes watch ignore mode scope) :
    ∃ c, parse hexDigest watch ignore = .ok c ∧ Keeps hexDigest c mode scope := by
  cases mode with
  | none =>
    obtain ⟨hwatch, hignore, rfl⟩ := h
    have hnone := splitNamespaces_not_pos hwatch
    refine ⟨⟨.none, [], baseLeaderElectionID⟩, ?_, ⟨rfl, lists_nil, rfl⟩⟩
    rw [parse, if_neg fun hboth => hnone hboth.1, if_neg hnone, if_neg (splitNamespaces_not_pos hignore)]
  | allow =>
    obtain ⟨hwatch, hignore, rfl⟩ := h
    have hnone := splitNamespaces_not_pos hignore
    refine ⟨⟨.allow, splitNamespaces watch, deriveLeaseID hexDigest .allow (splitNamespaces watch)⟩, ?_,
      ⟨rfl, lists_splitNamespaces watch, rfl⟩⟩
    rw [parse, if_neg fun hboth => hnone hboth.2, if_pos (splitNamespaces_length_pos.mpr hwatch)]
  | deny =>
    obtain ⟨hwatch, hignore, rfl⟩ := h
    have hnone := splitNamespaces_not_pos hwatch
    refine ⟨⟨.deny, splitNamespaces ignore, deriveLeaseID hexDigest .deny (splitNamespaces ignore)⟩, ?_,
      ⟨rfl, lists_splitNamespaces ignore, rfl⟩⟩
    rw [parse, if_neg fun hboth => hnone hboth.1, if_neg hnone, if_pos (splitNamespaces_length_pos.mpr hignore)]

theorem parse_of_both (hwatch : (entries watch).Nonempty) (hignore : (entries ignore).Nonempty) :
    parse hexDigest watch ignore = .error errBothSet :=
  if_pos ⟨splitNamespaces_length_pos.mpr hwatch, splitNamespaces_length_pos.mpr hignore⟩

/-- Without that they stand for a mode and a set. -/
theorem exists_denotes (h : ¬ ((entries watch).Nonempty ∧ (entries ignore).Nonempty)) :
    ∃ mode scope, Denotes watch ignore mode scope := by
  by_cases hwatch : (entries watch).Nonempty
  · have hignore : entries ignore = ∅ := Set.not_nonempty_iff_eq_empty.mp fun hignore => h ⟨hwatch, hignore⟩
    exact ⟨.allow, entries watch, hwatch, hignore, rfl⟩
  · rw [Set.not_nonempty_iff_eq_empty] at hwatch
    by_cases hignore : (entries ignore).Nonempty
    · exact ⟨.deny, entries ignore, hwatch, hignore, rfl⟩
    · exact ⟨.none, ∅, hwatch, Set.not_nonempty_iff_eq_empty.mp hignore, rfl⟩

theorem Denotes.nonempty (h : Denotes watch ignore mode scope) (hmode : mode ≠ .none) : scope.Nonempty := by
  cases mode with
  | none => exact absurd rfl hmode
  | allow => exact h.2.2 ▸ h.1
  | deny => exact h.2.2 ▸ h.2.1

end Parse

section Keeps

variable {hexDigest : String → String} {c c' : Config} {mode mode' : Mode} {scope scope' : Set String}
  {watch watch' ignore ignore' : String}

/-- A mode and a set have one configuration. -/
theorem Keeps.unique (h : Keeps hexDigest c mode scope) (h' : Keeps hexDigest c' mode scope) : c = c' := by
  have hmode : c.mode = c'.mode := h.mode_eq.trans h'.mode_eq.symm
  have hnames : c.namespaces = c'.namespaces := h.lists.unique h'.lists
  have hhashed : c.hashed = c'.hashed := by rw [Config.hashed, Config.hashed, hmode, hnames]
  have hlease : c.leaderElectionID = c'.leaderElectionID := by rw [h.lease, h'.lease, hhashed]
  cases c
  cases c'
  exact Config.mk.injEq .. ▸ ⟨hmode, hnames, hlease⟩

/-- The hashed text tells what the variables stand for. -/
theorem Keeps.denoted_eq (h : Keeps hexDigest c mode scope) (h' : Keeps hexDigest c' mode' scope')
    (hdenotes : Denotes watch ignore mode scope) (hdenotes' : Denotes watch' ignore' mode' scope')
    (hhashed : c.hashed = c'.hashed) : mode = mode' ∧ scope = scope' := by
  rw [Config.hashed, Config.hashed, h.mode_eq, h'.mode_eq] at hhashed
  by_cases hmode : mode = .none
  · by_cases hmode' : mode' = .none
    · subst hmode hmode'
      exact ⟨rfl, hdenotes.2.2.trans hdenotes'.2.2.symm⟩
    · rw [if_pos hmode, if_neg hmode'] at hhashed
      cases hhashed
  · by_cases hmode' : mode' = .none
    · rw [if_neg hmode, if_pos hmode'] at hhashed
      cases hhashed
    · rw [if_neg hmode, if_neg hmode', Option.some_inj] at hhashed
      obtain ⟨hsame, hnames⟩ := leaseHashInput_inj hmode hmode' (h.lists.ne_nil (hdenotes.nonempty hmode))
        (h'.lists.ne_nil (hdenotes'.nonempty hmode')) h.lists.plain h'.lists.plain hhashed
      exact ⟨hsame, h.lists.scope_eq (hnames ▸ h'.lists)⟩

end Keeps

section Cache

/-- The cache holds the objects of the namespaces asked for. -/
theorem admits_cacheOptions {c : Config} {scope : Set String} (h : Lists c.namespaces scope) (ns : String) :
    c.cacheOptions.admits ns = true ↔ Watches c.mode scope ns := by
  cases hmode : c.mode with
  | none => simp [Config.cacheOptions, CacheOptions.admits, Watches, hmode]
  | allow =>
    have hlisted : ns ∈ GoMap.ofPairs (c.namespaces.map fun ns => (ns, ())) ↔ ns ∈ c.namespaces := by
      rw [GoMap.mem_ofPairs]
      simp
    simp [Config.cacheOptions, CacheOptions.admits, Watches, hmode, hlisted, h.mem_iff]
  | deny =>
    have hconditions : (∀ other ∈ c.namespaces, ns ≠ other) ↔ ns ∉ c.namespaces :=
      ⟨fun hall hmem => hall ns hmem rfl, fun hnot other hother heq => hnot (heq ▸ hother)⟩
    rw [h.mem_iff] at hconditions
    simpa [Config.cacheOptions, CacheOptions.admits, Watches, hmode, namespaceFieldSelector] using hconditions

end Cache

/-- Reading fails exactly if both variables have entries. Else the cache holds exactly the namespaces of
the mode and set they stand for, which alone decide the configuration and are told by the hashed text. -/
theorem parse_canonical (hexDigest : String → String) (watch ignore : String) :
    ((∃ e, parse hexDigest watch ignore = .error e) ↔ (entries watch).Nonempty ∧ (entries ignore).Nonempty) ∧
    ((∃ c, parse hexDigest watch ignore = .ok c) ↔ ∃ mode scope, Denotes watch ignore mode scope) ∧
    ∀ mode scope c, Denotes watch ignore mode scope → parse hexDigest watch ignore = .ok c →
      (∀ ns, c.cacheOptions.admits ns = true ↔ Watches mode scope ns) ∧
      (c.leaderElectionID = c.hashed.elim baseLeaderElectionID fun text =>
        baseLeaderElectionID ++ "-" ++ mode.text ++ "-" ++
          String.ofList ((hexDigest text).toList.take leaseSuffixLen)) ∧
      ∀ watch' ignore' mode' scope' c', Denotes watch' ignore' mode' scope' →
        parse hexDigest watch' ignore' = .ok c' → (mode = mode' ∧ scope = scope' → c = c') ∧
        (¬ (mode = mode' ∧ scope = scope') → c.hashed ≠ c'.hashed) := by
  have hkept : ∀ {w i mode scope c}, Denotes w i mode scope → parse hexDigest w i = .ok c →
      Keeps hexDigest c mode scope := by
    intro w i mode scope c hdenotes hparse
    obtain ⟨d, hd, hkeeps⟩ := parse_of_denotes hexDigest hdenotes
    rw [hparse, Except.ok.injEq] at hd
    exact hd ▸ hkeeps
  -- The variables both have entries, or they stand for a mode and a set.
  have hsplit : (entries watch).Nonempty ∧ (entries ignore).Nonempty ∨
      ∃ mode scope, Denotes watch ignore mode scope :=
    or_iff_not_imp_left.mpr exists_denotes
  refine ⟨⟨?_, ?_⟩, ⟨?_, ?_⟩, ?_⟩
  · rintro ⟨e, he⟩
    refine hsplit.resolve_right ?_
    rintro ⟨mode, scope, hdenotes⟩
    obtain ⟨c, hc, -⟩ := parse_of_denotes hexDigest hdenotes
    exact nomatch he.symm.trans hc
  · exact fun hboth => ⟨_, parse_of_both hexDigest hboth.1 hboth.2⟩
  · rintro ⟨c, hc⟩
    refine hsplit.resolve_left fun hboth => ?_
    exact nomatch hc.symm.trans (parse_of_both hexDigest hboth.1 hboth.2)
  · rintro ⟨mode, scope, hdenotes⟩
    obtain ⟨c, hc, -⟩ := parse_of_denotes hexDigest hdenotes
    exact ⟨c, hc⟩
  · intro mode scope c hdenotes hparse
    have hkeeps := hkept hdenotes hparse
    refine ⟨fun ns => ?_, hkeeps.lease, ?_⟩
    · rw [admits_cacheOptions hkeeps.lists, hkeeps.mode_eq]
    · intro watch' ignore' mode' scope' c' hdenotes' hparse'
      have hkeeps' := hkept hdenotes' hparse'
      refine ⟨?_, fun hdiffer hhashed => hdiffer (hkeeps.denoted_eq hkeeps' hdenotes hdenotes' hhashed)⟩
      rintro ⟨rfl, rfl⟩
      exact hkeeps.unique hkeeps'

/-- Of two operators, one to watch a list and one to ignore it, exactly one watches each namespace, and
they never compete for a lease. -/
theorem complementary_scopes (hexDigest : String → String) {raw : String} (h : (entries raw).Nonempty) :
    ∃ watching ignoring, parse hexDigest raw "" = .ok watching ∧ parse hexDigest "" raw = .ok ignoring ∧
      (∀ ns, watching.cacheOptions.admits ns = !ignoring.cacheOptions.admits ns) ∧
      watching.leaderElectionID ≠ ignoring.leaderElectionID := by
  have hempty : entries "" = ∅ := by
    ext ns
    simp [entries, splitText, trimSpace, eq_comm]
  obtain ⟨watching, hwatching, hallow⟩ := @parse_of_denotes hexDigest raw "" .allow _ ⟨h, hempty, rfl⟩
  obtain ⟨ignoring, hignoring, hdeny⟩ := @parse_of_denotes hexDigest "" raw .deny _ ⟨hempty, h, rfl⟩
  refine ⟨watching, ignoring, hwatching, hignoring, fun ns => ?_, fun hlease => ?_⟩
  · rw [Bool.eq_iff_iff, admits_cacheOptions hallow.lists, Bool.not_eq_true', ← Bool.not_eq_true,
      admits_cacheOptions hdeny.lists, hallow.mode_eq, hdeny.mode_eq]
    exact not_not.symm
  · -- The mode stands in the name of the lease.
    rw [hallow.lease, hdeny.lease, Config.hashed, Config.hashed, hallow.mode_eq, hdeny.mode_eq] at hlease
    have hchars := congrArg String.toList hlease
    simp [Mode.text] at hchars

/-- The lists may have blanks and repetitions. -/
theorem sharedList_complementary :
    (entries "a, b,,a").Nonempty ∧
      ∃ watching ignoring, parse id "a, b,,a" "" = .ok watching ∧ parse id "" "a, b,,a" = .ok ignoring ∧
        (∀ ns, watching.cacheOptions.admits ns = !ignoring.cacheOptions.admits ns) ∧
        watching.leaderElectionID ≠ ignoring.leaderElectionID :=
  have h : (entries "a, b,,a").Nonempty := ⟨"a", by decide, "a", by decide, by decide⟩
  ⟨h, complementary_scopes id h⟩

end LittleRed.Watch
