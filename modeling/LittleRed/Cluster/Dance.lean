import LittleRed.Cluster.SlotRange
import LittleRed.Lib.GoMap
import LittleRed.Lib.TransitionSystem
import Mathlib.Data.Finset.Card
import Mathlib.Data.List.Sort

/-!
# The dance that moves a range of slots

Each pass marks the slots on both sides, counts the keys that the source still has, and either migrates some
of them or, when there are none left, tells every master who owns the slots now. Every call may fail, and
clients write and delete between any two calls. A marked slot takes no new key on the source, so once it was
counted empty it stays empty until its owner changes.
-/

namespace LittleRed.Cluster.Dance

open Lib List Function

/-- What one side of the move holds: its keys, the slots it claims, and the marks on slots. -/
structure Node (Key : Type*) where
  keys : Finset Key
  owns : ℤ → Bool
  migrating : ℤ → Bool
  importing : ℤ → Bool

/-- A move of a range between two addresses, with the bounds that the spec sets. -/
structure Move where
  range : SlotRange
  sourceAddr : String
  destAddr : String
  reshardKeyBatchSize : ℤ
  reshardMaxKeysPerReconcile : ℤ

namespace Move

/-- The slots of the range. -/
def slots (move : Move) : List ℤ :=
  (List.range (move.range.stop + 1 - move.range.start).toNat).map fun i : ℕ => move.range.start + i

/-- How many keys are migrated at once. -/
def batch (move : Move) : ℕ :=
  if move.reshardKeyBatchSize ≤ 0 then 128 else move.reshardKeyBatchSize.toNat

/-- The budget of a pass. -/
def maxKeys (move : Move) : ℕ :=
  if move.reshardMaxKeysPerReconcile ≤ 0 then 2000 else move.reshardMaxKeysPerReconcile.toNat

end Move

/-- Where a pass stands: the slots still to be sent and whether a command failed, or the addresses still
to be told. -/
inductive Phase (Key : Type*) where
  | idle
  | importing (todo : List ℤ) (failed : Bool)
  | migrating (todo : List ℤ) (failed : Bool)
  | counting (todo : List ℤ) (counts : List (ℤ × ℕ)) (failed : Bool)
  | flipping (addrs : List String) (todo : List ℤ) (failed : Bool)
  | draining (toDrain : List ℤ) (moved : ℕ)
  | batch (keys : List Key) (toDrain : List ℤ) (moved : ℕ)

/-- A command that assigns a slot to the destination, and the keys of the source at that moment. -/
structure Issue (Key : Type*) where
  addr : String
  slot : ℤ
  sourceKeys : Finset Key

/-- Both sides, the keys of clients, the addresses to tell, where the pass stands, and the assignments
sent. -/
structure State (Key : Type*) where
  source : Node Key
  dest : Node Key
  live : Finset Key
  masterAddrs : List String
  phase : Phase Key
  issued : List (Issue Key)

/-- The slots that still hold keys, in ascending order. -/
def slotsNeedingDrain (counts : GoMap ℤ ℕ) : List ℤ :=
  ((counts.entries.filter fun entry => 0 < entry.2).map fun entry => entry.1).insertionSort (· ≤ ·)

section Phases

variable {Key : Type*} (move : Move)

/-- Tell the remaining addresses. -/
def flip (addrs : List String) : Phase Key :=
  if addrs.isEmpty || move.slots.isEmpty then .idle else .flipping addrs move.slots false

/-- Go on telling the masters. -/
def flipNext (addrs : List String) (todo : List ℤ) (failed : Bool) : Phase Key :=
  if !todo.isEmpty then .flipping addrs todo failed else if failed then .idle else flip move addrs.tail

/-- Migrate keys as long as there are slots to drain and the pass may move more. -/
def drain (toDrain : List ℤ) (moved : ℕ) : Phase Key :=
  if toDrain.isEmpty || move.maxKeys ≤ moved then .idle else .draining toDrain moved

/-- Go on with the counts: flip when nothing is left on the source. -/
def countNext (masterAddrs : List String) (todo : List ℤ) (counts : List (ℤ × ℕ)) (failed : Bool) :
    Phase Key :=
  if !todo.isEmpty then .counting todo counts failed
  else if failed then .idle
  else
    let toDrain := slotsNeedingDrain (GoMap.ofPairs counts)
    if toDrain.isEmpty then flip move masterAddrs else drain move toDrain 0

/-- Go on with the marks on the source. -/
def migratingNext (masterAddrs : List String) (todo : List ℤ) (failed : Bool) : Phase Key :=
  if !todo.isEmpty then .migrating todo failed
  else if failed then .idle
  else countNext move masterAddrs move.slots [] false

/-- Go on with the marks on the destination. -/
def importingNext (masterAddrs : List String) (todo : List ℤ) (failed : Bool) : Phase Key :=
  if !todo.isEmpty then .importing todo failed
  else if failed then .idle
  else migratingNext move masterAddrs move.slots false

end Phases

section System

variable {Key : Type*} [DecidableEq Key] (slotOf : Key → ℤ) (move : Move)

def Node.inSlot (node : Node Key) (slot : ℤ) : Finset Key := node.keys.filter fun key => slotOf key = slot

/-- The source takes writes for slots it claims, while they migrate only for keys it has. -/
def takesWrite (node : Node Key) (key : Key) : Bool :=
  node.owns (slotOf key) && (decide (key ∈ node.keys) || !node.migrating (slotOf key))

/-- The destination takes writes for slots it claims, and redirected ones for slots it imports. -/
def takesAsked (node : Node Key) (key : Key) : Bool :=
  node.owns (slotOf key) || node.importing (slotOf key)

/-- A slot is assigned to the destination on a node that is told so. The marks on it go. -/
def Node.assign (node : Node Key) (slot : ℤ) (isOwner : Bool) : Node Key :=
  { node with
    owns := update node.owns slot isOwner
    migrating := update node.migrating slot false
    importing := update node.importing slot false }

/-- The calls of a pass with their outcomes, and what clients do; a failed migration may move some keys. -/
inductive Label (Key : Type*) where
  | start (masterAddrs : List String)
  | setImporting (ok : Bool)
  | setMigrating (ok : Bool)
  | countKeys (ok : Bool)
  | setNode (ok : Bool)
  | getKeys (keys : List Key) (ok : Bool)
  | migrate (transferred : Finset Key) (ok : Bool)
  | write (key : Key) (asked : Bool)
  | delete (key : Key) (atDest : Bool)

/-- One call, or what a client does. -/
def step (s : State Key) : Label Key → Option (State Key)
  | .start masterAddrs =>
    match s.phase with
    | .idle =>
      some { s with
        masterAddrs := masterAddrs
        phase := importingNext move masterAddrs move.slots false }
    | _ => none
  | .setImporting ok =>
    match s.phase with
    | .importing (slot :: rest) failed =>
      some { s with
        dest := if ok then { s.dest with importing := update s.dest.importing slot true } else s.dest
        phase := importingNext move s.masterAddrs rest (failed || !ok) }
    | _ => none
  | .setMigrating ok =>
    match s.phase with
    | .migrating (slot :: rest) failed =>
      some { s with
        source :=
          if ok then { s.source with migrating := update s.source.migrating slot true }
          else s.source
        phase := migratingNext move s.masterAddrs rest (failed || !ok) }
    | _ => none
  | .countKeys ok =>
    match s.phase with
    | .counting (slot :: rest) counts failed =>
      some { s with
        phase := countNext move s.masterAddrs rest
          (counts ++ [(slot, (s.source.inSlot slotOf slot).card)]) (failed || !ok) }
    | _ => none
  | .setNode ok =>
    match s.phase with
    | .flipping (addr :: addrs) (slot :: rest) failed =>
      some { s with
        source := if ok ∧ addr = move.sourceAddr then s.source.assign slot false else s.source
        dest := if ok ∧ addr = move.destAddr then s.dest.assign slot true else s.dest
        phase := flipNext move (addr :: addrs) rest (failed || !ok)
        issued := ⟨addr, slot, s.source.keys⟩ :: s.issued }
    | _ => none
  | .getKeys keys ok =>
    match s.phase with
    | .draining (slot :: rest) moved =>
      if !ok then some { s with phase := .idle }
      else if keys.Nodup ∧ (∀ key ∈ keys, key ∈ s.source.inSlot slotOf slot) ∧
          keys.length = min move.batch (s.source.inSlot slotOf slot).card then
        some { s with
          phase := if keys.isEmpty then drain move rest moved else .batch keys (slot :: rest) moved }
      else none
    | _ => none
  | .migrate transferred ok =>
    match s.phase with
    | .batch keys toDrain moved =>
      let gone := (if ok then keys.toFinset else keys.toFinset ∩ transferred) ∩ s.source.keys
      some { s with
        source := { s.source with keys := s.source.keys \ gone }
        dest := { s.dest with keys := s.dest.keys ∪ gone }
        phase := if ok then drain move toDrain (moved + keys.length) else .idle }
    | _ => none
  | .write key false =>
    if takesWrite slotOf s.source key then
      some { s with
        source := { s.source with keys := insert key s.source.keys }
        live := insert key s.live }
    else none
  | .write key true =>
    if takesAsked slotOf s.dest key then
      some { s with
        dest := { s.dest with keys := insert key s.dest.keys }
        live := insert key s.live }
    else none
  | .delete key false =>
    some { s with source := { s.source with keys := s.source.keys.erase key }, live := s.live.erase key }
  | .delete key true =>
    some { s with dest := { s.dest with keys := s.dest.keys.erase key }, live := s.live.erase key }

/-- Runs from any keys, claims and marks on both sides. -/
def danceSystem : System (State Key) (Label Key) where
  initial s := s.phase = .idle ∧ s.issued = [] ∧ s.live = s.source.keys ∪ s.dest.keys
  step := step slotOf move

end System

section Kept

variable {Key : Type*} {slotOf : Key → ℤ} {move : Move}

/-- A slot takes no new key on a node: the node does not claim it, or it is migrating. -/
def Closed (node : Node Key) (slot : ℤ) : Prop := node.owns slot = true → node.migrating slot = true

/-- A node has no key in a slot. -/
def Drained (slotOf : Key → ℤ) (node : Node Key) (slot : ℤ) : Prop := ∀ key ∈ node.keys, slotOf key ≠ slot

/-- What a pass knows about the source. -/
def Knows (slotOf : Key → ℤ) (move : Move) (source : Node Key) : Phase Key → Prop
  | .idle => True
  | .importing _ _ => True
  | .migrating todo failed => failed = false → ∀ slot ∈ move.slots, slot ∈ todo ∨ Closed source slot
  | .counting todo counts failed =>
    (∀ slot ∈ move.slots, Closed source slot) ∧ counts.map Prod.fst ++ todo = move.slots ∧
      (failed = false → ∀ count ∈ counts, count.2 = 0 → Drained slotOf source count.1)
  | .flipping _ _ _ => ∀ slot ∈ move.slots, Closed source slot ∧ Drained slotOf source slot
  | .draining _ _ => True
  | .batch _ _ _ => True

/-- A change of the source that opens no slot and brings no key into a closed one. -/
structure Quiet (slotOf : Key → ℤ) (source source' : Node Key) : Prop where
  closed : ∀ slot, Closed source slot → Closed source' slot
  drained : ∀ slot, Closed source slot → Drained slotOf source slot → Drained slotOf source' slot

variable {source : Node Key} {key : Key} {ok : Bool}

/-- A quiet step keeps it. -/
theorem Knows.of_quiet {source' : Node Key} {phase : Phase Key} (h : Knows slotOf move source phase)
    (hquiet : Quiet slotOf source source') : Knows slotOf move source' phase := by
  cases phase with
  | idle => trivial
  | importing todo failed => trivial
  | migrating todo failed => exact fun hok slot hslot => (h hok slot hslot).imp_right (hquiet.closed slot)
  | counting todo counts failed =>
    obtain ⟨hclosed, hslots, hcounts⟩ := h
    refine ⟨fun slot hslot => hquiet.closed slot (hclosed slot hslot), hslots,
      fun hok count hcount hzero => ?_⟩
    refine hquiet.drained _ (hclosed _ ?_) (hcounts hok count hcount hzero)
    rw [← hslots]
    exact mem_append_left _ (mem_map_of_mem hcount)
  | flipping addrs todo failed =>
    intro slot hslot
    obtain ⟨hclosed, hdrained⟩ := h slot hslot
    exact ⟨hquiet.closed slot hclosed, hquiet.drained slot hclosed hdrained⟩
  | draining toDrain moved => trivial
  | batch keys toDrain moved => trivial

theorem knows_flip (h : ∀ slot ∈ move.slots, Closed source slot ∧ Drained slotOf source slot)
    (addrs : List String) : Knows slotOf move source (flip move addrs) := by
  unfold flip
  split
  · trivial
  · exact h

theorem knows_flipNext (h : ∀ slot ∈ move.slots, Closed source slot ∧ Drained slotOf source slot)
    (addrs : List String) (todo : List ℤ)
    (failed : Bool) : Knows slotOf move source (flipNext move addrs todo failed) := by
  unfold flipNext
  split
  · exact h
  split
  · trivial
  · exact knows_flip h _

theorem knows_drain (slotOf : Key → ℤ) (source : Node Key) (toDrain : List ℤ) (moved : ℕ) :
    Knows slotOf move source (drain move toDrain moved) := by
  unfold drain
  split <;> trivial

variable {counts : List (ℤ × ℕ)} {todo : List ℤ} {failed : Bool}

/-- Nothing to drain means that all counts are zero. -/
theorem count_eq_zero (hnodup : (counts.map Prod.fst).Nodup)
    (hnone : slotsNeedingDrain (GoMap.ofPairs counts) = []) : ∀ count ∈ counts, count.2 = 0 := by
  rintro ⟨slot, n⟩ hmem
  by_contra hpos
  have hlookup := GoMap.lookup_insertAll_of_mem ∅ hnodup hmem
  have hentry : (⟨slot, n⟩ : Σ _ : ℤ, ℕ) ∈ (GoMap.ofPairs counts).entries := AList.mem_lookup_iff.mp hlookup
  have hslot : slot ∈ slotsNeedingDrain (GoMap.ofPairs counts) := by
    rw [slotsNeedingDrain, mem_insertionSort, mem_map]
    exact ⟨⟨slot, n⟩, mem_filter.mpr ⟨hentry, decide_eq_true (Nat.pos_of_ne_zero hpos)⟩, rfl⟩
  rw [hnone] at hslot
  cases hslot

theorem nodup_slots (move : Move) : move.slots.Nodup := by
  refine List.Nodup.map (fun i j hij => ?_) nodup_range
  omega

/-- Counting goes on. -/
theorem knows_countNext (masterAddrs : List String)
    (h : Knows slotOf move source (.counting todo counts failed)) :
    Knows slotOf move source (countNext move masterAddrs todo counts failed) := by
  unfold countNext
  split
  · exact h
  rename_i htodo
  rw [Bool.not_eq_true', Bool.not_eq_false, List.isEmpty_iff] at htodo
  subst htodo
  split
  · trivial
  rename_i hok
  dsimp only
  split
  · rename_i hnone
    obtain ⟨hclosed, hslots, hcounts⟩ := h
    rw [append_nil] at hslots
    refine knows_flip (fun slot hslot => ⟨hclosed slot hslot, ?_⟩) masterAddrs
    have hzero := count_eq_zero (by rw [hslots]; exact nodup_slots move) (isEmpty_iff.mp hnone)
    rw [← hslots] at hslot
    obtain ⟨count, hcount, rfl⟩ := mem_map.mp hslot
    exact hcounts (Bool.not_eq_true _ ▸ hok) count hcount (hzero count hcount)
  · exact knows_drain slotOf source _ 0

/-- Marking the source goes on. -/
theorem knows_migratingNext (masterAddrs : List String)
    (h : Knows slotOf move source (.migrating todo failed)) :
    Knows slotOf move source (migratingNext move masterAddrs todo failed) := by
  unfold migratingNext
  split
  · exact h
  rename_i htodo
  rw [Bool.not_eq_true', Bool.not_eq_false, List.isEmpty_iff] at htodo
  split
  · trivial
  rename_i hok
  refine knows_countNext masterAddrs ⟨fun slot hslot => ?_, rfl, fun _ count hcount => by cases hcount⟩
  have hmarked := h (Bool.not_eq_true _ ▸ hok) slot hslot
  rw [htodo] at hmarked
  exact hmarked.resolve_left not_mem_nil

/-- Marking the destination goes on. -/
theorem knows_importingNext (slotOf : Key → ℤ) (source : Node Key) (masterAddrs : List String)
    (todo : List ℤ) (failed : Bool) :
    Knows slotOf move source (importingNext move masterAddrs todo failed) := by
  unfold importingNext
  split
  · trivial
  split
  · trivial
  · exact knows_migratingNext masterAddrs fun _ slot hslot => .inl hslot

/-- What holds along every run. -/
structure Kept (slotOf : Key → ℤ) (move : Move) (s : State Key) : Prop where
  live : ∀ key ∈ s.live, key ∈ s.source.keys ∨ key ∈ s.dest.keys
  issued : ∀ issue ∈ s.issued, ∀ key ∈ issue.sourceKeys, slotOf key ∉ move.slots
  knows : Knows slotOf move s.source s.phase

/-- Marking is quiet. -/
theorem quiet_mark (slotOf : Key → ℤ) (source : Node Key) (slot : ℤ) :
    Quiet slotOf source { source with migrating := update source.migrating slot true } := by
  refine ⟨fun other hclosed howns => ?_, fun _ _ hdrained => hdrained⟩
  by_cases heq : other = slot
  · rw [heq]
    exact update_self ..
  · exact (update_of_ne heq ..).trans (hclosed howns)

theorem quiet_assign (source : Node Key) (slot : ℤ) : Quiet slotOf source (source.assign slot false) := by
  refine ⟨fun other hclosed howns => ?_, fun _ _ hdrained => hdrained⟩
  by_cases heq : other = slot
  · have howns : update source.owns slot false other = true := howns
    rw [heq, update_self] at howns
    cases howns
  · refine (update_of_ne heq ..).trans (hclosed ?_)
    exact (update_of_ne heq ..).symm.trans howns

theorem quiet_remove (source : Node Key) {keys : Finset Key} (hsubset : keys ⊆ source.keys) :
    Quiet slotOf source { source with keys := keys } :=
  ⟨fun _ hclosed => hclosed, fun _ _ hdrained key hkey => hdrained key (hsubset hkey)⟩

variable [DecidableEq Key] {s s' : State Key}

/-- A migrated key stays on one side. -/
theorem mem_sides_of_transfer {source dest : Finset Key} (gone : Finset Key)
    (h : key ∈ source ∨ key ∈ dest) : key ∈ source \ gone ∨ key ∈ dest ∪ gone := by
  rcases h with hsource | hdest
  · by_cases hgone : key ∈ gone
    · exact .inr (Finset.mem_union_right _ hgone)
    · exact .inl (Finset.mem_sdiff.mpr ⟨hsource, hgone⟩)
  · exact .inr (Finset.mem_union_left _ hdest)

theorem quiet_write (htakes : takesWrite slotOf source key = true) :
    Quiet slotOf source { source with keys := insert key source.keys } := by
  refine ⟨fun _ hclosed => hclosed, fun slot hclosed hdrained other hother heq => ?_⟩
  rcases Finset.mem_insert.mp hother with rfl | hbefore
  · simp only [takesWrite, Bool.and_eq_true, Bool.or_eq_true, decide_eq_true_iff, Bool.not_eq_true'] at htakes
    obtain ⟨howns, hmem | hopen⟩ := htakes
    · exact hdrained other hmem heq
    · rw [heq] at howns hopen
      rw [hclosed howns] at hopen
      cases hopen
  · exact hdrained other hbefore heq

section

variable (h : Kept slotOf move s)
include h

/-- A mark on the source. -/
theorem kept_setMigrating (hstep : step slotOf move s (.setMigrating ok) = some s') :
    Kept slotOf move s' := by
  simp only [step] at hstep
  split at hstep
  · rename_i slot rest failed hphase
    cases hstep
    have hknows := h.knows
    rw [hphase] at hknows
    cases ok with
    | false =>
      refine ⟨h.live, h.issued, knows_migratingNext _ fun hok => ?_⟩
      rw [Bool.not_false, Bool.or_true] at hok
      cases hok
    | true =>
      refine ⟨h.live, h.issued, knows_migratingNext _ fun hok other hother => ?_⟩
      rw [Bool.not_true, Bool.or_false] at hok
      rcases hknows hok other hother with htodo | hclosed
      · rcases mem_cons.mp htodo with rfl | hrest
        · exact .inr fun _ => update_self ..
        · exact .inl hrest
      · exact .inr ((quiet_mark slotOf s.source slot).closed other hclosed)
  · cases hstep

/-- A count. -/
theorem kept_countKeys (hstep : step slotOf move s (.countKeys ok) = some s') :
    Kept slotOf move s' := by
  simp only [step] at hstep
  split at hstep
  · rename_i slot rest counts failed hphase
    cases hstep
    have hknows := h.knows
    rw [hphase] at hknows
    obtain ⟨hclosed, hslots, hcounts⟩ := hknows
    refine ⟨h.live, h.issued, knows_countNext _ ⟨hclosed, ?_, fun hok count hcount hzero => ?_⟩⟩
    · rwa [map_append, append_assoc]
    · rw [Bool.or_eq_false_iff] at hok
      rcases mem_append.mp hcount with hbefore | hlast
      · exact hcounts hok.1 count hbefore hzero
      · obtain rfl := mem_singleton.mp hlast
        intro key hkey heq
        exact Finset.eq_empty_iff_forall_notMem.mp (Finset.card_eq_zero.mp hzero) key
          (Finset.mem_filter.mpr ⟨hkey, heq⟩)
  · cases hstep

/-- An assignment. -/
theorem kept_setNode (hstep : step slotOf move s (.setNode ok) = some s') :
    Kept slotOf move s' := by
  simp only [step] at hstep
  split at hstep
  · rename_i addr addrs slot rest failed hphase
    cases hstep
    have hknows := h.knows
    rw [hphase] at hknows
    have hquiet : Quiet slotOf s.source
        (if ok ∧ addr = move.sourceAddr then s.source.assign slot false else s.source) := by
      split
      · exact quiet_assign s.source slot
      · exact ⟨fun _ hclosed => hclosed, fun _ _ hdrained => hdrained⟩
    refine ⟨?_, forall_mem_cons.mpr ⟨?_, h.issued⟩, knows_flipNext (hknows.of_quiet hquiet) _ _ _⟩
    · intro key hkey
      have hsource : (if ok ∧ addr = move.sourceAddr then s.source.assign slot false
          else s.source).keys = s.source.keys := by split <;> rfl
      have hdest : (if ok ∧ addr = move.destAddr then s.dest.assign slot true
          else s.dest).keys = s.dest.keys := by split <;> rfl
      rw [hsource, hdest]
      exact h.live key hkey
    · intro key hkey hslot
      exact (hknows _ hslot).2 key hkey rfl
  · cases hstep

/-- A write. -/
theorem kept_write {asked : Bool} (hstep : step slotOf move s (.write key asked) = some s') :
    Kept slotOf move s' := by
  cases asked with
  | false =>
    obtain ⟨htakes, rfl⟩ := of_ite_some hstep
    refine ⟨fun other hother => ?_, h.issued, h.knows.of_quiet (quiet_write htakes)⟩
    rcases Finset.mem_insert.mp hother with rfl | hbefore
    · exact .inl (Finset.mem_insert_self ..)
    · exact (h.live other hbefore).imp_left Finset.mem_insert_of_mem
  | true =>
    obtain ⟨-, rfl⟩ := of_ite_some hstep
    refine ⟨fun other hother => ?_, h.issued, h.knows⟩
    rcases Finset.mem_insert.mp hother with rfl | hbefore
    · exact .inr (Finset.mem_insert_self ..)
    · exact (h.live other hbefore).imp_right Finset.mem_insert_of_mem

/-- A deletion. -/
theorem kept_delete {atDest : Bool} (hstep : step slotOf move s (.delete key atDest) = some s') :
    Kept slotOf move s' := by
  cases atDest with
  | false =>
    cases hstep
    refine ⟨fun other hother => ?_, h.issued, h.knows.of_quiet (quiet_remove _ (Finset.erase_subset ..))⟩
    obtain ⟨hne, hbefore⟩ := Finset.mem_erase.mp hother
    exact (h.live other hbefore).imp_left fun hmem => Finset.mem_erase.mpr ⟨hne, hmem⟩
  | true =>
    cases hstep
    refine ⟨fun other hother => ?_, h.issued, h.knows⟩
    obtain ⟨hne, hbefore⟩ := Finset.mem_erase.mp hother
    exact (h.live other hbefore).imp_right fun hmem => Finset.mem_erase.mpr ⟨hne, hmem⟩

/-- Every step keeps the invariant. -/
theorem kept_step {a : Label Key} (hstep : step slotOf move s a = some s') :
    Kept slotOf move s' := by
  cases a with
  | start masterAddrs =>
    simp only [step] at hstep
    split at hstep
    · cases hstep
      exact ⟨h.live, h.issued, knows_importingNext slotOf s.source masterAddrs _ _⟩
    · cases hstep
  | setImporting ok =>
    simp only [step] at hstep
    split at hstep
    · cases hstep
      refine ⟨?_, h.issued, knows_importingNext slotOf s.source _ _ _⟩
      cases ok <;> exact h.live
    · cases hstep
  | setMigrating _ => exact kept_setMigrating h hstep
  | countKeys _ => exact kept_countKeys h hstep
  | setNode _ => exact kept_setNode h hstep
  | getKeys keys ok =>
    simp only [step] at hstep
    split at hstep
    · split at hstep
      · cases hstep
        exact ⟨h.live, h.issued, trivial⟩
      · split at hstep
        · cases hstep
          refine ⟨h.live, h.issued, ?_⟩
          split
          · exact knows_drain slotOf s.source _ _
          · trivial
        · cases hstep
    · cases hstep
  | migrate transferred ok =>
    simp only [step] at hstep
    split at hstep
    · cases hstep
      refine ⟨fun key hkey => mem_sides_of_transfer _ (h.live key hkey), h.issued, ?_⟩
      split
      · exact knows_drain slotOf _ _ _
      · trivial
    · cases hstep
  | write _ _ => exact kept_write h hstep
  | delete _ _ => exact kept_delete h hstep

end

/-- A stored key is on one of the sides, and slots are assigned to the destination only when the source
has no key of the range. -/
theorem dance_keepsKeys (h : (danceSystem slotOf move).Reachable System.anyStep s) :
    (∀ key ∈ s.live, key ∈ s.source.keys ∨ key ∈ s.dest.keys) ∧
      ∀ issue ∈ s.issued, ∀ key ∈ issue.sourceKeys, slotOf key ∉ move.slots := by
  have hkept : Kept slotOf move s := by
    refine h.invariant (Kept slotOf move) ?_ fun _ _ _ hkept _ hstep => kept_step hkept hstep
    rintro s ⟨hidle, hissued, hlive⟩
    refine ⟨fun key hkey => ?_, ?_, ?_⟩
    · rw [hlive] at hkey
      exact Finset.mem_union.mp hkey
    · rw [hissued]
      exact fun issue hissue => by cases hissue
    · rw [hidle]
      trivial
  exact ⟨hkept.live, hkept.issued⟩

end Kept

section Examples

def pairMove : Move := ⟨⟨0, 1⟩, "10.0.0.1:6379", "10.0.0.2:6379", 0, 0⟩

def parity (key : ℕ) : ℤ := key % 2

def pairStart : State ℕ :=
  ⟨⟨{0, 2}, fun _ => true, fun _ => false, fun _ => false⟩,
    ⟨∅, fun _ => false, fun _ => false, fun _ => false⟩, {0, 2}, [], .idle, []⟩

theorem pairStart_initial : (danceSystem parity pairMove).initial pairStart := ⟨rfl, rfl, by decide⟩

def countingPass : List (Label ℕ) :=
  [.start ["10.0.0.2:6379", "10.0.0.1:6379"], .setImporting true, .setImporting true, .setMigrating true,
    .setMigrating true, .countKeys true, .countKeys true]

/-- Three passes, with a write and a failed migration, hand the range over. -/
def handedOver : State ℕ :=
  ((danceSystem parity pairMove).follow pairStart
    (countingPass ++ [.getKeys [0, 2] true, .write 4 true, .migrate {2} false] ++ countingPass ++
      [.getKeys [0] true, .migrate ∅ true, .getKeys [] true] ++ countingPass ++
      [.setNode true, .setNode true, .setNode true, .setNode true])).get (by decide)

/-- All three keys are on the destination, which owns the slots. -/
theorem handedOver_keepsKeys :
    (∀ key ∈ handedOver.live, key ∈ handedOver.source.keys ∨ key ∈ handedOver.dest.keys) ∧
      handedOver.live = {0, 2, 4} ∧ handedOver.dest.keys = {0, 2, 4} ∧ handedOver.issued.length = 4 :=
  ⟨(dance_keepsKeys (.of_run pairStart_initial (by decide))).1, by decide, by decide, by decide⟩

end Examples

end LittleRed.Cluster.Dance
