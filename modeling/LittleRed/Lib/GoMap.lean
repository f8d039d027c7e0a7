import Mathlib.Data.List.AList
import Mathlib.Data.List.Dedup

/-!
# Maps with an iteration order

The language leaves open in which order a map is ranged over. The model is an association list without
duplicate keys whose order is the one a loop sees, so a statement about every map covers every order.
Where several loops range over one map, each has a `RangeOrder` of its own.
-/

namespace LittleRed.Lib

open List AList

/-- A map whose entries stand in the order in which a loop visits them. -/
abbrev GoMap (Key Value : Type*) := AList fun _ : Key => Value

namespace GoMap

variable {Key Value : Type*}

/-- The values in the order in which a loop visits them. -/
def values (m : GoMap Key Value) : List Value := m.entries.map Sigma.snd

/-- Rewrite every value, keeping the keys and their order. -/
def mapValues (m : GoMap Key Value) (f : Key → Value → Value) : GoMap Key Value where
  entries := m.entries.map fun entry => ⟨entry.1, f entry.1 entry.2⟩
  nodupKeys := by
    have hkeys := m.nodupKeys
    simpa [List.NodupKeys, List.keys, Function.comp_def] using hkeys

variable {m : GoMap Key Value} {key : Key} {value : Value} {pairs : List (Key × Value)}

variable {f : Key → Value → Value} {Value' : Type*}

/-- The identity changes nothing. -/
theorem mapValues_id (hf : ∀ key value, f key value = value) : m.mapValues f = m := by
  refine AList.ext ?_
  simp [mapValues, hf]

/-- The values are mapped. -/
theorem values_mapValues (m : GoMap Key Value) (g : Value → Value) :
    (m.mapValues fun _ value => g value).values = m.values.map g := by
  simp [mapValues, values]

/-- The order of the entries is that of the values. -/
theorem values_perm {m' : GoMap Key Value} (h : m'.entries.Perm m.entries) : m'.values.Perm m.values := by
  exact h.map _

/-- Keep the entries that pass a test. -/
def filterEntries (m : GoMap Key Value) (keep : Key → Value → Bool) : GoMap Key Value where
  entries := m.entries.filter fun entry => keep entry.1 entry.2
  nodupKeys := m.nodupKeys.sublist filter_sublist

variable [DecidableEq Key]

/-- The filtered map has the entries to keep. -/
theorem lookup_filterEntries_eq_some {keep : Key → Value → Bool} :
    (m.filterEntries keep).lookup key = some value ↔ m.lookup key = some value ∧ keep key value = true := by
  have hmem : (⟨key, value⟩ : Σ _ : Key, Value) ∈ (m.filterEntries keep).entries ↔
      (⟨key, value⟩ : Σ _ : Key, Value) ∈ m.entries ∧ keep key value = true := mem_filter
  exact mem_lookup_iff.trans (hmem.trans (and_congr_left fun _ => mem_lookup_iff.symm))

/-- The mapped map has the same keys. -/
theorem lookup_mapValues_eq_some :
    (m.mapValues f).lookup key = some value ↔ ∃ old, m.lookup key = some old ∧ f key old = value := by
  have hentries : (⟨key, value⟩ : Σ _ : Key, Value) ∈ (m.mapValues f).entries ↔
      ∃ old, (⟨key, old⟩ : Σ _ : Key, Value) ∈ m.entries ∧ f key old = value := by
    constructor
    · intro h
      obtain ⟨⟨key', old⟩, hmem, heq⟩ := mem_map.mp h
      cases heq
      exact ⟨old, hmem, rfl⟩
    · rintro ⟨old, hmem, rfl⟩
      exact mem_map.mpr ⟨⟨key, old⟩, hmem, rfl⟩
  refine mem_lookup_iff.trans (hentries.trans ?_)
  exact exists_congr fun old => and_congr_left fun _ => mem_lookup_iff.symm

/-- A value stands under a key. -/
theorem exists_lookup_of_mem_values (h : value ∈ m.values) : ∃ key, m.lookup key = some value := by
  obtain ⟨⟨key, value'⟩, hmem, rfl⟩ := mem_map.mp h
  exact ⟨key, mem_lookup_iff.mpr hmem⟩

/-- What is found is a value. -/
theorem mem_values_of_lookup (h : m.lookup key = some value) : value ∈ m.values :=
  mem_map.mpr ⟨⟨key, value⟩, mem_lookup_iff.mp h, rfl⟩

/-- Insert a value under each key of a list, the later ones winning. -/
def insertAll (m : GoMap Key Value) (pairs : List (Key × Value)) : GoMap Key Value :=
  pairs.foldl (fun acc pair => acc.insert pair.1 pair.2) m

/-- The map built by inserting the pairs of a list in order. -/
def ofPairs (pairs : List (Key × Value)) : GoMap Key Value := insertAll ∅ pairs

/-- A loop that inserts what each item gives. -/
theorem foldl_insert {σ α : Type*} (out : σ → GoMap Key Value) {step : σ → α → σ}
    {f : α → Option (Key × Value)} (hnone : ∀ s a, f a = none → out (step s a) = out s)
    (hsome : ∀ s a key value, f a = some (key, value) → out (step s a) = (out s).insert key value)
    (items : List α) (s : σ) : out (items.foldl step s) = insertAll (out s) (items.filterMap f) := by
  induction items generalizing s with
  | nil => rfl
  | cons a rest ih =>
    rw [foldl_cons, ih]
    cases hf : f a with
    | none => rw [filterMap_cons_none hf, hnone s a hf]
    | some pair =>
      rw [filterMap_cons_some hf, hsome s a pair.1 pair.2 hf]
      rfl

/-- Other keys keep their values. -/
theorem lookup_insertAll_of_notMem (pairs : List (Key × Value)) (m : GoMap Key Value)
    (hkey : ∀ pair ∈ pairs, pair.1 ≠ key) :
    (insertAll m pairs).lookup key = m.lookup key := by
  induction pairs generalizing m with
  | nil => rfl
  | cons pair rest ih =>
    have hrest := ih (m.insert pair.1 pair.2) fun p hp => hkey p (mem_cons_of_mem _ hp)
    exact hrest.trans (lookup_insert_ne (hkey pair mem_cons_self).symm)

/-- Different keys get the values inserted. -/
theorem lookup_insertAll_of_mem (m : GoMap Key Value) (hnodup : (pairs.map Prod.fst).Nodup)
    (hmem : (key, value) ∈ pairs) : (insertAll m pairs).lookup key = some value := by
  induction pairs generalizing m with
  | nil => cases hmem
  | cons pair rest ih =>
    rw [map_cons, nodup_cons] at hnodup
    rcases mem_cons.mp hmem with rfl | hrest
    · have hfresh : ∀ p ∈ rest, p.1 ≠ key := by
        rintro p hp rfl
        exact hnodup.1 (mem_map.mpr ⟨p, hp, rfl⟩)
      exact (lookup_insertAll_of_notMem rest _ hfresh).trans (lookup_insert m)
    · exact ih _ hnodup.2 hrest

/-- What is found was inserted or was there before. -/
theorem mem_or_of_lookup_insertAll (h : (insertAll m pairs).lookup key = some value) :
    (key, value) ∈ pairs ∨ m.lookup key = some value := by
  induction pairs generalizing m with
  | nil => exact .inr h
  | cons pair rest ih =>
    rcases ih h with hrest | hbefore
    · exact .inl (mem_cons_of_mem _ hrest)
    by_cases heq : key = pair.1
    · subst heq
      rw [lookup_insert] at hbefore
      cases hbefore
      exact .inl mem_cons_self
    · rw [lookup_insert_ne heq] at hbefore
      exact .inr hbefore

/-- What is found was a pair. -/
theorem mem_of_lookup_ofPairs (h : (ofPairs pairs).lookup key = some value) : (key, value) ∈ pairs := by
  refine (mem_or_of_lookup_insertAll h).resolve_right fun hempty => ?_
  cases hempty

/-- Without duplicates every pair is found. -/
theorem lookup_ofPairs_eq_some
    (hnodup : (pairs.map Prod.fst).Nodup) : (ofPairs pairs).lookup key = some value ↔ (key, value) ∈ pairs :=
  ⟨mem_of_lookup_ofPairs, lookup_insertAll_of_mem ∅ hnodup⟩

/-- The keys are the old ones and those inserted. -/
theorem mem_insertAll (pairs : List (Key × Value)) (m : GoMap Key Value) (key : Key) :
    key ∈ insertAll m pairs ↔ key ∈ m ∨ ∃ value, (key, value) ∈ pairs := by
  induction pairs generalizing m with
  | nil => simp [insertAll]
  | cons pair rest ih =>
    refine (ih (m.insert pair.1 pair.2)).trans ?_
    rw [mem_insert]
    constructor
    · rintro ((rfl | hm) | ⟨value, hmem⟩)
      · exact .inr ⟨pair.2, mem_cons_self⟩
      · exact .inl hm
      · exact .inr ⟨value, mem_cons_of_mem _ hmem⟩
    · rintro (hm | ⟨value, hmem⟩)
      · exact .inl (.inr hm)
      · rcases mem_cons.mp hmem with rfl | hrest
        · exact .inl (.inl rfl)
        · exact .inr ⟨value, hrest⟩

/-- The keys are those of the pairs. -/
theorem mem_ofPairs (pairs : List (Key × Value)) (key : Key) :
    key ∈ ofPairs pairs ↔ ∃ value, (key, value) ∈ pairs := by
  rw [ofPairs, mem_insertAll]
  exact or_iff_right (notMem_empty key)

/-- A key without pairs is not found. -/
theorem lookup_ofPairs_isNone (pairs : List (Key × Value)) (key : Key) :
    ((ofPairs pairs).lookup key).isNone = true ↔ ∀ value, (key, value) ∉ pairs := by
  rw [Option.isNone_iff_eq_none, lookup_eq_none, mem_ofPairs, not_exists]

/-- Every key is there once. -/
theorem keys_ofPairs_perm (pairs : List (Key × Value)) :
    (ofPairs pairs).keys.Perm (pairs.map Prod.fst).dedup := by
  apply (perm_ext_iff_of_nodup (ofPairs pairs).keys_nodup (nodup_dedup _)).mpr
  intro key
  rw [← AList.mem_keys, mem_ofPairs, mem_dedup, mem_map]
  constructor
  · rintro ⟨value, hmem⟩
    exact ⟨(key, value), hmem, rfl⟩
  · rintro ⟨pair, hmem, rfl⟩
    exact ⟨pair.2, hmem⟩

/-- There are at most as many entries as pairs. -/
theorem length_entries_ofPairs_le (pairs : List (Key × Value)) :
    (ofPairs pairs).entries.length ≤ pairs.length := by
  have hkeys := (keys_ofPairs_perm pairs).length_eq
  have hdedup := (dedup_sublist (pairs.map Prod.fst)).length_le
  rw [length_map] at hdedup
  rw [AList.keys, List.keys, length_map] at hkeys
  omega

/-- There are as many when the keys are different. -/
theorem length_entries_ofPairs_eq_iff (pairs : List (Key × Value)) :
    (ofPairs pairs).entries.length = pairs.length ↔ (pairs.map Prod.fst).Nodup := by
  have hkeys := (keys_ofPairs_perm pairs).length_eq
  rw [AList.keys, List.keys, length_map] at hkeys
  rw [hkeys, ← length_map Prod.fst, ← dedup_eq_self]
  constructor
  · intro hlength
    exact (dedup_sublist _).eq_of_length hlength
  · intro hsame
    rw [hsame]

/-- Pairs that agree on a key give its value. -/
theorem lookup_ofPairs_of_agree (hmem : (key, value) ∈ pairs)
    (hagree : ∀ value', (key, value') ∈ pairs → value' = value) :
    (ofPairs pairs).lookup key = some value := by
  cases hlookup : (ofPairs pairs).lookup key with
  | none => exact absurd hmem ((lookup_ofPairs_isNone pairs key).mp (hlookup ▸ rfl) value)
  | some value' => rw [hagree value' (mem_of_lookup_ofPairs hlookup)]

/-- Inserting mapped values maps what is found. -/
theorem lookup_insertAll_map (f : Value → Value') (pairs : List (Key × Value)) {m' : GoMap Key Value'}
    (hbefore : m'.lookup key = (m.lookup key).map f) :
    (insertAll m' (pairs.map fun pair => (pair.1, f pair.2))).lookup key =
      ((insertAll m pairs).lookup key).map f := by
  induction pairs generalizing m m' with
  | nil => exact hbefore
  | cons pair rest ih =>
    refine @ih (m.insert pair.1 pair.2) (m'.insert pair.1 (f pair.2)) ?_
    by_cases hkey : key = pair.1
    · subst hkey
      rw [lookup_insert, lookup_insert, Option.map_some]
    · rw [lookup_insert_ne hkey, lookup_insert_ne hkey, hbefore]

/-- Mapped pairs map what is found. -/
theorem lookup_ofPairs_map (f : Value → Value') (pairs : List (Key × Value)) (key : Key) :
    (ofPairs (pairs.map fun pair => (pair.1, f pair.2))).lookup key = ((ofPairs pairs).lookup key).map f :=
  lookup_insertAll_map f pairs (by rw [lookup_empty, lookup_empty, Option.map_none])

section

variable (hnodup : (pairs.map Prod.fst).Nodup)
include hnodup

/-- With different keys the order of the pairs does not matter. -/
theorem lookup_ofPairs_perm {pairs' : List (Key × Value)} (hperm : pairs.Perm pairs') (key : Key) :
    (ofPairs pairs).lookup key = (ofPairs pairs').lookup key := by
  have hnodup' := (hperm.map Prod.fst).nodup_iff.mp hnodup
  ext value
  rw [lookup_ofPairs_eq_some hnodup, lookup_ofPairs_eq_some hnodup']
  exact hperm.mem_iff

/-- The values are those of the pairs. -/
theorem mem_values_ofPairs (value : Value) :
    value ∈ (ofPairs pairs).values ↔ ∃ key, (key, value) ∈ pairs := by
  constructor
  · intro h
    obtain ⟨key, hlookup⟩ := exists_lookup_of_mem_values h
    have hkey : key ∈ ofPairs pairs := lookup_isSome.mp (by rw [hlookup]; rfl)
    obtain ⟨value', hmem⟩ := (mem_ofPairs pairs key).mp hkey
    rw [ofPairs, lookup_insertAll_of_mem ∅ hnodup hmem] at hlookup
    cases hlookup
    exact ⟨key, hmem⟩
  · rintro ⟨key, hmem⟩
    exact mem_values_of_lookup (lookup_insertAll_of_mem ∅ hnodup hmem)

/-- New keys add their entries. -/
theorem insertAll_entries_perm (m : GoMap Key Value) (hnew : ∀ pair ∈ pairs, pair.1 ∉ m) :
    ((insertAll m pairs).entries).Perm ((pairs.map fun pair => ⟨pair.1, pair.2⟩) ++ m.entries) := by
  induction pairs generalizing m with
  | nil => exact .refl _
  | cons pair rest ih =>
    obtain ⟨hhead, hrest⟩ := nodup_cons.mp hnodup
    rw [forall_mem_cons] at hnew
    have hnew' : ∀ other ∈ rest, other.1 ∉ m.insert pair.1 pair.2 := by
      intro other hother hmem
      rcases mem_insert m |>.mp hmem with heq | hold
      · exact hhead (heq ▸ mem_map_of_mem hother)
      · exact hnew.2 other hother hold
    have hperm := ih hrest (m.insert pair.1 pair.2) hnew'
    rw [entries_insert_of_notMem hnew.1] at hperm
    exact hperm.trans perm_middle

/-- Without duplicates all values are kept. -/
theorem values_ofPairs_perm : (ofPairs pairs).values.Perm (pairs.map Prod.snd) := by
  have hperm := (insertAll_entries_perm hnodup ∅ fun _ _ hmem => by cases hmem).map Sigma.snd
  simpa [ofPairs, values, Function.comp_def] using hperm

end

/-- A table over a range is read back. -/
theorem lookup_ofPairs_filterMap (size : ℕ) {key : ℕ → Key} (hkey : Function.Injective key)
    (value : ℕ → Option Value) {i : ℕ} (hi : i < size) :
    (ofPairs ((List.range size).filterMap fun j => (value j).map fun v => (key j, v))).lookup
      (key i) = value i := by
  cases hvalue : value i with
  | none =>
    refine (lookup_insertAll_of_notMem _ ∅ ?_).trans (lookup_empty _)
    intro pair hpair heq
    obtain ⟨j, -, hj⟩ := mem_filterMap.mp hpair
    obtain ⟨v, hv, rfl⟩ := Option.map_eq_some_iff.mp hj
    rw [hkey heq, hvalue] at hv
    cases hv
  | some v =>
    refine lookup_insertAll_of_mem ∅ ?_ (mem_filterMap.mpr ⟨i, mem_range.mpr hi, ?_⟩)
    · rw [map_filterMap]
      refine List.Nodup.filterMap ?_ nodup_range
      intro a b k ha hb
      simp only [Option.map_map, Option.mem_def, Option.map_eq_some_iff] at ha hb
      obtain ⟨_, -, ha⟩ := ha
      obtain ⟨_, -, hb⟩ := hb
      exact hkey (ha.trans hb.symm)
    · rw [hvalue, Option.map_some]

end GoMap

/-- An order in which a loop may visit what it ranges over. -/
structure RangeOrder (α : Type*) where
  reorder : List α → List α
  perm : ∀ items, (reorder items).Perm items

namespace RangeOrder

variable {α : Type*}

/-- The order as given. -/
def asGiven : RangeOrder α where
  reorder := id
  perm _ := .refl _

/-- The order that visits a given item first. -/
def toFront [DecidableEq α] (a : α) : RangeOrder α where
  reorder items := if a ∈ items then a :: items.erase a else items
  perm items := by
    split
    · rename_i hmem
      exact (perm_cons_erase hmem).symm
    · exact .refl _

/-- No item is lost or added. -/
theorem mem_reorder (order : RangeOrder α) {items : List α} {a : α} :
    a ∈ order.reorder items ↔ a ∈ items := (order.perm items).mem_iff

/-- An order can bring any match to the front. -/
theorem find?_toFront [DecidableEq α] {p : α → Bool} {items : List α} {a : α} (hmem : a ∈ items)
    (hp : p a = true) : ((toFront a).reorder items).find? p = some a := by
  change (if a ∈ items then a :: items.erase a else items).find? p = some a
  rw [if_pos hmem, List.find?_cons_of_pos hp]

end RangeOrder

/-- A map with its entries in another order. -/
def GoMap.reordered {Key Value : Type*} (m : GoMap Key Value) (order : RangeOrder (Σ _ : Key, Value)) :
    GoMap Key Value where
  entries := order.reorder m.entries
  nodupKeys := (perm_nodupKeys (order.perm m.entries)).mpr m.nodupKeys

variable {Key Value : Type*}

variable (m : GoMap Key Value)

variable (order : RangeOrder (Σ _ : Key, Value))

/-- The values are the same. -/
theorem GoMap.values_reordered : (m.reordered order).values.Perm m.values :=
  values_perm (order.perm m.entries)

/-- So is every lookup. -/
theorem GoMap.lookup_reordered [DecidableEq Key] (key : Key) :
    (m.reordered order).lookup key = m.lookup key :=
  perm_lookup (order.perm m.entries)

/-- So are the keys. -/
theorem GoMap.mem_reordered [DecidableEq Key] {key : Key} : key ∈ m.reordered order ↔ key ∈ m := by
  rw [← lookup_isSome, GoMap.lookup_reordered, lookup_isSome]

end LittleRed.Lib
