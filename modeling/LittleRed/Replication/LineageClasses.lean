import LittleRed.Replication.Lineage

/-!
# The classes that the holders fall into

The search for a root in `holdersDiverged` is a recursion along a map that the search itself rewrites, and
it ends. What is counted are the classes of the holders under having joined IDs, with one class for each
holder that has none, in whatever order they come.
-/

namespace LittleRed.Replication

open Lib Relation List Option

section Recursion

/-- The search for a root, stopped without a result after so many nested calls. -/
def findWithin : ℕ → GoMap String String → String → Option (String × GoMap String String)
  | 0, _, _ => none
  | calls + 1, parent, x =>
    match parent.lookup x with
    | none => some (x, parent.insert x x)
    | some p =>
      if p ≠ x then
        (findWithin calls parent p).map fun found => (found.1, found.2.insert x found.1)
      else some (x, parent)

/-- `union` with such searches. -/
def unionWithin (calls : ℕ) (parent : GoMap String String) (a b : String) :
    Option (GoMap String String) :=
  (findWithin calls parent a).bind fun foundA =>
    (findWithin calls foundA.2 b).map fun foundB => foundB.2.insert foundA.1 foundB.1

/-- The first pass over the holders with such searches. -/
def joinLineageWithin (calls : ℕ) (parent : GoMap String String) (h : RedisNodeState) :
    Option (GoMap String String) :=
  if !isZeroReplid h.replid && !isZeroReplid h.replid2 then unionWithin calls parent h.replid h.replid2
  else if !isZeroReplid h.replid then (findWithin calls parent h.replid).map Prod.snd
  else if !isZeroReplid h.replid2 then (findWithin calls parent h.replid2).map Prod.snd
  else some parent

/-- The label of a holder with so many nested calls. -/
def lineageWithin (calls : ℕ) (parent : GoMap String String) (i : ℕ) (h : RedisNodeState) :
    Option (String × GoMap String String) :=
  if !isZeroReplid h.replid then findWithin calls parent h.replid
  else if !isZeroReplid h.replid2 then findWithin calls parent h.replid2
  else some ("__noreplid_" ++ toString i, parent)

/-- The second pass over the holders with such searches. -/
def lineagesWithin (calls : ℕ) (parent : GoMap String String) :
    ℕ → List RedisNodeState → Option (List String)
  | _, [] => some []
  | i, h :: rest =>
    (lineageWithin calls parent i h).bind fun found =>
      (lineagesWithin calls found.2 (i + 1) rest).map (found.1 :: ·)

/-- `holdersDiverged`, with no result if some search has more than so many nested calls. -/
def holdersDivergedWithin (calls : ℕ) (holders : List RedisNodeState) : Option Bool :=
  (holders.foldlM (joinLineageWithin calls) ∅).bind fun parent =>
    (lineagesWithin calls parent 0 holders).map fun lineages => decide (1 < lineages.dedup.length)

variable {parent : GoMap String String}

/-- The way to the root bounds the calls. -/
theorem findWithin_of_rootIn {n calls fuel : ℕ} {x r : String} (hroot : RootIn (parents parent) n x r)
    (hcalls : n < calls) (hfuel : n < fuel) :
    findWithin calls parent x = some (findRoot fuel parent x) := by
  induction hroot generalizing calls fuel with
  | @root r hself =>
    obtain ⟨calls, rfl⟩ := Nat.exists_eq_succ_of_ne_zero (Nat.ne_of_gt hcalls)
    obtain ⟨fuel, rfl⟩ := Nat.exists_eq_succ_of_ne_zero (Nat.ne_of_gt hfuel)
    have hlookup : parent.lookup r = some r := hself
    simp [findWithin, findRoot, hlookup]
  | @step n x p r hparent hne hroot ih =>
    obtain ⟨calls, rfl⟩ := Nat.exists_eq_succ_of_ne_zero (Nat.ne_of_gt (Nat.zero_lt_of_lt hcalls))
    obtain ⟨fuel, rfl⟩ := Nat.exists_eq_succ_of_ne_zero (Nat.ne_of_gt (Nat.zero_lt_of_lt hfuel))
    have hlookup : parent.lookup x = some p := hparent
    have hnext := ih (Nat.lt_of_succ_lt_succ hcalls) (Nat.lt_of_succ_lt_succ hfuel)
    simp [findWithin, findRoot, hlookup, hne, hnext]

section

variable (hforest : Forest (parents parent))
include hforest

/-- Some number of calls suffices for a search. -/
theorem exists_findWithin (x : String) :
    ∃ needed, ∀ calls ≥ needed, findWithin calls parent x = some (find parent x) := by
  cases hlookup : parent.lookup x with
  | none =>
    refine ⟨1, fun calls hcalls => ?_⟩
    obtain ⟨calls, rfl⟩ := Nat.exists_eq_succ_of_ne_zero (Nat.ne_of_gt hcalls)
    simp [findWithin, find, findRoot, hlookup]
  | some p =>
    have hseen : parents parent x ≠ none := by
      rw [show parents parent x = some p from hlookup]
      exact some_ne_none p
    obtain ⟨n, r, hroot⟩ := hforest x hseen
    have hlength : n < parent.keys.length := hroot.lt_length fun y hy =>
      AList.lookup_isSome.mp (isSome_iff_ne_none.mpr hy)
    exact ⟨n + 1, fun calls hcalls => findWithin_of_rootIn hroot hcalls (Nat.lt_succ_of_lt hlength)⟩

theorem exists_unionWithin (a b : String) :
    ∃ needed, ∀ calls ≥ needed, unionWithin calls parent a b = some (union parent a b) := by
  obtain ⟨needed, hfirst⟩ := exists_findWithin hforest a
  obtain ⟨needed', hsecond⟩ := exists_findWithin (find_spec hforest a).2.1.forest b
  refine ⟨max needed needed', fun calls hcalls => ?_⟩
  rw [unionWithin, hfirst calls (le_of_max_le_left hcalls), bind_some,
    hsecond calls (le_of_max_le_right hcalls)]
  rfl

theorem exists_joinLineageWithin (h : RedisNodeState) :
    ∃ needed, ∀ calls ≥ needed, joinLineageWithin calls parent h = some (joinLineage parent h) := by
  obtain ⟨needed, hunion⟩ := exists_unionWithin hforest h.replid h.replid2
  obtain ⟨needed₁, hfirst⟩ := exists_findWithin hforest h.replid
  obtain ⟨needed₂, hsecond⟩ := exists_findWithin hforest h.replid2
  refine ⟨max needed (max needed₁ needed₂), fun calls hcalls => ?_⟩
  rw [joinLineageWithin, hunion calls (by omega), hfirst calls (by omega), hsecond calls (by omega),
    joinLineage]
  split
  · rfl
  split
  · rfl
  split
  · rfl
  · rfl

/-- A holder keeps the forest. -/
theorem forest_joinLineage (h : RedisNodeState) : Forest (parents (joinLineage parent h)) := by
  unfold joinLineage
  split
  · exact (union_spec hforest h.replid h.replid2).1
  split
  · exact (find_spec hforest h.replid).2.1.forest
  split
  · exact (find_spec hforest h.replid2).2.1.forest
  · exact hforest

theorem exists_foldlM_joinLineageWithin (holders : List RedisNodeState) :
    ∃ needed, ∀ calls ≥ needed,
      holders.foldlM (joinLineageWithin calls) parent = some (holders.foldl joinLineage parent) := by
  induction holders generalizing parent with
  | nil => exact ⟨0, fun _ _ => rfl⟩
  | cons h rest ih =>
    obtain ⟨needed, hjoin⟩ := exists_joinLineageWithin hforest h
    obtain ⟨needed', hrest⟩ := ih (forest_joinLineage hforest h)
    refine ⟨max needed needed', fun calls hcalls => ?_⟩
    rw [foldlM_cons, hjoin calls (le_of_max_le_left hcalls), bind_eq_bind, bind_some,
      hrest calls (le_of_max_le_right hcalls), foldl_cons]

theorem exists_lineageWithin (i : ℕ) (h : RedisNodeState) :
    (∃ needed, ∀ calls ≥ needed, lineageWithin calls parent i h = some (lineageOf parent i h)) ∧
      Forest (parents (lineageOf parent i h).2) := by
  unfold lineageWithin lineageOf
  split
  · exact ⟨exists_findWithin hforest h.replid, (find_spec hforest h.replid).2.1.forest⟩
  split
  · exact ⟨exists_findWithin hforest h.replid2, (find_spec hforest h.replid2).2.1.forest⟩
  · exact ⟨⟨0, fun _ _ => rfl⟩, hforest⟩

theorem exists_lineagesWithin (i : ℕ) (holders : List RedisNodeState) :
    ∃ needed, ∀ calls ≥ needed, lineagesWithin calls parent i holders =
      some (lineagesFrom parent i holders) := by
  induction holders generalizing parent i with
  | nil => exact ⟨0, fun _ _ => rfl⟩
  | cons h rest ih =>
    obtain ⟨⟨needed, hlineage⟩, hforest'⟩ := exists_lineageWithin hforest i h
    obtain ⟨needed', hrest⟩ := ih hforest' (i + 1)
    refine ⟨max needed needed', fun calls hcalls => ?_⟩
    rw [lineagesWithin, hlineage calls (le_of_max_le_left hcalls), bind_some,
      hrest calls (le_of_max_le_right hcalls)]
    rfl

end

/-- So the test ends with the modelled result. -/
theorem exists_holdersDivergedWithin (holders : List RedisNodeState) :
    ∃ needed, ∀ calls ≥ needed, holdersDivergedWithin calls holders = some (holdersDiverged holders) := by
  have hempty : Forest (parents ∅) := (represents_empty (α := String)).1
  obtain ⟨needed, hfirst⟩ := exists_foldlM_joinLineageWithin hempty holders
  obtain ⟨needed', hsecond⟩ := exists_lineagesWithin (foldl_joinLineage holders).1 0 holders
  refine ⟨max needed needed', fun calls hcalls => ?_⟩
  rw [holdersDivergedWithin, hfirst calls (le_of_max_le_left hcalls), bind_some,
    hsecond calls (le_of_max_le_right hcalls)]
  rfl

end Recursion

section Classes

variable {holders holders' : List RedisNodeState}

/-- The IDs are linked by a chain of holders that each report both ends of a link. -/
def Linked (holders : List RedisNodeState) : String → String → Prop :=
  Connected fun a b => ∃ h ∈ holders, JoinedBy h a b

/-- Two places of the list have holders of one class: it is one place, or they report linked IDs. -/
def SameClass (holders : List RedisNodeState) (i j : ℕ) : Prop :=
  i = j ∨ ∃ h h', holders[i]? = some h ∧ holders[j]? = some h' ∧
    ∃ a ∈ h.ids, ∃ b ∈ h'.ids, Linked holders a b

/-- IDs of one holder are linked. -/
theorem linked_of_mem_ids {h : RedisNodeState} (hh : h ∈ holders) {a b : String} (ha : a ∈ h.ids)
    (hb : b ∈ h.ids) : Linked holders a b := by
  obtain ⟨hfirst, hvalid⟩ := mem_ids.mp ha
  obtain ⟨hsecond, hvalid'⟩ := mem_ids.mp hb
  rcases hfirst with rfl | rfl
  · rcases hsecond with rfl | rfl
    · exact .refl
    · exact .single (.inl ⟨h, hh, hvalid, hvalid', rfl, rfl⟩)
  · rcases hsecond with rfl | rfl
    · exact .single (.inr ⟨h, hh, hvalid', hvalid, rfl, rfl⟩)
    · exact .refl

/-- The classes are those of an equivalence. -/
theorem sameClass_equivalence (holders : List RedisNodeState) : Equivalence (SameClass holders) where
  refl _ := .inl rfl
  symm := by
    rintro i j (rfl | ⟨h, h', hi, hj, a, ha, b, hb, hlinked⟩)
    · exact .inl rfl
    · exact .inr ⟨h', h, hj, hi, b, hb, a, ha, hlinked.symm⟩
  trans := by
    rintro i j k (rfl | ⟨h, h', hi, hj, a, ha, b, hb, hlinked⟩) hjk
    · exact hjk
    · rcases hjk with rfl | ⟨g, g', hj', hk, c, hc, d, hd, hlinked'⟩
      · exact .inr ⟨h, h', hi, hj, a, ha, b, hb, hlinked⟩
      · cases hj.symm.trans hj'
        have hmiddle := linked_of_mem_ids (mem_of_getElem? hj) hb hc
        exact .inr ⟨h, g', hi, hk, a, ha, d, hd, (hlinked.trans hmiddle).trans hlinked'⟩

/-- No divergence is one class. -/
theorem holdersDiverged_eq_false_iff_sameClass (hproper : ProperIDs holders) :
    holdersDiverged holders = false ↔ ∀ i < holders.length, ∀ j < holders.length, SameClass holders i j := by
  obtain ⟨root, hroots⟩ := exists_lineageRoots holders
  rw [hroots.undiverged]
  constructor
  · intro hsame i hi j hj
    have hfirst : holders[i]? = some holders[i] := List.getElem?_eq_getElem hi
    have hsecond : holders[j]? = some holders[j] := List.getElem?_eq_getElem hj
    by_cases hij : i = j
    · exact .inl hij
    · exact .inr ⟨_, _, hfirst, hsecond, hroots.exists_connected hproper (getElem_mem hi)
        (getElem_mem hj) hij (hsame _ i hfirst _ j hsecond)⟩
  · intro hclass h i hi h' j hj
    rcases hclass i (List.getElem?_eq_some_iff.mp hi).1 j (List.getElem?_eq_some_iff.mp hj).1 with
      rfl | ⟨g, g', hi', hj', a, ha, b, hb, hlinked⟩
    · rw [Option.some.inj (hi.symm.trans hj)]
    · cases hi.symm.trans hi'
      cases hj.symm.trans hj'
      have hroot : ∀ h ∈ holders, ∀ a b, JoinedBy h a b → root a = root b :=
        fun _ hh _ _ => hroots.joined hh
      rw [lineageLabel_of_mem_ids hroot (mem_of_getElem? hi) ha,
        lineageLabel_of_mem_ids hroot (mem_of_getElem? hj) hb]
      exact (hroots.classes a b).mpr hlinked

/-- Different holders of one class have linked IDs. -/
theorem SameClass.exists_ids {i j : ℕ} (hclass : SameClass holders i j) (hij : i ≠ j) {h h' : RedisNodeState}
    (hi : holders[i]? = some h) (hj : holders[j]? = some h') :
    ∃ a ∈ h.ids, ∃ b ∈ h'.ids, Linked holders a b := by
  rcases hclass with rfl | ⟨g, g', hi', hj', hlinked⟩
  · exact absurd rfl hij
  · cases hi.symm.trans hi'
    cases hj.symm.trans hj'
    exact hlinked

/-- All are in one class when any two have linked IDs. -/
theorem sameClass_iff_linked :
    (∀ i < holders.length, ∀ j < holders.length, SameClass holders i j) ↔ holders.length ≤ 1 ∨
        ∀ h ∈ holders, ∀ h' ∈ holders, ∃ a ∈ h.ids, ∃ b ∈ h'.ids, Linked holders a b := by
  constructor
  · intro hclass
    by_cases hone : holders.length ≤ 1
    · exact .inl hone
    refine .inr fun h hh h' hh' => ?_
    obtain ⟨i, hi, rfl⟩ := getElem_of_mem hh
    obtain ⟨j, hj, rfl⟩ := getElem_of_mem hh'
    by_cases hij : i = j
    · -- the holder is in one class with some other place, and its ID there is linked with itself
      subst hij
      obtain ⟨k, hk, hik⟩ : ∃ k < holders.length, i ≠ k := by
        by_cases hzero : i = 0
        · exact ⟨1, by omega, by omega⟩
        · exact ⟨0, by omega, hzero⟩
      obtain ⟨a, ha, -⟩ := (hclass i hi k hk).exists_ids hik (List.getElem?_eq_getElem hi)
        (List.getElem?_eq_getElem hk)
      exact ⟨a, ha, a, ha, .refl⟩
    · exact (hclass i hi j hj).exists_ids hij (List.getElem?_eq_getElem hi) (List.getElem?_eq_getElem hj)
  · rintro (hone | hlinked) i hi j hj
    · exact .inl (by omega)
    · exact .inr ⟨_, _, List.getElem?_eq_getElem hi, List.getElem?_eq_getElem hj,
        hlinked _ (getElem_mem hi) _ (getElem_mem hj)⟩

/-- The order does not matter. -/
theorem holdersDiverged_perm (hperm : holders.Perm holders') (hproper : ProperIDs holders) :
    holdersDiverged holders' = holdersDiverged holders := by
  have hproper' : ProperIDs holders' := fun h hh => hproper h (hperm.mem_iff.mpr hh)
  have hlinked : Linked holders = Linked holders' := by
    simp only [Linked, hperm.mem_iff]
  rw [Bool.eq_iff_iff, ← not_iff_not, Bool.not_eq_true, Bool.not_eq_true,
    holdersDiverged_eq_false_iff_sameClass hproper', holdersDiverged_eq_false_iff_sameClass hproper,
    sameClass_iff_linked, sameClass_iff_linked, hlinked, hperm.length_eq]
  simp only [hperm.mem_iff]

end Classes

/-- The test ends, and holds when the holders fall into more than one class of linked IDs, in
whatever order; one without an ID is a class of its own. -/
theorem holdersDiverged_counts_classes (holders : List RedisNodeState) :
    (∃ needed, ∀ calls ≥ needed, holdersDivergedWithin calls holders = some (holdersDiverged holders)) ∧
      Equivalence (SameClass holders) ∧ (ProperIDs holders → (holdersDiverged holders = true ↔
          ∃ i < holders.length, ∃ j < holders.length, ¬SameClass holders i j) ∧
        ∀ holders', holders.Perm holders' → holdersDiverged holders' = holdersDiverged holders) := by
  refine ⟨exists_holdersDivergedWithin holders, sameClass_equivalence holders, fun hproper => ⟨?_, ?_⟩⟩
  · rw [← Bool.not_eq_false, holdersDiverged_eq_false_iff_sameClass hproper]
    push Not
    rfl
  · exact fun holders' hperm => holdersDiverged_perm hperm hproper

/-- A holder with two IDs. -/
def holderOf (podName replid replid2 : String) : RedisNodeState :=
  ⟨podName, podName, "slave", "", "", 7, 3, replid, replid2, true, .ok⟩

/-- Two holders with a common ID, and one without. -/
def splitHolders : List RedisNodeState :=
  [holderOf "lr-redis-0" "9d41" "8f3c", holderOf "lr-redis-1" "" "",
    holderOf "lr-redis-2" "c27a" "8f3c"]

/-- They fall into two classes, in whatever order they stand. -/
theorem splitHolders_diverged :
    (∃ i < splitHolders.length, ∃ j < splitHolders.length, ¬SameClass splitHolders i j) ∧
      holdersDiverged splitHolders.reverse = true := by
  have hdiverged : holdersDiverged splitHolders = true := by decide
  obtain ⟨hcounts, hperm⟩ := (holdersDiverged_counts_classes splitHolders).2.2 (properIDs_of_head (by decide))
  refine ⟨hcounts.mp hdiverged, ?_⟩
  rw [hperm _ (reverse_perm _).symm, hdiverged]

end LittleRed.Replication
