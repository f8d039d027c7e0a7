import LittleRed.Lib.Forest
import LittleRed.Replication.State

/-!
# Lineages of the data holders

`holdersDiverged` joins the replication IDs that one holder reports, and counts the classes that
the holders fall into. A holder without an ID is a class of its own, under a name that no
replication ID has. The verdict is then that of the relation of sharing an ID.
-/

namespace LittleRed.Replication

open Lib Relation List Function

/-- The parent of an ID. -/
def parents (m : GoMap String String) : String → Option String := fun x => m.lookup x

/-- An insertion is an update. -/
theorem parents_insert (m : GoMap String String) (x p : String) :
    parents (m.insert x p) = update (parents m) x (some p) := by
  funext y
  by_cases hyx : y = x
  · subst hyx
    rw [update_self]
    exact AList.lookup_insert m
  · rw [update_of_ne hyx]
    exact AList.lookup_insert_ne hyx

/-- The map has the classes of the one before, and has seen what that one has. -/
structure SameClasses (before after : GoMap String String) : Prop where
  forest : Forest (parents after)
  roots : ∀ y, rootOf (parents after) y = rootOf (parents before) y
  seen : ∀ y, parents before y ≠ none → parents after y ≠ none

/-- Every forest has its own classes. -/
theorem SameClasses.refl {m : GoMap String String} (h : Forest (parents m)) : SameClasses m m :=
  ⟨h, fun _ => rfl, fun _ => id⟩

/-- Sameness of classes is transitive. -/
theorem SameClasses.trans {m₁ m₂ m₃ : GoMap String String} (h : SameClasses m₁ m₂)
    (h' : SameClasses m₂ m₃) : SameClasses m₁ m₃ :=
  ⟨h'.forest, fun y => (h'.roots y).trans (h.roots y), fun y hy => h'.seen y (h.seen y hy)⟩

/-- What is seen later has the same root. -/
theorem SameClasses.exists_rootIn {m m' : GoMap String String} (h : SameClasses m m') {x : String}
    (hx : parents m' x ≠ none) : ∃ n, RootIn (parents m') n x (rootOf (parents m) x) := by
  obtain ⟨n, r, hroot⟩ := h.forest x hx
  rw [← h.roots x, hroot.rootOf_eq]
  exact ⟨n, hroot⟩

variable {parent : GoMap String String}

/-- The search finds the root and keeps the classes. -/
theorem findRoot_spec {fuel n : ℕ} {x r : String} (hforest : Forest (parents parent))
    (hroot : RootIn (parents parent) n x r) (hfuel : n < fuel) :
    (findRoot fuel parent x).1 = r ∧ SameClasses parent (findRoot fuel parent x).2 := by
  induction hroot generalizing fuel with
  | @root r hself =>
    obtain ⟨fuel, rfl⟩ := Nat.exists_eq_succ_of_ne_zero (Nat.ne_of_gt hfuel)
    have hlookup : parent.lookup r = some r := hself
    rw [findRoot, hlookup]
    simp only [ne_eq, not_true_eq_false, if_false, true_and]
    exact .refl hforest
  | @step n x p r hparent hne hroot ih =>
    obtain ⟨fuel, rfl⟩ := Nat.exists_eq_succ_of_ne_zero (Nat.ne_of_gt (Nat.zero_lt_of_lt hfuel))
    have hlookup : parent.lookup x = some p := hparent
    obtain ⟨hfound, hclasses⟩ := ih (Nat.lt_of_succ_lt_succ hfuel)
    rw [findRoot, hlookup]
    simp only [ne_eq, hne, not_false_eq_true, if_true, hfound, true_and]
    obtain ⟨k, hk⟩ := hclasses.exists_rootIn (hclasses.seen x (by rw [hparent]; exact nofun))
    rw [(RootIn.step hparent hne hroot).rootOf_eq] at hk
    obtain ⟨hforest', hroots'⟩ := hclasses.forest.compress hk
    refine hclasses.trans ⟨?_, fun y => ?_, fun y hy => ?_⟩
    · rwa [parents_insert]
    · rw [parents_insert]
      exact hroots' y
    · rw [parents_insert]
      by_cases hyx : y = x
      · rw [hyx, update_self]
        exact nofun
      · rwa [update_of_ne hyx]

/-- So does the search that registers what is new. -/
theorem find_spec (hforest : Forest (parents parent)) (x : String) :
    (find parent x).1 = rootOf (parents parent) x ∧ SameClasses parent (find parent x).2 ∧
      parents (find parent x).2 x ≠ none := by
  cases hlookup : parent.lookup x with
  | none =>
    have hnone : parents parent x = none := hlookup
    obtain ⟨hforest', hroots'⟩ := hforest.register hnone
    rw [find, findRoot, hlookup]
    refine ⟨(rootOf_of_none hnone).symm, ⟨?_, fun y => ?_, fun y hy => ?_⟩, ?_⟩
    · rwa [parents_insert]
    · rw [parents_insert]
      exact hroots' y
    · have hyx : y ≠ x := by
        rintro rfl
        exact hy hnone
      rwa [parents_insert, update_of_ne hyx]
    · rw [parents_insert, update_self]
      exact nofun
  | some p =>
    have hseen : parents parent x ≠ none := by
      rw [show parents parent x = some p from hlookup]
      exact nofun
    obtain ⟨n, r, hroot⟩ := hforest x hseen
    have hkeys : ∀ y, parents parent y ≠ none → y ∈ parent.keys := by
      intro y hy
      exact AList.lookup_isSome.mp (Option.isSome_iff_ne_none.mpr hy)
    obtain ⟨hfound, hclasses⟩ :=
      findRoot_spec hforest hroot (Nat.lt_succ_of_lt (hroot.lt_length hkeys))
    exact ⟨hfound.trans hroot.rootOf_eq.symm, hclasses, hclasses.seen x hseen⟩

/-- A union joins two classes. -/
theorem union_spec (hforest : Forest (parents parent)) (a b : String) :
    Forest (parents (union parent a b)) ∧ ∀ z, rootOf (parents (union parent a b)) z =
        if rootOf (parents parent) z = rootOf (parents parent) a then rootOf (parents parent) b
        else rootOf (parents parent) z := by
  obtain ⟨hrootA, hclasses, hseenA⟩ := find_spec hforest a
  obtain ⟨hrootB, hclasses', hseenB⟩ := find_spec hclasses.forest b
  have hboth := hclasses.trans hclasses'
  obtain ⟨n, hn⟩ := hboth.exists_rootIn (hclasses'.seen a hseenA)
  obtain ⟨m, hm⟩ := hboth.exists_rootIn hseenB
  obtain ⟨hlinked, hroots⟩ := hboth.forest.link hn.parent_root hm.parent_root
  have hunion : parents (union parent a b) =
      update (parents (find (find parent a).2 b).2) (rootOf (parents parent) a)
        (some (rootOf (parents parent) b)) := by
    rw [← hclasses.roots b, ← hrootA, ← hrootB, ← parents_insert]
    rfl
  rw [hunion]
  refine ⟨hlinked, fun z => ?_⟩
  rw [hroots z, hboth.roots z]

/-- A holder reports both IDs. -/
def JoinedBy (h : RedisNodeState) (a b : String) : Prop :=
  isZeroReplid h.replid = false ∧ isZeroReplid h.replid2 = false ∧ a = h.replid ∧ b = h.replid2

/-- A holder joins its IDs. -/
theorem joinLineage_spec {edges : String → String → Prop} (hparent : Represents (parents parent) edges)
    (h : RedisNodeState) :
    Represents (parents (joinLineage parent h)) fun a b => edges a b ∨ JoinedBy h a b := by
  have hunjoined : (isZeroReplid h.replid && isZeroReplid h.replid2) = true ∨
      isZeroReplid h.replid = true ∨ isZeroReplid h.replid2 = true →
        ∀ m : GoMap String String, SameClasses parent m →
          Represents (parents m) fun a b => edges a b ∨ JoinedBy h a b := by
    intro hzero m hm
    have hsame : (fun a b => edges a b ∨ JoinedBy h a b) = edges := by
      funext a b
      refine propext (or_iff_left ?_)
      rintro ⟨hfirst, hsecond, -⟩
      simp [hfirst, hsecond] at hzero
    rw [hsame]
    exact hparent.congr hm.forest hm.roots
  unfold joinLineage
  cases hfirst : isZeroReplid h.replid with
  | false =>
    cases hsecond : isZeroReplid h.replid2 with
    | false =>
      obtain ⟨hforest, hroots⟩ := union_spec hparent.1 h.replid h.replid2
      have hedge : (fun a b => edges a b ∨ JoinedBy h a b) =
          fun a b => edges a b ∨ (a = h.replid ∧ b = h.replid2) := by
        funext a b
        simp [JoinedBy, hfirst, hsecond]
      rw [hedge]
      exact hparent.link hforest hroots
    | true =>
      exact hunjoined (by simp [hsecond]) _ (find_spec hparent.1 h.replid).2.1
  | true =>
    cases hsecond : isZeroReplid h.replid2 with
    | false => exact hunjoined (by simp [hfirst]) _ (find_spec hparent.1 h.replid2).2.1
    | true => exact hunjoined (by simp [hfirst]) _ (.refl hparent.1)

/-- The holders join their IDs. -/
theorem foldl_joinLineage (holders : List RedisNodeState) :
    Represents (parents (holders.foldl joinLineage ∅)) fun a b => ∃ h ∈ holders, JoinedBy h a b := by
  have hfold : ∀ (holders : List RedisNodeState) (parent : GoMap String String)
      (edges : String → String → Prop), Represents (parents parent) edges →
        Represents (parents (holders.foldl joinLineage parent))
          fun a b => edges a b ∨ ∃ h ∈ holders, JoinedBy h a b := by
    intro holders
    induction holders with
    | nil => simp
    | cons h rest ih =>
      intro parent edges hparent
      have hrest := ih _ _ (joinLineage_spec hparent h)
      simpa only [foldl_cons, exists_mem_cons_iff, or_assoc] using hrest
  have hempty : Represents (parents ∅) fun _ _ => False := represents_empty
  simpa only [false_or] using hfold holders ∅ _ hempty

/-- The class of a holder; one without IDs has a name by its position. -/
def lineageLabel (root : String → String) (h : RedisNodeState) (i : ℕ) : String :=
  if !isZeroReplid h.replid then root h.replid
  else if !isZeroReplid h.replid2 then root h.replid2
  else "__noreplid_" ++ toString i

/-- The labels are by roots. -/
theorem lineagesFrom_eq (hforest : Forest (parents parent)) (i : ℕ) (holders : List RedisNodeState) :
    lineagesFrom parent i holders =
      (holders.zipIdx i).map fun entry => lineageLabel (rootOf (parents parent)) entry.1 entry.2 := by
  induction holders generalizing parent i with
  | nil => rfl
  | cons h rest ih =>
    have hlineage : (lineageOf parent i h).1 = lineageLabel (rootOf (parents parent)) h i ∧
        SameClasses parent (lineageOf parent i h).2 := by
      unfold lineageOf lineageLabel
      cases hfirst : isZeroReplid h.replid with
      | false =>
        obtain ⟨hroot, hclasses, -⟩ := find_spec hforest h.replid
        exact ⟨hroot, hclasses⟩
      | true =>
        cases hsecond : isZeroReplid h.replid2 with
        | false =>
          obtain ⟨hroot, hclasses, -⟩ := find_spec hforest h.replid2
          exact ⟨hroot, hclasses⟩
        | true => exact ⟨rfl, .refl hforest⟩
    have hroots : rootOf (parents (lineageOf parent i h).2) = rootOf (parents parent) :=
      funext hlineage.2.roots
    rw [lineagesFrom, zipIdx_cons, map_cons]
    simp only [hlineage.1, ih hlineage.2.forest, hroots]

/-- The IDs that a holder has. -/
def RedisNodeState.ids (h : RedisNodeState) : List String :=
  [h.replid, h.replid2].filter (!isZeroReplid ·)

/-- Two nodes have an ID in common. -/
def ShareReplid (h h' : RedisNodeState) : Prop := ∃ id ∈ h.ids, id ∈ h'.ids

/-- The holders belong to one component of the relation of sharing a replication ID. -/
def OneLineage (holders : List RedisNodeState) : Prop :=
  ∀ h ∈ holders, ∀ h' ∈ holders,
    ReflTransGen (fun a b => a ∈ holders ∧ b ∈ holders ∧ ShareReplid a b) h h'

/-- No replication ID is one of the names that stand for holders without an ID. -/
def ProperIDs (holders : List RedisNodeState) : Prop :=
  ∀ h ∈ holders, ∀ id ∈ h.ids, ∀ i : ℕ, id ≠ "__noreplid_" ++ toString i

/-- IDs that do not begin with an underscore are proper. -/
theorem properIDs_of_head {holders : List RedisNodeState}
    (h : ∀ h ∈ holders, ∀ id ∈ h.ids, id.toList.head? ≠ some '_') : ProperIDs holders := by
  intro holder hholder id hid i hname
  refine h holder hholder id hid ?_
  rw [hname, String.toList_append]
  rfl

/-- The IDs of a node are its replids, except zero ones. -/
theorem mem_ids {h : RedisNodeState} {id : String} :
    id ∈ h.ids ↔ (id = h.replid ∨ id = h.replid2) ∧ isZeroReplid id = false := by
  simp [RedisNodeState.ids]

/-- A holder joins its own IDs. -/
theorem JoinedBy.mem_ids {h : RedisNodeState} {a b : String} (hjoined : JoinedBy h a b) :
    a ∈ h.ids ∧ b ∈ h.ids := by
  obtain ⟨hfirst, hsecond, rfl, rfl⟩ := hjoined
  exact ⟨Replication.mem_ids.mpr ⟨.inl rfl, hfirst⟩, Replication.mem_ids.mpr ⟨.inr rfl, hsecond⟩⟩

section Components

variable {holders : List RedisNodeState} {root : String → String}

variable {a b : String} {h h' : RedisNodeState}

/-- Joined IDs are of one holder. -/
theorem exists_holder_of_joined (h : SymmGen (fun a b => ∃ h ∈ holders, JoinedBy h a b) a b) :
    ∃ h ∈ holders, a ∈ h.ids ∧ b ∈ h.ids := by
  rcases h with ⟨h, hh, hjoined⟩ | ⟨h, hh, hjoined⟩
  · exact ⟨h, hh, hjoined.mem_ids⟩
  · exact ⟨h, hh, hjoined.mem_ids.symm⟩

/-- Connected IDs lead from holder to holder. -/
theorem reflTransGen_of_connected (hab : Connected (fun a b => ∃ h ∈ holders, JoinedBy h a b) a b)
    (hh : h ∈ holders) (hh' : h' ∈ holders) (ha : a ∈ h.ids) (hb : b ∈ h'.ids) :
    ReflTransGen (fun a b => a ∈ holders ∧ b ∈ holders ∧ ShareReplid a b) h h' := by
  induction hab generalizing h' with
  | refl => exact .single ⟨hh, hh', a, ha, hb⟩
  | tail _ hlast ih =>
    obtain ⟨middle, hmiddle, hleft, hright⟩ := exists_holder_of_joined hlast
    exact (ih hmiddle hleft).tail ⟨hmiddle, hh', _, hright, hb⟩

/-- Every ID of a holder has its label. -/
theorem lineageLabel_of_mem_ids (hroot : ∀ h ∈ holders, ∀ a b, JoinedBy h a b → root a = root b)
    (hh : h ∈ holders) {id : String} (hid : id ∈ h.ids) (i : ℕ) : lineageLabel root h i = root id := by
  obtain ⟨hmem, hvalid⟩ := mem_ids.mp hid
  unfold lineageLabel
  rcases hmem with rfl | rfl
  · simp [hvalid]
  · cases hfirst : isZeroReplid h.replid with
    | true => simp [hvalid]
    | false => exact hroot h hh _ _ ⟨hfirst, hvalid, rfl, rfl⟩

/-- Holders that lead to each other have one label. -/
theorem lineageLabel_eq_of_reflTransGen (hroot : ∀ h ∈ holders, ∀ a b, JoinedBy h a b → root a = root b)
    (hpath : ReflTransGen (fun a b => a ∈ holders ∧ b ∈ holders ∧ ShareReplid a b) h h') :
    h = h' ∨ ∀ i j, lineageLabel root h i = lineageLabel root h' j := by
  induction hpath with
  | refl => exact .inl rfl
  | @tail middle last _ hlast ih =>
    obtain ⟨hmiddle, hlastMem, id, hid, hid'⟩ := hlast
    have hlabel : ∀ i j, lineageLabel root middle i = lineageLabel root last j := fun i j => by
      rw [lineageLabel_of_mem_ids hroot hmiddle hid i, lineageLabel_of_mem_ids hroot hlastMem hid' j]
    rcases ih with rfl | hsame
    · exact .inr hlabel
    · exact .inr fun i j => (hsame i 0).trans (hlabel 0 j)

/-- A holder without IDs is labelled by its position. -/
theorem lineageLabel_of_no_ids (hempty : h.ids = []) (i : ℕ) :
    lineageLabel root h i = "__noreplid_" ++ toString i := by
  simp only [RedisNodeState.ids, filter_eq_nil_iff, forall_mem_cons, Bool.not_eq_true',
    Bool.not_eq_false] at hempty
  simp [lineageLabel, hempty.1, hempty.2.1]

end Components

/-- At most one label is when all are equal. -/
theorem length_dedup_le_one_iff {labels : List String} :
    labels.dedup.length ≤ 1 ↔ ∀ a ∈ labels, ∀ b ∈ labels, a = b := by
  constructor
  · intro hlength a ha b hb
    rw [← mem_dedup] at ha hb
    obtain ⟨c, hc⟩ : ∃ c, ∀ a ∈ labels.dedup, a = c := by
      cases hdedup : labels.dedup with
      | nil => exact ⟨a, by simp⟩
      | cons c rest =>
        rw [hdedup, length_cons] at hlength
        obtain rfl : rest = [] := eq_nil_of_length_eq_zero (by omega)
        exact ⟨c, by simp⟩
    rw [hc a ha, hc b hb]
  · intro hall
    have hnodup := labels.nodup_dedup
    cases hdedup : labels.dedup with
    | nil => exact Nat.zero_le 1
    | cons a rest =>
      cases rest with
      | nil => exact le_refl 1
      | cons b others =>
        have hmem : ∀ c ∈ a :: b :: others, c ∈ labels := fun c hc => mem_dedup.mp (hdedup ▸ hc)
        rw [hdedup, nodup_cons] at hnodup
        refine absurd ?_ hnodup.1
        rw [hall a (hmem a (by simp)) b (hmem b (by simp))]
        exact mem_cons_self

/-- Roots that stand for the classes of the replication IDs, and by which the holders are counted. -/
structure LineageRoots (holders : List RedisNodeState) (root : String → String) : Prop where
  classes : ∀ a b, root a = root b ↔ Connected (fun a b => ∃ h ∈ holders, JoinedBy h a b) a b
  idem : ∀ a, root (root a) = root a
  undiverged : holdersDiverged holders = false ↔
    ∀ h i, holders[i]? = some h → ∀ h' j, holders[j]? = some h' →
      lineageLabel root h i = lineageLabel root h' j

/-- The loop gives roots for all IDs. -/
theorem exists_lineageRoots (holders : List RedisNodeState) : ∃ root, LineageRoots holders root := by
  obtain ⟨hforest, hclasses⟩ := foldl_joinLineage holders
  refine ⟨_, hclasses, hforest.rootOf_rootOf, ?_⟩
  rw [holdersDiverged, decide_eq_false_iff_not, Nat.not_lt, lineagesFrom_eq hforest, length_dedup_le_one_iff]
  simp only [forall_mem_map, mem_zipIdx_iff_getElem?, Prod.forall]

namespace LineageRoots

variable {holders : List RedisNodeState} {root : String → String}

variable (hroots : LineageRoots holders root)
include hroots

/-- What a holder joins has one root. -/
theorem joined {h : RedisNodeState} (hh : h ∈ holders) {a b : String} (hjoined : JoinedBy h a b) :
    root a = root b :=
  (hroots.classes a b).mpr (.single (.inl ⟨h, hh, hjoined⟩))

/-- No root has the name for a missing ID. -/
theorem named (hproper : ProperIDs holders) {h : RedisNodeState} (hh : h ∈ holders) {id : String}
    (hid : id ∈ h.ids) (i : ℕ) : root id ≠ "__noreplid_" ++ toString i := by
  have hconnected := (hroots.classes id (root id)).mp (hroots.idem id).symm
  rcases hconnected.cases_tail with hself | ⟨_, _, hlast⟩
  · rw [hself]
    exact hproper h hh id hid i
  · obtain ⟨other, hother, -, hmem⟩ := exists_holder_of_joined hlast
    exact hproper other hother _ hmem i

/-- Equal labels come from connected IDs. -/
theorem exists_connected (hproper : ProperIDs holders) {h h' : RedisNodeState} (hh : h ∈ holders)
    (hh' : h' ∈ holders) {i j : ℕ} (hij : i ≠ j) (hequal : lineageLabel root h i = lineageLabel root h' j) :
    ∃ a ∈ h.ids, ∃ b ∈ h'.ids, Connected (fun a b => ∃ h ∈ holders, JoinedBy h a b) a b := by
  have hroot : ∀ h ∈ holders, ∀ a b, JoinedBy h a b → root a = root b := fun _ hh _ _ => hroots.joined hh
  cases hids : h.ids with
  | nil =>
    rw [lineageLabel_of_no_ids hids] at hequal
    cases hids' : h'.ids with
    | nil =>
      rw [lineageLabel_of_no_ids hids'] at hequal
      exact absurd (toString_injective (by simpa using hequal)) hij
    | cons id' rest' =>
      have hid' : id' ∈ h'.ids := by simp [hids']
      rw [lineageLabel_of_mem_ids hroot hh' hid'] at hequal
      exact absurd hequal.symm (hroots.named hproper hh' hid' i)
  | cons id rest =>
    have hid : id ∈ h.ids := by simp [hids]
    rw [lineageLabel_of_mem_ids hroot hh hid] at hequal
    cases hids' : h'.ids with
    | nil =>
      rw [lineageLabel_of_no_ids hids'] at hequal
      exact absurd hequal (hroots.named hproper hh hid j)
    | cons id' rest' =>
      have hid' : id' ∈ h'.ids := by simp [hids']
      rw [lineageLabel_of_mem_ids hroot hh' hid'] at hequal
      exact ⟨id, mem_cons_self, id', mem_cons_self, (hroots.classes id id').mp hequal⟩

end LineageRoots

/-- The holders do not diverge exactly when they have one lineage. -/
theorem holdersDiverged_eq_false_iff {holders : List RedisNodeState} (hnodup : holders.Nodup)
    (hproper : ProperIDs holders) : holdersDiverged holders = false ↔ OneLineage holders := by
  obtain ⟨root, hroots⟩ := exists_lineageRoots holders
  rw [hroots.undiverged]
  constructor
  · intro hsame h hh h' hh'
    obtain ⟨i, hi⟩ := mem_iff_getElem?.mp hh
    obtain ⟨j, hj⟩ := mem_iff_getElem?.mp hh'
    by_cases hij : i = j
    · rw [hij, hj] at hi
      rw [Option.some.inj hi]
    · obtain ⟨a, ha, b, hb, hab⟩ := hroots.exists_connected hproper hh hh' hij (hsame h i hi h' j hj)
      exact reflTransGen_of_connected hab hh hh' ha hb
  · intro hone h i hi h' j hj
    have hpath := hone h (mem_of_getElem? hi) h' (mem_of_getElem? hj)
    rcases lineageLabel_eq_of_reflTransGen (fun _ hh _ _ => hroots.joined hh) hpath with rfl | hsame
    · have hilt : i < holders.length := (List.getElem?_eq_some_iff.mp hi).1
      rw [(List.getElem?_inj hilt hnodup).mp (hi.trans hj.symm)]
    · exact hsame i j

end LittleRed.Replication
