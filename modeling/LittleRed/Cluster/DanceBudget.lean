import LittleRed.Cluster.Dance

/-!
# How many keys a pass of the dance migrates

A pass asks for a batch of keys as long as it has migrated fewer than the budget, so the last batch may
overrun it, by all of its keys but one. A ledger follows the calls of a pass with their replies; the keys
that the interleaved system moves are entered in it.
-/

namespace LittleRed.Cluster.Dance

open Lib

/-- A slot was marked, assigned or counted, its keys were listed, or keys were migrated, some also on
failure. -/
inductive Reply (Key : Type*) where
  | told (ok : Bool)
  | counted (count : ℕ) (ok : Bool)
  | keys (keys : List Key) (ok : Bool)
  | migrated (transferred : ℕ) (ok : Bool)

/-- Where a pass stands, with the addresses that it will tell and the number of keys migrated so far. -/
structure Ledger (Key : Type*) where
  masterAddrs : List String
  phase : Phase Key
  migrated : ℕ

section Pass

variable {Key : Type*} (move : Move)

/-- A reply in the ledger. -/
def answer (ledger : Ledger Key) : Reply Key → Option (Ledger Key)
  | .told ok =>
    match ledger.phase with
    | .importing (_ :: rest) failed =>
      some { ledger with phase := importingNext move ledger.masterAddrs rest (failed || !ok) }
    | .migrating (_ :: rest) failed =>
      some { ledger with phase := migratingNext move ledger.masterAddrs rest (failed || !ok) }
    | .flipping (addr :: addrs) (_ :: rest) failed =>
      some { ledger with phase := flipNext move (addr :: addrs) rest (failed || !ok) }
    | _ => none
  | .counted count ok =>
    match ledger.phase with
    | .counting (slot :: rest) counts failed =>
      some { ledger with
        phase := countNext move ledger.masterAddrs rest (counts ++ [(slot, count)]) (failed || !ok) }
    | _ => none
  | .keys keys ok =>
    match ledger.phase with
    | .draining (slot :: rest) moved =>
      if !ok then some { ledger with phase := .idle }
      else if keys.length ≤ move.batch then
        some { ledger with
          phase := if keys.isEmpty then drain move rest moved else .batch keys (slot :: rest) moved }
      else none
    | _ => none
  | .migrated transferred ok =>
    match ledger.phase with
    | .batch keys toDrain moved =>
      if ok then
        some { ledger with
          phase := drain move toDrain (moved + keys.length)
          migrated := ledger.migrated + keys.length }
      else if transferred ≤ keys.length then
        some { ledger with phase := .idle, migrated := ledger.migrated + transferred }
      else none
    | _ => none

def passSystem : System (Ledger Key) (Reply Key) where
  initial ledger :=
    ledger.phase = importingNext move ledger.masterAddrs move.slots false ∧ ledger.migrated = 0
  step := answer move

/-- Nothing before draining, less than the budget during it, and at most the limit with the batch in hand. -/
def Entered (limit migrated : ℕ) : Phase Key → Prop
  | .idle => migrated ≤ limit
  | .draining _ moved => migrated = moved ∧ moved < move.maxKeys
  | .batch keys _ moved => migrated = moved ∧ moved < move.maxKeys ∧ moved + keys.length ≤ limit
  | _ => migrated = 0

/-- A list of keys is no longer than what is left of the budget. -/
def ListFits (ledger : Ledger Key) : Reply Key → Prop
  | .keys keys true => ledger.migrated + keys.length ≤ move.maxKeys
  | _ => True

/-- The keys of the batch, or what was transferred of it on failure. -/
def takes : Phase Key → Reply Key → ℕ
  | .batch keys _ _, .migrated transferred ok => if ok then keys.length else transferred
  | _, _ => 0

/-- A reply takes over no more than what is left of the budget. -/
def Fits (ledger : Ledger Key) (reply : Reply Key) : Prop :=
  ledger.migrated + takes ledger.phase reply ≤ move.maxKeys

instance (ledger : Ledger Key) (reply : Reply Key) : Decidable (Fits move ledger reply) := Nat.decLe _ _

variable {move}

theorem Move.batch_pos (move : Move) : 0 < move.batch := by
  unfold Move.batch
  split <;> omega

variable {limit : ℕ}

variable (masterAddrs : List String) (addrs : List String) (todo : List ℤ) (failed : Bool)

/-- A pass that ends before it drains has migrated nothing. -/
theorem entered_flip : Entered move limit 0 (flip move addrs : Phase Key) := by
  unfold flip
  split
  · exact Nat.zero_le limit
  · rfl

theorem entered_flipNext : Entered move limit 0 (flipNext move addrs todo failed : Phase Key) := by
  unfold flipNext
  split
  · rfl
  split
  · exact Nat.zero_le limit
  · exact entered_flip _

/-- A pass drains only below the budget. -/
theorem entered_drain {moved : ℕ} (h : moved ≤ limit) (toDrain : List ℤ) :
    Entered move limit moved (drain move toDrain moved : Phase Key) := by
  unfold drain
  split
  · exact h
  rename_i hmore
  rw [Bool.or_eq_true, not_or, decide_eq_true_iff] at hmore
  exact ⟨rfl, Nat.lt_of_not_le hmore.2⟩

/-- A pass that counts has migrated nothing. -/
theorem entered_countNext (counts : List (ℤ × ℕ)) (failed : Bool) :
    Entered move limit 0 (countNext move masterAddrs todo counts failed : Phase Key) := by
  unfold countNext
  split
  · rfl
  split
  · exact Nat.zero_le limit
  dsimp only
  split
  · exact entered_flip _
  · exact entered_drain (Nat.zero_le limit) _

/-- A pass that marks slots on the source has migrated nothing. -/
theorem entered_migratingNext :
    Entered move limit 0 (migratingNext move masterAddrs todo failed : Phase Key) := by
  unfold migratingNext
  split
  · rfl
  split
  · exact Nat.zero_le limit
  · exact entered_countNext _ _ _ _

/-- A pass that marks slots on the destination has migrated nothing. -/
theorem entered_importingNext :
    Entered move limit 0 (importingNext move masterAddrs todo failed : Phase Key) := by
  unfold importingNext
  split
  · rfl
  split
  · exact Nat.zero_le limit
  · exact entered_migratingNext _ _ _

variable {ledger ledger' start : Ledger Key} {reply : Reply Key} {replies : List (Reply Key)}

/-- A reply keeps to the limit if a list of keys does. -/
theorem entered_answer (hmax : move.maxKeys ≤ limit) (h : Entered move limit ledger.migrated ledger.phase)
    (hlist : ∀ keys, reply = .keys keys true → ledger.migrated < move.maxKeys → keys.length ≤ move.batch →
      ledger.migrated + keys.length ≤ limit) (hanswer : answer move ledger reply = some ledger') :
    Entered move limit ledger'.migrated ledger'.phase := by
  obtain ⟨masterAddrs, phase, migrated⟩ := ledger
  cases reply with
  | told ok =>
    simp only [answer] at hanswer
    split at hanswer <;> cases hanswer <;> obtain rfl : migrated = 0 := h
    · exact entered_importingNext _ _ _
    · exact entered_migratingNext _ _ _
    · exact entered_flipNext _ _ _
  | counted count ok =>
    simp only [answer] at hanswer
    split at hanswer <;> cases hanswer
    obtain rfl : migrated = 0 := h
    exact entered_countNext _ _ _ _
  | keys keys ok =>
    simp only [answer] at hanswer
    split at hanswer
    · obtain ⟨rfl, hbelow⟩ : migrated = _ ∧ _ := h
      have hroom : migrated ≤ limit := by omega
      split at hanswer
      · cases hanswer
        exact hroom
      · rename_i hok
        split at hanswer <;> cases hanswer
        rename_i hbatch
        split
        · exact entered_drain hroom _
        · obtain rfl : ok = true := by simpa using hok
          exact ⟨rfl, hbelow, hlist keys rfl hbelow hbatch⟩
    · cases hanswer
  | migrated transferred ok =>
    simp only [answer] at hanswer
    split at hanswer
    · obtain ⟨rfl, hbelow, hbatch⟩ : migrated = _ ∧ _ ∧ _ := h
      split at hanswer
      · cases hanswer
        exact entered_drain hbatch _
      · split at hanswer <;> cases hanswer
        change migrated + transferred ≤ limit
        omega
    · cases hanswer

/-- A run whose lists of keys keep to the limit does so as a whole. -/
theorem entered_of_reachable {guard : Ledger Key → Reply Key → Prop} (hmax : move.maxKeys ≤ limit)
    (hlist : ∀ ledger keys, guard ledger (.keys keys true) → ledger.migrated < move.maxKeys →
      keys.length ≤ move.batch → ledger.migrated + keys.length ≤ limit)
    (h : (passSystem move).Reachable guard ledger) : Entered move limit ledger.migrated ledger.phase := by
  refine h.invariant (fun ledger => Entered move limit ledger.migrated ledger.phase) ?_ ?_
  · rintro ledger ⟨hphase, hnone⟩
    rw [hphase, hnone]
    exact entered_importingNext _ _ _
  · rintro ledger reply ledger' hentered hguard hstep
    refine entered_answer hmax hentered (fun keys hreply => ?_) hstep
    exact hlist ledger keys (hreply ▸ hguard)

/-- What is entered is within the limit. -/
theorem Entered.le {migrated : ℕ} {phase : Phase Key} (h : Entered move limit migrated phase)
    (hmax : move.maxKeys ≤ limit) : migrated ≤ limit := by
  cases phase with
  | idle => exact h
  | draining toDrain moved => have hbelow : migrated = moved ∧ _ := h; omega
  | batch keys toDrain moved => have hbelow : migrated = moved ∧ _ := h; omega
  | importing | migrating | counting | flipping =>
    obtain rfl : migrated = 0 := h
    exact Nat.zero_le limit

/-- A pass overruns the budget by less than a batch. -/
theorem entered_overrun (h : (passSystem move).Reachable System.anyStep ledger) :
    Entered move (move.maxKeys + move.batch - 1) ledger.migrated ledger.phase := by
  have hpos := move.batch_pos
  exact entered_of_reachable (by omega) (fun ledger keys _ hbelow hbatch => by omega) h

/-- A pass migrates fewer keys than the budget and a batch. -/
theorem migrated_lt (h : (passSystem move).Reachable System.anyStep ledger) :
    ledger.migrated < move.maxKeys + move.batch := by
  have hpos := move.batch_pos
  have hle := (entered_overrun h).le (by omega)
  omega

/-- What a reply takes over is entered. -/
theorem migrated_answer (h : answer move ledger reply = some ledger') :
    ledger'.migrated = ledger.migrated + takes ledger.phase reply := by
  obtain ⟨masterAddrs, phase, migrated⟩ := ledger
  cases reply with
  | told ok =>
    simp only [answer] at h
    split at h <;> cases h <;> rfl
  | counted count ok =>
    simp only [answer] at h
    split at h <;> cases h
    rfl
  | keys keys ok =>
    simp only [answer] at h
    split at h
    · split at h
      · cases h
        rfl
      · split at h <;> cases h
        rfl
    · cases h
  | migrated transferred ok =>
    simp only [answer] at h
    split at h
    · cases ok with
      | true =>
        cases h
        rfl
      | false =>
        simp only [Bool.false_eq_true, if_false] at h
        split at h <;> cases h
        rfl
    · cases h

/-- No reply takes anything back. -/
theorem migrated_le_follow (h : (passSystem move).follow ledger replies = some ledger') :
    ledger.migrated ≤ ledger'.migrated := by
  induction replies generalizing ledger with
  | nil =>
    cases h
    exact Nat.le_refl _
  | cons reply rest ih =>
    obtain ⟨next, hanswer, hrest⟩ := System.follow_cons.mp h
    have hle := ih hrest
    have hnext := migrated_answer hanswer
    omega

/-- A pass keeps to the budget exactly if every reply of it fits. -/
theorem within_iff_along (hwithin : start.migrated ≤ move.maxKeys)
    (h : (passSystem move).follow start replies = some ledger) :
    ledger.migrated ≤ move.maxKeys ↔ (passSystem move).Along (Fits move) start replies := by
  induction replies generalizing start with
  | nil =>
    cases h
    exact iff_of_true hwithin trivial
  | cons reply rest ih =>
    obtain ⟨next, hanswer, hrest⟩ := System.follow_cons.mp h
    have hfits : next.migrated ≤ move.maxKeys ↔ Fits move start reply := by rw [migrated_answer hanswer, Fits]
    constructor
    · intro hle
      have hnext := (migrated_le_follow hrest).trans hle
      refine ⟨hfits.mp hnext, fun other hother => ?_⟩
      cases hanswer.symm.trans hother
      exact (ih hnext hrest).mp hle
    · rintro ⟨hfit, halong⟩
      exact (ih (hfits.mpr hfit) hrest).mpr (halong next hanswer)

/-- A list of keys that is migrated as a whole fits if its migration does. -/
theorem listFits_of_fits {rest : List (Reply Key)} {next : Ledger Key}
    (hreach : (passSystem move).Reachable System.anyStep ledger) (hanswer : answer move ledger reply =
      some next) (hrest : (passSystem move).follow next rest = some ledger') (hidle : ledger'.phase = .idle)
    (hok : ∀ transferred, Reply.migrated transferred false ∉ rest)
    (halong : (passSystem move).Along (Fits move) next rest) : ListFits move ledger reply := by
  cases reply with
  | told | counted | migrated => trivial
  | keys keys ok =>
    cases ok with
    | false => trivial
    | true =>
      have hentered := entered_overrun hreach
      obtain ⟨masterAddrs, phase, migrated⟩ := ledger
      simp only [answer] at hanswer
      split at hanswer
      · obtain ⟨rfl, hbelow⟩ : migrated = _ ∧ _ := hentered
        simp only [Bool.not_true, Bool.false_eq_true, if_false] at hanswer
        split at hanswer <;> cases hanswer
        cases keys with
        | nil => exact Nat.le_of_lt hbelow
        | cons key keys =>
          -- The batch in hand is not the end of the pass, so its migration follows.
          cases rest with
          | nil =>
            cases hrest
            cases hidle
          | cons reply rest =>
            obtain ⟨after, hafter, -⟩ := System.follow_cons.mp hrest
            cases reply with
            | told | counted | keys => cases hafter
            | migrated transferred ok =>
              cases ok with
              | true => exact halong.1
              | false => exact absurd List.mem_cons_self (hok transferred)
      · cases hanswer

/-- In a pass that ended and had no failed migration, every list of keys fits if every migration does. -/
theorem along_listFits (hreach : (passSystem move).Reachable System.anyStep start)
    (hrun : (passSystem move).follow start replies = some ledger) (hidle : ledger.phase = .idle)
    (hok : ∀ transferred, Reply.migrated transferred false ∉ replies)
    (halong : (passSystem move).Along (Fits move) start replies) :
    (passSystem move).Along (ListFits move) start replies := by
  induction replies generalizing start with
  | nil => trivial
  | cons reply rest ih =>
    obtain ⟨next, hanswer, hrest⟩ := System.follow_cons.mp hrun
    have hok' : ∀ transferred, Reply.migrated transferred false ∉ rest :=
      fun transferred hmem => hok transferred (List.mem_cons_of_mem _ hmem)
    have hnext := halong.2 next hanswer
    refine ⟨listFits_of_fits hreach hanswer hrest hidle hok' hnext, fun other hother => ?_⟩
    cases hanswer.symm.trans hother
    exact ih (.step hreach trivial hanswer) hrest hok' hnext

end Pass

section Budget

variable {Key : Type*}

/-- A pass keeps to the budget exactly if no migrated batch is longer than what is left; short lists
suffice, and are needed after a pass without a failed migration. Any pass overruns by less than a batch.
-/
theorem pass_within_budget_iff (move : Move) (hbatch : 0 < move.reshardKeyBatchSize)
    (hmax : 0 < move.reshardMaxKeysPerReconcile) {start ledger : Ledger Key} {replies : List (Reply Key)}
    (hstart : (passSystem move).initial start) (hrun : (passSystem move).follow start replies = some ledger) :
    ((ledger.migrated : ℤ) ≤ move.reshardMaxKeysPerReconcile ↔
      (passSystem move).Along (Fits move) start replies) ∧
    ((passSystem move).Along (ListFits move) start replies →
      (ledger.migrated : ℤ) ≤ move.reshardMaxKeysPerReconcile) ∧
    (ledger.phase = .idle → (∀ transferred, Reply.migrated transferred false ∉ replies) →
      (ledger.migrated : ℤ) ≤ move.reshardMaxKeysPerReconcile →
      (passSystem move).Along (ListFits move) start replies) ∧
    (ledger.migrated : ℤ) < move.reshardMaxKeysPerReconcile + move.reshardKeyBatchSize := by
  have hmaxKeys : (move.maxKeys : ℤ) = move.reshardMaxKeysPerReconcile := by
    rw [Move.maxKeys, if_neg (by omega), Int.toNat_of_nonneg (by omega)]
  have hbatchSize : (move.batch : ℤ) = move.reshardKeyBatchSize := by
    rw [Move.batch, if_neg (by omega), Int.toNat_of_nonneg (by omega)]
  rw [← hmaxKeys, Int.ofNat_le]
  have hinitial : (passSystem move).Reachable System.anyStep start := .initial hstart
  have hiff := within_iff_along (by rw [hstart.2]; exact Nat.zero_le _) hrun
  refine ⟨hiff, fun hlists => ?_, fun hidle hok hle => along_listFits hinitial hrun hidle hok (hiff.mp hle), ?_⟩
  · have hreach : (passSystem move).Reachable (ListFits move) ledger := .of_along (.initial hstart) hlists hrun
    exact (entered_of_reachable (Nat.le_refl _) (fun _ _ hfits _ _ => hfits) hreach).le (Nat.le_refl _)
  · have hlt := migrated_lt (hinitial.of_follow hrun)
    omega

def oneSlotMove : Move := ⟨⟨0, 0⟩, "10.0.0.1:6379", "10.0.0.2:6379", 2, 3⟩

def oneSlotStart : Ledger String := ⟨[], importingNext oneSlotMove [] oneSlotMove.slots false, 0⟩

/-- The slot has four keys, and two batches of two are migrated. -/
def fourKeys : List (Reply String) :=
  [.told true, .told true, .counted 4 true, .keys ["a", "b"] true, .migrated 2 true, .keys ["c", "d"] true,
    .migrated 2 true]

/-- The slot has three keys, so the second batch of two that is asked for has only one. -/
def threeKeys : List (Reply String) :=
  [.told true, .told true, .counted 3 true, .keys ["a", "b"] true, .migrated 2 true, .keys ["c"] true,
    .migrated 1 true]

/-- Four keys are one more than the budget. -/
theorem fourKeys_overrun :
    ¬ ∀ replies ledger, (passSystem oneSlotMove).follow oneSlotStart replies = some ledger →
      (ledger.migrated : ℤ) ≤ oneSlotMove.reshardMaxKeysPerReconcile := by
  intro hwithin
  have hle := hwithin fourKeys _ (Option.some_get (by decide)).symm
  revert hle
  decide

/-- With three keys the pass keeps to the budget, with four it overruns by less than a batch. -/
theorem threeKeys_within_budget :
    (∃ ledger, (passSystem oneSlotMove).follow oneSlotStart threeKeys = some ledger ∧
      (ledger.migrated : ℤ) ≤ 3) ∧
    ∃ ledger, (passSystem oneSlotMove).follow oneSlotStart fourKeys = some ledger ∧ 3 < ledger.migrated ∧
      (ledger.migrated : ℤ) < 3 + 2 := by
  have hstart : (passSystem oneSlotMove).initial oneSlotStart := ⟨rfl, rfl⟩
  have hthree := (Option.some_get
    (show ((passSystem oneSlotMove).follow oneSlotStart threeKeys).isSome by decide)).symm
  have hfour := (Option.some_get
    (show ((passSystem oneSlotMove).follow oneSlotStart fourKeys).isSome by decide)).symm
  refine ⟨⟨_, hthree, ?_⟩, _, hfour, by decide, ?_⟩
  · exact (pass_within_budget_iff oneSlotMove (by decide) (by decide) hstart hthree).1.mpr (by decide)
  · exact (pass_within_budget_iff oneSlotMove (by decide) (by decide) hstart hfour).2.2.2

end Budget

section Interleaved

variable {Key : Type*} [DecidableEq Key] {slotOf : Key → ℤ} {move : Move}

/-- The label is a call of the pass, not its start and no act of a client. -/
def Label.isCall : Label Key → Bool
  | .start _ | .write _ _ | .delete _ _ => false
  | _ => true

/-- One pass within the interleaved system, with the keys that its calls have taken. -/
inductive Pass (slotOf : Key → ℤ) (move : Move) : State Key → ℕ → Prop
  | start {s s' : State Key} {masterAddrs : List String}
      (hstep : step slotOf move s (.start masterAddrs) = some s') : Pass slotOf move s' 0
  | call {s s' : State Key} {a : Label Key} {taken : ℕ} (h : Pass slotOf move s taken)
      (hcall : a.isCall = true) (hstep : step slotOf move s a = some s') :
      Pass slotOf move s' (taken + (s.source.keys \ s'.source.keys).card)
  | write {s s' : State Key} {key : Key} {asked : Bool} {taken : ℕ} (h : Pass slotOf move s taken)
      (hstep : step slotOf move s (.write key asked) = some s') : Pass slotOf move s' taken
  | delete {s s' : State Key} {key : Key} {atDest : Bool} {taken : ℕ} (h : Pass slotOf move s taken)
      (hstep : step slotOf move s (.delete key atDest) = some s') : Pass slotOf move s' taken

variable {s s' : State Key} {taken : ℕ}

theorem card_sdiff_gone_le (source gone : Finset Key) : (source \ (source \ gone)).card ≤ gone.card := by
  apply Finset.card_le_card
  intro key hkey
  rw [Finset.mem_sdiff, Finset.mem_sdiff, not_and, not_not] at hkey
  exact hkey.2 hkey.1

/-- A call that leads from one state to another has a reply, and the keys that it takes are entered. -/
def HasReply (move : Move) (s s' : State Key) (migrated : ℕ) : Prop :=
  ∃ reply migrated', answer move ⟨s.masterAddrs, s.phase, migrated⟩ reply =
      some ⟨s'.masterAddrs, s'.phase, migrated'⟩ ∧
    migrated + (s.source.keys \ s'.source.keys).card ≤ migrated'

/-- A migration has a reply in the ledger. -/
theorem hasReply_migrate {transferred : Finset Key} {ok : Bool}
    (hstep : step slotOf move s (.migrate transferred ok) = some s') (migrated : ℕ) :
    HasReply move s s' migrated := by
  simp only [step] at hstep
  split at hstep
  · rename_i keys toDrain moved hphase
    cases hstep
    have hlength := keys.toFinset_card_le
    unfold HasReply
    cases ok with
    | true =>
      refine ⟨.migrated 0 true, migrated + keys.length, by simp [answer, hphase], ?_⟩
      have hgone := card_sdiff_gone_le s.source.keys (keys.toFinset ∩ s.source.keys)
      have hsub : keys.toFinset ∩ s.source.keys ⊆ keys.toFinset := Finset.inter_subset_left
      have hinter := Finset.card_le_card hsub
      simp only [if_true]
      omega
    | false =>
      have hsub : keys.toFinset ∩ transferred ∩ s.source.keys ⊆ keys.toFinset :=
        Finset.inter_subset_left.trans Finset.inter_subset_left
      have hfits := Nat.le_trans (Finset.card_le_card hsub) hlength
      have hgone := card_sdiff_gone_le s.source.keys (keys.toFinset ∩ transferred ∩ s.source.keys)
      refine ⟨.migrated (keys.toFinset ∩ transferred ∩ s.source.keys).card false,
        migrated + (keys.toFinset ∩ transferred ∩ s.source.keys).card,
        by simp only [answer, hphase, Bool.false_eq_true, if_false, if_pos hfits], ?_⟩
      simp only [Bool.false_eq_true, if_false]
      omega
  · cases hstep

theorem hasReply_getKeys {keys : List Key} {ok : Bool} (hstep : step slotOf move s (.getKeys keys ok) = some s')
    (migrated : ℕ) : HasReply move s s' migrated := by
  simp only [step] at hstep
  split at hstep
  · rename_i hphase
    split at hstep
    · rename_i hfailed
      cases hstep
      exact ⟨.keys keys ok, migrated, by simp [answer, hphase, hfailed], by simp⟩
    · rename_i hok
      obtain ⟨hlisted, rfl⟩ := of_ite_some hstep
      have hbatch : keys.length ≤ move.batch := by
        rw [hlisted.2.2]
        exact Nat.min_le_left _ _
      exact ⟨.keys keys ok, migrated, by simp [answer, hphase, hok, hbatch], by simp⟩
  · cases hstep

theorem hasReply_of_call {a : Label Key} (hcall : a.isCall = true) (hstep : step slotOf move s a = some s')
    (migrated : ℕ) : HasReply move s s' migrated := by
  cases a with
  | start | write | delete => cases hcall
  | setImporting ok =>
    simp only [step] at hstep
    split at hstep
    · rename_i hphase
      cases hstep
      exact ⟨.told ok, migrated, by rw [answer, hphase], by simp⟩
    · cases hstep
  | setMigrating ok =>
    simp only [step] at hstep
    split at hstep
    · rename_i hphase
      cases hstep
      refine ⟨.told ok, migrated, by rw [answer, hphase], ?_⟩
      cases ok <;> simp
    · cases hstep
  | countKeys ok =>
    simp only [step] at hstep
    split at hstep
    · rename_i slot rest counts failed hphase
      cases hstep
      exact ⟨.counted (s.source.inSlot slotOf slot).card ok, migrated, by rw [answer, hphase], by simp⟩
    · cases hstep
  | setNode ok =>
    simp only [step] at hstep
    split at hstep
    · rename_i addr addrs slot rest failed hphase
      cases hstep
      refine ⟨.told ok, migrated, by rw [answer, hphase], ?_⟩
      split <;> simp [Node.assign]
    · cases hstep
  | getKeys keys ok => exact hasReply_getKeys hstep migrated
  | migrate transferred ok => exact hasReply_migrate hstep migrated

/-- A pass has a ledger with all that it took. -/
theorem Pass.exists_ledger (h : Pass slotOf move s taken) :
    ∃ migrated, (passSystem move).Reachable System.anyStep ⟨s.masterAddrs, s.phase, migrated⟩ ∧
      taken ≤ migrated := by
  induction h with
  | @start s s' masterAddrs hstep =>
    simp only [step] at hstep
    split at hstep
    · cases hstep
      exact ⟨0, .initial ⟨rfl, rfl⟩, Nat.le_refl 0⟩
    · cases hstep
  | call _ hcall hstep ih =>
    obtain ⟨migrated, hreach, hle⟩ := ih
    obtain ⟨reply, migrated', hanswer, hentered⟩ := hasReply_of_call hcall hstep migrated
    exact ⟨migrated', .step hreach trivial hanswer, by omega⟩
  | @write s s' key asked _ _ hstep ih =>
    have hsame : s'.masterAddrs = s.masterAddrs ∧ s'.phase = s.phase := by
      cases asked <;> simp only [step] at hstep <;> split at hstep <;> cases hstep <;> exact ⟨rfl, rfl⟩
    rw [hsame.1, hsame.2]
    exact ih
  | @delete s s' key atDest _ _ hstep ih =>
    have hsame : s'.masterAddrs = s.masterAddrs ∧ s'.phase = s.phase := by
      cases atDest <;> cases hstep <;> exact ⟨rfl, rfl⟩
    rw [hsame.1, hsame.2]
    exact ih

/-- Whatever clients do, a pass takes fewer keys than the budget and one batch, and its ledger has them
all. -/
theorem Pass.taken_lt (h : Pass slotOf move s taken) :
    taken < move.maxKeys + move.batch ∧
      ∃ migrated, (passSystem move).Reachable System.anyStep ⟨s.masterAddrs, s.phase, migrated⟩ ∧
        taken ≤ migrated := by
  obtain ⟨migrated, hreach, hle⟩ := h.exists_ledger
  exact ⟨Nat.lt_of_le_of_lt hle (migrated_lt hreach), migrated, hreach, hle⟩

end Interleaved

/-- Two keys are written in time for the second batch, which takes the pass over its budget of three. -/
theorem lateKeys_taken_lt :
    ∃ s taken, Pass parity oneSlotMove s taken ∧ taken = 4 ∧ s.dest.keys = {0, 2, 4, 6} ∧ taken < 3 + 2 ∧
      ∃ migrated, (passSystem oneSlotMove).Reachable System.anyStep ⟨s.masterAddrs, s.phase, migrated⟩ ∧
        taken ≤ migrated := by
  have hstart := Pass.start (show step parity oneSlotMove pairStart (.start []) = _ from rfl)
  have hwritten := (((hstart.call (a := .setImporting true) rfl rfl).write
    (show step parity oneSlotMove _ (.write 4 false) = _ from rfl)).write
    (show step parity oneSlotMove _ (.write 6 false) = _ from rfl))
  have hcounted := (hwritten.call (a := .setMigrating true) rfl rfl).call (a := .countKeys true) rfl rfl
  have hbatch := (hcounted.call (a := .getKeys [0, 2] true) rfl rfl).call (a := .migrate ∅ true) rfl rfl
  have hlast := (hbatch.call (a := .getKeys [4, 6] true) rfl rfl).call (a := .migrate ∅ true) rfl rfl
  exact ⟨_, _, hlast, by decide, by decide, hlast.taken_lt.1, hlast.taken_lt.2⟩

end LittleRed.Cluster.Dance
