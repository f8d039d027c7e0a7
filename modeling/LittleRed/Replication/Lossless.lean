import LittleRed.Lib.ListLoops
import LittleRed.Replication.LineageClasses
import LittleRed.Replication.Order

/-!
# What an automatic election loses

A promotion takes the most complete of the holders, which agree on one history. Neither depends on the order
in which the map of pods is ranged over, as long as no two pods share an address and no replication ID looks
like the name for a missing one. A pod that refused the credential stops every election.
-/

namespace LittleRed.Replication

open Lib List
open Relation

/-- The higher offset, then the higher number of keys, then the smaller address. -/
def Outranks (a b : RedisNodeState) : Prop :=
  b.offset < a.offset ∨ (a.offset = b.offset ∧ (b.keys < a.keys ∨ (a.keys = b.keys ∧ a.ip < b.ip)))

instance : DecidableRel Outranks := fun a b => inferInstanceAs (Decidable (b.offset < a.offset ∨ _))

def DistinctIPs (state : ReplicationState) : Prop := (state.redisNodes.values.map (·.ip)).Nodup

/-- The address is that of the holder that outranks all others. -/
def MostComplete (holders : List RedisNodeState) (ip : String) : Prop :=
  ∃ best ∈ holders, best.ip = ip ∧ ∀ h ∈ holders, h ≠ best → Outranks best h

/-- What is known of the pods when one of them is elected without the opt-in for its data. -/
structure LosslessElection (state : ReplicationState) (ip : String) : Prop where
  mostComplete : MostComplete state.dataHolders ip
  oneLineage : OneLineage state.dataHolders
  oneMaster : state.dataHolders.countP (·.role == roleMaster) ≤ 1
  noneRefused : NoneRefused state

/-- The same decision; refusing pods with one name may be named in another order. -/
structure SamePlan {Action : Type} (p p' : ElectionPlan Action) : Prop where
  action : p'.action = p.action
  masterIP : p'.masterIP = p.masterIP
  diverged : p'.diverged = p.diverged
  forked : p'.forked = p.forked
  holders : p'.holders = p.holders
  unverified : p'.unverified.Perm p.unverified

/-- The actions of failover mode that make some pod the master, with the opt-in or without. -/
def FailoverAction.electsMaster : FailoverAction → Bool
  | .seed | .promote | .unsafeElect => true
  | _ => false

section Ranking

variable {a b c : RedisNodeState}

/-- The ranking has no two-way pair. -/
theorem Outranks.asymm (hab : Outranks a b) : ¬Outranks b a := by
  rintro (hoffset | ⟨hoffset, hkeys | ⟨hkeys, hip⟩⟩)
  · rcases hab with h | ⟨h, -⟩ <;> omega
  · rcases hab with h | ⟨h, h' | ⟨h', -⟩⟩ <;> omega
  · rcases hab with h | ⟨h, h' | ⟨-, h'⟩⟩
    · omega
    · omega
    · exact String.lt_asymm hip h'

/-- A third holder ranks below the first or above the second. -/
theorem Outranks.cotrans (hac : Outranks a c) (b : RedisNodeState) : Outranks a b ∨ Outranks b c := by
  unfold Outranks at hac ⊢
  rcases lt_trichotomy a.offset b.offset with hoffset | hoffset | hoffset
  · exact .inr (.inl (by omega))
  · rcases lt_trichotomy a.keys b.keys with hkeys | hkeys | hkeys
    · refine .inr ?_
      rcases hac with h | ⟨h, h' | ⟨h', -⟩⟩
      · exact .inl (by omega)
      · exact .inr ⟨by omega, .inl (by omega)⟩
      · exact .inr ⟨by omega, .inl (by omega)⟩
    · rw [← hoffset, ← hkeys]
      rcases hac with h | ⟨h, h' | ⟨h', hip⟩⟩
      · exact .inr (.inl h)
      · exact .inr (.inr ⟨h, .inl h'⟩)
      · by_cases hfirst : a.ip < b.ip
        · exact .inl (.inr ⟨rfl, .inr ⟨rfl, hfirst⟩⟩)
        · refine .inr (.inr ⟨h, .inr ⟨h', ?_⟩⟩)
          by_contra hsecond
          exact String.not_lt.mpr (String.le_trans (String.not_lt.mp hsecond) (String.not_lt.mp hfirst)) hip
    · exact .inl (.inr ⟨hoffset, .inl hkeys⟩)
  · exact .inl (.inl hoffset)

/-- Holders with different addresses are ranked. -/
theorem outranks_total (hne : a.ip ≠ b.ip) (hnot : ¬Outranks a b) : Outranks b a := by
  unfold Outranks at hnot ⊢
  push Not at hnot
  obtain ⟨hoffset, hrest⟩ := hnot
  rcases Int.lt_or_eq_of_le hoffset with hlt | heq
  · exact .inl hlt
  obtain ⟨hkeys, hip⟩ := hrest heq
  rcases Int.lt_or_eq_of_le hkeys with hlt | hkeysEq
  · exact .inr ⟨heq.symm, .inl hlt⟩
  · refine .inr ⟨heq.symm, .inr ⟨hkeysEq.symm, ?_⟩⟩
    by_contra hle
    exact hne (String.le_antisymm (String.not_lt.mp hle) (hip hkeysEq))

/-- The loop keeps the higher ranking holder. -/
theorem betterHolder_eq (best h : RedisNodeState) :
    betterHolder best h = if Outranks h best then h else best := by
  unfold betterHolder Outranks
  by_cases hoffset : h.offset = best.offset
  · by_cases hkeys : h.keys = best.keys
    · simp [hoffset, hkeys]
    · simp [hoffset, hkeys]
  · simp [hoffset]

end Ranking

section Holders

variable {state : ReplicationState}

theorem DistinctIPs.holders (hips : DistinctIPs state) : (state.dataHolders.map (·.ip)).Nodup :=
  hips.sublist (filter_sublist.map _)

/-- The loop ends with a holder that none outranks. -/
theorem foldl_betterHolder (first : RedisNodeState) (rest : List RedisNodeState) :
    let best := (first :: rest).foldl betterHolder first
    best ∈ first :: rest ∧ ∀ h ∈ first :: rest, ¬Outranks h best := by
  have hchosen := foldl_choose (fun _ _ => Outranks.asymm) (fun _ b _ h => h.cotrans b)
    (first :: rest) first
  simp only [← betterHolder_eq] at hchosen
  obtain ⟨hmem, hbest⟩ := hchosen
  refine ⟨?_, fun h hh => hbest h (mem_cons_of_mem _ hh)⟩
  rcases mem_cons.mp hmem with heq | hmem
  · rw [heq]
    exact mem_cons_self
  · exact hmem

/-- The best holder is a holder. -/
theorem mem_of_bestDataHolder {best : RedisNodeState} {flags : Bool × Bool}
    (h : state.bestDataHolder = (some best, flags)) : best ∈ state.dataHolders := by
  rw [ReplicationState.bestDataHolder] at h
  cases hlist : state.dataHolders with
  | nil =>
    rw [hlist] at h
    cases h
  | cons first rest =>
    rw [hlist] at h
    obtain ⟨hbest, -⟩ := Prod.mk.inj h
    rw [← Option.some.inj hbest]
    exact (foldl_betterHolder first rest).1

theorem bestDataHolder_mostComplete (hips : DistinctIPs state) (hholders : state.dataHolders ≠ []) :
    ∃ best, state.bestDataHolder =
        (some best, holdersDiverged state.dataHolders, holdersForked state.dataHolders) ∧
      best ∈ state.dataHolders ∧ ∀ h ∈ state.dataHolders, h ≠ best → Outranks best h := by
  have hdistinct := hips.holders
  rw [ReplicationState.bestDataHolder]
  cases hlist : state.dataHolders with
  | nil => exact absurd hlist hholders
  | cons first rest =>
    rw [hlist] at hdistinct
    obtain ⟨hmem, hbest⟩ := foldl_betterHolder first rest
    refine ⟨_, rfl, hmem, fun h hh hne => ?_⟩
    refine outranks_total (fun hip => hne ?_) (hbest h hh)
    exact inj_on_of_nodup_map hdistinct hh hmem hip

/-- A promotion takes the most complete holder of one lineage. -/
theorem electByHolders_promote {Action : Type} {wait seed promote refuse unsafeElect : Action}
    (hwait : wait ≠ promote) (hseed : seed ≠ promote) (hrefuse : refuse ≠ promote)
    (hforced : unsafeElect ≠ promote) {allowUnsafe : Bool} {bootstrapMasterIP : String}
    (hips : DistinctIPs state) (hproper : ProperIDs state.dataHolders)
    (hplan : (electByHolders wait seed promote refuse unsafeElect state allowUnsafe
      bootstrapMasterIP).action = promote) :
    MostComplete state.dataHolders (electByHolders wait seed promote refuse unsafeElect state
        allowUnsafe bootstrapMasterIP).masterIP ∧
      OneLineage state.dataHolders ∧ state.dataHolders.countP (·.role == roleMaster) ≤ 1 := by
  rw [electByHolders] at hplan ⊢
  by_cases hholders : state.dataHolders = []
  · simp only [hholders, length_nil, if_true] at hplan
    split at hplan
    · exact absurd hplan hwait
    · exact absurd hplan hseed
  · obtain ⟨best, hbest, hmem, hmost⟩ := bestDataHolder_mostComplete hips hholders
    have hlength : state.dataHolders.length ≠ 0 := by rwa [Ne, length_eq_zero_iff]
    rw [if_neg hlength, hbest] at hplan ⊢
    dsimp only at hplan ⊢
    cases hagreed : holdersDiverged state.dataHolders || holdersForked state.dataHolders with
    | true =>
      simp only [hagreed, if_true] at hplan
      cases allowUnsafe
      · exact absurd hplan hrefuse
      · exact absurd hplan hforced
    | false =>
      obtain ⟨hdiverged, hforked⟩ := Bool.or_eq_false_iff.mp hagreed
      rw [holdersForked, decide_eq_false_iff_not, Nat.not_lt] at hforked
      exact ⟨⟨best, hmem, rfl, hmost⟩,
        (holdersDiverged_eq_false_iff (List.Nodup.of_map _ hips.holders) hproper).mp hdiverged, hforked⟩

end Holders

section Order

variable {s s' : ReplicationState}

section

variable (h : s.Reordered s')
include h

theorem ReplicationState.Reordered.redisValues : s'.redisNodes.values.Perm s.redisNodes.values :=
  GoMap.values_perm h.redisNodes

theorem ReplicationState.Reordered.sentinelValues :
    s'.sentinelNodes.values.Perm s.sentinelNodes.values :=
  GoMap.values_perm h.sentinelNodes

theorem ReplicationState.Reordered.dataHolders : s'.dataHolders.Perm s.dataHolders :=
  h.redisValues.filter _

theorem ReplicationState.Reordered.authFailedRedisNodes :
    s'.authFailedRedisNodes.Perm s.authFailedRedisNodes :=
  (perm_insertionSort _ _).trans
    ((h.redisValues.filter _).trans (perm_insertionSort _ _).symm)

theorem ReplicationState.Reordered.isGhost (ip : String) : s'.isGhost ip = s.isGhost ip := by
  rw [ReplicationState.isGhost, ReplicationState.isGhost, h.liveTopologyIPs]

theorem ReplicationState.Reordered.ghostMaster :
    s'.sentinelsMonitorGhostMaster = s.sentinelsMonitorGhostMaster ∧
      s'.hasHealthyKnownReplica = s.hasHealthyKnownReplica ∧
      s'.reachableSentinels = s.reachableSentinels := by
  have hreachable := h.sentinelValues.filter (·.reachable)
  refine ⟨?_, ?_, ?_⟩
  · simp only [ReplicationState.sentinelsMonitorGhostMaster, h.isGhost, hreachable.length_eq,
      hreachable.countP_eq]
  · simp only [ReplicationState.hasHealthyKnownReplica, h.isGhost]
    exact h.sentinelValues.any_eq
  · exact h.sentinelValues.countP_eq _

/-- The best holder does not depend on the order. -/
theorem bestDataHolder_eq_of_reordered (hips : DistinctIPs s) (hproper : ProperIDs s.dataHolders) :
    s'.bestDataHolder = s.bestDataHolder := by
  have hperm := h.dataHolders
  have hips' : DistinctIPs s' := (h.redisValues.map _).nodup_iff.mpr hips
  by_cases hholders : s.dataHolders = []
  · have hholders' : s'.dataHolders = [] := by rwa [hholders, perm_nil] at hperm
    simp only [ReplicationState.bestDataHolder, hholders, hholders']
  · have hholders' : s'.dataHolders ≠ [] := fun hnil =>
      hholders (by rwa [hnil, nil_perm] at hperm)
    obtain ⟨best, hbest, hmem, hmost⟩ := bestDataHolder_mostComplete hips hholders
    obtain ⟨best', hbest', hmem', hmost'⟩ := bestDataHolder_mostComplete hips' hholders'
    have hsame : best' = best := by
      by_contra hne
      exact (hmost best' (hperm.mem_iff.mp hmem') hne).asymm
        (hmost' best (hperm.mem_iff.mpr hmem) (Ne.symm hne))
    rw [hbest, hbest', hsame, holdersDiverged_perm hperm.symm hproper, holdersForked,
      holdersForked, hperm.countP_eq]

end

theorem electByHolders_eq_of_reordered {Action : Type} (wait seed promote refuse unsafeElect : Action)
    (allowUnsafe : Bool) (bootstrapMasterIP : String) (h : s.Reordered s') (hips : DistinctIPs s)
    (hproper : ProperIDs s.dataHolders) :
    electByHolders wait seed promote refuse unsafeElect s' allowUnsafe bootstrapMasterIP =
      electByHolders wait seed promote refuse unsafeElect s allowUnsafe bootstrapMasterIP := by
  rw [electByHolders, electByHolders, bestDataHolder_eq_of_reordered h hips hproper,
    h.dataHolders.length_eq]

end Order

theorem SamePlan.refl {Action : Type} (p : ElectionPlan Action) : SamePlan p p :=
  ⟨rfl, rfl, rfl, rfl, rfl, List.Perm.refl _⟩

section Plans

variable {s s' : ReplicationState} (liveMasterIP bootstrapMasterIP : String)
  (allowUnsafe unsettled : Bool) (since : Option ℤ) (now cooldown quorum : ℤ)

/-- Failover mode decides alike in every order. -/
theorem planFailover_samePlan (h : s.Reordered s') (hips : DistinctIPs s)
    (hproper : ProperIDs s.dataHolders) :
    SamePlan (planFailover s liveMasterIP allowUnsafe bootstrapMasterIP unsettled since now cooldown)
      (planFailover s' liveMasterIP allowUnsafe bootstrapMasterIP unsettled since now cooldown) := by
  have hrefusing := h.authFailedRedisNodes
  rw [planFailover, planFailover, hrefusing.length_eq,
    electByHolders_eq_of_reordered _ _ _ _ _ allowUnsafe bootstrapMasterIP h hips hproper]
  split
  · exact .refl _
  split
  · exact .refl _
  split
  · exact .refl _
  split
  · exact ⟨rfl, rfl, rfl, rfl, rfl, hrefusing⟩
  · exact .refl _

theorem recoverAfterCooldown_samePlan (h : s.Reordered s') (act : LeaderlessPlan) :
    SamePlan (recoverAfterCooldown s since now cooldown act)
      (recoverAfterCooldown s' since now cooldown act) := by
  have hrefusing := h.authFailedRedisNodes
  unfold recoverAfterCooldown unprovablyEmptyVeto
  rw [hrefusing.length_eq]
  cases since with
  | none => exact .refl _
  | some t =>
    dsimp only
    split
    · exact .refl _
    split
    · exact .refl _
    · exact ⟨rfl, rfl, rfl, rfl, rfl, hrefusing⟩

/-- So does the recovery from a ghost master. -/
theorem planGhostMasterRecovery_samePlan (h : s.Reordered s') (hips : DistinctIPs s)
    (hproper : ProperIDs s.dataHolders) :
    SamePlan (planGhostMasterRecovery s quorum allowUnsafe bootstrapMasterIP since now cooldown)
      (planGhostMasterRecovery s' quorum allowUnsafe bootstrapMasterIP since now cooldown) := by
  obtain ⟨hghost, hhealthy, hreachable⟩ := h.ghostMaster
  rw [planGhostMasterRecovery, planGhostMasterRecovery, hghost, hhealthy, hreachable,
    electByHolders_eq_of_reordered _ _ _ _ _ allowUnsafe bootstrapMasterIP h hips hproper]
  split
  · exact .refl _
  split
  · exact .refl _
  · exact recoverAfterCooldown_samePlan since now cooldown h _

/-- With different names the refusing pods are named in one order. -/
theorem authFailedRedisNodes_eq_of_reordered (h : s.Reordered s')
    (hnames : (s.redisNodes.values.map (·.podName)).Nodup) :
    s'.authFailedRedisNodes = s.authFailedRedisNodes := by
  refine (insertionSort_eq_of_perm _ (h.redisValues.filter _).symm fun a ha b hb hab hba => ?_).symm
  exact inj_on_of_nodup_map hnames (mem_of_mem_filter ha) (mem_of_mem_filter hb)
    (String.le_antisymm hab hba)

/-- With different names both plans are equal. -/
theorem plans_eq_of_reordered (h : s.Reordered s') (hips : DistinctIPs s)
    (hproper : ProperIDs s.dataHolders) (hnames : (s.redisNodes.values.map (·.podName)).Nodup) :
    planFailover s' liveMasterIP allowUnsafe bootstrapMasterIP unsettled since now cooldown =
        planFailover s liveMasterIP allowUnsafe bootstrapMasterIP unsettled since now cooldown ∧
      planGhostMasterRecovery s' quorum allowUnsafe bootstrapMasterIP since now cooldown =
        planGhostMasterRecovery s quorum allowUnsafe bootstrapMasterIP since now cooldown := by
  have hrefusing := authFailedRedisNodes_eq_of_reordered h hnames
  obtain ⟨hghost, hhealthy, hreachable⟩ := h.ghostMaster
  constructor
  · rw [planFailover, planFailover, hrefusing,
      electByHolders_eq_of_reordered _ _ _ _ _ allowUnsafe bootstrapMasterIP h hips hproper]
  · rw [planGhostMasterRecovery, planGhostMasterRecovery, hghost, hhealthy, hreachable,
      electByHolders_eq_of_reordered _ _ _ _ _ allowUnsafe bootstrapMasterIP h hips hproper]
    unfold recoverAfterCooldown unprovablyEmptyVeto
    rw [hrefusing]

/-- No pod refused the credential when a master is elected. -/
theorem planFailover_electsMaster
    (h : (planFailover s liveMasterIP allowUnsafe bootstrapMasterIP unsettled since now
      cooldown).action.electsMaster = true) : NoneRefused s := by
  rw [← authFailedRedisNodes_length_eq_zero]
  by_contra hrefused
  rw [planFailover, if_pos (Nat.pos_of_ne_zero hrefused)] at h
  split at h
  · cases h
  split at h
  · cases h
  · split at h <;> cases h

/-- A promotion in failover mode is lossless. -/
theorem planFailover_lossless (hips : DistinctIPs s) (hproper : ProperIDs s.dataHolders)
    (hplan : (planFailover s liveMasterIP allowUnsafe bootstrapMasterIP unsettled since now
      cooldown).action = .promote) :
    LosslessElection s (planFailover s liveMasterIP allowUnsafe bootstrapMasterIP unsettled since now
      cooldown).masterIP := by
  have hrefused : NoneRefused s := by
    refine planFailover_electsMaster liveMasterIP bootstrapMasterIP allowUnsafe unsettled since now
      cooldown ?_
    rw [hplan]
    rfl
  rw [planFailover] at hplan ⊢
  split at hplan
  · cases hplan
  rename_i hlive
  rw [if_neg hlive]
  split at hplan
  · cases hplan
  rename_i hsettled
  rw [if_neg hsettled]
  split at hplan
  · cases hplan
  rename_i hcooled
  rw [if_neg hcooled]
  split at hplan
  · cases hplan
  rename_i hauth
  rw [if_neg hauth]
  obtain ⟨hmost, hone, hmaster⟩ := electByHolders_promote (by decide) (by decide) (by decide)
    (by decide) hips hproper hplan
  exact ⟨hmost, hone, hmaster, hrefused⟩

theorem planGhostMasterRecovery_lossless (hips : DistinctIPs s) (hproper : ProperIDs s.dataHolders)
    (hplan : (planGhostMasterRecovery s quorum allowUnsafe bootstrapMasterIP since now
      cooldown).action = .promoteSurvivor) :
    LosslessElection s (planGhostMasterRecovery s quorum allowUnsafe bootstrapMasterIP since now
      cooldown).masterIP := by
  have helects : (planGhostMasterRecovery s quorum allowUnsafe bootstrapMasterIP since now
      cooldown).action.electsMaster = true := by
    rw [hplan]
    rfl
  have hrefused : NoneRefused s := (planGhostMasterRecovery_electsMaster helects).2.2
  have hnone : unprovablyEmptyVeto s = none := by
    rw [unprovablyEmptyVeto, if_pos ((authFailedRedisNodes_length_eq_zero s).mpr hrefused)]
  rw [planGhostMasterRecovery] at hplan ⊢
  split at hplan
  · cases hplan
  rename_i hghost
  rw [if_neg hghost]
  split at hplan
  · cases hplan
  rename_i hquorate
  rw [if_neg hquorate]
  cases since with
  | none => cases hplan
  | some t =>
    rw [recoverAfterCooldown, hnone] at hplan ⊢
    split at hplan
    · cases hplan
    rename_i hcooled
    rw [if_neg hcooled]
    obtain ⟨hmost, hone, hmaster⟩ := electByHolders_promote (by decide) (by decide) (by decide)
      (by decide) hips hproper hplan
    exact ⟨hmost, hone, hmaster, hrefused⟩

end Plans

/-- A promotion takes the most complete holder of one lineage, both planners decide alike in every
order, and none elects while a pod refuses the credential. -/
theorem elections_lossless_and_deterministic (state : ReplicationState) (hips : DistinctIPs state)
    (hproper : ProperIDs state.dataHolders) (liveMasterIP bootstrapMasterIP : String)
    (allowUnsafe unsettled : Bool) (since : Option ℤ) (now cooldown quorum : ℤ) :
    let failover s :=
      planFailover s liveMasterIP allowUnsafe bootstrapMasterIP unsettled since now cooldown
    let ghost s := planGhostMasterRecovery s quorum allowUnsafe bootstrapMasterIP since now cooldown
    let leaderless s := planLeaderlessRecovery s quorum allowUnsafe bootstrapMasterIP since now cooldown
    ((failover state).action = .promote → LosslessElection state (failover state).masterIP) ∧
      ((ghost state).action = .promoteSurvivor → LosslessElection state (ghost state).masterIP) ∧
      (∀ state', state.Reordered state' →
        SamePlan (failover state) (failover state') ∧ SamePlan (ghost state) (ghost state') ∧
          ((state.redisNodes.values.map (·.podName)).Nodup →
            failover state' = failover state ∧ ghost state' = ghost state)) ∧
      (¬NoneRefused state → (failover state).action.electsMaster = false ∧
        (leaderless state).action.electsMaster = false ∧ (ghost state).action.electsMaster = false) := by
  intro failover ghost leaderless
  refine ⟨planFailover_lossless _ _ _ _ _ _ _ hips hproper,
    planGhostMasterRecovery_lossless _ _ _ _ _ _ hips hproper, fun state' horder => ?_, fun hrefused => ?_⟩
  · exact ⟨planFailover_samePlan _ _ _ _ _ _ _ horder hips hproper,
      planGhostMasterRecovery_samePlan _ _ _ _ _ _ horder hips hproper,
      plans_eq_of_reordered _ _ _ _ _ _ _ _ horder hips hproper⟩
  · refine ⟨?_, ?_, ?_⟩
    · rw [← Bool.not_eq_true]
      exact fun h => hrefused (planFailover_electsMaster _ _ _ _ _ _ _ h)
    · rw [← Bool.not_eq_true]
      exact fun h => hrefused (planLeaderlessRecovery_electsMaster h).2
    · rw [← Bool.not_eq_true]
      exact fun h => hrefused (planGhostMasterRecovery_electsMaster h).2.2

/-- A holder with the given history. -/
def holderAt (ip role : String) (keys : ℤ) (replid : String) : RedisNodeState :=
  ⟨"lr-redis-" ++ ip, ip, role, "", "", 7, keys, replid, "", true, .ok⟩

/-- Pods in the given order. -/
def podsInOrder (nodes : List RedisNodeState) : ReplicationState where
  redisNodes := GoMap.ofPairs (nodes.reverse.map fun rn => (rn.ip, rn))
  sentinelNodes := ∅
  liveTopologyIPs := nodes.map (·.ip)

def survivors : ReplicationState :=
  podsInOrder [holderAt "10.0.0.10" "slave" 3 "8f3c", holderAt "10.0.0.11" "slave" 5 "8f3c"]

/-- The promotion of the more complete of two survivors is lossless. -/
theorem survivors_promoted :
    (planFailover survivors "" false "10.0.0.10" false none 100 30).action = .promote ∧
      (planFailover survivors "" false "10.0.0.10" false none 100 30).masterIP = "10.0.0.11" ∧
      LosslessElection survivors "10.0.0.11" := by
  have hplan : (planFailover survivors "" false "10.0.0.10" false none 100 30).action = .promote ∧
      (planFailover survivors "" false "10.0.0.10" false none 100 30).masterIP = "10.0.0.11" := by decide
  refine ⟨hplan.1, hplan.2, ?_⟩
  have hproper : ProperIDs survivors.dataHolders := properIDs_of_head (by decide)
  have hlossless := (elections_lossless_and_deterministic survivors (by unfold DistinctIPs; decide) hproper ""
    "10.0.0.10" false false none 100 30 0).1 hplan.1
  rwa [hplan.2] at hlossless

/-- One holder has no replication ID, another one the name that stands for none. -/
def spelledAlike : List RedisNodeState :=
  [holderAt "10.0.0.10" "slave" 3 "", holderAt "10.0.0.11" "slave" 5 "__noreplid_0"]

/-- Such holders share no ID; one order of the map promotes the second, the other order refuses. -/
theorem spelledAlike_promoted :
    DistinctIPs (podsInOrder spelledAlike) ∧
      (planFailover (podsInOrder spelledAlike) "" false "10.0.0.10" false none 100 30).action = .promote ∧
      ¬OneLineage (podsInOrder spelledAlike).dataHolders ∧ (podsInOrder spelledAlike).redisNodes.values.Perm
        (podsInOrder spelledAlike.reverse).redisNodes.values ∧
      (planFailover (podsInOrder spelledAlike.reverse) "" false "10.0.0.10" false none 100 30).action =
        .refuse := by
  refine ⟨by unfold DistinctIPs; decide, by decide, fun hone => ?_, by decide, by decide⟩
  have hpath := hone (holderAt "10.0.0.10" "slave" 3 "") (by decide)
    (holderAt "10.0.0.11" "slave" 5 "__noreplid_0") (by decide)
  rcases hpath.cases_head with heq | ⟨_, ⟨-, -, id, hid, -⟩, -⟩
  · exact absurd heq (by decide)
  · exact absurd hid (by simp [RedisNodeState.ids, holderAt, isZeroReplid])

end LittleRed.Replication
