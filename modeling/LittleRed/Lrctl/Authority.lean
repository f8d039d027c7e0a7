import LittleRed.Lrctl.FailoverAnalysis

/-!
# The authority according to lrctl and to the operator

Both read the intended master from the same annotations by the same rule, and take it for the authority when
it answers as a master. But lrctl also counts an assignment whose role is empty or whose epoch is no number,
and it asks the pod that is listed last at an address, a terminating one too. The two agree exactly when
that decides nothing and the two answers about the intended master are alike.
-/

namespace LittleRed.Lrctl

open Lib Replication Failover List

namespace DataPod

variable {p : DataPod} {role : String} {epoch : ℤ}

def assigned (p : DataPod) : Option (String × ℤ) := p.object.annotations.assignment

/-- The assignment of a pod that lrctl counts. -/
def claimed (p : DataPod) : Option (String × ℤ) :=
  (p.annotations.lookup annotationAssignedRole).map fun role =>
    (role, (atoi (p.annotation annotationAssignmentEpoch)).getD 0)

/-- The operator needs a role and a number. -/
theorem assigned_eq_some_iff :
    p.assigned = some (role, epoch) ↔ p.annotations.lookup annotationAssignedRole = some role ∧ role ≠ "" ∧
        atoi (p.annotation annotationAssignmentEpoch) = some epoch := by
  have hread : p.assigned = if p.annotation annotationAssignedRole ≠ "" ∧
      p.annotation annotationAssignmentEpoch ≠ "" then
      (atoi (p.annotation annotationAssignmentEpoch)).map (p.annotation annotationAssignedRole, ·)
    else none := rfl
  have hrole : p.annotation annotationAssignedRole =
      (p.annotations.lookup annotationAssignedRole).getD "" := rfl
  have hempty : atoi "" = none := rfl
  rw [hread, hrole]
  cases p.annotations.lookup annotationAssignedRole with
  | none => simp
  | some annotated =>
    by_cases hnumber : p.annotation annotationAssignmentEpoch = ""
    · simp [hnumber, hempty]
    by_cases hblank : annotated = ""
    · simp [hblank]
      rintro rfl
      simp
    · simp only [Option.getD_some, hblank, hnumber, ne_eq, not_false_eq_true, and_self, if_true,
        Option.map_eq_some_iff, Prod.mk.injEq, Option.some.injEq]
      constructor
      · rintro ⟨number, hparsed, rfl, rfl⟩
        exact ⟨rfl, hblank, hparsed⟩
      · rintro ⟨rfl, -, hparsed⟩
        exact ⟨epoch, hparsed, rfl, rfl⟩

theorem claimed_of_assigned (h : p.assigned = some (role, epoch)) : p.claimed = some (role, epoch) := by
  obtain ⟨hrole, -, hepoch⟩ := assigned_eq_some_iff.mp h
  rw [claimed, hrole, hepoch]
  rfl

/-- It also counts an empty role, and an epoch that is no number. -/
theorem assigned_or_of_claimed (h : p.claimed = some (role, epoch)) :
    p.assigned = some (role, epoch) ∨ p.annotations.lookup annotationAssignedRole = some role ∧
        ((role = "" ∧ atoi (p.annotation annotationAssignmentEpoch) = some epoch) ∨
          (atoi (p.annotation annotationAssignmentEpoch) = none ∧ epoch = 0)) := by
  obtain ⟨annotated, hrole, hpair⟩ := Option.map_eq_some_iff.mp h
  obtain ⟨rfl, hepoch⟩ := Prod.mk.inj hpair
  cases hparsed : atoi (p.annotation annotationAssignmentEpoch) with
  | none =>
    rw [hparsed] at hepoch
    exact .inr ⟨hrole, .inr ⟨rfl, hepoch.symm⟩⟩
  | some number =>
    rw [hparsed] at hepoch
    obtain rfl : number = epoch := hepoch
    by_cases hblank : annotated = ""
    · exact .inr ⟨hrole, .inl ⟨hblank, rfl⟩⟩
    · exact .inl (assigned_eq_some_iff.mpr ⟨hrole, hblank, hparsed⟩)

end DataPod

/-- A master at the highest epoch, with the smallest name there. -/
structure Prevails (assignment : DataPod → Option (String × ℤ)) (pods : List DataPod) (p : DataPod)
    (epoch : ℤ) : Prop where
  mem : p ∈ pods
  master : assignment p = some (roleMaster, epoch)
  prevails : ∀ q ∈ pods, ∀ e, assignment q = some (roleMaster, e) →
    e < epoch ∨ (e = epoch ∧ p.name ≤ q.name)

/-- The intent is what the assignments say: the pod that prevails, and the highest epoch. -/
structure IntentOf (assignment : DataPod → Option (String × ℤ)) (pods : List DataPod)
    (intent : FailoverIntent) : Prop where
  nonneg : 0 ≤ intent.maxEpoch
  bounds : ∀ p ∈ pods, ∀ role e, assignment p = some (role, e) → e ≤ intent.maxEpoch
  attained : intent.maxEpoch = 0 ∨ ∃ p ∈ pods, ∃ role, assignment p = some (role, intent.maxEpoch)
  unaddressed : intent.masterName = "" → intent.masterIP = ""
  unnamed : intent.masterName = "" → ∀ p ∈ pods, ∀ e, assignment p ≠ some (roleMaster, e)
  named : intent.masterName ≠ "" →
    ∃ p epoch, Prevails assignment pods p epoch ∧ p.name = intent.masterName ∧ p.ip = intent.masterIP

section Reading

variable {assignment : DataPod → Option (String × ℤ)} {pods : DataPods} {views : List FailoverPodView}

/-- The view is one of the pod, with the assignment that is read. -/
structure ViewOf (assignment : DataPod → Option (String × ℤ)) (p : DataPod) (view : FailoverPodView) :
    Prop where
  name : view.name = p.name
  ip : view.ip = p.ip
  assigned : view.assignment = assignment p

/-- The intent that is read from views of the pods. -/
theorem intentOf_resolveFailoverIntent (hviews : ∀ p ∈ pods.items, ∃ view ∈ views, ViewOf assignment p view)
    (hpods : ∀ view ∈ views, ∃ p ∈ pods.items, ViewOf assignment p view) :
    IntentOf assignment pods.items (resolveFailoverIntent views) := by
  have hnames : ∀ view ∈ views, view.name ≠ "" := by
    intro view hview
    obtain ⟨p, hp, hof⟩ := hpods view hview
    rw [hof.name]
    exact pods.named p hp
  obtain ⟨epoch, hread⟩ := readFrom_resolveFailoverIntent hnames
  refine ⟨hread.nonneg, ?_, ?_, hread.unaddressed, ?_, ?_⟩
  · intro p hp role e hassigned
    obtain ⟨view, hview, hof⟩ := hviews p hp
    exact hread.bounds view hview role e (hof.assigned.trans hassigned)
  · refine (maxEpoch_attained views).imp_right ?_
    rintro ⟨view, hview, role, hassigned⟩
    obtain ⟨p, hp, hof⟩ := hpods view hview
    exact ⟨p, hp, role, hof.assigned.symm.trans hassigned⟩
  · intro hempty p hp e hassigned
    obtain ⟨view, hview, hof⟩ := hviews p hp
    exact hread.unnamed hempty view hview e (hof.assigned.trans hassigned)
  · intro hnamed
    obtain ⟨view, hintended, hname, hip⟩ := hread.named hnamed
    obtain ⟨p, hp, hof⟩ := hpods view hintended.mem
    refine ⟨p, epoch, ⟨hp, hof.assigned.symm.trans hintended.assigned, ?_⟩, hof.name.symm.trans hname,
      hof.ip.symm.trans hip⟩
    intro q hq e hassigned
    obtain ⟨other, hother, hof'⟩ := hviews q hq
    rw [← hof.name, ← hof'.name]
    exact hintended.prevails other hother e (hof'.assigned.trans hassigned)

/-- The intent of the operator. -/
theorem intentOf_operator (pods : DataPods) (state : Option ReplicationState) :
    IntentOf DataPod.assigned pods.items
      (resolveFailoverIntent (buildFailoverPodViews pods.objects state)) := by
  have hof : ∀ p : DataPod, ViewOf DataPod.assigned p (failoverPodView state p.object) := fun p =>
    ⟨(failoverPodView_identity state p.object).1, (failoverPodView_identity state p.object).2,
      assignment_failoverPodView state p.object⟩
  apply intentOf_resolveFailoverIntent
  · intro p hp
    exact ⟨_, mem_map_of_mem (mem_map_of_mem hp), hof p⟩
  · intro view hview
    obtain ⟨object, hobject, rfl⟩ := mem_map.mp hview
    obtain ⟨p, hp, rfl⟩ := mem_map.mp hobject
    exact ⟨p, hp, hof p⟩

/-- The view of lrctl in the terms of the operator. -/
def PodView.operatorView (p : PodView) : FailoverPodView where
  name := p.name
  ip := p.ip
  terminating := p.terminating
  ready := p.ready
  restarted := p.restarted
  reachable := false
  hasAssignment := p.hasAssignment
  assignedRole := p.assignedRole
  assignedMasterIP := p.assignedMasterIP
  epoch := p.epoch

/-- The intent of lrctl in the terms of the operator. -/
def Intent.operatorIntent (intent : Intent) : FailoverIntent :=
  ⟨intent.masterName, intent.masterIP, intent.maxEpoch⟩

/-- Both read an assignment by the same rule. -/
theorem Intent.read_eq (intent : Intent) (p : PodView) :
    ((intent.read p).operatorIntent, (intent.read p).masterEpoch) =
      readIntent (intent.operatorIntent, intent.masterEpoch) p.operatorView := by
  cases hassigned : p.hasAssignment with
  | false => simp [Intent.read, readIntent, PodView.operatorView, hassigned]
  | true =>
    by_cases hrole : p.assignedRole = roleMaster
    · by_cases hwins : intent.masterName = "" ∨ intent.masterEpoch < p.epoch ∨
          (p.epoch = intent.masterEpoch ∧ p.name < intent.masterName)
      · simp only [Intent.read, readIntent, PodView.operatorView, Intent.operatorIntent, hassigned, hrole,
          Bool.not_true, Bool.false_eq_true, ne_eq, not_true_eq_false, if_false, if_pos hwins]
      · simp only [Intent.read, readIntent, PodView.operatorView, Intent.operatorIntent, hassigned, hrole,
          Bool.not_true, Bool.false_eq_true, ne_eq, not_true_eq_false, if_false, if_neg hwins]
    · simp only [Intent.read, readIntent, PodView.operatorView, Intent.operatorIntent, hassigned, hrole,
        Bool.not_true, Bool.false_eq_true, ne_eq, not_false_eq_true, if_false, if_true]

theorem resolveIntent_eq (pods : List PodView) :
    (resolveIntent pods).operatorIntent = resolveFailoverIntent (pods.map (·.operatorView)) := by
  have hfold : ∀ intent : Intent,
      ((pods.foldl Intent.read intent).operatorIntent, (pods.foldl Intent.read intent).masterEpoch) =
        (pods.map (·.operatorView)).foldl readIntent (intent.operatorIntent, intent.masterEpoch) := by
    induction pods with
    | nil => intro intent; rfl
    | cons p pods ih =>
      intro intent
      rw [map_cons, foldl_cons, foldl_cons, ← Intent.read_eq]
      exact ih (intent.read p)
  exact congrArg Prod.fst (hfold ⟨"", "", 0, 0⟩)

theorem viewOf_podView (p : DataPod) : ViewOf DataPod.claimed p (podView p).operatorView := by
  unfold podView
  cases hrole : p.annotations.lookup annotationAssignedRole with
  | none | some => exact ⟨rfl, rfl, by rw [DataPod.claimed, hrole]; rfl⟩

theorem mem_failoverPodViews_iff {items : List DataPod} {view : PodView} :
    view ∈ failoverPodViews items ↔ ∃ p ∈ items, podView p = view := by
  rw [failoverPodViews, mem_insertionSort, mem_map]

/-- The intent of lrctl. -/
theorem intentOf_lrctl (pods : DataPods) :
    IntentOf DataPod.claimed pods.items (resolveIntent (failoverPodViews pods.items)).operatorIntent := by
  rw [resolveIntent_eq]
  apply intentOf_resolveFailoverIntent
  · intro p hp
    exact ⟨_, mem_map_of_mem (mem_failoverPodViews_iff.mpr ⟨p, hp, rfl⟩), viewOf_podView p⟩
  · intro view hview
    obtain ⟨own, hown, rfl⟩ := mem_map.mp hview
    obtain ⟨p, hp, rfl⟩ := mem_failoverPodViews_iff.mp hown
    exact ⟨p, hp, viewOf_podView p⟩

variable {p q : DataPod} {epoch epoch' : ℤ}

/-- Of two that prevail neither has a smaller name. -/
theorem Prevails.name_le (hp : Prevails assignment pods.items p epoch)
    (hq : Prevails assignment pods.items q epoch') : p.name ≤ q.name := by
  have habove := hq.prevails p hp.mem epoch hp.master
  rcases hp.prevails q hq.mem epoch' hq.master with hlt | ⟨-, hle⟩
  · omega
  · exact hle

theorem Prevails.unique (hp : Prevails assignment pods.items p epoch)
    (hq : Prevails assignment pods.items q epoch') : p = q :=
  inj_on_of_nodup_map pods.distinct hp.mem hq.mem (String.le_antisymm (hp.name_le hq) (hq.name_le hp))

/-- The intent is the pod that prevails. -/
theorem IntentOf.eq_of_prevails {intent : FailoverIntent} (h : IntentOf assignment pods.items intent)
    (hp : Prevails assignment pods.items p epoch) :
    intent.masterName = p.name ∧ intent.masterIP = p.ip := by
  have hnamed : intent.masterName ≠ "" := fun hempty => h.unnamed hempty p hp.mem epoch hp.master
  obtain ⟨q, epoch', hq, hname, hip⟩ := h.named hnamed
  rw [hp.unique hq]
  exact ⟨hname.symm, hip.symm⟩

end Reading

section Agreement

variable {pods : DataPods} {probes : Probes} {observed intent : FailoverIntent}

/-- The operator counts one that beats every master whose epoch is no number. -/
def UnnumberedBeaten (pods : List DataPod) : Prop :=
  ∀ p ∈ pods, p.annotations.lookup annotationAssignedRole = some roleMaster →
    atoi (p.annotation annotationAssignmentEpoch) = none →
      ∃ q ∈ pods, ∃ e, q.assigned = some (roleMaster, e) ∧ (0 < e ∨ (e = 0 ∧ q.name < p.name))

/-- The operator counts an epoch as high as every positive one beside an empty role. -/
def BlankReached (pods : List DataPod) : Prop :=
  ∀ p ∈ pods, p.annotations.lookup annotationAssignedRole = some "" →
    ∀ n, atoi (p.annotation annotationAssignmentEpoch) = some n →
      n ≤ 0 ∨ ∃ q ∈ pods, ∃ role e, q.assigned = some (role, e) ∧ n ≤ e

/-- A master that only lrctl counts has no number. -/
theorem unnumbered_of_claimed {p : DataPod} {e : ℤ} (hclaimed : p.claimed = some (roleMaster, e))
    (hassigned : p.assigned ≠ some (roleMaster, e)) :
    p.annotations.lookup annotationAssignedRole = some roleMaster ∧
      atoi (p.annotation annotationAssignmentEpoch) = none ∧ e = 0 := by
  rcases DataPod.assigned_or_of_claimed hclaimed with hcounted | ⟨hrole, ⟨hblank, -⟩ | ⟨hparsed, hzero⟩⟩
  · exact absurd hcounted hassigned
  · exact absurd hblank (by decide)
  · exact ⟨hrole, hparsed, hzero⟩

/-- If those are beaten, what prevails for the operator does for lrctl. -/
theorem Prevails.claimed {p : DataPod} {epoch : ℤ} (h : Prevails DataPod.assigned pods.items p epoch)
    (hbeaten : UnnumberedBeaten pods.items) : Prevails DataPod.claimed pods.items p epoch := by
  refine ⟨h.mem, DataPod.claimed_of_assigned h.master, ?_⟩
  intro q hq e hclaimed
  by_cases hassigned : q.assigned = some (roleMaster, e)
  · exact h.prevails q hq e hassigned
  obtain ⟨hrole, hparsed, rfl⟩ := unnumbered_of_claimed hclaimed hassigned
  obtain ⟨r, hr, e, hmaster, hwins⟩ := hbeaten q hq hrole hparsed
  have hbelow := h.prevails r hr e hmaster
  rcases hwins with hpositive | ⟨rfl, hname⟩
  · exact .inl (by omega)
  · rcases hbelow with hlt | ⟨heq, hle⟩
    · exact .inl hlt
    · exact .inr ⟨heq, String.le_trans hle (String.not_lt.mp (String.lt_asymm hname))⟩

variable (hobserved : IntentOf DataPod.claimed pods.items observed)
include hobserved

variable (hintent : IntentOf DataPod.assigned pods.items intent)
include hintent

/-- Equal masters mean that those are beaten. -/
theorem unnumberedBeaten_of_masters_agree (hname : observed.masterName = intent.masterName) :
    UnnumberedBeaten pods.items := by
  intro p hp hrole hparsed
  have hclaimed : p.claimed = some (roleMaster, 0) := by
    rw [DataPod.claimed, hrole, hparsed]
    rfl
  have hnamed : observed.masterName ≠ "" := fun hempty => hobserved.unnamed hempty p hp 0 hclaimed
  obtain ⟨q, epoch, hq, hqname, -⟩ := hobserved.named hnamed
  obtain ⟨r, e, hr, hrname, -⟩ := hintent.named (hname ▸ hnamed)
  obtain rfl : r = q := inj_on_of_nodup_map pods.distinct hr.mem hq.mem
    (hrname.trans (hname.symm.trans hqname.symm))
  have hepoch : e = epoch := by
    have heq := (DataPod.claimed_of_assigned hr.master).symm.trans hq.master
    simpa using heq
  subst hepoch
  refine ⟨r, hr.mem, e, hr.master, (hq.prevails p hp 0 hclaimed).imp id fun ⟨hzero, hle⟩ => ?_⟩
  refine ⟨hzero.symm, String.not_le.mp fun hge => ?_⟩
  have hself : r = p :=
    inj_on_of_nodup_map pods.distinct hr.mem hp (String.le_antisymm hle hge)
  rw [← hself, (DataPod.assigned_eq_some_iff.mp hr.master).2.2] at hparsed
  cases hparsed

/-- Without an intended master lrctl then has none either. -/
theorem unnamed_of_unnumberedBeaten (hbeaten : UnnumberedBeaten pods.items)
    (hnone : intent.masterName = "") : observed.masterName = "" := by
  by_contra hnamed
  obtain ⟨p, e, hp, -⟩ := hobserved.named hnamed
  by_cases hassigned : p.assigned = some (roleMaster, e)
  · exact hintent.unnamed hnone p hp.mem e hassigned
  · obtain ⟨hrole, hparsed, -⟩ := unnumbered_of_claimed hp.master hassigned
    obtain ⟨q, hq, e', hmaster, -⟩ := hbeaten p hp.mem hrole hparsed
    exact hintent.unnamed hnone q hq e' hmaster

/-- The intended masters are equal exactly when assignments without a number are beaten. -/
theorem masters_agree_iff :
    observed.masterName = intent.masterName ∧ observed.masterIP = intent.masterIP ↔
      UnnumberedBeaten pods.items := by
  constructor
  · intro hsame
    exact unnumberedBeaten_of_masters_agree hobserved hintent hsame.1
  · intro hbeaten
    by_cases hnone : intent.masterName = ""
    · have hnone' := unnamed_of_unnumberedBeaten hobserved hintent hbeaten hnone
      rw [hnone, hnone', hobserved.unaddressed hnone', hintent.unaddressed hnone]
      exact ⟨rfl, rfl⟩
    · obtain ⟨p, e, hp, hname, hip⟩ := hintent.named hnone
      rw [← hname, ← hip]
      exact hobserved.eq_of_prevails (hp.claimed hbeaten)

/-- The highest epochs are equal exactly when blank ones are reached. -/
theorem maxEpochs_agree_iff : observed.maxEpoch = intent.maxEpoch ↔ BlankReached pods.items := by
  constructor
  · intro hsame p hp hrole n hparsed
    have hclaimed : p.claimed = some ("", n) := by
      rw [DataPod.claimed, hrole, hparsed]
      rfl
    have hle := hobserved.bounds p hp "" n hclaimed
    rcases hintent.attained with hzero | ⟨q, hq, role, hassigned⟩
    · exact .inl (by omega)
    · exact .inr ⟨q, hq, role, intent.maxEpoch, hassigned, by omega⟩
  · intro hreached
    have hnonneg := hintent.nonneg
    have hnonneg' := hobserved.nonneg
    have hge : intent.maxEpoch ≤ observed.maxEpoch := by
      rcases hintent.attained with hzero | ⟨q, hq, role, hassigned⟩
      · omega
      · exact hobserved.bounds q hq role _ (DataPod.claimed_of_assigned hassigned)
    have hle : observed.maxEpoch ≤ intent.maxEpoch := by
      rcases hobserved.attained with hzero | ⟨q, hq, role, hclaimed⟩
      · omega
      rcases DataPod.assigned_or_of_claimed hclaimed with
        hassigned | ⟨hrole, ⟨rfl, hparsed⟩ | ⟨-, hzero⟩⟩
      · exact hintent.bounds q hq role _ hassigned
      · rcases hreached q hq hrole _ hparsed with hle | ⟨r, hr, role, e, hassigned, hle⟩
        · omega
        · have hbound := hintent.bounds r hr role e hassigned
          omega
      · omega
    omega

end Agreement

section Live

variable {pods : DataPods} {probes : Probes} {exec : String → Except ProbeFailure ReplicationInfo}
  {ip name : String}

/-- The answer is that of a master. -/
def AnswersAsMaster (reply : Except ProbeFailure ReplicationInfo) : Prop :=
  ∃ snap, reply = .ok snap ∧ snap.role = roleMaster

variable {items : List DataPod}

/-- Resolving hosts does not change who answers as a master. -/
theorem answersAsMaster_execProbes (hname : (redisMap items).lookup ip = some name) :
    AnswersAsMaster ((execProbes items exec).redis ip) ↔ AnswersAsMaster (exec name) := by
  simp only [AnswersAsMaster, execProbes, hname]
  cases exec name with
  | error | ok => simp [Except.map]

/-- A gathered address is a live master if it was asked and answers as one. -/
theorem liveMaster_ne_empty_iff {redisPods sentinelPods : GoMap String String} {masterName : String}
    {ownedIPs : List String} {orders : ConsensusOrders} :
    determineFailoverLiveMaster
        (gatherReplicationState probes redisPods sentinelPods masterName ownedIPs orders) ip ≠ "" ↔
      ip ≠ "" ∧ ip ∈ redisPods ∧ AnswersAsMaster (probes.redis ip) := by
  unfold determineFailoverLiveMaster AnswersAsMaster
  rw [lookup_gatherReplicationState]
  by_cases hip : ip = ""
  · simp [hip]
  cases hlookup : redisPods.lookup ip with
  | none =>
    have hnotMem := AList.lookup_eq_none.mp hlookup
    simp [hip, hnotMem]
  | some name =>
    have hmem : ip ∈ redisPods := AList.lookup_isSome.mp (by rw [hlookup]; rfl)
    cases hprobe : probes.redis ip with
    | error probeFailure => simp [hip, Probes.getRedisState, hprobe, silentNode]
    | ok snap => simp [hip, hmem, Probes.getRedisState, hprobe]

/-- The live master is the intended one or none. -/
theorem liveMaster_eq_or (state : ReplicationState) (ip : String) :
    determineFailoverLiveMaster state ip = "" ∨ determineFailoverLiveMaster state ip = ip := by
  unfold determineFailoverLiveMaster
  split
  · exact .inl rfl
  split
  · exact .inr rfl
  · exact .inl rfl

/-- Two states agree about a live master if both have one at the address or neither does. -/
theorem liveMaster_eq_iff {state state' : ReplicationState} :
    determineFailoverLiveMaster state ip = determineFailoverLiveMaster state' ip ↔
      (determineFailoverLiveMaster state ip ≠ "" ↔ determineFailoverLiveMaster state' ip ≠ "") := by
  rcases liveMaster_eq_or state ip with h | h <;> rcases liveMaster_eq_or state' ip with h' | h' <;>
    simp [h, h', eq_comm]

/-- The authority is the live master. -/
theorem authority_eq_liveMaster (views : List PodView) (state : ReplicationState) :
    (analyze views state).authority.ip =
      determineFailoverLiveMaster state (resolveIntent views).masterIP := by
  unfold analyze computeAuthority determineFailoverLiveMaster
  by_cases hip : (resolveIntent views).masterIP = ""
  · simp only [hip, ne_eq, not_true_eq_false, false_and, if_false, if_true]
    split <;> rfl
  · by_cases hlive : ((state.redisNodes.lookup (resolveIntent views).masterIP).any fun rn =>
        rn.reachable && rn.role == roleMaster) = true
    · simp [hip, hlive]
    · simp only [hip, hlive, ne_eq, not_false_eq_true, true_and, if_false, Bool.false_eq_true]
      split <;> rfl

/-- The map names a pod of the list for an address. -/
theorem exists_pod_of_lookup (h : (redisMap items).lookup ip = some name) :
    ip ≠ "" ∧ ∃ p ∈ items, p.ip = ip ∧ p.name = name := by
  obtain ⟨p, hp, hsome⟩ := mem_filterMap.mp (GoMap.mem_of_lookup_ofPairs h)
  split at hsome <;> cases hsome
  exact ⟨‹_›, p, hp, rfl, rfl⟩

/-- Every pod with an address is asked, or another one that has it. -/
theorem exists_lookup {p : DataPod} (hp : p ∈ items) (hip : p.ip ≠ "") :
    ∃ name, (redisMap items).lookup p.ip = some name := by
  refine Option.isSome_iff_exists.mp (AList.lookup_isSome.mpr ?_)
  rw [redisMap, GoMap.mem_ofPairs]
  exact ⟨p.name, mem_filterMap.mpr ⟨p, hp, if_neg hip⟩⟩

/-- The operator asks the pods that stay. -/
theorem mem_operatorMap_iff : ip ∈ Failover.redisMap pods.objects ↔
    ip ≠ "" ∧ ∃ p ∈ pods.items, p.ip = ip ∧ p.terminating = false := by
  rw [Failover.mem_redisMap_iff]
  constructor
  · rintro ⟨hip, object, hobject, hat⟩
    obtain ⟨p, hp, rfl⟩ := mem_map.mp hobject
    exact ⟨hip, p, hp, hat⟩
  · rintro ⟨hip, p, hp, hat⟩
    exact ⟨hip, p.object, mem_map_of_mem hp, hat⟩

/-- The live masters are equal exactly when the two answers are alike. -/
theorem liveMasters_agree_iff (hname : (redisMap pods.items).lookup ip = some name)
    (order operatorOrder : RangeOrder (Σ _ : String, String)) (ownedIPs : List String)
    (orders operatorOrders : ConsensusOrders) :
    determineFailoverLiveMaster (gatherFailover exec pods.items order orders) ip = determineFailoverLiveMaster
          (Failover.gatherFailover probes pods.objects operatorOrder ownedIPs operatorOrders) ip ↔
      (AnswersAsMaster (exec name) ↔
        (∃ q ∈ pods.items, q.ip = ip ∧ q.terminating = false) ∧ AnswersAsMaster (probes.redis ip)) := by
  have hip := (exists_pod_of_lookup hname).1
  have hmem : ip ∈ redisMap pods.items := AList.lookup_isSome.mp (by rw [hname]; rfl)
  rw [liveMaster_eq_iff, gatherFailover, liveMaster_ne_empty_iff, Failover.gatherFailover,
    liveMaster_ne_empty_iff, GoMap.mem_reordered, GoMap.mem_reordered, mem_operatorMap_iff,
    answersAsMaster_execProbes hname]
  simp only [hip, hmem, ne_eq, not_false_eq_true, true_and]

end Live

/-- Assignments without a number are beaten, blank epochs reached, and the pod listed last at the
intended address answers as a master exactly when one that stays does. -/
structure AgreesWithOperator (pods : List DataPod) (exec : String → Except ProbeFailure ReplicationInfo)
    (probes : Probes) : Prop where
  masters : UnnumberedBeaten pods
  epochs : BlankReached pods
  asked : ∀ p epoch, Prevails DataPod.assigned pods p epoch → ∀ name, (redisMap pods).lookup p.ip = some name →
    (AnswersAsMaster (exec name) ↔
      (∃ q ∈ pods, q.ip = p.ip ∧ q.terminating = false) ∧ AnswersAsMaster (probes.redis p.ip))

/-- Intended master, highest epoch and authority of lrctl are those of the operator exactly when what it
counts and asks beside decides nothing. -/
theorem authority_agrees_iff (pods : DataPods) (exec : String → Except ProbeFailure ReplicationInfo)
    (probes : Probes) (order operatorOrder : RangeOrder (Σ _ : String, String)) (ownedIPs : List String)
    (orders operatorOrders : ConsensusOrders) :
    let analysis := analyze (failoverPodViews pods.items) (gatherFailover exec pods.items order orders)
    let state := Failover.gatherFailover probes pods.objects operatorOrder ownedIPs operatorOrders
    let intent := resolveFailoverIntent (buildFailoverPodViews pods.objects (some state))
    ((analysis.intent.masterName = intent.masterName ∧ analysis.intent.masterIP = intent.masterIP) ∧
      analysis.intent.maxEpoch = intent.maxEpoch ∧
      analysis.authority.ip = determineFailoverLiveMaster state intent.masterIP) ↔
    AgreesWithOperator pods.items exec probes := by
  intro analysis state intent
  have hobserved : IntentOf DataPod.claimed pods.items analysis.intent.operatorIntent :=
    intentOf_lrctl pods
  have hintent : IntentOf DataPod.assigned pods.items intent := intentOf_operator pods (some state)
  have hauthority : analysis.authority.ip = determineFailoverLiveMaster
      (gatherFailover exec pods.items order orders) analysis.intent.masterIP :=
    authority_eq_liveMaster _ _
  have hmasters := masters_agree_iff hobserved hintent
  have hepochs := maxEpochs_agree_iff hobserved hintent
  have hlive := fun (ip name : String) (hname : (redisMap pods.items).lookup ip = some name) =>
    @liveMasters_agree_iff pods probes exec ip name hname order operatorOrder ownedIPs orders operatorOrders
  constructor
  · rintro ⟨hsame, hmax, hip⟩
    refine ⟨hmasters.mp hsame, hepochs.mp hmax, fun p epoch hp name hname => (hlive p.ip name hname).mp ?_⟩
    have hp' := hintent.eq_of_prevails hp
    rwa [hauthority, hsame.2, hp'.2] at hip
  · rintro ⟨hbeaten, hreached, hasked⟩
    have hsame := hmasters.mpr hbeaten
    refine ⟨hsame, hepochs.mpr hreached, ?_⟩
    have hip : analysis.intent.masterIP = intent.masterIP := hsame.2
    rw [hauthority, hip]
    by_cases haddress : intent.masterIP = ""
    · rw [haddress]
      rfl
    · obtain ⟨p, epoch, hp, -, hpip⟩ := hintent.named fun hempty => haddress (hintent.unaddressed hempty)
      rw [← hpip] at haddress ⊢
      obtain ⟨name, hname⟩ := exists_lookup hp.mem haddress
      exact (hlive p.ip name hname).mpr (hasked p epoch hp name hname)

/-- A pod with an assignment. -/
def annotatedPod (name ip role epoch : String) (terminating : Bool) : DataPod where
  name := name
  ip := ip
  terminating := terminating
  ready := true
  restarted := false
  roleLabel := role
  annotations := GoMap.ofPairs [(annotationAssignedRole, role), (annotationAssignmentEpoch, epoch)]

def dyingMaster : DataPods where
  items := [annotatedPod "lr-redis-0" "10.0.0.1" "master" "3" true,
    annotatedPod "lr-redis-1" "10.0.0.2" "replica" "3" false]
  named := by decide
  distinct := by decide

/-- A master without an epoch, and an epoch without a role. -/
def partialRecord : DataPods where
  items := [annotatedPod "lr-redis-0" "10.0.0.1" "master" "" false,
    annotatedPod "lr-redis-1" "10.0.0.2" "" "7" false]
  named := by decide
  distinct := by decide

/-- The first pod answers as a master, and the other as its replica. -/
def pairExec (podName : String) : Except ProbeFailure ReplicationInfo :=
  if podName = "lr-redis-0" then .ok ⟨"master", "", "", 90, 4, "7a", ""⟩
  else .ok ⟨"slave", "10.0.0.1", "up", 90, 4, "7a", ""⟩

def pairProbes : Probes where
  redis ip := pairExec (if ip = "10.0.0.1" then "lr-redis-0" else "lr-redis-1")
  sentinel _ := none

/-- lrctl takes a terminating master for the authority, and reads a master and an epoch from partial
records. -/
theorem dyingMaster_disagrees :
    let analysisOf := fun pods : DataPods =>
      analyze (failoverPodViews pods.items) (gatherFailover pairExec pods.items .asGiven .asGiven)
    let stateOf := fun pods : DataPods =>
      Failover.gatherFailover pairProbes pods.objects .asGiven ["10.0.0.1", "10.0.0.2"] .asGiven
    let intentOf := fun pods : DataPods =>
      resolveFailoverIntent (buildFailoverPodViews pods.objects (some (stateOf pods)))
    ((analysisOf dyingMaster).authority.ip = "10.0.0.1" ∧
      determineFailoverLiveMaster (stateOf dyingMaster) (intentOf dyingMaster).masterIP = "") ∧
    ((analysisOf partialRecord).intent = ⟨"lr-redis-0", "10.0.0.1", 0, 7⟩ ∧
      intentOf partialRecord = ⟨"", "", 0⟩) := by
  decide

end LittleRed.Lrctl
