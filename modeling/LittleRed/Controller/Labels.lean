import LittleRed.Lib.GoMap
import LittleRed.Lib.Text

/-!
# The labels that tie pods to their workloads

StatefulSets, Services and disruption budgets find their pods by labels. A pod template has those that the
instance passes on, the operator's own, and those that the user asks for. Whatever the user writes, a
selector finds exactly the templates that it is meant for.
-/

namespace LittleRed.Controller

open Lib List

/-- What the labels of an instance's resources are made of. -/
structure Resource where
  name : String
  appName : String
  labels : GoMap String String
  podTemplateLabels : GoMap String String
  imageTag : String
  mode : String

def labelAppName : String := "app.kubernetes.io/name"

def labelAppInstance : String := "app.kubernetes.io/instance"

def labelAppManagedBy : String := "app.kubernetes.io/managed-by"

def labelAppVersion : String := "app.kubernetes.io/version"

def labelAppComponent : String := "app.kubernetes.io/component"

def operatorKeyPrefix : String := "redis.chuck-chuck-chuck.net/"

def labelMode : String := "redis.chuck-chuck-chuck.net/mode"

def labelRole : String := "redis.chuck-chuck-chuck.net/role"

def labelShard : String := "redis.chuck-chuck-chuck.net/shard"

/-- Keys that begin in one of these ways are not passed on. -/
def nonInheritedPrefixes : List String :=
  [operatorKeyPrefix, "kubectl.kubernetes.io/", "argocd.argoproj.io/", "meta.helm.sh/", "helm.sh/",
    "kustomize.toolkit.fluxcd.io/", "helm.toolkit.fluxcd.io/"]

/-- The keys of selectors. -/
def structuralLabelKeys : List String :=
  [labelAppName, labelAppInstance, labelAppComponent, labelShard, labelRole]

def operatorOwnedKeys : List String := [labelAppManagedBy, labelAppVersion] ++ structuralLabelKeys

def appNameFor (lr : Resource) : String := if lr.appName ≠ "" then lr.appName else "littlered"

/-- The key is passed on. -/
def isInheritableKey (key : String) : Bool :=
  !(nonInheritedPrefixes.any fun front => (cutFront front key).isSome) && !operatorOwnedKeys.contains key

/-- The labels that are passed on. -/
def inheritedLabels (lr : Resource) : GoMap String String :=
  lr.labels.filterEntries fun key _ => isInheritableKey key

/-- The operator's labels over those that are passed on. -/
def objectLabels (lr : Resource) (owned : GoMap String String) : GoMap String String :=
  owned ∪ inheritedLabels lr

/-- What is passed on, the operator's, and the user's but for the keys of selectors. -/
def podTemplateLabels (lr : Resource) (owned : GoMap String String) : GoMap String String :=
  lr.podTemplateLabels.filterEntries (fun key _ => !structuralLabelKeys.contains key) ∪
    objectLabels lr owned

/-- The labels of every object. -/
def commonLabels (lr : Resource) : GoMap String String :=
  objectLabels lr <| .ofPairs
    [(labelAppName, appNameFor lr), (labelAppInstance, lr.name), (labelAppManagedBy, "littlered-operator"),
      (labelAppVersion, lr.imageTag), (labelMode, lr.mode)]

/-- The label of a shard. -/
def clusterShardLabelValue (shardIdx : ℕ) : String := toString shardIdx

/-- Labels of the instance, and others. -/
def instanceLabels (lr : Resource) (others : List (String × String)) : GoMap String String :=
  .ofPairs ((labelAppName, appNameFor lr) :: (labelAppInstance, lr.name) :: others)

inductive Selector where
  | all
  | redis
  | sentinel
  | master
  | cluster
  | shard (shardIdx : ℕ)

/-- The labels of a selector beside those of the instance. -/
def Selector.others : Selector → List (String × String)
  | .all => []
  | .redis => [(labelAppComponent, "redis")]
  | .sentinel => [(labelAppComponent, "sentinel")]
  | .master => [(labelAppComponent, "redis"), (labelRole, "master")]
  | .cluster => [(labelAppComponent, "cluster")]
  | .shard shardIdx => [(labelAppComponent, "cluster"), (labelShard, clusterShardLabelValue shardIdx)]

/-- `selectorLabels` and its variants for redis, sentinel, master, cluster and shard. -/
def Selector.labels (selector : Selector) (lr : Resource) : GoMap String String :=
  instanceLabels lr selector.others

inductive Workload where
  | standalone
  | redis
  | sentinel
  | shard (shardIdx : ℕ)

/-- The selector of a StatefulSet. -/
def Workload.selector : Workload → Selector
  | .standalone => .all
  | .redis => .redis
  | .sentinel => .sentinel
  | .shard shardIdx => .shard shardIdx

/-- The operator's labels of a pod template; those of a standalone instance name its component too. -/
def Workload.owned : Workload → Selector
  | .standalone => .redis
  | workload => workload.selector

/-- The labels of the pods of a StatefulSet. -/
def Workload.template (workload : Workload) (lr : Resource) : GoMap String String :=
  podTemplateLabels lr (workload.owned.labels lr)

/-- A selector finds the objects that carry all of its labels. -/
def matchLabels (selector labels : GoMap String String) : Bool :=
  selector.entries.all fun entry => labels.lookup entry.1 == some entry.2

/-- The selector is meant for the StatefulSet. -/
def Selector.covers : Selector → Workload → Prop
  | .all, _ | .redis, .standalone | .redis, .redis | .sentinel, .sentinel | .cluster, .shard _ => True
  | .shard shardIdx, .shard shardIdx' => shardIdx = shardIdx'
  | _, _ => False

/-- The labels of the StatefulSet of a shard. -/
def shardStatefulSetLabels (lr : Resource) (shardIdx : ℕ) : GoMap String String :=
  ((commonLabels lr).insert labelAppComponent "cluster").insert labelShard (clusterShardLabelValue shardIdx)

/-- Its name. -/
def clusterShardStatefulSetName (lr : Resource) (shardIdx : ℕ) : String :=
  lr.name ++ "-shard-" ++ toString shardIdx

/-- The StatefulSets of the instance whose shard is beyond the number asked for. -/
def detectOrphanedShardStatefulSets (lr : Resource) (shards : ℕ)
    (sets : List (String × GoMap String String)) : List String :=
  sets.filterMap fun (name, labels) => do
    if matchLabels (Selector.cluster.labels lr) labels = false then none
    let shardIdx ← (labels.lookup labelShard).bind atoi
    if (shards : ℤ) ≤ shardIdx then some name else none

/-- A selector matches when all its labels are there. -/
theorem matchLabels_iff (selector labels : GoMap String String) :
    matchLabels selector labels = true ↔
      ∀ key value, selector.lookup key = some value → labels.lookup key = some value := by
  simp only [matchLabels, all_eq_true, beq_iff_eq, Sigma.forall]
  exact forall₂_congr fun key value => imp_congr_left AList.mem_lookup_iff.symm

theorem clusterShardLabelValue_injective : Function.Injective clusterShardLabelValue := toString_injective

section Lookup

variable (lr : Resource) (owned : GoMap String String) {key : String}

/-- Owned labels are the operator's. -/
theorem lookup_objectLabels (hkey : key ∈ operatorOwnedKeys) :
    (objectLabels lr owned).lookup key = owned.lookup key := by
  refine Option.ext fun value => ?_
  have hunion := @AList.mem_lookup_union _ _ _ key value owned (inheritedLabels lr)
  refine hunion.trans (or_iff_left fun hinherited => ?_)
  have hkept := (GoMap.lookup_filterEntries_eq_some.mp hinherited.2).2
  simp [isInheritableKey, hkey] at hkept

/-- So are the keys of selectors on templates. -/
theorem lookup_podTemplateLabels (hkey : key ∈ structuralLabelKeys) :
    (podTemplateLabels lr owned).lookup key = owned.lookup key := by
  refine (@AList.lookup_union_right _ _ _ key _ _ fun hmem => ?_).trans
    (lookup_objectLabels lr owned (mem_append_right _ hkey))
  obtain ⟨value, hvalue⟩ := Option.isSome_iff_exists.mp (AList.lookup_isSome.mpr hmem)
  have hkept := (GoMap.lookup_filterEntries_eq_some.mp hvalue).2
  simp [hkey] at hkept

end Lookup

namespace Selector

variable (selector : Selector)

theorem keys_sublist :
    (labelAppName :: labelAppInstance :: selector.others.map Prod.fst).Sublist structuralLabelKeys := by
  cases selector <;> simp only [others, map_cons, map_nil] <;> decide

theorem nodup_keys : (labelAppName :: labelAppInstance :: selector.others.map Prod.fst).Nodup :=
  List.Nodup.sublist selector.keys_sublist (by decide)

/-- The labels of a selector. -/
theorem labels_eq_some (lr : Resource) {key value : String} :
    (selector.labels lr).lookup key = some value ↔
      (key, value) ∈ (labelAppName, appNameFor lr) :: (labelAppInstance, lr.name) :: selector.others :=
  GoMap.lookup_ofPairs_eq_some (by simpa using selector.nodup_keys)

/-- All of them are structural. -/
theorem structural {selector : Selector} {lr : Resource} {key value : String}
    (h : (selector.labels lr).lookup key = some value) : key ∈ structuralLabelKeys :=
  selector.keys_sublist.subset (mem_map_of_mem (f := Prod.fst) (selector.labels_eq_some lr |>.mp h))

/-- One selector matches the labels of another when it asks for no more. -/
theorem matches_iff (selector owned : Selector) (lr lr' : Resource) :
    matchLabels (selector.labels lr) (owned.labels lr') ↔
      (lr.name = lr'.name ∧ appNameFor lr = appNameFor lr') ∧ selector.others ⊆ owned.others := by
  simp only [matchLabels_iff, labels_eq_some]
  have hkeys := selector.nodup_keys
  have hkeys' := owned.nodup_keys
  simp only [nodup_cons, mem_cons, mem_map, not_or, not_exists, not_and] at hkeys hkeys'
  constructor
  · intro h
    have happ := h labelAppName (appNameFor lr) mem_cons_self
    have hname := h labelAppInstance lr.name (mem_cons_of_mem _ mem_cons_self)
    simp only [mem_cons, Prod.mk.injEq] at happ hname
    refine ⟨⟨?_, ?_⟩, fun pair hpair => ?_⟩
    · grind
    · grind
    · have hfound := h pair.1 pair.2 (mem_cons_of_mem _ (mem_cons_of_mem _ hpair))
      grind
  · rintro ⟨⟨hname, happ⟩, hsub⟩ key value hvalue
    grind

end Selector

/-- Whatever labels there are, a selector finds the pods of a StatefulSet exactly if name and application
are equal and it is meant for that kind. -/
theorem selectors_find_own_pods (selector : Selector) (workload : Workload) (lr lr' : Resource) :
    matchLabels (selector.labels lr) (workload.template lr') ↔
      (lr.name = lr'.name ∧ appNameFor lr = appNameFor lr') ∧ selector.covers workload := by
  have htemplate : matchLabels (selector.labels lr) (workload.template lr') ↔
      matchLabels (selector.labels lr) (workload.owned.labels lr') := by
    rw [matchLabels_iff, matchLabels_iff]
    refine forall₃_congr fun key value hvalue => ?_
    rw [Workload.template, lookup_podTemplateLabels lr' _ (Selector.structural hvalue)]
  rw [htemplate, Selector.matches_iff]
  refine and_congr_right fun _ => ?_
  cases selector <;> cases workload <;>
    simp [Selector.others, Workload.owned, Workload.selector, Selector.covers, labelAppComponent, labelRole,
      labelShard, clusterShardLabelValue_injective.eq_iff]

/-- The StatefulSet of a shard has the labels of its selector. -/
theorem lookup_shardStatefulSetLabels (lr : Resource) (shardIdx : ℕ) :
    ∀ key ∈ [labelAppName, labelAppInstance, labelAppComponent],
      (shardStatefulSetLabels lr shardIdx).lookup key = ((Selector.shard shardIdx).labels lr).lookup key := by
  have hname (owned) :=
    lookup_objectLabels lr owned (show "app.kubernetes.io/name" ∈ operatorOwnedKeys by decide)
  have hinstance (owned) :=
    lookup_objectLabels lr owned (show "app.kubernetes.io/instance" ∈ operatorOwnedKeys by decide)
  simp [shardStatefulSetLabels, commonLabels, hname, hinstance, Selector.labels, instanceLabels,
    Selector.others, GoMap.ofPairs, GoMap.insertAll, labelAppName, labelAppInstance, labelAppComponent,
    labelShard, labelAppVersion, labelAppManagedBy, labelMode]

/-- It is found by the cluster selector of its instance. -/
theorem matchLabels_shardStatefulSetLabels (lr lr' : Resource) (shardIdx : ℕ) :
    matchLabels (Selector.cluster.labels lr) (shardStatefulSetLabels lr' shardIdx) ↔
      lr.name = lr'.name ∧ appNameFor lr = appNameFor lr' := by
  have hagree : matchLabels (Selector.cluster.labels lr) (shardStatefulSetLabels lr' shardIdx) ↔
      matchLabels (Selector.cluster.labels lr) ((Selector.shard shardIdx).labels lr') := by
    rw [matchLabels_iff, matchLabels_iff]
    refine forall₃_congr fun key value hvalue => ?_
    have hkey := mem_map_of_mem (f := Prod.fst) (Selector.cluster.labels_eq_some lr |>.mp hvalue)
    rw [lookup_shardStatefulSetLabels lr' shardIdx key hkey]
  rw [hagree, Selector.matches_iff]
  exact and_iff_left (by simp [Selector.others])

/-- Exactly the shards of the instance beyond the number asked for are found. -/
theorem orphanedShards_found (lr : Resource) (shards : ℕ) (sets : List (Resource × ℕ))
    (hsets : ∀ set ∈ sets, set.2 < 2 ^ 63) :
    detectOrphanedShardStatefulSets lr shards (sets.map fun set =>
        (clusterShardStatefulSetName set.1 set.2, shardStatefulSetLabels set.1 set.2)) =
      (sets.filter fun set => lr.name = set.1.name ∧ appNameFor lr = appNameFor set.1 ∧ shards ≤ set.2).map
        fun set => clusterShardStatefulSetName set.1 set.2 := by
  rw [detectOrphanedShardStatefulSets, filterMap_map, ← filterMap_eq_map, filterMap_filter]
  refine filterMap_congr fun set hset => ?_
  have hshard : ((shardStatefulSetLabels set.1 set.2).lookup labelShard).bind atoi = some (set.2 : ℤ) := by
    rw [shardStatefulSetLabels, AList.lookup_insert, Option.bind_some]
    exact atoi_toString (hsets set hset)
  have hmatch := matchLabels_shardStatefulSetLabels lr set.1 set.2
  simp only [Function.comp_apply, hshard]
  by_cases hours : lr.name = set.1.name ∧ appNameFor lr = appNameFor set.1
  · simp [hmatch.mpr hours, hours]
  · simp [Bool.eq_false_iff.mpr (hmatch.not.mpr hours), ← and_assoc, hours]

/-- An instance with one shard more than it asks for, beside another instance. -/
theorem scaledDown_found :
    detectOrphanedShardStatefulSets ⟨"lr", "", ∅, ∅, "8", "cluster"⟩ 3
      ([(⟨"lr", "", ∅, ∅, "8", "cluster"⟩, 2), (⟨"lr", "", ∅, ∅, "8", "cluster"⟩, 3),
        (⟨"other", "", ∅, ∅, "8", "cluster"⟩, 3)].map fun set =>
          (clusterShardStatefulSetName set.1 set.2, shardStatefulSetLabels set.1 set.2)) = ["lr-shard-3"] := by
  rw [orphanedShards_found _ _ _ (by decide)]
  decide

end LittleRed.Controller
