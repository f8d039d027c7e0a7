import LittleRed.Lib.Connectivity
import Mathlib.Data.List.Nodup

/-!
# Forests of parent pointers

A union-find structure maps each element it has seen to a parent, the roots to themselves. What it
stands for is the partition by roots. Pointing an element at its own root changes nothing about
that, and pointing a root at another one joins two classes.
-/

namespace LittleRed.Lib

open Relation List Function

variable {α : Type*} {parent : α → Option α}

/-- The way from an element along the parents ends in a root, after so many steps. -/
inductive RootIn (parent : α → Option α) : ℕ → α → α → Prop
  | root {r : α} (hroot : parent r = some r) : RootIn parent 0 r r
  | step {n : ℕ} {x p r : α} (hparent : parent x = some p) (hne : p ≠ x) (hroot : RootIn parent n p r) :
      RootIn parent (n + 1) x r

def Forest (parent : α → Option α) : Prop :=
  ∀ x, parent x ≠ none → ∃ n r, RootIn parent n x r

open Classical in
/-- The root of an element. One that was never seen is its own. -/
noncomputable def rootOf (parent : α → Option α) (x : α) : α :=
  if h : ∃ r n, RootIn parent n x r then h.choose else x

section Roots

variable {n m : ℕ} {x r r' : α}

theorem RootIn.parent_root (h : RootIn parent n x r) : parent r = some r := by
  induction h with
  | root hroot => exact hroot
  | step _ _ _ ih => exact ih

theorem RootIn.ne_none (h : RootIn parent n x r) : parent x ≠ none := by
  cases h with
  | root hroot => simp [hroot]
  | step hparent => simp [hparent]

/-- The way and the root are unique. -/
theorem RootIn.unique (h : RootIn parent n x r) (h' : RootIn parent m x r') : n = m ∧ r = r' := by
  induction h generalizing m with
  | root hroot =>
    cases h' with
    | root => exact ⟨rfl, rfl⟩
    | step hparent hne =>
      rw [hroot] at hparent
      exact absurd (Option.some.inj hparent).symm hne
  | step hparent hne _ ih =>
    cases h' with
    | root hroot =>
      rw [hroot] at hparent
      exact absurd (Option.some.inj hparent).symm hne
    | step hparent' hne' hroot' =>
      rw [hparent] at hparent'
      cases hparent'
      obtain ⟨rfl, rfl⟩ := ih hroot'
      exact ⟨rfl, rfl⟩

theorem RootIn.rootOf_eq (h : RootIn parent n x r) : rootOf parent x = r := by
  have hex : ∃ r n, RootIn parent n x r := ⟨r, n, h⟩
  rw [rootOf, dif_pos hex]
  obtain ⟨k, hk⟩ := hex.choose_spec
  exact (hk.unique h).2

theorem rootOf_of_none (h : parent x = none) : rootOf parent x = x := by
  rw [rootOf, dif_neg]
  rintro ⟨r, n, hroot⟩
  exact hroot.ne_none h

/-- A root is its own root. -/
theorem Forest.rootOf_rootOf (hforest : Forest parent) (x : α) :
    rootOf parent (rootOf parent x) = rootOf parent x := by
  by_cases hx : parent x = none
  · rw [rootOf_of_none hx, rootOf_of_none hx]
  · obtain ⟨n, r, hroot⟩ := hforest x hx
    rw [hroot.rootOf_eq]
    exact (RootIn.root hroot.parent_root).rootOf_eq

/-- The elements on the way are different. -/
theorem RootIn.exists_path (h : RootIn parent n x r) :
    ∃ path : List α, path.length = n + 1 ∧ path.Nodup ∧
      ∀ y ∈ path, parent y ≠ none ∧ ∃ k ≤ n, RootIn parent k y r := by
  induction h with
  | @root r hroot =>
    refine ⟨[r], rfl, nodup_singleton r, fun y hy => ?_⟩
    obtain rfl := mem_singleton.mp hy
    exact ⟨by simp [hroot], 0, le_refl 0, .root hroot⟩
  | @step n x p r hparent hne hroot ih =>
    obtain ⟨path, hlength, hnodup, hpath⟩ := ih
    have hnew : x ∉ path := by
      intro hmem
      obtain ⟨-, k, hk, hway⟩ := hpath x hmem
      have hsteps := (hway.unique (.step hparent hne hroot)).1
      omega
    refine ⟨x :: path, by rw [length_cons, hlength], nodup_cons.mpr ⟨hnew, hnodup⟩, ?_⟩
    rw [forall_mem_cons]
    refine ⟨⟨by simp [hparent], n + 1, le_refl _, .step hparent hne hroot⟩, fun y hy => ?_⟩
    obtain ⟨hseen, k, hk, hway⟩ := hpath y hy
    exact ⟨hseen, k, Nat.le_succ_of_le hk, hway⟩

/-- The way is shorter than the list of seen elements. -/
theorem RootIn.lt_length (h : RootIn parent n x r) {seen : List α}
    (hseen : ∀ y, parent y ≠ none → y ∈ seen) : n < seen.length := by
  obtain ⟨path, hlength, hnodup, hpath⟩ := h.exists_path
  have hsub : path ⊆ seen := fun y hy => hseen y (hpath y hy).1
  have hle := (subperm_of_subset hnodup hsub).length_le
  omega

/-- Roots are kept when the ways to them are. -/
theorem rootOf_eq_of_rootIn {parent' : α → Option α} (hforest : Forest parent) {y : α}
    (hkept : ∀ n r, RootIn parent n y r → ∃ m, RootIn parent' m y r)
    (hnew : parent y = none → rootOf parent' y = y) : rootOf parent' y = rootOf parent y := by
  by_cases hy : parent y = none
  · rw [rootOf_of_none hy, hnew hy]
  · obtain ⟨n, r, hroot⟩ := hforest y hy
    obtain ⟨m, hroot'⟩ := hkept n r hroot
    rw [hroot.rootOf_eq, hroot'.rootOf_eq]

end Roots

section Update

variable [DecidableEq α] {x r : α}

/-- Pointing an element at its root keeps all roots of ways. -/
theorem RootIn.compress {n m : ℕ} {y r' : α} (hx : RootIn parent n x r) (hy : RootIn parent m y r') :
    ∃ k, RootIn (update parent x (some r)) k y r' := by
  have hroots : ∀ z, parent z = some z → update parent x (some r) z = some z := by
    intro z hz
    by_cases hzx : z = x
    · subst hzx
      rw [update_self, (hx.unique (.root hz)).2]
    · rw [update_of_ne hzx, hz]
  induction hy with
  | root hroot => exact ⟨0, .root (hroots _ hroot)⟩
  | @step m y p r' hparent hne hroot ih =>
    obtain ⟨k, hk⟩ := ih
    by_cases hyx : y = x
    · subst hyx
      obtain ⟨-, rfl⟩ := hx.unique (.step hparent hne hroot)
      have hroot' := hroots r hx.parent_root
      by_cases hry : r = y
      · subst hry
        exact ⟨0, .root hroot'⟩
      · exact ⟨1, .step (update_self _ _ _) hry (.root hroot')⟩
    · refine ⟨k + 1, .step ?_ hne hk⟩
      rw [update_of_ne hyx, hparent]

/-- Pointing an element at its root keeps the forest and its roots. -/
theorem Forest.compress (hforest : Forest parent) {n : ℕ} (hx : RootIn parent n x r) :
    Forest (update parent x (some r)) ∧ ∀ y, rootOf (update parent x (some r)) y = rootOf parent y := by
  have hkept : ∀ y, parent y = none → update parent x (some r) y = none := by
    intro y hy
    have hyx : y ≠ x := by
      rintro rfl
      exact hx.ne_none hy
    rw [update_of_ne hyx, hy]
  refine ⟨fun y hy => ?_, fun y => ?_⟩
  · obtain ⟨m, r', hroot⟩ := hforest y fun hnone => hy (hkept y hnone)
    obtain ⟨k, hk⟩ := hx.compress hroot
    exact ⟨k, r', hk⟩
  · exact rootOf_eq_of_rootIn hforest (fun m r' hroot => hx.compress hroot)
      fun hnone => rootOf_of_none (hkept y hnone)

/-- A new root keeps the forest and its roots. -/
theorem Forest.register (hforest : Forest parent) (hx : parent x = none) :
    Forest (update parent x (some x)) ∧ ∀ y, rootOf (update parent x (some x)) y = rootOf parent y := by
  have hself : RootIn (update parent x (some x)) 0 x x := .root (update_self _ _ _)
  have hkept : ∀ {n y r}, RootIn parent n y r → RootIn (update parent x (some x)) n y r := by
    intro n y r hy
    induction hy with
    | root hroot =>
      refine .root ?_
      rw [update_of_ne (fun hyx => by simp [hyx, hx] at hroot), hroot]
    | step hparent hne _ ih =>
      refine .step ?_ hne ih
      rw [update_of_ne (fun hyx => by simp [hyx, hx] at hparent), hparent]
  refine ⟨fun y hy => ?_, fun y => ?_⟩
  · by_cases hyx : y = x
    · subst hyx
      exact ⟨0, y, hself⟩
    · rw [update_of_ne hyx] at hy
      obtain ⟨n, r, hroot⟩ := hforest y hy
      exact ⟨n, r, hkept hroot⟩
  · refine rootOf_eq_of_rootIn hforest (fun n r hroot => ⟨n, hkept hroot⟩) fun hnone => ?_
    by_cases hyx : y = x
    · subst hyx
      exact hself.rootOf_eq
    · exact rootOf_of_none (by rw [update_of_ne hyx, hnone])

variable {a b : α}

/-- Pointing one root at another moves the ways that end there. -/
theorem RootIn.link {n : ℕ} {y : α} (ha : parent a = some a) (hb : parent b = some b)
    (hy : RootIn parent n y r) :
    ∃ m, RootIn (update parent a (some b)) m y (if r = a then b else r) := by
  have hroots : ∀ z, parent z = some z → z ≠ a → update parent a (some b) z = some z :=
    fun z hz hza => by rw [update_of_ne hza, hz]
  induction hy with
  | @root r hroot =>
    by_cases hra : r = a
    · subst hra
      rw [if_pos rfl]
      by_cases hbr : b = r
      · subst hbr
        exact ⟨0, .root (update_self _ _ _)⟩
      · exact ⟨1, .step (update_self _ _ _) hbr (.root (hroots b hb hbr))⟩
    · rw [if_neg hra]
      exact ⟨0, .root (hroots r hroot hra)⟩
  | @step n y p r hparent hne hroot ih =>
    obtain ⟨m, hm⟩ := ih
    have hya : y ≠ a := by
      rintro rfl
      rw [ha] at hparent
      exact hne (Option.some.inj hparent).symm
    exact ⟨m + 1, .step (by rw [update_of_ne hya, hparent]) hne hm⟩

/-- Pointing one root at another joins their classes. -/
theorem Forest.link (hforest : Forest parent) (ha : parent a = some a) (hb : parent b = some b) :
    Forest (update parent a (some b)) ∧ ∀ y, rootOf (update parent a (some b)) y =
        if rootOf parent y = a then b else rootOf parent y := by
  refine ⟨fun y hy => ?_, fun y => ?_⟩
  · have hseen : parent y ≠ none := by
      by_cases hya : y = a
      · subst hya
        simp [ha]
      · rwa [update_of_ne hya] at hy
    obtain ⟨n, r, hroot⟩ := hforest y hseen
    obtain ⟨m, hm⟩ := hroot.link ha hb
    exact ⟨m, _, hm⟩
  · by_cases hy : parent y = none
    · have hya : y ≠ a := fun hya => by simp [hya, ha] at hy
      rw [rootOf_of_none hy, if_neg hya, rootOf_of_none]
      rw [update_of_ne hya, hy]
    · obtain ⟨n, r, hroot⟩ := hforest y hy
      obtain ⟨m, hm⟩ := hroot.link ha hb
      rw [hroot.rootOf_eq, hm.rootOf_eq]

end Update

/-- The classes are the components of a relation. -/
def Represents (parent : α → Option α) (r : α → α → Prop) : Prop :=
  Forest parent ∧ ∀ x y, rootOf parent x = rootOf parent y ↔ Connected r x y

/-- Nothing seen stands for no arrow. -/
theorem represents_empty : Represents (fun _ : α => none) fun _ _ => False := by
  refine ⟨fun x hx => absurd rfl hx, fun x y => ?_⟩
  rw [rootOf_of_none rfl, rootOf_of_none rfl]
  constructor
  · rintro rfl
    exact .refl
  · intro h
    induction h with
    | refl => rfl
    | tail _ hlast => exact (hlast.elim id id).elim

variable {r : α → α → Prop} {parent' : α → Option α}

/-- A forest with the same roots stands for the same relation. -/
theorem Represents.congr (h : Represents parent r) (hforest : Forest parent')
    (hroots : ∀ y, rootOf parent' y = rootOf parent y) :
    Represents parent' r := by
  refine ⟨hforest, fun x y => ?_⟩
  rw [hroots, hroots]
  exact h.2 x y

/-- Joining two classes adds one arrow. -/
theorem Represents.link [DecidableEq α] (h : Represents parent r) (hforest : Forest parent') {x y : α}
    (hroots : ∀ z, rootOf parent' z =
      if rootOf parent z = rootOf parent x then rootOf parent y else rootOf parent z) :
    Represents parent' fun a b => r a b ∨ (a = x ∧ b = y) := by
  have hclass : ∀ {a b}, Connected r a b → Connected (fun a b => r a b ∨ (a = x ∧ b = y)) a b :=
    fun hab => ReflTransGen.mono (fun _ _ hstep => hstep.imp .inl .inl) _ _ hab
  have hedge : Connected (fun a b => r a b ∨ (a = x ∧ b = y)) x y := .single (.inl (.inr ⟨rfl, rfl⟩))
  refine ⟨hforest, fun a b => ⟨fun hab => ?_, fun hab => ?_⟩⟩
  · rw [hroots, hroots] at hab
    by_cases ha : rootOf parent a = rootOf parent x
    · by_cases hb : rootOf parent b = rootOf parent x
      · exact hclass ((h.2 a b).mp (ha.trans hb.symm))
      · rw [if_pos ha, if_neg hb] at hab
        exact ((hclass ((h.2 a x).mp ha)).trans hedge).trans (hclass ((h.2 y b).mp hab))
    · by_cases hb : rootOf parent b = rootOf parent x
      · rw [if_neg ha, if_pos hb] at hab
        exact (hclass ((h.2 a y).mp hab)).trans (hedge.symm.trans (hclass ((h.2 x b).mp hb.symm)))
      · rw [if_neg ha, if_neg hb] at hab
        exact hclass ((h.2 a b).mp hab)
  · have hjoined : rootOf parent' x = rootOf parent' y := by
      rw [hroots, hroots, if_pos rfl]
      split
      · rfl
      · rfl
    have hstep : ∀ {a b}, (r a b ∨ (a = x ∧ b = y)) → rootOf parent' a = rootOf parent' b := by
      rintro a b (hr | ⟨rfl, rfl⟩)
      · rw [hroots, hroots, (h.2 a b).mpr (.single (.inl hr))]
      · exact hjoined
    induction hab with
    | refl => rfl
    | tail _ hlast ih =>
      rcases hlast with hforward | hbackward
      · exact ih.trans (hstep hforward)
      · exact ih.trans (hstep hbackward).symm

end LittleRed.Lib
