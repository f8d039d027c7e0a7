import Mathlib.Data.List.Basic

/-!
# Runs of labelled transition systems

A system is given by its initial states and a partial step function: the label carries
every choice that the step does not make itself, and `none` means that the label is not
enabled. A guard restricts the steps a run may take, so that a property of runs whose
steps all meet some condition is a statement about reachability under that guard.
-/

namespace LittleRed.Lib

open Option

variable {State Label : Type*}

/-- A labelled transition system with a partial, deterministic step for each label. -/
structure System (State Label : Type*) where
  initial : State → Prop
  step : State → Label → Option State

/-- A conditional step that is taken meets its condition. -/
theorem of_ite_some {p : Prop} [Decidable p] {s t : State} (h : (if p then some s else none) = some t) :
    p ∧ s = t := by
  rwa [ite_none_right_eq_some, some.injEq] at h

namespace System

/-- The states that runs from an initial state reach when every step meets the guard. -/
inductive Reachable (sys : System State Label) (guard : State → Label → Prop) : State → Prop
  | initial {s : State} : sys.initial s → Reachable sys guard s
  | step {s s' : State} {a : Label} :
      Reachable sys guard s → guard s a → sys.step s a = some s' → Reachable sys guard s'

/-- The guard that every step meets, leaving runs unrestricted. -/
def anyStep (_ : State) (_ : Label) : Prop := True

instance (s : State) (a : Label) : Decidable (anyStep s a) := .isTrue trivial

/-- Follow a list of labels, stopping with `none` at the first one that is not enabled. -/
def follow (sys : System State Label) (s : State) (labels : List Label) : Option State :=
  labels.foldlM sys.step s

variable {sys : System State Label} {guard allowed : State → Label → Prop} {s t : State}
  {labels : List Label} (inv : State → Prop) {a : Label}

/-- What holds initially and is kept by every step that meets the guard holds in all reachable states. -/
theorem Reachable.invariant (hinitial : ∀ s, sys.initial s → inv s)
    (hstep : ∀ s a s', inv s → guard s a → sys.step s a = some s' → inv s')
    (h : sys.Reachable guard s) : inv s := by
  induction h with
  | initial hs => exact hinitial _ hs
  | step _ hguard hs ih => exact hstep _ _ _ ih hguard hs

/-- A state leads to another through steps that are all allowed. -/
inductive Path (sys : System State Label) (allowed : State → Label → Prop) (s : State) :
    State → Prop
  | refl : Path sys allowed s s
  | tail {t u : State} {a : Label} :
      Path sys allowed s t → allowed t a → sys.step t a = some u → Path sys allowed s u

/-- Paths compose. -/
theorem Path.trans {u : State} (hst : sys.Path allowed s t)
    (htu : sys.Path allowed t u) : sys.Path allowed s u := by
  induction htu with
  | refl => exact hst
  | tail _ hallowed hstep ih => exact .tail ih hallowed hstep

/-- One step is a path. -/
theorem Path.single (hallowed : allowed s a) (hstep : sys.step s a = some t) :
    sys.Path allowed s t :=
  .tail .refl hallowed hstep

/-- What every allowed step keeps, a path keeps. -/
theorem Path.invariant (hstep : ∀ s a s', inv s → allowed s a → sys.step s a = some s' → inv s')
    (hpath : sys.Path allowed s t) (hs : inv s) : inv t := by
  induction hpath with
  | refl => exact hs
  | tail _ hallowed hs' ih => exact hstep _ _ _ ih hallowed hs'

/-- A path from a reachable state ends in one, if its steps meet the guard. -/
theorem Path.reachable (hallowed : ∀ s a, allowed s a → guard s a) (hpath : sys.Path allowed s t)
    (hs : sys.Reachable guard s) : sys.Reachable guard t :=
  hpath.invariant (sys.Reachable guard)
    (fun _ _ _ hreach ha hstep => .step hreach (hallowed _ _ ha) hstep) hs

/-- Follow moves, each of which picks its label in the state that it finds. -/
def drive (sys : System State Label) (s : State) (moves : List (State → Label)) : Option State :=
  moves.foldlM (fun s move => sys.step s (move s)) s

/-- Moves that pick allowed labels only lead along a path. -/
theorem Path.of_moves {moves : List (State → Label)}
    (hmoves : ∀ move ∈ moves, ∀ s, allowed s (move s)) (h : (sys.drive s moves).isSome) :
    sys.Path allowed s ((sys.drive s moves).get h) := by
  have hrun : ∀ {t}, sys.drive s moves = some t → sys.Path allowed s t := by
    clear h
    induction moves generalizing s with
    | nil =>
      intro t ht
      cases ht
      exact .refl
    | cons move rest ih =>
      intro t ht
      rw [List.forall_mem_cons] at hmoves
      obtain ⟨next, hstep, hrest⟩ := bind_eq_some_iff.mp ht
      exact (Path.single (hmoves.1 s) hstep).trans (ih hmoves.2 hrest)
  exact hrun (some_get h).symm

/-- Follow moves as long as each of them meets the guard. -/
def driveIf (sys : System State Label) (guard : State → Label → Prop)
    [∀ s a, Decidable (guard s a)] (s : State) (moves : List (State → Label)) : Option State :=
  moves.foldlM (fun s move => if guard s (move s) then sys.step s (move s) else none) s

/-- Moves that meet the guard lead from a reachable state to a reachable one. -/
theorem Reachable.of_driveIf [∀ s a, Decidable (guard s a)] {moves : List (State → Label)} {s' : State}
    (hs : sys.Reachable guard s) (hdrive : sys.driveIf guard s moves = some s') :
    sys.Reachable guard s' := by
  induction moves generalizing s with
  | nil =>
    cases hdrive
    exact hs
  | cons move rest ih =>
    obtain ⟨next, hmove, hrest⟩ := bind_eq_some_iff.mp hdrive
    by_cases hguard : guard s (move s)
    · simp only [if_pos hguard] at hmove
      exact ih (.step hs hguard hmove) hrest
    · simp only [if_neg hguard] at hmove
      cases hmove

/-- The state that guarded moves reach from an initial state is reachable. -/
theorem Reachable.of_moves [∀ s a, Decidable (guard s a)] (hs : sys.initial s)
    {moves : List (State → Label)} (h : (sys.driveIf guard s moves).isSome) :
    sys.Reachable guard ((sys.driveIf guard s moves).get h) :=
  Reachable.of_driveIf (.initial hs) (some_get h).symm

/-- An invariant under which one guard implies another carries the runs over to the other guard. -/
theorem Reachable.mono_of_invariant {weaker : State → Label → Prop} (inv : State → Prop)
    (hinitial : ∀ s, sys.initial s → inv s)
    (hstep : ∀ s a s', inv s → guard s a → sys.step s a = some s' → inv s')
    (hweaker : ∀ s a, inv s → guard s a → weaker s a) (h : sys.Reachable guard s) :
    sys.Reachable weaker s := by
  induction h with
  | initial hs => exact .initial hs
  | step hreach hguard hs ih =>
    exact .step ih (hweaker _ _ (hreach.invariant inv hinitial hstep) hguard) hs

/-- Every step of the run along the labels meets the guard. -/
def Along (sys : System State Label) (guard : State → Label → Prop) : State → List Label → Prop
  | _, [] => True
  | s, a :: rest => guard s a ∧ ∀ s' ∈ sys.step s a, Along sys guard s' rest

instance decidableAlong (sys : System State Label) (guard : State → Label → Prop)
    [∀ s a, Decidable (guard s a)] :
    ∀ s labels, Decidable (sys.Along guard s labels)
  | _, [] => .isTrue trivial
  | s, a :: rest =>
    have := fun s' => decidableAlong sys guard s' rest
    inferInstanceAs (Decidable (guard s a ∧ ∀ s' ∈ sys.step s a, sys.Along guard s' rest))

/-- A run whose first label is enabled goes on from the state that it leads to. -/
theorem follow_cons :
    sys.follow s (a :: labels) = some t ↔ ∃ s', sys.step s a = some s' ∧ sys.follow s' labels = some t := by
  simp only [follow, List.foldlM_cons, bind_eq_bind, bind_eq_some_iff]

/-- A run whose steps all meet the guard leads from a reachable state to a reachable one. -/
theorem Reachable.of_along (h : sys.Reachable guard s) (halong : sys.Along guard s labels)
    (hrun : sys.follow s labels = some t) : sys.Reachable guard t := by
  induction labels generalizing s with
  | nil =>
    cases hrun
    exact h
  | cons a rest ih =>
    obtain ⟨s', hstep, hrest⟩ := follow_cons.mp hrun
    exact ih (.step h halong.1 hstep) (halong.2 s' hstep) hrest

/-- Nothing is asked of the labels. -/
theorem along_anyStep (s : State) (labels : List Label) : sys.Along anyStep s labels := by
  induction labels generalizing s with
  | nil => trivial
  | cons a rest ih => exact ⟨trivial, fun s' _ => ih s'⟩

/-- Without a guard, every run leads from a reachable state to a reachable one. -/
theorem Reachable.of_follow (h : sys.Reachable anyStep s) (hrun : sys.follow s labels = some t) :
    sys.Reachable anyStep t :=
  h.of_along (along_anyStep s labels) hrun

/-- The state that a list of labels reaches from an initial state is reachable. -/
theorem Reachable.of_run (hs : sys.initial s) (h : (sys.follow s labels).isSome) :
    sys.Reachable anyStep ((sys.follow s labels).get h) :=
  Reachable.of_follow (.initial hs) (some_get h).symm

end System

end LittleRed.Lib
