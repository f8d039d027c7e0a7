import Mathlib.Data.Fintype.Card
import Mathlib.Data.Set.Finite.Basic
import Mathlib.Logic.Relation
import Mathlib.Order.WellFounded

/-!
# Connectivity of directed relations

A search along the arrows of a relation finds what it leads to. It finds everything that is
connected with its start, whatever the direction of the arrows, when every arrow has a way back.
Where no arrow has one, some member of a finite collection has no arrow into it.
-/

namespace LittleRed.Lib

open Relation

variable {α : Type*} {r : α → α → Prop}

def Connected (r : α → α → Prop) : α → α → Prop := ReflTransGen (SymmGen r)

def WaysBack (r : α → α → Prop) : Prop := ∀ a b, r a b → ReflTransGen r b a

variable {a b : α}

theorem Connected.symm (h : Connected r a b) : Connected r b a := by
  induction h with
  | refl => exact .refl
  | tail _ hlast ih => exact .head hlast.symm ih

theorem connected_of_reflTransGen (h : ReflTransGen r a b) : Connected r a b :=
  ReflTransGen.mono (fun _ _ => SymmGen.of_rel) _ _ h

/-- With ways back, a search along the arrows finds everything connected. -/
theorem WaysBack.connected_iff (h : WaysBack r) : Connected r a b ↔ ReflTransGen r a b := by
  refine ⟨fun hconnected => ?_, connected_of_reflTransGen⟩
  induction hconnected with
  | refl => exact .refl
  | tail _ hlast ih =>
    rcases hlast with harrow | harrow
    · exact ih.tail harrow
    · exact ih.trans (h _ _ harrow)

theorem WaysBack.reflTransGen_symm (h : WaysBack r) (hab : ReflTransGen r a b) :
    ReflTransGen r b a :=
  h.connected_iff.mp (connected_of_reflTransGen hab).symm

theorem mem_of_reflTransGen {s : α → Prop} (hclosed : ∀ a b, s a → r a b → s b) (ha : s a)
    (hab : ReflTransGen r a b) : s b := by
  induction hab with
  | refl => exact ha
  | tail _ harrow ih => exact hclosed _ _ ih harrow

/-- Without cycles some item has no arrow to another item. -/
theorem exists_forall_not_rel (hacyclic : ∀ a, ¬TransGen r a a) {items : List α} (hne : items ≠ []) :
    ∃ a ∈ items, ∀ b ∈ items, ¬r a b := by
  let above (x y : { a // a ∈ items }) : Prop := TransGen r y.1 x.1
  have htrans : IsTrans { a // a ∈ items } above := ⟨fun _ _ _ hxy hyz => hyz.trans hxy⟩
  have hirrefl : Std.Irrefl above := ⟨fun x => hacyclic x.1⟩
  obtain ⟨first, hfirst⟩ := List.exists_mem_of_ne_nil items hne
  have hfinite : Finite { a // a ∈ items } := Set.Finite.to_subtype (List.finite_toSet items)
  obtain ⟨last, -, hlast⟩ := (Finite.wellFounded_of_trans_of_irrefl above).has_min Set.univ
    ⟨⟨first, hfirst⟩, trivial⟩
  exact ⟨last.1, last.2, fun b hb hrel => hlast ⟨b, hb⟩ trivial (.single hrel)⟩

end LittleRed.Lib
