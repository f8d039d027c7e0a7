import Mathlib.Data.Finset.Card
import Mathlib.Data.List.Chain
import Mathlib.Data.List.Nodup
import Mathlib.Logic.Function.Basic
import Mathlib.Logic.Relation

/-!
# Depth-first search for a cycle

The search visits each node before its successors and keeps the path to it on a stack. A successor on the
stack closes a cycle. A node whose successors are finished is finished, and then accessible: no infinite
path begins there. As many nested calls as there are nodes suffice.
-/

namespace LittleRed.Lib.CycleSearch

open Relation List Function

variable {α : Type*} [DecidableEq α]

inductive Mark where
  | unvisited
  | onStack
  | done
  deriving DecidableEq

/-- The marks, and the path to the current node, which is the last one. -/
structure Search (α : Type*) where
  mark : α → Mark
  stack : List α

def Search.start : Search α := ⟨fun _ => .unvisited, []⟩

/-- The part of the stack from a node on, with the node repeated at the end. -/
def cutStack (stack : List α) (node : α) : List α :=
  match stack.dropWhile (· ≠ node) with
  | [] => []
  | cut => cut ++ [node]

/-- Visit successors one after the other; the search ends with a cycle or goes on. -/
def scan (visit : α → Search α → Option (Except (List α) (Search α))) :
    List α → Search α → Option (Except (List α) (Search α))
  | [], s => some (.ok s)
  | next :: rest, s =>
    match s.mark next with
    | .onStack => some (.error (cutStack s.stack next))
    | .done => scan visit rest s
    | .unvisited =>
      match visit next s with
      | some (.ok s') => scan visit rest s'
      | ended => ended

/-- Visit a node, with a bound on the nested visits. -/
def visit (succ : α → List α) : ℕ → α → Search α → Option (Except (List α) (Search α))
  | 0, _, _ => none
  | fuel + 1, node, s =>
    match scan (visit succ fuel) (succ node)
      ⟨update s.mark node .onStack, s.stack ++ [node]⟩ with
    | some (.ok s') => some (.ok ⟨update s'.mark node .done, s'.stack.dropLast⟩)
    | ended => ended

/-- Visit the nodes that are not visited yet, until a cycle is found. -/
def searchFrom (succ : α → List α) (fuel : ℕ) : List α → Search α → Option (List α)
  | [], _ => some []
  | node :: rest, s =>
    match s.mark node with
    | .unvisited =>
      match visit succ fuel node s with
      | none => none
      | some (.error cycle) => some cycle
      | some (.ok s') => searchFrom succ fuel rest s'
    | _ => searchFrom succ fuel rest s

/-- A closed path with different nodes, each of which has the next one among its successors. -/
structure IsCycle (edge : α → α → Prop) (cycle : List α) : Prop where
  two_le : 2 ≤ cycle.length
  closed : cycle.head? = cycle.getLast?
  nodup : cycle.dropLast.Nodup
  path : cycle.IsChain edge

def Edge (succ : α → List α) (a b : α) : Prop := b ∈ succ a

/-- Between visits the marked path is the stack, and the finished nodes are accessible. -/
structure Searching (succ : α → List α) (s : Search α) : Prop where
  onStack : ∀ a, s.mark a = .onStack ↔ a ∈ s.stack
  nodup : s.stack.Nodup
  path : s.stack.IsChain (Edge succ)
  acc : ∀ a, s.mark a = .done → Acc (fun b a => Edge succ a b) a

/-- A search has gone on: the path is the same, finished nodes stay so, and no node becomes unvisited. -/
structure GoneOn (s s' : Search α) : Prop where
  stack : s'.stack = s.stack
  done : ∀ a, s.mark a = .done → s'.mark a = .done
  unvisited : ∀ a, s'.mark a = .unvisited → s.mark a = .unvisited

omit [DecidableEq α] in
theorem GoneOn.refl (s : Search α) : GoneOn s s := ⟨rfl, fun _ h => h, fun _ h => h⟩

omit [DecidableEq α] in
theorem GoneOn.trans {s s' s'' : Search α} (h : GoneOn s s') (h' : GoneOn s' s'') : GoneOn s s'' :=
  ⟨h'.stack.trans h.stack, fun a ha => h'.done a (h.done a ha), fun a ha => h.unvisited a (h'.unvisited a ha)⟩

/-- How a visit ends: with a cycle, or the search goes on and some nodes are finished. -/
def Ends (succ : α → List α) (s : Search α) (finished : List α) : Except (List α) (Search α) → Prop
  | .error cycle => IsCycle (Edge succ) cycle
  | .ok s' => Searching succ s' ∧ GoneOn s s' ∧ ∀ a ∈ finished, s'.mark a = .done

section Cycles

variable {succ : α → List α} {s : Search α}

/-- What is cut out of the stack begins and ends with the node. -/
theorem exists_cutStack {stack : List α} {node : α} (h : node ∈ stack) :
    ∃ before after, stack = before ++ node :: after ∧ cutStack stack node = node :: after ++ [node] := by
  induction stack with
  | nil => cases h
  | cons a rest ih =>
    by_cases ha : a = node
    · subst ha
      refine ⟨[], rest, rfl, ?_⟩
      rw [cutStack, dropWhile_cons_of_neg (by simp)]
    · obtain ⟨before, after, hrest, hcut⟩ := ih ((mem_cons.mp h).resolve_left (Ne.symm ha))
      refine ⟨a :: before, after, congrArg (List.cons a) hrest, ?_⟩
      rwa [cutStack, dropWhile_cons_of_pos (by simpa using ha)]

/-- A successor on the stack closes a cycle. -/
theorem isCycle_cutStack (h : Searching succ s) {top next : α} (htop : s.stack.getLast? = some top)
    (hedge : Edge succ top next) (hnext : next ∈ s.stack) : IsCycle (Edge succ) (cutStack s.stack next) := by
  obtain ⟨before, after, hstack, hcut⟩ := exists_cutStack hnext
  have hnodup := h.nodup
  have hpath := h.path
  rw [hstack] at hnodup hpath htop
  rw [hcut]
  refine ⟨by simp, ?_, ?_, ?_⟩
  · rw [List.getLast?_append_of_ne_nil _ (cons_ne_nil _ _)]
    rfl
  · rw [dropLast_append_of_ne_nil (cons_ne_nil _ _), dropLast_singleton, append_nil]
    exact hnodup.of_append_right
  · refine (hpath.right_of_append).append (isChain_singleton next) ?_
    intro last hlast first hfirst
    rw [List.getLast?_append_of_ne_nil _ (cons_ne_nil next after), Option.mem_def.mp hlast] at htop
    cases htop
    obtain rfl : next = first := by simpa using hfirst
    exact hedge

omit [DecidableEq α] in
/-- A cycle leads back to its first node. -/
theorem IsCycle.transGen {edge : α → α → Prop} {cycle : List α} (h : IsCycle edge cycle) :
    ∃ a ∈ cycle, TransGen edge a a := by
  have hleads : ∀ (rest : List α) (a : α), rest ≠ [] → (a :: rest).IsChain edge →
      ∀ last, rest.getLast? = some last → TransGen edge a last := by
    intro rest
    induction rest with
    | nil => exact fun _ hne => absurd rfl hne
    | cons b rest ih =>
      intro a _ hchain last hlast
      rw [isChain_cons_cons] at hchain
      cases rest with
      | nil =>
        obtain rfl : b = last := by simpa using hlast
        exact .single hchain.1
      | cons c rest =>
        exact .head hchain.1 (ih b (cons_ne_nil _ _) hchain.2 last hlast)
  obtain ⟨htwo, hclosed, -, hpath⟩ := h
  cases cycle with
  | nil => simp at htwo
  | cons a rest =>
    cases rest with
    | nil => simp at htwo
    | cons b rest =>
      exact ⟨a, mem_cons_self, hleads (b :: rest) a (cons_ne_nil _ _) hpath a hclosed.symm⟩

omit [DecidableEq α] in
/-- From an accessible node no path leads back to it. -/
theorem not_transGen_of_acc {a : α} (h : Acc (fun b a => Edge succ a b) a) : ¬TransGen (Edge succ) a a := by
  intro hback
  have hacc := h.transGen
  induction hacc with
  | intro a _ ih => exact ih a (transGen_swap.mpr hback) (h.inv_of_transGen (transGen_swap.mpr hback)) hback

end Cycles

section Visits

variable {succ : α → List α} {s s' : Search α}

variable {node : α} {nodes : Finset α}

/-- Entering an unvisited successor keeps the invariant. -/
theorem Searching.enter (h : Searching succ s) (hunvisited : s.mark node = .unvisited)
    (hedge : ∀ top ∈ s.stack.getLast?, Edge succ top node) :
    Searching succ ⟨update s.mark node .onStack, s.stack ++ [node]⟩ := by
  have hnew : node ∉ s.stack := by
    intro hmem
    rw [(h.onStack node).mpr hmem] at hunvisited
    cases hunvisited
  refine ⟨fun a => ?_, ?_, ?_, fun a ha => ?_⟩
  · by_cases ha : a = node
    · simp [ha]
    · simp [ha, h.onStack a]
  · exact h.nodup.append (nodup_singleton node) (disjoint_singleton.mpr hnew)
  · refine h.path.append (isChain_singleton node) fun top htop first hfirst => ?_
    obtain rfl : node = first := by simpa using hfirst
    exact hedge top htop
  · by_cases hnode : a = node
    · simp [hnode] at ha
    · exact h.acc a (by simpa [hnode] using ha)

/-- So does leaving a node whose successors are finished. -/
theorem Searching.leave (h : Searching succ s') (hstack : s'.stack = s.stack ++ [node])
    (hdone : ∀ next ∈ succ node, s'.mark next = .done) :
    Searching succ ⟨update s'.mark node .done, s'.stack.dropLast⟩ := by
  have hnodup := h.nodup
  have hpath := h.path
  rw [hstack] at hnodup hpath
  have hnew : node ∉ s.stack := fun hmem => (nodup_append.mp hnodup).2.2 node hmem node (by simp) rfl
  rw [hstack, dropLast_concat]
  refine ⟨fun a => ?_, hnodup.of_append_left, hpath.left_of_append, fun a ha => ?_⟩
  · by_cases ha : a = node
    · simp [ha, hnew]
    · have honStack := h.onStack a
      rw [hstack] at honStack
      simpa [ha] using honStack
  · by_cases hnode : a = node
    · subst hnode
      exact ⟨_, fun next hnext => h.acc next (hdone next hnext)⟩
    · exact h.acc a (by simpa [hnode] using ha)

def unvisitedIn (nodes : Finset α) (s : Search α) : Finset α := nodes.filter (s.mark · = .unvisited)

omit [DecidableEq α] in
/-- A search that goes on leaves no more nodes unvisited than there were. -/
theorem GoneOn.card_unvisitedIn_le (h : GoneOn s s') (nodes : Finset α) :
    (unvisitedIn nodes s').card ≤ (unvisitedIn nodes s).card :=
  Finset.card_le_card (Finset.monotone_filter_right nodes fun a _ ha => h.unvisited a ha)

/-- Entering a node leaves fewer unvisited ones. -/
theorem card_unvisitedIn_enter (hnode : node ∈ nodes) (hunvisited : s.mark node = .unvisited)
    (stack : List α) :
    (unvisitedIn nodes ⟨update s.mark node .onStack, stack⟩).card < (unvisitedIn nodes s).card := by
  refine Finset.card_lt_card (Finset.ssubset_iff_subset_ne.mpr ⟨fun a ha => ?_, fun heq => ?_⟩)
  · obtain ⟨hmem, hmark⟩ := Finset.mem_filter.mp ha
    by_cases hself : a = node
    · simp [hself] at hmark
    · exact Finset.mem_filter.mpr ⟨hmem, by simpa [hself] using hmark⟩
  · have hmem : node ∈ unvisitedIn nodes s := Finset.mem_filter.mpr ⟨hnode, hunvisited⟩
    rw [← heq] at hmem
    simpa using (Finset.mem_filter.mp hmem).2

/-- With so few nodes unvisited, a visit ends with a cycle or with the node finished. -/
def Visits (succ : α → List α) (nodes : Finset α) (bound : ℕ)
    (visitNode : α → Search α → Option (Except (List α) (Search α))) : Prop :=
  ∀ node s, Searching succ s → node ∈ nodes → s.mark node = .unvisited →
    (∀ top ∈ s.stack.getLast?, Edge succ top node) → (unvisitedIn nodes s).card ≤ bound →
    ∃ result, visitNode node s = some result ∧ Ends succ s [node] result

/-- A scan ends if its visits do. -/
theorem scan_spec {bound : ℕ} {visitNode : α → Search α → Option (Except (List α) (Search α))}
    (hvisit : Visits succ nodes bound visitNode) {top : α} {rest : List α} (hsearching : Searching succ s)
    (htop : s.stack.getLast? = some top) (hrest : ∀ next ∈ rest, next ∈ nodes ∧ Edge succ top next)
    (hbound : (unvisitedIn nodes s).card ≤ bound) :
    ∃ result, scan visitNode rest s = some result ∧ Ends succ s rest result := by
  induction rest generalizing s with
  | nil => exact ⟨.ok s, rfl, hsearching, GoneOn.refl s, by simp⟩
  | cons next rest ih =>
    obtain ⟨hnodes, hedge⟩ := hrest next mem_cons_self
    have hrest' : ∀ b ∈ rest, b ∈ nodes ∧ Edge succ top b := fun b hb => hrest b (mem_cons_of_mem _ hb)
    -- What is left to do once this successor is finished.
    have hgo : ∀ s', Searching succ s' → GoneOn s s' → s'.mark next = .done →
        ∃ result, scan visitNode rest s' = some result ∧ Ends succ s (next :: rest) result := by
      intro s' hs' hgone hdone
      obtain ⟨result, hscan, hends⟩ := ih hs' (by rw [hgone.stack, htop]) hrest'
        ((hgone.card_unvisitedIn_le nodes).trans hbound)
      refine ⟨result, hscan, ?_⟩
      cases result with
      | error cycle => exact hends
      | ok s'' =>
        obtain ⟨hs'', hgone', hfinished⟩ := hends
        refine ⟨hs'', hgone.trans hgone', fun a ha => ?_⟩
        rcases mem_cons.mp ha with rfl | ha
        · exact hgone'.done a hdone
        · exact hfinished a ha
    cases hmark : s.mark next with
    | onStack =>
      refine ⟨.error (cutStack s.stack next), by simp [scan, hmark], ?_⟩
      exact isCycle_cutStack hsearching htop hedge ((hsearching.onStack next).mp hmark)
    | done =>
      have heq : scan visitNode (next :: rest) s = scan visitNode rest s := by simp [scan, hmark]
      rw [heq]
      exact hgo s hsearching (GoneOn.refl s) hmark
    | unvisited =>
      have hfrom : ∀ last ∈ s.stack.getLast?, Edge succ last next := by
        intro last hlast
        rw [htop] at hlast
        cases hlast
        exact hedge
      obtain ⟨result, hresult, hends⟩ := hvisit next s hsearching hnodes hmark hfrom hbound
      cases result with
      | error cycle => exact ⟨.error cycle, by simp [scan, hmark, hresult], hends⟩
      | ok s' =>
        have heq : scan visitNode (next :: rest) s = scan visitNode rest s' := by simp [scan, hmark, hresult]
        rw [heq]
        exact hgo s' hends.1 hends.2.1 (hends.2.2 next mem_cons_self)

/-- A visit ends with as many nested calls as there are unvisited nodes. -/
theorem visits_visit (hclosed : ∀ a ∈ nodes, ∀ b ∈ succ a, b ∈ nodes) (fuel : ℕ) :
    Visits succ nodes fuel (visit succ fuel) := by
  induction fuel with
  | zero =>
    intro node s _ hnode hunvisited _ hcard
    have hmem : node ∈ unvisitedIn nodes s := Finset.mem_filter.mpr ⟨hnode, hunvisited⟩
    rw [Finset.card_eq_zero.mp (Nat.le_zero.mp hcard)] at hmem
    exact absurd hmem (Finset.notMem_empty node)
  | succ fuel ih =>
    intro node s hsearching hnode hunvisited hedge hcard
    have hcard' := card_unvisitedIn_enter hnode hunvisited (s.stack ++ [node])
    obtain ⟨result, hscan, hends⟩ := scan_spec ih (hsearching.enter hunvisited hedge)
      (List.getLast?_concat ..) (fun next hnext => ⟨hclosed node hnode next hnext, hnext⟩)
      (Nat.lt_succ_iff.mp (hcard'.trans_le hcard))
    cases result with
    | error cycle => exact ⟨.error cycle, by simp [visit, hscan], hends⟩
    | ok s' =>
      obtain ⟨hs', hgone, hfinished⟩ := hends
      refine ⟨.ok _, by simp only [visit, hscan], hs'.leave hgone.stack hfinished, ?_, by simp⟩
      refine ⟨?_, fun a ha => ?_, fun a ha => ?_⟩
      · rw [hgone.stack]
        exact dropLast_concat
      · by_cases hself : a = node
        · simp [hself]
        · simpa [hself] using hgone.done a (by simpa [hself] using ha)
      · by_cases hself : a = node
        · exact hself ▸ hunvisited
        · simpa [hself] using hgone.unvisited a (by simpa [hself] using ha)

/-- A search ends with a cycle, or with nothing when all roots are accessible. -/
theorem searchFrom_spec (hclosed : ∀ a ∈ nodes, ∀ b ∈ succ a, b ∈ nodes) {fuel : ℕ} {roots : List α}
    (hroots : ∀ a ∈ roots, a ∈ nodes) (hsearching : Searching succ s) (hstack : s.stack = [])
    (hbound : (unvisitedIn nodes s).card ≤ fuel) :
    ∃ result, searchFrom succ fuel roots s = some result ∧
      (IsCycle (Edge succ) result ∨ result = [] ∧ ∀ a ∈ roots, Acc (fun b a => Edge succ a b) a) := by
  induction roots generalizing s with
  | nil => exact ⟨[], rfl, .inr ⟨rfl, by simp⟩⟩
  | cons node rest ih =>
    have hrest : ∀ a ∈ rest, a ∈ nodes := fun a ha => hroots a (mem_cons_of_mem _ ha)
    -- What is left to do once this node is finished.
    have hgo : ∀ s', Searching succ s' → GoneOn s s' → s'.mark node = .done →
        ∃ result, searchFrom succ fuel rest s' = some result ∧ (IsCycle (Edge succ) result ∨
          result = [] ∧ ∀ a ∈ node :: rest, Acc (fun b a => Edge succ a b) a) := by
      intro s' hs' hgone hdone
      obtain ⟨result, hresult, hcycle⟩ := ih hrest hs' (hgone.stack.trans hstack)
        ((hgone.card_unvisitedIn_le nodes).trans hbound)
      refine ⟨result, hresult, hcycle.imp_right fun h => ⟨h.1, fun a ha => ?_⟩⟩
      rcases mem_cons.mp ha with rfl | ha
      · exact hs'.acc a hdone
      · exact h.2 a ha
    cases hmark : s.mark node with
    | onStack =>
      have hmem := (hsearching.onStack node).mp hmark
      rw [hstack] at hmem
      cases hmem
    | done =>
      have heq : searchFrom succ fuel (node :: rest) s = searchFrom succ fuel rest s := by
        simp [searchFrom, hmark]
      rw [heq]
      exact hgo s hsearching (GoneOn.refl s) hmark
    | unvisited =>
      obtain ⟨result, hresult, hends⟩ := visits_visit hclosed fuel node s hsearching
        (hroots node mem_cons_self) hmark (by simp [hstack]) hbound
      cases result with
      | error cycle => exact ⟨cycle, by simp [searchFrom, hmark, hresult], .inl hends⟩
      | ok s' =>
        have heq : searchFrom succ fuel (node :: rest) s = searchFrom succ fuel rest s' := by
          simp [searchFrom, hmark, hresult]
        rw [heq]
        exact hgo s' hends.1 hends.2.1 (hends.2.2 node mem_cons_self)

omit [DecidableEq α] in
theorem searching_start : Searching succ (Search.start : Search α) where
  onStack := by simp [Search.start]
  nodup := nodup_nil
  path := isChain_nil
  acc := by simp [Search.start]

end Visits

section Fuel

variable {succ : α → List α}

variable {s : Search α}

variable {result : Except (List α) (Search α)} {fuel fuel' : ℕ}

/-- A scan that has a result keeps it when the visits do. -/
theorem scan_mono {visitNode visitNode' : α → Search α → Option (Except (List α) (Search α))}
    (hvisit : ∀ node s result, visitNode node s = some result → visitNode' node s = some result)
    {rest : List α} (h : scan visitNode rest s = some result) : scan visitNode' rest s = some result := by
  induction rest generalizing s with
  | nil => exact h
  | cons next rest ih =>
    cases hmark : s.mark next with
    | onStack => simpa [scan, hmark] using h
    | done =>
      simp only [scan, hmark] at h ⊢
      exact ih h
    | unvisited =>
      cases hnext : visitNode next s with
      | none => simp [scan, hmark, hnext] at h
      | some ended =>
        have hnext' := hvisit next s ended hnext
        cases ended with
        | error cycle =>
          simp only [scan, hmark, hnext] at h
          simp only [scan, hmark, hnext']
          exact h
        | ok s' =>
          simp only [scan, hmark, hnext] at h
          simp only [scan, hmark, hnext']
          exact ih h

/-- More nested calls do not change the result of a visit. -/
theorem visit_mono (hle : fuel ≤ fuel') {node : α} (h : visit succ fuel node s = some result) :
    visit succ fuel' node s = some result := by
  induction fuel generalizing fuel' node s result with
  | zero => cases h
  | succ fuel ih =>
    obtain ⟨fuel', rfl⟩ := Nat.exists_eq_add_of_le' (Nat.one_le_of_lt hle)
    have hscan : ∀ ended, scan (visit succ fuel) (succ node)
          ⟨update s.mark node .onStack, s.stack ++ [node]⟩ = some ended →
        scan (visit succ fuel') (succ node)
          ⟨update s.mark node .onStack, s.stack ++ [node]⟩ = some ended :=
      fun ended => scan_mono fun _ _ _ => ih (Nat.succ_le_succ_iff.mp hle)
    cases hended : scan (visit succ fuel) (succ node)
        ⟨update s.mark node .onStack, s.stack ++ [node]⟩ with
    | none => simp [visit, hended] at h
    | some ended =>
      simp only [visit, hended] at h
      simp only [visit, hscan ended hended]
      exact h

/-- More nested calls do not change the result of a search. -/
theorem searchFrom_mono (hle : fuel ≤ fuel') {roots : List α} {result : List α}
    (h : searchFrom succ fuel roots s = some result) :
    searchFrom succ fuel' roots s = some result := by
  induction roots generalizing s with
  | nil => exact h
  | cons node rest ih =>
    cases hmark : s.mark node with
    | onStack | done =>
      simp only [searchFrom, hmark] at h ⊢
      exact ih h
    | unvisited =>
      cases hended : visit succ fuel node s with
      | none => simp [searchFrom, hmark, hended] at h
      | some ended =>
        have hended' := visit_mono hle hended
        cases ended with
        | error cycle =>
          simp only [searchFrom, hmark, hended] at h
          simp only [searchFrom, hmark, hended', h]
        | ok s' =>
          simp only [searchFrom, hmark, hended] at h
          simp only [searchFrom, hmark, hended']
          exact ih h

end Fuel

/-- With enough nested calls the search has one result, a cycle if there is any. -/
theorem exists_searchFrom {succ : α → List α} {roots : List α}
    (hclosed : ∀ a ∈ roots, ∀ b ∈ succ a, b ∈ roots) :
    ∃ result, (∀ fuel, roots.length ≤ fuel → searchFrom succ fuel roots .start = some result) ∧
      (IsCycle (Edge succ) result ∨ result = [] ∧ ∀ a ∈ roots, Acc (fun b a => Edge succ a b) a) := by
  have hcard : (unvisitedIn roots.toFinset (Search.start : Search α)).card ≤ roots.length :=
    (Finset.card_le_card (Finset.filter_subset _ _)).trans (toFinset_card_le roots)
  have hclosed' : ∀ a ∈ roots.toFinset, ∀ b ∈ succ a, b ∈ roots.toFinset := by
    simpa only [mem_toFinset] using hclosed
  obtain ⟨result, hresult, hends⟩ := searchFrom_spec hclosed' (fun a ha => mem_toFinset.mpr ha)
    searching_start rfl hcard
  exact ⟨result, fun fuel hle => searchFrom_mono hle hresult, hends⟩

end LittleRed.Lib.CycleSearch
