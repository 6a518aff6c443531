import Mathlib.Data.Set.Insert
import Mathlib.Logic.Relation

/-! # Graph search with a worklist

A search keeps the nodes it has expanded and a list of nodes still to look at.  `Search` is its
loop, turn by turn and without a bound on the turns, so a derivation is also a proof that the loop
ends.  A node whose edges cannot be listed ends the search with no result.

The result is exactly the set of nodes that the start reaches; a search that fails has reached a
node that cannot be expanded.
-/

namespace DartPlant
open List

variable {α : Type*} {edges : α → Option (List α)}

/-- The search from a set of expanded nodes and a worklist, and the set it ends with. -/
inductive Search (edges : α → Option (List α)) : Set α → List α → Option (Set α) → Prop
  | done {visited : Set α} : Search edges visited [] (some visited)
  | skip {visited : Set α} {node : α} {pending : List α} {found : Option (Set α)} :
      node ∈ visited → Search edges visited pending found →
      Search edges visited (node :: pending) found
  | fail {visited : Set α} {node : α} {pending : List α} :
      node ∉ visited → edges node = none → Search edges visited (node :: pending) none
  | expand {visited : Set α} {node : α} {pending nodes : List α} {found : Option (Set α)} :
      node ∉ visited → edges node = some nodes →
      Search edges (insert node visited) (nodes ++ pending) found →
      Search edges visited (node :: pending) found

/-- One edge of the graph. -/
def Edge (edges : α → Option (List α)) (source target : α) : Prop :=
  ∃ nodes, edges source = some nodes ∧ target ∈ nodes

/-- Every expanded node was expanded, and its edges lead to expanded or pending nodes. -/
def Searched (edges : α → Option (List α)) (visited : Set α) (pending : List α) : Prop :=
  ∀ node ∈ visited, ∃ nodes, edges node = some nodes ∧ ∀ target ∈ nodes,
    target ∈ visited ∨ target ∈ pending

theorem Searched.skip {visited : Set α} {node : α} {pending : List α}
    (h : Searched edges visited (node :: pending)) (hnode : node ∈ visited) :
    Searched edges visited pending := by
  intro source hsource
  obtain ⟨nodes, hexpand, hnodes⟩ := h source hsource
  refine ⟨nodes, hexpand, fun target htarget => ?_⟩
  rcases hnodes target htarget with hvisited | hpending
  · exact Or.inl hvisited
  · rcases mem_cons.mp hpending with rfl | hpending
    · exact Or.inl hnode
    · exact Or.inr hpending

theorem Searched.expand {visited : Set α} {node : α} {pending nodes : List α}
    (h : Searched edges visited (node :: pending)) (hnode : edges node = some nodes) :
    Searched edges (insert node visited) (nodes ++ pending) := by
  intro source hsource
  rcases hsource with rfl | hsource
  · exact ⟨nodes, hnode, fun target htarget => Or.inr (mem_append_left _ htarget)⟩
  · obtain ⟨others, hexpand, hothers⟩ := h source hsource
    refine ⟨others, hexpand, fun target htarget => ?_⟩
    rcases hothers target htarget with hvisited | hpending
    · exact Or.inl (Set.mem_insert_of_mem _ hvisited)
    · rcases mem_cons.mp hpending with rfl | hpending
      · exact Or.inl (Set.mem_insert _ _)
      · exact Or.inr (mem_append_right _ hpending)

/-- A search that ends well leaves nothing to look at. -/
theorem Search.closed {visited found : Set α} {pending : List α}
    (h : Search edges visited pending (some found)) (hsearched : Searched edges visited pending) :
    visited ⊆ found ∧ (∀ node ∈ pending, node ∈ found) ∧ Searched edges found [] := by
  generalize hout : some found = out at h
  induction h with
  | done =>
    obtain rfl := Option.some.inj hout
    exact ⟨subset_rfl, fun _ hnode => absurd hnode not_mem_nil, hsearched⟩
  | skip hnode _ ih =>
    obtain ⟨hvisited, hpending, hfound⟩ := ih (hsearched.skip hnode) hout
    exact ⟨hvisited, forall_mem_cons.mpr ⟨hvisited hnode, hpending⟩, hfound⟩
  | fail => cases hout
  | expand _ hexpand _ ih =>
    obtain ⟨hvisited, hpending, hfound⟩ := ih (hsearched.expand hexpand) hout
    refine ⟨(Set.subset_insert _ _).trans hvisited, forall_mem_cons.mpr ⟨?_, ?_⟩, hfound⟩
    · exact hvisited (Set.mem_insert _ _)
    · exact fun node hnode => hpending node (mem_append_right _ hnode)

/-- A search looks only at what its worklist reaches. -/
theorem Search.reached {visited found : Set α} {pending : List α}
    (h : Search edges visited pending (some found)) {node : α} (hnode : node ∈ found) :
    node ∈ visited ∨ ∃ start ∈ pending, Relation.ReflTransGen (Edge edges) start node := by
  generalize hout : some found = out at h
  induction h with
  | done =>
    obtain rfl := Option.some.inj hout
    exact Or.inl hnode
  | skip _ _ ih =>
    rcases ih hout with hvisited | ⟨start, hstart, hreach⟩
    · exact Or.inl hvisited
    · exact Or.inr ⟨start, mem_cons_of_mem _ hstart, hreach⟩
  | fail => cases hout
  | expand _ hexpand _ ih =>
    rcases ih hout with hvisited | ⟨start, hstart, hreach⟩
    · rcases hvisited with rfl | hvisited
      · exact Or.inr ⟨_, mem_cons_self, .refl⟩
      · exact Or.inl hvisited
    · rcases mem_append.mp hstart with hstart | hstart
      · exact Or.inr ⟨_, mem_cons_self, .head ⟨_, hexpand, hstart⟩ hreach⟩
      · exact Or.inr ⟨start, mem_cons_of_mem _ hstart, hreach⟩

/-- A search that fails has reached a node that cannot be expanded. -/
theorem Search.failed {visited : Set α} {pending : List α} (h : Search edges visited pending none) :
    ∃ start ∈ pending, ∃ node, Relation.ReflTransGen (Edge edges) start node ∧
      edges node = none := by
  generalize hout : none = out at h
  induction h with
  | done => cases hout
  | skip _ _ ih =>
    obtain ⟨start, hstart, hfailed⟩ := ih hout
    exact ⟨start, mem_cons_of_mem _ hstart, hfailed⟩
  | fail _ hexpand => exact ⟨_, mem_cons_self, _, .refl, hexpand⟩
  | expand _ hexpand _ ih =>
    obtain ⟨start, hstart, node, hreach, hfailed⟩ := ih hout
    rcases mem_append.mp hstart with hstart | hstart
    · exact ⟨_, mem_cons_self, node, .head ⟨_, hexpand, hstart⟩ hreach, hfailed⟩
    · exact ⟨start, mem_cons_of_mem _ hstart, node, hreach, hfailed⟩

/-- A search from one node that ends well expanded exactly what the node reaches. -/
theorem Search.mem_iff {start : α} {found : Set α} (h : Search edges ∅ [start] (some found))
    {node : α} : node ∈ found ↔ Relation.ReflTransGen (Edge edges) start node := by
  obtain ⟨-, hstart, hsearched⟩ := h.closed fun _ hnode => absurd hnode (Set.notMem_empty _)
  constructor
  · intro hnode
    rcases h.reached hnode with hvisited | ⟨other, hother, hreach⟩
    · exact absurd hvisited (Set.notMem_empty _)
    · rwa [mem_singleton.mp hother] at hreach
  · intro hreach
    induction hreach with
    | refl => exact hstart start (mem_singleton.mpr rfl)
    | tail _ hedge ih =>
      obtain ⟨nodes, hexpand, htarget⟩ := hedge
      obtain ⟨others, hothers, hvisited⟩ := hsearched _ ih
      obtain rfl := Option.some.inj (hexpand.symm.trans hothers)
      exact (hvisited _ htarget).resolve_right not_mem_nil

/-- A search from one node ends well only when everything the node reaches can be expanded. -/
theorem Search.expands {start : α} {found : Set α} (h : Search edges ∅ [start] (some found))
    {node : α} (hreach : Relation.ReflTransGen (Edge edges) start node) : edges node ≠ none := by
  obtain ⟨-, -, hsearched⟩ := h.closed fun _ hnode => absurd hnode (Set.notMem_empty _)
  obtain ⟨nodes, hexpand, -⟩ := hsearched node (h.mem_iff.mpr hreach)
  exact fun hnone => nomatch hnone.symm.trans hexpand

end DartPlant
