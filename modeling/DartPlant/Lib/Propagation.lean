import Mathlib.Algebra.BigOperators.Group.Finset.Basic
import Mathlib.Algebra.Order.BigOperators.Group.Finset
import Mathlib.Logic.Relation

/-! # Propagating states along a graph

The nodes are numbers.  A turn takes a node off the worklist, computes what leaves it, and delivers
that to its successors: a successor without a state gets it, one with a state merges it, and either
is put on the worklist when its state is new or has changed.

The loop ends when every change loses height (`run_isSome`), and the nodes with a state are then the
ones that the start reaches (`reached_iff`).  With states that never change this is a graph search.
-/

namespace Propagation
open List

universe u v
variable {σ : Type u} {ρ : Type v}

/-- The graph, what a node makes of its state and of what has been collected so far, and how two
states merge, with whether the first one changed. -/
structure Flow (σ : Type u) (ρ : Type v) where
  successors : ℕ → List ℕ
  transfer : ℕ → σ → ρ → σ × ρ
  merge : σ → σ → σ × Bool

structure Work (σ : Type u) (ρ : Type v) where
  states : ℕ → Option σ
  pending : List ℕ
  collected : ρ

namespace Flow
variable (flow : Flow σ ρ)

/-- What leaves a node arrives at a successor. -/
def deliver (state : σ) (work : Work σ ρ) (node : ℕ) : Work σ ρ :=
  match work.states node with
  | none =>
    { work with
      states := Function.update work.states node (some state), pending := node :: work.pending }
  | some old =>
    { work with
      states := Function.update work.states node (some (flow.merge old state).1)
      pending := if (flow.merge old state).2 then node :: work.pending else work.pending }

/-- One turn, for the node that was put on the worklist last. -/
def turn (node : ℕ) (rest : List ℕ) (work : Work σ ρ) : Work σ ρ :=
  match work.states node with
  | none => { work with pending := rest }
  | some state =>
    let left := flow.transfer node state work.collected
    (flow.successors node).foldl (flow.deliver left.1)
      { work with pending := rest, collected := left.2 }

/-- The loop, or `none` when the fuel does not suffice. -/
def run : ℕ → Work σ ρ → Option (Work σ ρ)
  | 0, _ => none
  | fuel + 1, work =>
    match work.pending with
    | [] => some work
    | node :: rest => run fuel (flow.turn node rest work)

/-- The worklist with one start. -/
def begin (start : ℕ) (state : σ) (collected : ρ) : Work σ ρ where
  states := Function.update (fun _ => none) start (some state)
  pending := [start]
  collected := collected

/-! ## Ending -/

section Height
variable {flow} {height : σ → ℕ} {bound nodes : ℕ}

/-- What the nodes can still change, and the turns that are already due. -/
def potential (height : σ → ℕ) (bound nodes : ℕ) (work : Work σ ρ) : ℕ :=
  (∑ node ∈ Finset.range nodes, (work.states node).elim (bound + 1) height) + work.pending.length

/-- A state that changes loses height, and none gains any. -/
structure Descends (flow : Flow σ ρ) (height : σ → ℕ) (bound nodes : ℕ) : Prop where
  bounded : ∀ state, height state ≤ bound
  merge : ∀ old state,
    height (flow.merge old state).1 + (flow.merge old state).2.toNat ≤ height old
  successors : ∀ node, ∀ next ∈ flow.successors node, next < nodes

theorem sum_update (height : σ → ℕ) (bound : ℕ) (f : ℕ → Option σ) {node : ℕ}
    (hnode : node < nodes) (state : σ) :
    (∑ i ∈ Finset.range nodes,
        (Function.update f node (some state) i).elim (bound + 1) height) +
        (f node).elim (bound + 1) height =
      (∑ i ∈ Finset.range nodes, (f i).elim (bound + 1) height) + height state := by
  have hmem : node ∈ Finset.range nodes := Finset.mem_range.mpr hnode
  have hrest : ∑ i ∈ (Finset.range nodes).erase node,
      (Function.update f node (some state) i).elim (bound + 1) height =
      ∑ i ∈ (Finset.range nodes).erase node, (f i).elim (bound + 1) height := by
    refine Finset.sum_congr rfl fun i hi => ?_
    rw [Function.update_of_ne (Finset.ne_of_mem_erase hi)]
  rw [← Finset.add_sum_erase _ _ hmem, ← Finset.add_sum_erase _ (fun i => (f i).elim _ _) hmem,
    hrest, Function.update_self]
  simp only [Option.elim_some]
  omega

theorem Descends.deliver (h : flow.Descends height bound nodes) {node : ℕ} (hnode : node < nodes)
    (state : σ) (work : Work σ ρ) :
    potential height bound nodes (flow.deliver state work node) ≤
      potential height bound nodes work := by
  unfold Flow.deliver potential
  cases hstate : work.states node with
  | none =>
    have hsum := sum_update height bound work.states hnode state
    have hle := h.bounded state
    rw [hstate, Option.elim_none] at hsum
    simp only [length_cons]
    omega
  | some old =>
    have hsum := sum_update height bound work.states hnode (flow.merge old state).1
    have hle := h.merge old state
    rw [hstate, Option.elim_some] at hsum
    cases hchanged : (flow.merge old state).2 with
    | true =>
      rw [hchanged, Bool.toNat_true] at hle
      dsimp only
      rw [if_pos hchanged, length_cons]
      omega
    | false =>
      rw [hchanged, Bool.toNat_false] at hle
      dsimp only
      rw [if_neg (Bool.eq_false_iff.mp hchanged)]
      omega

theorem Descends.turn (h : flow.Descends height bound nodes) (node : ℕ) (rest : List ℕ)
    (work : Work σ ρ) (hpending : work.pending = node :: rest) :
    potential height bound nodes (flow.turn node rest work) <
      potential height bound nodes work := by
  have hdeliver : ∀ (successors : List ℕ) (state : σ) (work' : Work σ ρ),
      (∀ next ∈ successors, next < nodes) →
      potential height bound nodes (successors.foldl (flow.deliver state) work') ≤
        potential height bound nodes work' := by
    intro successors state
    induction successors with
    | nil => exact fun work' _ => Nat.le_refl _
    | cons next successors ih =>
      intro work' hnodes
      obtain ⟨hnext, hrest⟩ := forall_mem_cons.mp hnodes
      exact (ih _ hrest).trans (h.deliver hnext state work')
  have hpop : ∀ collected : ρ, potential height bound nodes
      { work with pending := rest, collected := collected } <
        potential height bound nodes work := by
    intro collected
    unfold potential
    rw [hpending, length_cons]
    dsimp only
    omega
  unfold Flow.turn
  split
  next => exact hpop work.collected
  next state _ =>
    exact Nat.lt_of_le_of_lt (hdeliver _ _ _ (h.successors node)) (hpop _)

/-- The loop ends. -/
theorem Descends.run_isSome (h : flow.Descends height bound nodes) {fuel : ℕ} {work : Work σ ρ}
    (hfuel : potential height bound nodes work < fuel) : (flow.run fuel work).isSome = true := by
  induction fuel generalizing work with
  | zero => exact absurd hfuel (Nat.not_lt_zero _)
  | succ fuel ih =>
    unfold Flow.run
    split
    next => rfl
    next node rest hpending =>
      exact ih (Nat.lt_of_lt_of_le (h.turn node rest work hpending) (Nat.le_of_lt_succ hfuel))

end Height

/-! ## What is reached -/

section Reached
variable {flow} {start : ℕ}

/-- One edge. -/
def Edge (flow : Flow σ ρ) (node next : ℕ) : Prop := next ∈ flow.successors node

/-- Every node with a state has been reached, and has passed something on or is about to. -/
structure Spreads (flow : Flow σ ρ) (start : ℕ) (work : Work σ ρ) : Prop where
  reached : ∀ node, (work.states node).isSome = true → Relation.ReflTransGen flow.Edge start node
  start : (work.states start).isSome = true
  pending : ∀ node ∈ work.pending, (work.states node).isSome = true
  spread : ∀ node, (work.states node).isSome = true → node ∈ work.pending ∨
    ∀ next ∈ flow.successors node, (work.states next).isSome = true

theorem spreads_begin (flow : Flow σ ρ) (start : ℕ) (state : σ) (collected : ρ) :
    flow.Spreads start (begin start state collected) := by
  have hstart : ((begin start state collected : Work σ ρ).states start).isSome = true := by
    simp only [begin, Function.update_self, Option.isSome_some]
  have honly : ∀ node, ((begin start state collected : Work σ ρ).states node).isSome = true →
      node = start := by
    intro node hnode
    by_contra hne
    simp only [begin, Function.update_of_ne hne, Option.isSome_none, Bool.false_eq_true] at hnode
  refine ⟨fun node hnode => ?_, hstart, fun node hnode => ?_, fun node hnode => .inl ?_⟩
  · rw [honly node hnode]
  · rw [mem_singleton.mp hnode]
    exact hstart
  · rw [honly node hnode]
    exact mem_singleton_self start

/-- A delivery gives the node a state and takes none away. -/
theorem deliver_isSome {state : σ} {work : Work σ ρ} {node other : ℕ} :
    ((flow.deliver state work node).states other).isSome = true ↔
      other = node ∨ (work.states other).isSome = true := by
  unfold Flow.deliver
  by_cases heq : other = node
  · subst heq
    split <;> simp only [Function.update_self, Option.isSome_some, true_or]
  · split <;> simp only [Function.update_of_ne heq, heq, false_or]

theorem mem_deliver_pending {state : σ} {work : Work σ ρ} {node other : ℕ} :
    (other ∈ (flow.deliver state work node).pending →
      other = node ∨ other ∈ work.pending) ∧
    (other ∈ work.pending → other ∈ (flow.deliver state work node).pending) ∧
    (other = node → work.states node = none →
      other ∈ (flow.deliver state work node).pending) := by
  unfold Flow.deliver
  split
  next hnone =>
    refine ⟨mem_cons.mp, mem_cons_of_mem _, fun heq _ => ?_⟩
    rw [heq]
    exact mem_cons_self
  next old hold =>
    refine ⟨fun hother => ?_, fun hother => ?_, fun _ hnone => ?_⟩
    · dsimp only at hother
      split at hother
      · exact mem_cons.mp hother
      · exact .inr hother
    · dsimp only
      split
      · exact mem_cons_of_mem _ hother
      · exact hother
    · rw [hold] at hnone
      cases hnone

/-- What a list of deliveries does. -/
theorem deliveries (flow : Flow σ ρ) (state : σ) (successors : List ℕ) (work : Work σ ρ) :
    (∀ other, ((successors.foldl (flow.deliver state) work).states other).isSome = true ↔
      other ∈ successors ∨ (work.states other).isSome = true) ∧
    (∀ other ∈ (successors.foldl (flow.deliver state) work).pending,
      other ∈ successors ∨ other ∈ work.pending) ∧
    (∀ other ∈ work.pending, other ∈ (successors.foldl (flow.deliver state) work).pending) ∧
    (∀ other ∈ successors, work.states other = none →
      other ∈ (successors.foldl (flow.deliver state) work).pending) := by
  induction successors generalizing work with
  | nil =>
    refine ⟨fun other => ?_, fun _ h => .inr h, fun _ h => h, nofun⟩
    simp only [foldl_nil, not_mem_nil, false_or]
  | cons node successors ih =>
    obtain ⟨hstates, hnew, hold, hfresh⟩ := ih (flow.deliver state work node)
    rw [foldl_cons]
    refine ⟨fun other => ?_, fun other h => ?_, fun other h => ?_, fun other h hnone => ?_⟩
    · rw [hstates other, deliver_isSome, mem_cons]
      exact ⟨fun h => h.elim (fun h => .inl (.inr h)) fun h => h.elim (fun h => .inl (.inl h)) .inr,
        fun h => h.elim (fun h => h.elim (fun h => .inr (.inl h)) .inl) fun h => .inr (.inr h)⟩
    · obtain h | h := hnew other h
      · exact .inl (mem_cons_of_mem _ h)
      · obtain rfl | h := mem_deliver_pending.1 h
        · exact .inl mem_cons_self
        · exact .inr h
    · exact hold other (mem_deliver_pending.2.1 h)
    · by_cases heq : other = node
      · exact hold other (mem_deliver_pending.2.2 heq (heq ▸ hnone))
      · have hmem := (mem_cons.mp h).resolve_left heq
        refine hfresh other hmem ?_
        unfold Flow.deliver
        split <;> simp only [Function.update_of_ne heq, hnone]

theorem Spreads.turn {node : ℕ} {rest : List ℕ} {work : Work σ ρ}
    (h : flow.Spreads start work) (hpending : work.pending = node :: rest) :
    flow.Spreads start (flow.turn node rest work) := by
  have hnode : (work.states node).isSome = true := by
    refine h.pending node ?_
    rw [hpending]
    exact mem_cons_self
  obtain ⟨state, hstate⟩ := Option.isSome_iff_exists.mp hnode
  unfold Flow.turn
  rw [hstate]
  dsimp only
  obtain ⟨hstates, hnew, hold, hfresh⟩ := deliveries flow
    (flow.transfer node state work.collected).1 (flow.successors node)
    { work with pending := rest, collected := (flow.transfer node state work.collected).2 }
  refine ⟨fun other hother => ?_, (hstates start).mpr (.inr h.start), fun other hother => ?_,
    fun other hother => ?_⟩
  · obtain hsucc | hbefore := (hstates other).mp hother
    · exact (h.reached node hnode).tail hsucc
    · exact h.reached other hbefore
  · obtain hsucc | hrest := hnew other hother
    · exact (hstates other).mpr (.inl hsucc)
    · refine (hstates other).mpr (.inr (h.pending other ?_))
      rw [hpending]
      exact mem_cons_of_mem _ hrest
  · by_cases hbefore : (work.states other).isSome = true
    · obtain hmem | hspread := h.spread other hbefore
      · rw [hpending, mem_cons] at hmem
        obtain rfl | hmem := hmem
        · exact .inr fun next hnext => (hstates next).mpr (.inl hnext)
        · exact .inl (hold other hmem)
      · exact .inr fun next hnext => (hstates next).mpr (.inr (hspread next hnext))
    · obtain hsucc | hsome := (hstates other).mp hother
      · rw [Bool.not_eq_true, Option.isSome_eq_false_iff, Option.isNone_iff_eq_none] at hbefore
        exact .inl (hfresh other hsucc hbefore)
      · exact absurd hsome hbefore

theorem Spreads.run {fuel : ℕ} {work final : Work σ ρ} (h : flow.Spreads start work)
    (hrun : flow.run fuel work = some final) :
    flow.Spreads start final ∧ final.pending = [] := by
  induction fuel generalizing work with
  | zero => cases hrun
  | succ fuel ih =>
    unfold Flow.run at hrun
    split at hrun
    next hpending =>
      cases hrun
      exact ⟨h, hpending⟩
    next node rest hpending => exact ih (h.turn hpending) hrun

/-- When the loop has ended, the nodes with a state are the ones that the start reaches. -/
theorem reached_iff {fuel : ℕ} {state : σ} {collected : ρ} {final : Work σ ρ}
    (hrun : flow.run fuel (begin start state collected) = some final) (node : ℕ) :
    (final.states node).isSome = true ↔ Relation.ReflTransGen flow.Edge start node := by
  obtain ⟨h, hdone⟩ := (spreads_begin flow start state collected).run hrun
  refine ⟨h.reached node, fun hreach => ?_⟩
  induction hreach with
  | refl => exact h.start
  | tail _ hedge ih =>
    obtain hpending | hspread := h.spread _ ih
    · rw [hdone] at hpending
      exact absurd hpending not_mem_nil
    · exact hspread _ hedge

end Reached

end Flow

end Propagation
