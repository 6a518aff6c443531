import Mathlib

/-! # Counting over the stacks of many threads

Every thread has a stack, and every frame on it carries a weight: one for a pin it holds, the number
of times it holds something, zero when it holds nothing.  `tally` is the weight of all frames of all
threads.  A counter that the threads share is correct when it equals a tally, and the lemmas say how
a tally moves when one thread pushes a frame, pops one, or changes the one on top.
-/

namespace StackTally

universe u v
variable {T : Type u} {α : Type v} [Fintype T]

/-- The weight of all frames of all threads. -/
def tally (weight : α → ℕ) (frames : T → List α) : ℕ :=
  ∑ t, ((frames t).map weight).sum

variable {weight : α → ℕ} {frames : T → List α} {t : T} {frame top : α} {rest : List α}

/-- Nobody carries anything. -/
theorem tally_zero (h : ∀ t, ∀ frame ∈ frames t, weight frame = 0) : tally weight frames = 0 := by
  apply Finset.sum_eq_zero
  intro t _
  apply List.sum_eq_zero
  intro n hn
  obtain ⟨frame, hframe, rfl⟩ := List.mem_map.mp hn
  exact h t frame hframe

theorem tally_empty (h : ∀ t, frames t = []) : tally weight frames = 0 := by
  apply tally_zero
  intro t frame hframe
  rw [h t] at hframe
  cases hframe

variable [DecidableEq T]

/-- One stack is replaced. -/
theorem tally_update (weight : α → ℕ) (frames : T → List α) (t : T) (stack : List α) :
    tally weight (Function.update frames t stack) + ((frames t).map weight).sum =
      tally weight frames + (stack.map weight).sum := by
  have hrest : ∑ s ∈ Finset.univ.erase t, ((Function.update frames t stack s).map weight).sum =
      ∑ s ∈ Finset.univ.erase t, ((frames s).map weight).sum := by
    apply Finset.sum_congr rfl
    intro s hs
    rw [Function.update_of_ne (Finset.ne_of_mem_erase hs)]
  unfold tally
  rw [← Finset.add_sum_erase _ _ (Finset.mem_univ t),
    ← Finset.add_sum_erase _ _ (Finset.mem_univ t), hrest, Function.update_self]
  omega

theorem tally_push (weight : α → ℕ) (frames : T → List α) (t : T) (frame : α) :
    tally weight (Function.update frames t (frame :: frames t)) =
      tally weight frames + weight frame := by
  have h := tally_update weight frames t (frame :: frames t)
  rw [List.map_cons, List.sum_cons] at h
  omega

theorem tally_pop (weight : α → ℕ) (hstack : frames t = top :: rest) :
    tally weight (Function.update frames t rest) + weight top = tally weight frames := by
  have h := tally_update weight frames t rest
  rw [hstack, List.map_cons, List.sum_cons] at h
  omega

theorem tally_top (weight : α → ℕ) (frame : α) (hstack : frames t = top :: rest) :
    tally weight (Function.update frames t (frame :: rest)) + weight top =
      tally weight frames + weight frame := by
  have h := tally_update weight frames t (frame :: rest)
  rw [hstack, List.map_cons, List.map_cons, List.sum_cons, List.sum_cons] at h
  omega

end StackTally
