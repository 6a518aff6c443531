import Mathlib.Data.List.Basic

/-! # Loops that may fail

A counted loop whose body may stop it with an error.  What its body keeps holds when it is through.
-/

namespace DartPlant.FallibleLoop

variable {ε α β σ : Type}

/-- A sequence that succeeds has gone through both its parts. -/
theorem of_bind_ok {first : Except ε α} {second : α → Except ε β} {value : β}
    (h : first >>= second = .ok value) :
    ∃ between, first = .ok between ∧ second between = .ok value := by
  cases first with
  | error failure => cases h
  | ok between => exact ⟨between, rfl, h⟩

theorem of_map_ok {first : Except ε α} {f : α → β} {value : β} (h : first.map f = .ok value) :
    ∃ between, first = .ok between ∧ f between = value := by
  cases first with
  | error failure => cases h
  | ok between => exact ⟨between, rfl, Except.ok.inj h⟩

theorem of_mapError_ok {ε' : Type} {first : Except ε α} {f : ε → ε'} {value : α}
    (h : first.mapError f = .ok value) : first = .ok value := by
  cases first with
  | error failure => cases h
  | ok between => rw [Except.ok.inj h]

/-- The loop over `0, …, count - 1`. -/
def loop (body : σ → Nat → Except ε σ) (start : σ) (count : Nat) : Except ε σ :=
  (List.range count).foldlM body start

theorem loop_succ {body : σ → Nat → Except ε σ} {start final : σ} {count : Nat}
    (h : loop body start (count + 1) = .ok final) :
    ∃ before, loop body start count = .ok before ∧ body before count = .ok final := by
  rw [loop, List.range_succ, List.foldlM_append] at h
  obtain ⟨before, hbefore, hlast⟩ := of_bind_ok h
  obtain ⟨after, hafter, hfinal⟩ := of_bind_ok hlast
  exact ⟨before, hbefore, hafter.trans hfinal⟩

/-- An invariant of the body holds after the loop. -/
theorem loop_induct {body : σ → Nat → Except ε σ} {start final : σ} {count : Nat}
    (invariant : Nat → σ → Prop) (hstart : invariant 0 start)
    (hbody : ∀ turn state after, turn < count → invariant turn state →
      body state turn = .ok after → invariant (turn + 1) after)
    (h : loop body start count = .ok final) : invariant count final := by
  induction count generalizing final with
  | zero => rwa [← Except.ok.inj h]
  | succ count ih =>
    obtain ⟨before, hbefore, hlast⟩ := loop_succ h
    have hinvariant := ih (fun turn state after hturn =>
      hbody turn state after (Nat.lt_succ_of_lt hturn)) hbefore
    exact hbody count before final (Nat.lt_succ_self count) hinvariant hlast

/-- A loop whose body succeeds wherever the invariant holds is through. -/
theorem loop_progress {body : σ → Nat → Except ε σ} {start : σ} {count : Nat}
    (invariant : Nat → σ → Prop) (hstart : invariant 0 start)
    (hbody : ∀ turn state, turn < count → invariant turn state →
      ∃ after, body state turn = .ok after ∧ invariant (turn + 1) after) :
    ∃ final, loop body start count = .ok final ∧ invariant count final := by
  induction count with
  | zero => exact ⟨start, rfl, hstart⟩
  | succ count ih =>
    obtain ⟨before, hbefore, hinvariant⟩ := ih fun turn state hturn =>
      hbody turn state (Nat.lt_succ_of_lt hturn)
    obtain ⟨after, hafter, hnext⟩ := hbody count before (Nat.lt_succ_self count) hinvariant
    refine ⟨after, ?_, hnext⟩
    unfold loop at hbefore ⊢
    rw [List.range_succ, List.foldlM_append, hbefore]
    show ([count].foldlM body before) = _
    rw [List.foldlM_cons, hafter]
    rfl

/-- A loop that maps gives as many results as it has turns. -/
theorem length_mapM {f : α → Option β} {xs : List α} {ys : List β} (h : xs.mapM f = some ys) :
    ys.length = xs.length := by
  induction xs generalizing ys with
  | nil =>
    obtain rfl := Option.some.inj h
    rfl
  | cons x xs ih =>
    rw [List.mapM_cons] at h
    obtain ⟨first, -, h⟩ := Option.bind_eq_some_iff.mp h
    obtain ⟨rest, hrest, h⟩ := Option.bind_eq_some_iff.mp h
    obtain rfl := Option.some.inj h
    exact congrArg Nat.succ (ih hrest)

/-- Whatever a loop that maps gives is what some turn of it gave. -/
theorem exists_of_mem_mapM {f : α → Option β} {xs : List α} {ys : List β}
    (h : xs.mapM f = some ys) {y : β} (hy : y ∈ ys) : ∃ x ∈ xs, f x = some y := by
  induction xs generalizing ys with
  | nil =>
    obtain rfl : [] = ys := Option.some.inj h
    cases hy
  | cons x xs ih =>
    rw [List.mapM_cons] at h
    obtain ⟨first, hfirst, h⟩ := Option.bind_eq_some_iff.mp h
    obtain ⟨rest, hrest, h⟩ := Option.bind_eq_some_iff.mp h
    obtain rfl : first :: rest = ys := Option.some.inj h
    rcases List.mem_cons.mp hy with rfl | hy
    · exact ⟨x, List.mem_cons_self, hfirst⟩
    · obtain ⟨other, hother, hvalue⟩ := ih hrest hy
      exact ⟨other, List.mem_cons_of_mem x hother, hvalue⟩

end DartPlant.FallibleLoop
