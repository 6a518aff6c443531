import Mathlib

/-! # Metered runs

A run may fail and leaves events behind, each of which costs something.  A run meets a value when
all of its events are fine, together they cost no more than a budget, and its result comes out as
the value.  The rules below follow a run step by step.
-/

namespace DartPlant.Metered

variable {ε α β γ : Type}

structure Run (ε α : Type) where
  events : List ε
  result : Option α

namespace Run

def fail : Run ε α := ⟨[], none⟩

def emit (event : ε) : Run ε Unit := ⟨[event], some ()⟩

protected def pure (value : α) : Run ε α := ⟨[], some value⟩

/-- A run, and the one that its result asks for. -/
protected def bind (run : Run ε α) (next : α → Run ε β) : Run ε β :=
  match run.result with
  | none => ⟨run.events, none⟩
  | some value => ⟨run.events ++ (next value).events, (next value).result⟩

instance : Monad (Run ε) where
  pure := Run.pure
  bind := Run.bind

theorem bind_none {run : Run ε α} {next : α → Run ε β} (h : run.result = none) :
    run >>= next = ⟨run.events, none⟩ := by
  change Run.bind run next = _
  rw [Run.bind, h]

theorem bind_some {run : Run ε α} {next : α → Run ε β} {value : α} (h : run.result = some value) :
    run >>= next = ⟨run.events ++ (next value).events, (next value).result⟩ := by
  change Run.bind run next = _
  rw [Run.bind, h]

/-- The run stays within the budget, all of its events are fine, and its result comes out as the
value. -/
structure Meets (fine : ε → Prop) (cost : ε → Nat) (finish : Option α → β) (budget : Nat)
    (run : Run ε α) (value : β) : Prop where
  fine : ∀ event ∈ run.events, fine event
  cost : (run.events.map cost).sum ≤ budget
  result : finish run.result = value

section Rules
variable {fine : ε → Prop} {cost : ε → Nat} {finish : Option α → β} {budget more : Nat}
  {run : Run ε α} {value : β}

theorem meets_pure {done : α} (h : finish (some done) = value) :
    (pure done : Run ε α).Meets fine cost finish 0 value :=
  ⟨nofun, Nat.le_refl 0, h⟩

theorem meets_fail (h : finish none = value) :
    (fail : Run ε α).Meets fine cost finish 0 value :=
  ⟨nofun, Nat.le_refl 0, h⟩

theorem meets_emit {event : ε} (h : fine event) :
    (emit event).Meets fine cost id (cost event) (some ()) where
  fine other hother := by
    obtain rfl := List.mem_singleton.mp hother
    exact h
  cost := by simp [emit]
  result := rfl

theorem Meets.mono (h : run.Meets fine cost finish budget value) (hle : budget ≤ more) :
    run.Meets fine cost finish more value :=
  ⟨h.fine, Nat.le_trans h.cost hle, h.result⟩

/-- A run that meets an optional value goes on with it, or stops without one. -/
theorem Meets.bind {first : Run ε γ} {next : γ → Run ε α} {between : Option γ}
    (h : first.Meets fine cost id budget between)
    (hnone : between = none → finish none = value)
    (hsome : ∀ reached, between = some reached →
      (next reached).Meets fine cost finish more value) :
    (first >>= next).Meets fine cost finish (budget + more) value := by
  have hbetween : first.result = between := h.result
  cases between with
  | none =>
    rw [bind_none hbetween]
    exact ⟨h.fine, Nat.le_trans h.cost (Nat.le_add_right _ _), hnone rfl⟩
  | some reached =>
    have hrest := hsome reached rfl
    rw [bind_some hbetween]
    refine ⟨fun event hevent => ?_, ?_, hrest.result⟩
    · rcases List.mem_append.mp hevent with hevent | hevent
      · exact h.fine event hevent
      · exact hrest.fine event hevent
    · rw [List.map_append, List.sum_append]
      exact Nat.add_le_add h.cost hrest.cost

/-- A first run that costs nothing. -/
theorem Meets.bind_free {first : Run ε γ} {next : γ → Run ε α} {between : Option γ}
    (h : first.Meets fine cost id 0 between)
    (hnone : between = none → finish none = value)
    (hsome : ∀ reached, between = some reached →
      (next reached).Meets fine cost finish budget value) :
    (first >>= next).Meets fine cost finish budget value := by
  rw [← Nat.zero_add budget]
  exact h.bind hnone hsome

/-- The same where the value is what an optional computation of the same shape comes out as. -/
theorem Meets.seq {first : Run ε γ} {next : γ → Run ε α} {between : Option γ}
    {after : γ → Option α} (h : first.Meets fine cost id 0 between)
    (hsome : ∀ reached, between = some reached →
      (next reached).Meets fine cost finish budget (finish (after reached))) :
    (first >>= next).Meets fine cost finish budget (finish (between >>= after)) := by
  refine h.bind_free (fun hnone => ?_) fun reached hreached => ?_
  · rw [hnone]
    rfl
  · rw [hreached]
    exact hsome reached hreached

end Rules

end Run

end DartPlant.Metered
