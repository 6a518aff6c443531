import Mathlib.Data.List.Basic

/-! # Reads inside a buffer

A computation over a buffer may refuse the buffer, and must not read outside it.  The two are told
apart here: a read outside stops the computation with the place that it read.  The rules below follow
a computation step by step and show that it stays inside.
-/

namespace BoundedReads

universe u

/-- Why a computation stopped. -/
inductive Stop where
  | refused
  | outside (offset : ℕ)
  deriving DecidableEq, Repr

abbrev Reading (α : Type u) := Except Stop α

section Reads
variable {α β : Type u}

def refuse : Reading α := .error .refused

/-- A check that must hold for the computation to go on. -/
def require (condition : Prop) [Decidable condition] : Reading PUnit.{u + 1} :=
  if condition then .ok ⟨⟩ else refuse

/-- The element at an offset. -/
def elementAt (buffer : List β) (offset : ℕ) : Reading β :=
  match buffer[offset]? with
  | some element => .ok element
  | none => .error (.outside offset)

/-- So many elements from an offset on. -/
def slice (buffer : List β) (offset count : ℕ) : Reading (List β) :=
  if offset + count ≤ buffer.length then .ok ((buffer.drop offset).take count)
  else .error (.outside (max offset buffer.length))

/-- The computation reads nothing outside. -/
def Inside (reading : Reading α) : Prop := ∀ offset, reading ≠ .error (.outside offset)

theorem inside_ok (value : α) : Inside (.ok value : Reading α) := fun _ => nofun

theorem inside_refuse : Inside (refuse : Reading α) := fun _ => nofun

theorem inside_require (condition : Prop) [Decidable condition] :
    Inside (require.{u} condition) := by
  unfold require
  split
  · exact inside_ok _
  · exact inside_refuse

theorem Inside.bind {first : Reading α} {next : α → Reading β} (h : Inside first)
    (hnext : ∀ value, first = .ok value → Inside (next value)) : Inside (first >>= next) := by
  cases hfirst : first with
  | error stop =>
    intro offset hstop
    cases hstop
    exact h offset hfirst
  | ok value => exact hnext value hfirst

/-- A check gives its condition to what comes after it. -/
theorem inside_require_bind {condition : Prop} [Decidable condition] {next : PUnit → Reading α}
    (h : condition → Inside (next ⟨⟩)) : Inside (require condition >>= next) := by
  by_cases hcondition : condition
  · refine (inside_require condition).bind fun _ _ => h hcondition
  · refine (inside_require condition).bind fun _ hok => ?_
    rw [require, if_neg hcondition] at hok
    cases hok

theorem require_bind_of {condition : Prop} [Decidable condition] {next : PUnit → Reading α}
    (h : condition) : require condition >>= next = next ⟨⟩ := by
  rw [require, if_pos h]
  rfl

/-- A computation that came through a check came through the rest of it too. -/
theorem require_bind_eq_ok {condition : Prop} [Decidable condition] {next : PUnit → Reading α}
    {value : α} : require condition >>= next = .ok value ↔ condition ∧ next ⟨⟩ = .ok value := by
  by_cases hcondition : condition
  · rw [require_bind_of hcondition]
    exact (and_iff_right hcondition).symm
  · rw [require, if_neg hcondition]
    exact ⟨nofun, fun h => absurd h.1 hcondition⟩

theorem ok_bind (value : α) (next : α → Reading β) :
    (Except.ok value : Reading α) >>= next = next value := rfl

theorem bind_eq_ok {first : Reading α} {next : α → Reading β} {value : β} :
    first >>= next = .ok value ↔ ∃ between, first = .ok between ∧ next between = .ok value := by
  cases first with
  | error stop => exact ⟨nofun, fun ⟨_, h, _⟩ => by cases h⟩
  | ok between =>
    constructor
    · intro h
      exact ⟨between, rfl, h⟩
    · rintro ⟨_, h, hnext⟩
      cases h
      exact hnext

variable {buffer : List β} {offset count : ℕ}

theorem elementAt_of_lt (h : offset < buffer.length) :
    elementAt buffer offset = .ok buffer[offset] := by
  unfold elementAt
  rw [List.getElem?_eq_getElem h]

theorem inside_elementAt (h : offset < buffer.length) : Inside (elementAt buffer offset) := by
  rw [elementAt_of_lt h]
  exact inside_ok _

theorem slice_of_le (h : offset + count ≤ buffer.length) :
    slice buffer offset count = .ok ((buffer.drop offset).take count) := if_pos h

theorem inside_slice (h : offset + count ≤ buffer.length) : Inside (slice buffer offset count) := by
  rw [slice_of_le h]
  exact inside_ok _

theorem slice_eq_ok {found : List β} :
    slice buffer offset count = .ok found ↔
      offset + count ≤ buffer.length ∧ found = (buffer.drop offset).take count := by
  unfold slice
  split
  next h =>
    constructor
    · intro hok
      exact ⟨h, (Except.ok.inj hok).symm⟩
    · rintro ⟨-, rfl⟩
      rfl
  next h => exact ⟨nofun, fun hok => absurd hok.1 h⟩

end Reads

end BoundedReads
