import Mathlib.Logic.Function.Basic

/-! # Partial maps

What a partial map holds once a key of it has been written or removed.
-/

namespace PartialMaps

variable {α β : Type} [DecidableEq α] {f : α → Option β} {key key' : α} {held : β}

/-- What a map holds after a write. -/
theorem write_eq_some {value : Option β} :
    Function.update f key value key' = some held ↔
      key' = key ∧ value = some held ∨ key' ≠ key ∧ f key' = some held := by
  by_cases h : key' = key
  · subst h
    simp
  · simp [h]

/-- What a map holds after a key has been removed. -/
theorem remove_eq_some :
    Function.update f key none key' = some held ↔ key' ≠ key ∧ f key' = some held := by
  rw [write_eq_some]
  constructor
  · rintro (⟨-, hnone⟩ | hkept)
    · cases hnone
    · exact hkept
  · exact Or.inr

/-- What is held elsewhere stays. -/
theorem held_of_ne {value : Option β} (hne : key' ≠ key) (h : f key' = some held) :
    Function.update f key value key' = some held :=
  write_eq_some.mpr (Or.inr ⟨hne, h⟩)

/-- What is held stays when the key that is written was free. -/
theorem held_of_free {value : Option β} (hfree : f key = none) (h : f key' = some held) :
    Function.update f key value key' = some held := by
  refine held_of_ne ?_ h
  rintro rfl
  cases hfree.symm.trans h

end PartialMaps
