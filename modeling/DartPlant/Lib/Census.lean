import Mathlib.Data.Set.Card

/-! # Counting the members of a population in a given phase

`census P f` is the number of indices whose value `f i` has the property `P`, as an extended natural
number, so the population may be of any type and any size.  A shared counter is correct when it
equals a census; the lemmas say how a census moves when one member changes its phase, which is what
an increment or a decrement of the counter has to be compared with.
-/

namespace Census

universe u v
variable {ι : Type u} {α : Type v}

/-- How many members of the population have the property. -/
noncomputable def census (P : α → Prop) (f : ι → α) : ℕ∞ := {i | P (f i)}.encard

theorem census_eq_zero {P : α → Prop} {f : ι → α} : census P f = 0 ↔ ∀ i, ¬ P (f i) := by
  simp only [census, Set.encard_eq_zero, Set.eq_empty_iff_forall_notMem, Set.mem_ofPred_eq]

theorem census_ne_zero {P : α → Prop} {f : ι → α} {i : ι} (h : P (f i)) : census P f ≠ 0 :=
  fun hz => census_eq_zero.mp hz i h

theorem exists_of_census_ne_zero {P : α → Prop} {f : ι → α} (h : census P f ≠ 0) :
    ∃ i, P (f i) := by
  by_contra hnone
  exact h (census_eq_zero.mpr fun i hi => hnone ⟨i, hi⟩)

theorem census_pos {P : α → Prop} {f : ι → α} {i : ι} {n : ℕ} (hin : P (f i))
    (h : census P f = n) : n ≠ 0 := by
  rintro rfl
  exact census_ne_zero hin h

variable [DecidableEq ι]

/-- The census does not move when the member's membership does not. -/
theorem census_update_of_iff {P : α → Prop} {f : ι → α} {i : ι} {b : α} (h : P b ↔ P (f i)) :
    census P (Function.update f i b) = census P f := by
  unfold census
  congr 1
  ext j
  by_cases hj : j = i
  · subst hj
    simpa only [Set.mem_ofPred_eq, Function.update_self] using h
  · simp only [Set.mem_ofPred_eq, Function.update_of_ne hj]

theorem census_update_enter {P : α → Prop} {f : ι → α} {i : ι} {b : α} (hout : ¬ P (f i))
    (hin : P b) : census P (Function.update f i b) = census P f + 1 := by
  have hset : {j | P (Function.update f i b j)} = insert i {j | P (f j)} := by
    ext j
    by_cases hj : j = i
    · subst hj
      simpa only [Set.mem_ofPred_eq, Function.update_self, Set.mem_insert_iff, true_or, iff_true]
    · simp only [Set.mem_ofPred_eq, Function.update_of_ne hj, Set.mem_insert_iff, hj, false_or]
  have hi : i ∉ {j | P (f j)} := hout
  unfold census
  rw [hset, Set.encard_insert_of_notMem hi]

theorem census_update_leave {P : α → Prop} {f : ι → α} {i : ι} {b : α} (hin : P (f i))
    (hout : ¬ P b) : census P (Function.update f i b) + 1 = census P f := by
  have hback : Function.update (Function.update f i b) i (f i) = f := by
    rw [Function.update_idem, Function.update_eq_self]
  have hself : ¬ P (Function.update f i b i) := by rwa [Function.update_self]
  calc census P (Function.update f i b) + 1
      = census P (Function.update (Function.update f i b) i (f i)) :=
        (census_update_enter hself hin).symm
    _ = census P f := by rw [hback]

/-! ## A counter that equals a census -/

theorem census_enter {P : α → Prop} {f : ι → α} {i : ι} {b : α} {n : ℕ} (hout : ¬ P (f i))
    (hin : P b) (h : census P f = n) : census P (Function.update f i b) = (n + 1 : ℕ) := by
  rw [census_update_enter hout hin, h]
  rfl

theorem census_leave {P : α → Prop} {f : ι → α} {i : ι} {b : α} {n : ℕ} (hin : P (f i))
    (hout : ¬ P b) (h : census P f = n) : census P (Function.update f i b) = (n - 1 : ℕ) := by
  have hleave := census_update_leave hin hout
  rw [h] at hleave
  cases n with
  | zero => exact absurd h (census_ne_zero hin)
  | succ m => exact ENat.add_left_injective_of_ne_top ENat.one_ne_top hleave

end Census
