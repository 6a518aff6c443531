import Mathlib.Data.List.Basic
import Mathlib.Order.Basic

/-! # Intervals that tile a range

A log of closed intervals of natural numbers tiles `(a, b]` when each interval starts right after
the one before it and none is empty.  Every number of the range then lies in exactly one interval,
and the first interval that does not end before a number is the one it lies in, which is what a
binary search by the ends finds.
-/

namespace Tiling

universe u
variable {α : Type u} {first last : α → ℕ}

/-- The intervals run from `a + 1` to `b` without a gap, an overlap or an empty one. -/
def Tiles (first last : α → ℕ) : ℕ → List α → ℕ → Prop
  | a, [], b => a = b
  | a, x :: xs, b => first x = a + 1 ∧ first x ≤ last x ∧ Tiles first last (last x) xs b

/-- The number lies in the interval. -/
def Covers (first last : α → ℕ) (e : ℕ) (x : α) : Prop := first x ≤ e ∧ e ≤ last x

variable {a b e : ℕ} {x : α} {xs ys : List α}

theorem Tiles.le (h : Tiles first last a xs b) : a ≤ b := by
  induction xs generalizing a with
  | nil => exact Nat.le_of_eq h
  | cons x xs ih =>
    obtain ⟨hfirst, hle, hrest⟩ := h
    have := ih hrest
    omega

theorem tiles_append :
    Tiles first last a (xs ++ ys) b ↔ ∃ c, Tiles first last a xs c ∧ Tiles first last c ys b := by
  induction xs generalizing a with
  | nil => exact ⟨fun h => ⟨a, rfl, h⟩, fun ⟨_, hc, h⟩ => hc ▸ h⟩
  | cons x xs ih =>
    simp only [List.cons_append, Tiles, ih]
    constructor
    · rintro ⟨hfirst, hle, c, hxs, hys⟩
      exact ⟨c, ⟨hfirst, hle, hxs⟩, hys⟩
    · rintro ⟨c, ⟨hfirst, hle, hxs⟩, hys⟩
      exact ⟨hfirst, hle, c, hxs, hys⟩

theorem Tiles.concat (h : Tiles first last a xs b) (hfirst : first x = b + 1)
    (hle : first x ≤ last x) : Tiles first last a (xs ++ [x]) (last x) :=
  tiles_append.mpr ⟨b, h, hfirst, hle, rfl⟩

/-- What is left when the oldest intervals are dropped still tiles. -/
theorem Tiles.drop (h : Tiles first last a xs b) (n : ℕ) :
    ∃ c, a ≤ c ∧ Tiles first last c (xs.drop n) b := by
  have hsplit : Tiles first last a (xs.take n ++ xs.drop n) b := by rwa [List.take_append_drop]
  obtain ⟨c, htake, hdrop⟩ := tiles_append.mp hsplit
  exact ⟨c, htake.le, hdrop⟩

theorem Tiles.mem (h : Tiles first last a xs b) (hx : x ∈ xs) :
    a < first x ∧ first x ≤ last x ∧ last x ≤ b := by
  induction xs generalizing a with
  | nil => exact absurd hx List.not_mem_nil
  | cons y ys ih =>
    obtain ⟨hfirst, hle, hrest⟩ := h
    have hend := hrest.le
    rcases List.mem_cons.mp hx with rfl | hx
    · omega
    · obtain ⟨hlow, hmid, hhigh⟩ := ih hrest hx
      omega

/-- The first interval that does not end before a number of the range covers it. -/
theorem Tiles.find (h : Tiles first last a xs b) (hlow : a < e) (hhigh : e ≤ b) :
    ∃ x, xs.find? (fun x => !decide (last x < e)) = some x ∧ Covers first last e x := by
  induction xs generalizing a with
  | nil =>
    have hempty : a = b := h
    omega
  | cons y ys ih =>
    obtain ⟨hfirst, hle, hrest⟩ := h
    by_cases hend : last y < e
    · obtain ⟨x, hfind, hcovers⟩ := ih hrest hend
      refine ⟨x, ?_, hcovers⟩
      rw [List.find?_cons_of_neg, hfind]
      simp only [hend, decide_true, Bool.not_true, Bool.false_eq_true, not_false_eq_true]
    · refine ⟨y, ?_, by omega, by omega⟩
      rw [List.find?_cons_of_pos]
      simp only [hend, decide_false, Bool.not_false]

/-- Every number of the range lies in exactly one interval of the log. -/
theorem Tiles.existsUnique (h : Tiles first last a xs b) (hlow : a < e) (hhigh : e ≤ b) :
    ∃! i : ℕ, ∃ x, xs[i]? = some x ∧ Covers first last e x := by
  induction xs generalizing a with
  | nil =>
    have hempty : a = b := h
    omega
  | cons y ys ih =>
    obtain ⟨hfirst, hle, hrest⟩ := h
    by_cases hend : last y < e
    · obtain ⟨i, ⟨x, hx, hcovers⟩, honly⟩ := ih hrest hend
      refine ⟨i + 1, ⟨x, hx, hcovers⟩, ?_⟩
      rintro (- | j) ⟨x', hx', hcovers'⟩
      · obtain rfl := Option.some.inj hx'
        exact absurd hcovers'.2 (Nat.not_le.mpr hend)
      · exact congrArg Nat.succ (honly j ⟨x', hx', hcovers'⟩)
    · refine ⟨0, ⟨y, rfl, by omega, by omega⟩, ?_⟩
      rintro (- | j) ⟨x', hx', hcovers'⟩
      · rfl
      · obtain ⟨hlater, -⟩ := hrest.mem (List.mem_of_getElem? hx')
        have := hcovers'.1
        omega

end Tiling
