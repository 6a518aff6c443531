import Mathlib.Data.List.TakeWhile

/-! # Insertion at an upper bound

A list in the order of a transitive relation gets one more element, before the first one that the
element precedes.
-/

namespace UpperBound

universe u
variable {α : Type u}

/-- The list with the element at its upper bound. -/
def insertAt (before : α → α → Bool) (x : α) (l : List α) : List α :=
  l.takeWhile (fun y => !before x y) ++ x :: l.dropWhile (fun y => !before x y)

section Insert
variable {before : α → α → Bool} {x : α} {l : List α}

theorem perm_insertAt : (insertAt before x l).Perm (x :: l) := by
  have hsplit := List.takeWhile_append_dropWhile (p := fun y => !before x y) (l := l)
  calc insertAt before x l
      |>.Perm (x :: (l.takeWhile (fun y => !before x y) ++
        l.dropWhile (fun y => !before x y))) := List.perm_middle
    _ = x :: l := by rw [hsplit]

/-- Nothing before the upper bound is preceded by the element. -/
theorem not_before_of_mem_takeWhile {y : α} (hy : y ∈ l.takeWhile fun y => !before x y) :
    before x y = false := by
  have hnot := List.mem_takeWhile_imp hy
  simpa using hnot

/-- Everything from the upper bound on is. -/
theorem before_of_mem_dropWhile
    (htrans : ∀ y z, before x y = true → before y z = true → before x z = true)
    (hl : l.Pairwise fun y z => before y z = true) {y : α}
    (hy : y ∈ l.dropWhile fun y => !before x y) : before x y = true := by
  have hpairs := hl.sublist (List.dropWhile_sublist fun y => !before x y)
  cases hdrop : l.dropWhile (fun y => !before x y) with
  | nil =>
    rw [hdrop] at hy
    cases hy
  | cons first rest =>
    have hfirst : before x first = true := by
      have hhead := List.head_dropWhile_not (fun y => !before x y) (l := l)
        (by rw [hdrop]; exact List.cons_ne_nil _ _)
      simpa [hdrop] using hhead
    rw [hdrop] at hpairs hy
    rcases List.mem_cons.mp hy with rfl | hrest
    · exact hfirst
    · exact htrans first y hfirst (List.rel_of_pairwise_cons hpairs hrest)

/-- The order is kept, when the element can be compared with everything. -/
theorem pairwise_insertAt
    (htrans : ∀ x y z, before x y = true → before y z = true → before x z = true)
    (hl : l.Pairwise fun y z => before y z = true)
    (hx : ∀ y ∈ l, before x y = false → before y x = true) :
    (insertAt before x l).Pairwise fun y z => before y z = true := by
  have hearlier : ∀ y ∈ l.takeWhile (fun y => !before x y), before y x = true := by
    intro y hy
    exact hx y ((List.takeWhile_sublist _).subset hy) (not_before_of_mem_takeWhile hy)
  have hlater : ∀ y ∈ l.dropWhile (fun y => !before x y), before x y = true := by
    intro y hy
    exact before_of_mem_dropWhile (htrans x) hl hy
  rw [insertAt, List.pairwise_append]
  refine ⟨hl.sublist (List.takeWhile_sublist _), ?_, ?_⟩
  · rw [List.pairwise_cons]
    exact ⟨hlater, hl.sublist (List.dropWhile_sublist _)⟩
  · intro y hy z hz
    rcases List.mem_cons.mp hz with rfl | hz
    · exact hearlier y hy
    · exact htrans y x z (hearlier y hy) (hlater z hz)

end Insert

end UpperBound
