import Mathlib.Data.List.Pairwise
import Mathlib.Data.List.Perm.Subperm

/-! # Extents that do not overlap

An extent is a range of natural numbers, given by its start and its size.  An allocator keeps the
extents that it has given out and those that are still free apart from each other: what it takes
from the free ones is apart from all the rest, and an extent that is divided into parts of one size
stays apart from whatever it was apart from.
-/

namespace Extents

structure Extent where
  start : ℕ
  size : ℕ
  deriving DecidableEq, Repr

/-- The first number after the extent. -/
def Extent.stop (extent : Extent) : ℕ := extent.start + extent.size

/-- The two have no number in common. -/
def Apart (first second : Extent) : Prop :=
  first.stop ≤ second.start ∨ second.stop ≤ first.start

def Inside (inner outer : Extent) : Prop :=
  outer.start ≤ inner.start ∧ inner.stop ≤ outer.stop

/-- One of the parts of a size that follow each other from the start on. -/
def part (start size index : ℕ) : Extent := ⟨start + index * size, size⟩

section Relations
variable {first second inner outer other : Extent} {start size index index' count : ℕ}

theorem Apart.symm (h : Apart first second) : Apart second first := Or.symm h

instance : Std.Symm Apart := ⟨fun _ _ => Apart.symm⟩

/-- What lies in an extent is apart from what that is apart from. -/
theorem Inside.apart (h : Inside inner outer) (hapart : Apart outer other) : Apart inner other := by
  unfold Inside at h
  unfold Apart at hapart ⊢
  omega

theorem part_apart (h : index ≠ index') :
    Apart (part start size index) (part start size index') := by
  obtain hlt | hlt := Nat.lt_or_gt_of_ne h
  · have hle := Nat.mul_le_mul_right size hlt
    rw [Nat.succ_mul] at hle
    unfold Apart Extent.stop part
    dsimp only
    omega
  · have hle := Nat.mul_le_mul_right size hlt
    rw [Nat.succ_mul] at hle
    unfold Apart Extent.stop part
    dsimp only
    omega

theorem part_inside (h : index < count) :
    Inside (part start size index) ⟨start, size * count⟩ := by
  have hle := Nat.mul_le_mul_right size h
  rw [Nat.succ_mul, Nat.mul_comm count size] at hle
  unfold Inside Extent.stop part
  dsimp only
  omega

end Relations

/-! ## Several extents -/

section Lists
variable {extents fewer others : List Extent} {first second : Extent}

/-- Some of the extents, in any order. -/
theorem pairwise_of_subperm (h : fewer.Subperm extents) (hapart : extents.Pairwise Apart) :
    fewer.Pairwise Apart := by
  obtain ⟨middle, hperm, hsublist⟩ := h
  exact (hperm.pairwise_iff Apart.symm).mp (hapart.sublist hsublist)

/-- The parts of an extent are apart from each other and from what the extent is apart from. -/
theorem parts_pairwise {start size : ℕ} {indices : List ℕ} {count : ℕ} (hnodup : indices.Nodup)
    (hindices : ∀ index ∈ indices, index < count)
    (hothers : ∀ other ∈ others, Apart ⟨start, size * count⟩ other)
    (hapart : others.Pairwise Apart) :
    (indices.map (part start size) ++ others).Pairwise Apart := by
  rw [List.pairwise_append]
  refine ⟨?_, hapart, ?_⟩
  · rw [List.pairwise_map]
    exact hnodup.imp fun hne => part_apart hne
  · intro inner hinner other hother
    obtain ⟨index, hindex, rfl⟩ := List.mem_map.mp hinner
    exact (part_inside (hindices index hindex)).apart (hothers other hother)

end Lists

end Extents
