import DartPlant.Lib.KeyedTable
import Mathlib.Data.List.Dedup
import Mathlib.Data.List.Induction
import Mathlib.Data.List.Perm.Basic

/-! # Tallies

A tally counts how often each key comes, in a table with one counter for each key that was seen.
A counter stops at a limit.
-/

namespace Tally
open KeyedTable List

universe u
variable {κ : Type u} [DecidableEq κ]

/-- A counter that stops at the limit. -/
def bump (limit count : ℕ) : ℕ := if count = limit then count else count + 1

/-- The key is seen once more. -/
def observe (limit : ℕ) (table : List (κ × ℕ)) (key : κ) : List (κ × ℕ) :=
  assign table key (bump limit ((table.lookup key).getD 0))

/-- The counters after the keys were seen. -/
def tally (limit : ℕ) (keys : List κ) : List (κ × ℕ) := keys.foldl (observe limit) []

section Laws
variable {limit : ℕ} {keys : List κ} {key : κ}

theorem lookup_assign (table : List (κ × ℕ)) (key other : κ) (count : ℕ) :
    (assign table key count).lookup other =
      if other = key then some count else table.lookup other := by
  unfold assign
  rw [lookup_cons]
  by_cases hother : other = key
  · rw [if_pos hother, beq_iff_eq.mpr hother]
  · rw [if_neg hother, beq_false_of_ne hother]
    dsimp only
    induction table with
    | nil => rfl
    | cons entry table ih =>
      obtain ⟨first, value⟩ := entry
      by_cases hfirst : first = key
      · rw [filter_cons_of_neg (by simpa using hfirst), ih, lookup_cons,
          beq_false_of_ne fun heq => hother (heq.trans hfirst)]
      · rw [filter_cons_of_pos (by simpa using hfirst), lookup_cons, lookup_cons, ih]

theorem tally_concat (keys : List κ) (key : κ) :
    tally limit (keys ++ [key]) = observe limit (tally limit keys) key := by
  rw [tally, foldl_append]
  rfl

theorem bump_min (limit count : ℕ) : bump limit (min count limit) = min (count + 1) limit := by
  unfold bump
  split <;> omega

/-- A key has a counter when it was seen, and its counter says how often. -/
theorem lookup_tally (keys : List κ) (key : κ) :
    (tally limit keys).lookup key = if key ∈ keys then some (min (keys.count key) limit) else none := by
  induction keys using List.reverseRecOn with
  | nil => rfl
  | append_singleton keys last ih =>
    rw [tally_concat, observe, lookup_assign]
    by_cases hlast : key = last
    · subst hlast
      have hcount : ((tally limit keys).lookup key).getD 0 = min (keys.count key) limit := by
        rw [ih]
        split
        · rfl
        next hnot => rw [count_eq_zero_of_not_mem hnot, Option.getD_none, Nat.zero_min]
      rw [if_pos rfl, if_pos (mem_append_right _ (mem_singleton.mpr rfl)), hcount,
        bump_min, count_append, count_singleton_self]
    · have hmem : key ∈ keys ++ [last] ↔ key ∈ keys := by
        rw [mem_append, mem_singleton]
        exact or_iff_left hlast
      rw [if_neg hlast, ih, count_append, count_singleton, beq_false_of_ne (Ne.symm hlast)]
      simp only [hmem, Bool.false_eq_true, if_false, Nat.add_zero]

theorem keyed_tally (keys : List κ) : Keyed (tally limit keys) := by
  induction keys using List.reverseRecOn with
  | nil => exact nodup_nil
  | append_singleton keys last ih =>
    rw [tally_concat]
    exact ih.assign

theorem mem_tally {count : ℕ} :
    (key, count) ∈ tally limit keys ↔ key ∈ keys ∧ count = min (keys.count key) limit := by
  rw [← lookup_eq_some_iff (keyed_tally keys), lookup_tally]
  split
  next hmem =>
    rw [Option.some.injEq]
    exact ⟨fun h => ⟨hmem, h.symm⟩, fun h => h.2.symm⟩
  next hnot => exact ⟨nofun, fun h => absurd h.1 hnot⟩

/-- The keys of the table are the keys that were seen, each once. -/
theorem tally_keys (keys : List κ) : ((tally limit keys).map Prod.fst).Perm keys.dedup := by
  rw [perm_ext_iff_of_nodup (keyed_tally keys) (nodup_dedup keys)]
  intro key
  rw [mem_dedup, mem_map]
  constructor
  · rintro ⟨⟨other, count⟩, hmem, rfl⟩
    exact (mem_tally.mp hmem).1
  · intro hmem
    exact ⟨(key, _), mem_tally.mpr ⟨hmem, rfl⟩, rfl⟩

theorem tally_length (keys : List κ) : (tally limit keys).length = keys.dedup.length := by
  have hkeys : ((tally limit keys).map Prod.fst).Perm keys.dedup := tally_keys keys
  rw [← hkeys.length_eq, length_map]

/-- Counting the counters is counting the keys. -/
theorem tally_countP (keys : List κ) (p : ℕ → Bool) :
    (tally limit keys).countP (fun entry => p entry.2) =
      keys.dedup.countP fun key => p (min (keys.count key) limit) := by
  have hkeys : ((tally limit keys).map Prod.fst).Perm keys.dedup := tally_keys keys
  rw [← hkeys.countP_eq, countP_map]
  refine countP_congr fun entry hmem => ?_
  rw [(mem_tally.mp hmem).2]
  rfl

end Laws

end Tally
