import Mathlib.Data.List.Nodup

/-! # Keyed tables

A table of entries under keys, each key once, in no particular order.  An entry is found by its key;
assigning one replaces the entry that its key had.
-/

namespace KeyedTable

universe u v
variable {κ : Type u} {ι : Type v}

/-- No key has two entries. -/
def Keyed (table : List (κ × ι)) : Prop := (table.map Prod.fst).Nodup

section Keyed
variable {table : List (κ × ι)} {key : κ} {left right : ι}

theorem Keyed.unique (h : Keyed table) (hleft : (key, left) ∈ table)
    (hright : (key, right) ∈ table) : left = right :=
  congrArg Prod.snd (List.inj_on_of_nodup_map h hleft hright rfl)

theorem Keyed.filter (h : Keyed table) (p : κ × ι → Bool) : Keyed (table.filter p) :=
  List.Nodup.sublist ((List.filter_sublist (p := p)).map Prod.fst) h

theorem Keyed.sublist {kept : List (κ × ι)} (h : Keyed table) (hkept : kept.Sublist table) :
    Keyed kept :=
  List.Nodup.sublist (hkept.map Prod.fst) h

end Keyed

variable [DecidableEq κ]

/-- The table with this entry under its key. -/
def assign (table : List (κ × ι)) (key : κ) (id : ι) : List (κ × ι) :=
  (key, id) :: table.filter fun entry => decide (entry.1 ≠ key)

variable {table : List (κ × ι)} {key : κ} {id : ι}

theorem mem_assign {entry : κ × ι} :
    entry ∈ assign table key id ↔ entry = (key, id) ∨ entry ∈ table ∧ entry.1 ≠ key := by
  rw [assign, List.mem_cons, List.mem_filter, decide_eq_true_iff]

theorem Keyed.assign (h : Keyed table) : Keyed (assign table key id) := by
  rw [Keyed, KeyedTable.assign, List.map_cons, List.nodup_cons]
  refine ⟨fun hmem => ?_, h.filter _⟩
  obtain ⟨entry, hentry, hkey⟩ := List.mem_map.mp hmem
  exact of_decide_eq_true (List.mem_filter.mp hentry).2 hkey

/-- What is found under a key is its entry. -/
theorem lookup_eq_some_iff (h : Keyed table) : table.lookup key = some id ↔ (key, id) ∈ table := by
  induction table with
  | nil => simp
  | cons entry rest ih =>
    obtain ⟨key', id'⟩ := entry
    obtain ⟨hnot, hrest⟩ := List.nodup_cons.mp h
    rw [List.lookup_cons, List.mem_cons, Prod.mk.injEq]
    by_cases hkey : key = key'
    · subst hkey
      rw [beq_self_eq_true]
      dsimp only
      rw [Option.some.injEq]
      refine ⟨fun heq => Or.inl ⟨rfl, heq.symm⟩, ?_⟩
      rintro (⟨-, rfl⟩ | hmem)
      · rfl
      · exact absurd (List.mem_map.mpr ⟨_, hmem, rfl⟩) hnot
    · rw [beq_false_of_ne hkey]
      dsimp only
      rw [ih hrest]
      exact ⟨Or.inr, fun hmem => hmem.resolve_left fun heq => hkey heq.1⟩

end KeyedTable
