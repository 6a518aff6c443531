import Mathlib.Data.List.Induction
import Mathlib.Data.List.Nodup

/-! # Merging rows by their keys

A loop that keeps the first row of each key.  A later row of the key must have the value of the kept
one, or the loop stops.
-/

namespace KeyedMerge
open List

universe u v w
variable {α : Type u} {κ : Type v} {ν : Type w}

/-- The rows of one key have one value. -/
def Agree (key : α → κ) (value : α → ν) (rows : List α) : Prop :=
  ∀ left ∈ rows, ∀ right ∈ rows, key left = key right → value left = value right

/-- What is kept of some rows: one row for each key, with the value of the key. -/
structure Kept (key : α → κ) (value : α → ν) (rows kept : List α) : Prop where
  subset : ∀ row ∈ kept, row ∈ rows
  covers : ∀ row ∈ rows, ∃ current ∈ kept, key current = key row ∧ value current = value row
  distinct : (kept.map key).Nodup

/-- Of the same rows in another order, rows with the same keys are kept. -/
theorem Kept.perm_keys {key : α → κ} {value : α → ν} {rows kept others keptOthers : List α}
    (h : Kept key value rows kept)
    (h' : Kept key value others keptOthers) (hrows : rows.Perm others) :
    (kept.map key).Perm (keptOthers.map key) := by
  refine (perm_ext_iff_of_nodup h.distinct h'.distinct).mpr fun name => ?_
  simp only [mem_map]
  constructor
  · rintro ⟨row, hrow, rfl⟩
    obtain ⟨current, hcurrent, hkey, -⟩ := h'.covers row (hrows.mem_iff.mp (h.subset row hrow))
    exact ⟨current, hcurrent, hkey⟩
  · rintro ⟨row, hrow, rfl⟩
    obtain ⟨current, hcurrent, hkey, -⟩ := h.covers row (hrows.mem_iff.mpr (h'.subset row hrow))
    exact ⟨current, hcurrent, hkey⟩

variable [DecidableEq κ] [DecidableEq ν]

/-- The rows that are kept when one more has come. -/
def keepRow (key : α → κ) (value : α → ν) (kept : List α) (row : α) : Option (List α) :=
  match kept.find? fun current => key current == key row with
  | none => some (kept ++ [row])
  | some current => if value current = value row then some kept else none

/-- The rows that are kept after these ones. -/
def mergeFrom (key : α → κ) (value : α → ν) (kept rows : List α) : Option (List α) :=
  rows.foldlM (keepRow key value) kept

def merge (key : α → κ) (value : α → ν) (rows : List α) : Option (List α) :=
  mergeFrom key value [] rows

section Laws
variable {key : α → κ} {value : α → ν} {rows kept next : List α} {row : α}

/-- A row is kept, or there is a kept row of its key and value. -/
theorem keepRow_eq_some : keepRow key value kept row = some next →
    (next = kept ++ [row] ∧ ∀ current ∈ kept, key current ≠ key row) ∨
    (next = kept ∧ ∃ current ∈ kept, key current = key row ∧ value current = value row) := by
  intro h
  unfold keepRow at h
  split at h
  next hnone =>
    refine Or.inl ⟨(Option.some.inj h).symm, fun current hcurrent hkey => ?_⟩
    exact List.find?_eq_none.mp hnone current hcurrent (beq_iff_eq.mpr hkey)
  next current hfound =>
    split at h
    next hvalue =>
      exact Or.inr ⟨(Option.some.inj h).symm, current, mem_of_find?_eq_some hfound,
        by simpa only [beq_iff_eq] using List.find?_some hfound, hvalue⟩
    · cases h

/-- A row of a new key is kept. -/
theorem keepRow_new (h : ∀ current ∈ kept, key current ≠ key row) :
    keepRow key value kept row = some (kept ++ [row]) := by
  have hnone : kept.find? (fun current => key current == key row) = none :=
    List.find?_eq_none.mpr fun current hcurrent hkey => h current hcurrent (beq_iff_eq.mp hkey)
  unfold keepRow
  rw [hnone]

theorem mergeFrom_append (kept rows others : List α) :
    mergeFrom key value kept (rows ++ others) =
      (mergeFrom key value kept rows).bind fun next => mergeFrom key value next others :=
  foldlM_append

theorem mergeFrom_cons (kept : List α) (row : α) (rows : List α) :
    mergeFrom key value kept (row :: rows) =
      (keepRow key value kept row).bind fun next => mergeFrom key value next rows :=
  foldlM_cons

theorem merge_concat (rows : List α) (row : α) :
    merge key value (rows ++ [row]) =
      (merge key value rows).bind fun kept => keepRow key value kept row := by
  unfold merge
  rw [mergeFrom_append]
  refine congrArg (Option.bind _) (funext fun kept => ?_)
  rw [mergeFrom_cons]
  exact Option.bind_fun_some _

theorem kept_of_merge (h : merge key value rows = some kept) : Kept key value rows kept := by
  induction rows using List.reverseRecOn generalizing kept with
  | nil =>
    obtain rfl := Option.some.inj h
    exact ⟨nofun, nofun, nodup_nil⟩
  | append_singleton rows row ih =>
    rw [merge_concat] at h
    obtain ⟨before, hbefore, hrow⟩ := Option.bind_eq_some_iff.mp h
    obtain ⟨hsubset, hcovers, hdistinct⟩ := ih hbefore
    obtain ⟨rfl, hnew⟩ | ⟨rfl, current, hcurrent, hkey, hvalue⟩ := keepRow_eq_some hrow
    · constructor
      case subset =>
        exact forall_mem_append.mpr
          ⟨fun other hother => mem_append_left _ (hsubset other hother),
            forall_mem_singleton.mpr (mem_append_right _ mem_cons_self)⟩
      case covers =>
        refine forall_mem_append.mpr ⟨fun other hother => ?_, forall_mem_singleton.mpr ?_⟩
        · obtain ⟨current, hcurrent, hsame⟩ := hcovers other hother
          exact ⟨current, mem_append_left _ hcurrent, hsame⟩
        · exact ⟨row, mem_append_right _ mem_cons_self, rfl, rfl⟩
      case distinct =>
        rw [map_append, map_singleton, nodup_append_comm, singleton_append,
          nodup_cons]
        refine ⟨fun hmem => ?_, hdistinct⟩
        obtain ⟨current, hcurrent, hkey⟩ := mem_map.mp hmem
        exact hnew current hcurrent hkey
    · constructor
      case subset => exact fun other hother => mem_append_left _ (hsubset other hother)
      case covers =>
        exact forall_mem_append.mpr
          ⟨hcovers, forall_mem_singleton.mpr ⟨current, hcurrent, hkey, hvalue⟩⟩
      case distinct => exact hdistinct

/-- The loop ends when the rows of each key agree. -/
theorem merge_isSome_iff :
    (∃ kept, merge key value rows = some kept) ↔ Agree key value rows := by
  constructor
  · rintro ⟨kept, h⟩ left hleft right hright hkey
    obtain ⟨-, hcovers, hdistinct⟩ := kept_of_merge h
    obtain ⟨first, hfirst, hfirstKey, hfirstValue⟩ := hcovers left hleft
    obtain ⟨second, hsecond, hsecondKey, hsecondValue⟩ := hcovers right hright
    obtain rfl : first = second := inj_on_of_nodup_map hdistinct hfirst hsecond
      (hfirstKey.trans (hkey.trans hsecondKey.symm))
    exact hfirstValue.symm.trans hsecondValue
  · intro h
    induction rows using List.reverseRecOn with
    | nil => exact ⟨[], rfl⟩
    | append_singleton rows row ih =>
      obtain ⟨before, hbefore⟩ := ih fun left hleft right hright =>
        h left (mem_append_left _ hleft) right (mem_append_left _ hright)
      rw [merge_concat, hbefore, Option.bind_some]
      unfold keepRow
      split
      · exact ⟨_, rfl⟩
      next current hfound =>
        have hcurrent := (kept_of_merge hbefore).subset current (mem_of_find?_eq_some hfound)
        have hkey : key current = key row := by
          simpa only [beq_iff_eq] using List.find?_some hfound
        have hvalue := h current (mem_append_left _ hcurrent) row
          (mem_append_right _ mem_cons_self) hkey
        rw [if_pos hvalue]
        exact ⟨_, rfl⟩

end Laws

end KeyedMerge
