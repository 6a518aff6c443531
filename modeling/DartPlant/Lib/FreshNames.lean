import Mathlib.Data.BitVec
import Mathlib.Data.List.Forall2
import Mathlib.Data.List.Nodup

/-! # Numbering a list from a cursor

`fill next c slots` names the items of a list: a slot that already has a name keeps it, and the
others take the cursor, which `next` then moves.  Names and cursors are compared by a rank; `Room`
says that each move goes up in rank, which is what a counter of fixed width stops doing when it
wraps.

With room and kept names below the cursor, every name lies below the cursor that is left
(`lt_of_mem_fill`), a new name at or above the one it started from (`fill_forall₂`), and the names
are distinct when the kept ones are (`fill_nodup`).
-/

namespace FreshNames

universe u
variable {ι : Type u}

/-- The names of the slots, new ones from the cursor on. -/
def fill (next : ι → ι) : ι → List (Option ι) → List ι
  | _, [] => []
  | c, some a :: slots => a :: fill next c slots
  | c, none :: slots => c :: fill next (next c) slots

/-- The cursor after the slots have been named. -/
def cursorAfter (next : ι → ι) : ι → List (Option ι) → ι
  | c, [] => c
  | c, some _ :: slots => cursorAfter next c slots
  | c, none :: slots => cursorAfter next (next c) slots

/-- Every new name moves the cursor up. -/
def Room (rank : ι → ℕ) (next : ι → ι) : ι → List (Option ι) → Prop
  | _, [] => True
  | c, some _ :: slots => Room rank next c slots
  | c, none :: slots => rank c < rank (next c) ∧ Room rank next (next c) slots

/-- An entry of the second list has its partner in the first. -/
theorem exists_of_mem_right {α β : Type u} {R : α → β → Prop} {xs : List α} {ys : List β}
    (h : List.Forall₂ R xs ys) {y : β} (hy : y ∈ ys) : ∃ x ∈ xs, R x y := by
  induction h with
  | nil => exact absurd hy List.not_mem_nil
  | @cons x z xs ys hR _ ih =>
    rcases List.mem_cons.mp hy with rfl | hy
    · exact ⟨x, List.mem_cons_self, hR⟩
    · obtain ⟨w, hw, hwR⟩ := ih hy
      exact ⟨w, List.mem_cons_of_mem _ hw, hwR⟩

variable {rank : ι → ℕ} {next : ι → ι} {c : ι} {slots : List (Option ι)}

theorem Room.le_cursorAfter (h : Room rank next c slots) :
    rank c ≤ rank (cursorAfter next c slots) := by
  induction slots generalizing c with
  | nil => exact le_refl _
  | cons slot slots ih =>
    cases slot with
    | some a => exact ih h
    | none => exact h.1.le.trans (ih h.2)

/-- Slot by slot: a kept name, or one between the two cursors. -/
theorem fill_forall₂ (h : Room rank next c slots) :
    List.Forall₂ (fun slot a => match slot with
      | some b => a = b
      | none => rank c ≤ rank a ∧ rank a < rank (cursorAfter next c slots))
      slots (fill next c slots) := by
  induction slots generalizing c with
  | nil => exact .nil
  | cons slot slots ih =>
    cases slot with
    | some b => exact .cons rfl (ih h)
    | none =>
      obtain ⟨hup, hrest⟩ := h
      refine .cons ⟨le_refl _, hup.trans_le hrest.le_cursorAfter⟩ ?_
      refine (ih hrest).imp fun slot a hslot => ?_
      cases slot with
      | some b => exact hslot
      | none => exact ⟨hup.le.trans hslot.1, hslot.2⟩

/-- A name is a kept one or lies between the two cursors. -/
theorem mem_fill (h : Room rank next c slots) {a : ι} (ha : a ∈ fill next c slots) :
    some a ∈ slots ∨ (rank c ≤ rank a ∧ rank a < rank (cursorAfter next c slots)) := by
  obtain ⟨slot, hslot, hR⟩ := exists_of_mem_right (fill_forall₂ h) ha
  cases slot with
  | some b =>
    left
    rw [show a = b from hR]
    exact hslot
  | none => exact Or.inr hR

/-- With the kept names below the first cursor, every name is below the last one. -/
theorem lt_of_mem_fill (h : Room rank next c slots)
    (hkept : ∀ b, some b ∈ slots → rank b < rank c) {a : ι} (ha : a ∈ fill next c slots) :
    rank a < rank (cursorAfter next c slots) := by
  rcases mem_fill h ha with hmem | ⟨-, hlt⟩
  · exact (hkept a hmem).trans_le h.le_cursorAfter
  · exact hlt

/-- Distinct kept names below the cursor make all names distinct. -/
theorem fill_nodup (h : Room rank next c slots) (hkept : ∀ b, some b ∈ slots → rank b < rank c)
    (hnodup : (slots.filterMap id).Nodup) : (fill next c slots).Nodup := by
  induction slots generalizing c with
  | nil => exact List.nodup_nil
  | cons slot slots ih =>
    have htail : ∀ b, some b ∈ slots → rank b < rank c := fun b hb =>
      hkept b (List.mem_cons_of_mem _ hb)
    cases slot with
    | some a =>
      obtain ⟨hfresh, hrest⟩ := List.nodup_cons.mp hnodup
      have hroom : Room rank next c slots := h
      refine List.nodup_cons.mpr ⟨fun ha => ?_, ih hroom htail hrest⟩
      rcases mem_fill hroom ha with hmem | ⟨hle, -⟩
      · exact hfresh (List.mem_filterMap.mpr ⟨some a, hmem, rfl⟩)
      · have hlt := hkept a List.mem_cons_self
        omega
    | none =>
      obtain ⟨hup, hrest⟩ := h
      have hbelow : ∀ b, some b ∈ slots → rank b < rank (next c) := fun b hb =>
        (htail b hb).trans hup
      refine List.nodup_cons.mpr ⟨fun hc => ?_, ih hrest hbelow hnodup⟩
      rcases mem_fill hrest hc with hmem | ⟨hle, -⟩
      · exact lt_irrefl _ (htail c hmem)
      · omega

/-- A counter of fixed width has room for as many names as it is away from wrapping. -/
theorem room_bitVec {w : ℕ} {c : BitVec w} {slots : List (Option (BitVec w))}
    (h : c.toNat + slots.countP Option.isNone < 2 ^ w) :
    Room BitVec.toNat (· + 1#w) c slots := by
  induction slots generalizing c with
  | nil => trivial
  | cons slot slots ih =>
    cases slot with
    | some a =>
      refine ih ?_
      simpa only [List.countP_cons, Option.isNone_some, Bool.false_eq_true, if_false,
        Nat.add_zero] using h
    | none =>
      simp only [List.countP_cons, Option.isNone_none, if_true] at h
      have hone : (1#w).toNat = 1 := by
        rw [BitVec.toNat_ofNat, Nat.mod_eq_of_lt (by omega)]
      have hnext : (c + 1#w).toNat = c.toNat + 1 := by
        rw [BitVec.toNat_add, hone, Nat.mod_eq_of_lt (by omega)]
      refine ⟨?_, ih ?_⟩
      · show c.toNat < (c + 1#w).toNat
        omega
      · show (c + 1#w).toNat + slots.countP Option.isNone < 2 ^ w
        omega

end FreshNames
