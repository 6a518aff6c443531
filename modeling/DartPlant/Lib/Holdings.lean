import Mathlib.Data.BitVec
import Mathlib.Data.List.Basic

/-! # Who holds what

A component grants resources of several kinds and takes them back.  What it granted and took back,
newest first, is a log of deeds, and the holders of a kind are the acquirers that no release has
popped.  In a settled log, where every release found a holder, a kind has as many holders as
acquisitions less releases (`holding_add_released`).

`Counts` ties a counter of fixed width to such a number.
-/

namespace Holdings

universe u v
variable {α : Type u} {ρ : Type v}

/-- A grant or a return, by an agent. -/
inductive Deed (α : Type u) (ρ : Type v) where
  | acquire (agent : α) (resource : ρ)
  | release (agent : α) (resource : ρ)
  deriving DecidableEq, Repr

section Log
variable [DecidableEq ρ]

/-- How often the resource was granted. -/
def acquired (resource : ρ) : List (Deed α ρ) → ℕ
  | [] => 0
  | .acquire _ r :: log => acquired resource log + if r = resource then 1 else 0
  | .release _ _ :: log => acquired resource log

/-- How often it was returned. -/
def released (resource : ρ) : List (Deed α ρ) → ℕ
  | [] => 0
  | .acquire _ _ :: log => released resource log
  | .release _ r :: log => released resource log + if r = resource then 1 else 0

/-- Who holds the resource, the newest acquirer first. -/
def holders (resource : ρ) : List (Deed α ρ) → List α
  | [] => []
  | .acquire agent r :: log =>
    if r = resource then agent :: holders resource log else holders resource log
  | .release _ r :: log => if r = resource then (holders resource log).tail else holders resource log

/-- Every release found a holder. -/
def Settled : List (Deed α ρ) → Prop
  | [] => True
  | .acquire _ _ :: log => Settled log
  | .release _ r :: log => holders r log ≠ [] ∧ Settled log

variable {log : List (Deed α ρ)} {agent holder : α} {r s : ρ}

@[simp] theorem holders_acquire_self : holders r (.acquire agent r :: log) =
    agent :: holders r log := if_pos rfl

@[simp] theorem holders_release_self : holders r (.release agent r :: log) =
    (holders r log).tail := if_pos rfl

/-- How many hold the resource. -/
def holding (resource : ρ) (log : List (Deed α ρ)) : ℕ := (holders resource log).length

theorem holders_ne_nil (h : holding r log ≠ 0) : holders r log ≠ [] := fun hnil =>
  h (List.length_eq_zero_iff.mpr hnil)

theorem holding_acquire_self : holding r (.acquire agent r :: log) = holding r log + 1 := by
  rw [holding, holders_acquire_self, List.length_cons, holding]

theorem holding_release_self : holding r (.release agent r :: log) = holding r log - 1 := by
  rw [holding, holders_release_self, List.length_tail, holding]

theorem holding_add_released (h : Settled log) (r : ρ) :
    holding r log + released r log = acquired r log := by
  unfold holding
  induction log with
  | nil => rfl
  | cons deed log ih =>
    cases deed with
    | acquire agent s =>
      have hlog := ih h
      simp only [holders, released, acquired]
      split
      · rw [List.length_cons]
        omega
      · omega
    | release agent s =>
      obtain ⟨hne, hlog⟩ := h
      have hlog := ih hlog
      simp only [holders, released, acquired]
      split
      next heq =>
        subst heq
        have hpos := List.length_pos_iff.mpr hne
        rw [List.length_tail]
        omega
      · omega

/-- Who holds after a deed held before it or has just acquired. -/
theorem mem_holders_release (h : holder ∈ holders s (.release agent r :: log)) :
    holder ∈ holders s log := by
  simp only [holders] at h
  split at h
  · exact List.mem_of_mem_tail h
  · exact h

theorem mem_holders_acquire (h : holder ∈ holders s (.acquire agent r :: log)) :
    (holder = agent ∧ r = s) ∨ holder ∈ holders s log := by
  simp only [holders] at h
  split at h
  next heq =>
    rcases List.mem_cons.mp h with rfl | h
    · exact Or.inl ⟨rfl, heq⟩
    · exact Or.inr h
  · exact Or.inr h

end Log

/-! ## Counters -/

/-- The counter shows this number. -/
def Counts {w : ℕ} (counter : BitVec w) (n : ℕ) : Prop := counter.toNat = n

namespace Counts
variable {w n : ℕ} {counter : BitVec w}

theorem zero (w : ℕ) : Counts (0#w) 0 := by
  rw [Counts, BitVec.toNat_ofNat, Nat.zero_mod]

theorem eq_zero_iff (h : Counts counter n) : counter = 0#w ↔ n = 0 := by
  rw [← BitVec.toNat_inj, BitVec.toNat_ofNat, Nat.zero_mod, h]

/-- A counter that is not at its maximum can go up. -/
theorem succ (h : Counts counter n) (hroom : counter ≠ BitVec.allOnes w) :
    Counts (counter + 1#w) (n + 1) := by
  have hlt := counter.isLt
  have hne : counter.toNat ≠ 2 ^ w - 1 := fun heq =>
    hroom (BitVec.toNat_inj.mp (by rw [heq, BitVec.toNat_allOnes]))
  have hone : 1 < 2 ^ w ∨ 2 ^ w = 1 := by
    have hpos := Nat.two_pow_pos w
    omega
  rw [Counts] at h ⊢
  rcases hone with hone | hone
  · rw [BitVec.toNat_add, BitVec.toNat_ofNat, Nat.mod_eq_of_lt hone, Nat.mod_eq_of_lt (by omega), h]
  · omega

theorem ne_zero (h : Counts counter n) (hne : counter ≠ 0#w) : n ≠ 0 := fun hzero =>
  hne (h.eq_zero_iff.mpr hzero)

/-- A counter that is not zero can go down. -/
theorem pred (h : Counts counter n) (hne : counter ≠ 0#w) : Counts (counter - 1#w) (n - 1) := by
  have hlt := counter.isLt
  have hpos := h.ne_zero hne
  rw [Counts] at h ⊢
  have hone : 1 < 2 ^ w := by omega
  rw [BitVec.toNat_sub, BitVec.toNat_ofNat, Nat.mod_eq_of_lt hone, h,
    show 2 ^ w - 1 + n = n - 1 + 2 ^ w by omega, Nat.add_mod_right, Nat.mod_eq_of_lt (by omega)]

end Counts

end Holdings
