import Mathlib.Data.List.Nodup
import Mathlib.Logic.Function.Basic

/-! # Flags with owners

A pool has a flag for every slot, which is set while somebody owns the slot.  `Exclusive used holds`
says that a set flag has exactly one owner, who holds the slot once.

A flag is claimed or given back by one owner, or one owner passes everything on to another; each
rule takes the holdings after the step as a function of its own, so that they may be computed from
whatever state the owners are in.
-/

namespace FlagOwners

universe u v
variable {σ : Type u} {ο : Type v}

/-- The owners hold disjoint slots, and the flags are set at exactly those. -/
structure Exclusive (used : σ → Bool) (holds : ο → List σ) : Prop where
  nodup : ∀ o, (holds o).Nodup
  sole : ∀ o o' s, s ∈ holds o → s ∈ holds o' → o = o'
  exact : ∀ s, used s = true ↔ ∃ o, s ∈ holds o

variable {used : σ → Bool} {holds holds' : ο → List σ} {o o' : ο} {s : σ}

theorem exclusive_empty : Exclusive (fun _ : σ => false) fun _ : ο => [] where
  nodup := fun _ => List.nodup_nil
  sole := fun _ _ _ h => absurd h List.not_mem_nil
  exact := by
    intro s
    simp only [Bool.false_eq_true, List.not_mem_nil, exists_false]

namespace Exclusive

variable (h : Exclusive used holds)
include h

theorem used_of_mem (hs : s ∈ holds o) : used s = true :=
  (h.exact s).mpr ⟨o, hs⟩

/-- Nobody holds a slot whose flag is clear. -/
theorem notMem (hfree : used s = false) (o : ο) : s ∉ holds o := by
  intro hs
  rw [h.used_of_mem hs] at hfree
  cases hfree

theorem keep (hsame : ∀ o, holds' o = holds o) : Exclusive used holds' := by
  rw [funext hsame]
  exact h

theorem keep_of (hself : holds' o = holds o)
    (hrest : ∀ o', o' ≠ o → holds' o' = holds o') : Exclusive used holds' := by
  refine h.keep fun o' => ?_
  by_cases ho : o' = o
  · rw [ho, hself]
  · exact hrest o' ho

/-- An owner passes all it holds on to one that holds nothing. -/
theorem pass (hne : o' ≠ o) (hempty : holds o' = [])
    (hto : holds' o' = holds o) (hfrom : holds' o = [])
    (hrest : ∀ o₁, o₁ ≠ o → o₁ ≠ o' → holds' o₁ = holds o₁) : Exclusive used holds' := by
  classical
  let back : ο → ο := fun o₁ => if o₁ = o' then o else if o₁ = o then o' else o₁
  have hback : ∀ o₁, holds' o₁ = holds (back o₁) := by
    intro o₁
    by_cases h₁ : o₁ = o'
    · simp only [back, h₁, if_true, hto]
    · by_cases h₂ : o₁ = o
      · simp only [back, h₂, hne.symm, if_true, if_false, hfrom, hempty]
      · simp only [back, h₁, h₂, if_false, hrest o₁ h₂ h₁]
  have hinvol : ∀ o₁, back (back o₁) = o₁ := by
    intro o₁
    by_cases h₁ : o₁ = o'
    · simp only [back, h₁, if_true, hne.symm, if_false]
    · by_cases h₂ : o₁ = o
      · simp only [back, h₂, if_true, hne.symm, if_false]
      · simp only [back, h₁, h₂, if_false]
  constructor
  case nodup =>
    intro o₁
    rw [hback]
    exact h.nodup _
  case sole =>
    intro o₁ o₂ r h₁ h₂
    rw [hback] at h₁ h₂
    have heq := h.sole _ _ r h₁ h₂
    rw [← hinvol o₁, heq, hinvol]
  case exact =>
    intro r
    rw [h.exact r]
    constructor
    · rintro ⟨o₁, hr⟩
      refine ⟨back o₁, ?_⟩
      rw [hback, hinvol]
      exact hr
    · rintro ⟨o₁, hr⟩
      exact ⟨back o₁, hback o₁ ▸ hr⟩

/-- A slot that one owner does not hold is used exactly when another owner holds it. -/
theorem used_notMem_iff : (used s = true ∧ s ∉ holds o) ↔ ∃ o', o' ≠ o ∧ s ∈ holds o' := by
  rw [h.exact s]
  constructor
  · rintro ⟨⟨o', hs⟩, hout⟩
    exact ⟨o', fun heq => hout (heq ▸ hs), hs⟩
  · rintro ⟨o', hne, hs⟩
    exact ⟨⟨o', hs⟩, fun hs' => hne (h.sole o' o s hs hs')⟩

/-- Between two states of a pool in which all other owners hold the same, the slots that one owner
does not hold are the same. -/
theorem others_keep {used' : σ → Bool} (h' : Exclusive used' holds')
    (hrest : ∀ o', o' ≠ o → holds' o' = holds o') :
    (used' s = true ∧ s ∉ holds' o) ↔ (used s = true ∧ s ∉ holds o) := by
  rw [h.used_notMem_iff, h'.used_notMem_iff]
  constructor
  · rintro ⟨o', hne, hs⟩
    exact ⟨o', hne, hrest o' hne ▸ hs⟩
  · rintro ⟨o', hne, hs⟩
    exact ⟨o', hne, (hrest o' hne).symm ▸ hs⟩

section Update
variable [DecidableEq σ]

/-- An owner claims a slot that was free. -/
theorem claim (hfree : used s = false) (hs : holds' o = holds o ++ [s])
    (hrest : ∀ o', o' ≠ o → holds' o' = holds o') :
    Exclusive (Function.update used s true) holds' := by
  have hmem : ∀ o' r, r ∈ holds' o' ↔ r ∈ holds o' ∨ o' = o ∧ r = s := by
    intro o' r
    by_cases ho : o' = o
    · rw [ho, hs, List.mem_append, List.mem_singleton]
      simp
    · simp [hrest o' ho, ho]
  constructor
  case nodup =>
    intro o'
    by_cases ho : o' = o
    · rw [ho, hs]
      refine List.nodup_append.mpr ⟨h.nodup o, List.nodup_singleton s, ?_⟩
      intro r hr r' hr' heq
      rw [heq, List.mem_singleton.mp hr'] at hr
      exact h.notMem hfree o hr
    · rw [hrest o' ho]
      exact h.nodup o'
  case sole =>
    intro o₁ o₂ r h₁ h₂
    obtain h₁ | ⟨rfl, rfl⟩ := (hmem o₁ r).mp h₁
    · obtain h₂ | ⟨-, rfl⟩ := (hmem o₂ r).mp h₂
      · exact h.sole o₁ o₂ r h₁ h₂
      · exact absurd h₁ (h.notMem hfree o₁)
    · obtain h₂ | ⟨rfl, -⟩ := (hmem o₂ r).mp h₂
      · exact absurd h₂ (h.notMem hfree o₂)
      · rfl
  case exact =>
    intro r
    by_cases hr : r = s
    · subst hr
      rw [Function.update_self]
      exact ⟨fun _ => ⟨o, (hmem o r).mpr (.inr ⟨rfl, rfl⟩)⟩, fun _ => rfl⟩
    · rw [Function.update_of_ne hr, h.exact r]
      simp only [hmem, hr, and_false, or_false]

/-- An owner gives a slot back. -/
theorem giveBack (hs : holds o = s :: holds' o) (hrest : ∀ o', o' ≠ o → holds' o' = holds o') :
    Exclusive (Function.update used s false) holds' := by
  have hnodup : (s :: holds' o).Nodup := hs ▸ h.nodup o
  obtain ⟨hout, htail⟩ := List.nodup_cons.mp hnodup
  have hmem : ∀ o' r, r ∈ holds' o' ↔ r ∈ holds o' ∧ r ≠ s := by
    intro o' r
    by_cases ho : o' = o
    · rw [ho, hs, List.mem_cons]
      constructor
      · intro hr
        exact ⟨.inr hr, fun heq => hout (heq ▸ hr)⟩
      · rintro ⟨hr | hr, hne⟩
        · exact absurd hr hne
        · exact hr
    · rw [hrest o' ho]
      refine ⟨fun hr => ⟨hr, fun heq => ho ?_⟩, fun hr => hr.1⟩
      refine h.sole o' o s (heq ▸ hr) ?_
      rw [hs]
      exact List.mem_cons_self
  constructor
  case nodup =>
    intro o'
    by_cases ho : o' = o
    · exact ho ▸ htail
    · rw [hrest o' ho]
      exact h.nodup o'
  case sole =>
    intro o₁ o₂ r h₁ h₂
    exact h.sole o₁ o₂ r ((hmem o₁ r).mp h₁).1 ((hmem o₂ r).mp h₂).1
  case exact =>
    intro r
    by_cases hr : r = s
    · subst hr
      simp only [Function.update_self, hmem, ne_eq, not_true_eq_false, and_false, exists_false,
        Bool.false_eq_true]
    · rw [Function.update_of_ne hr, h.exact r]
      simp only [hmem, ne_eq, hr, not_false_eq_true, and_true]

end Update

end Exclusive

end FlagOwners
