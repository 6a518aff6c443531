import Mathlib.Data.List.Dedup
import Mathlib.Data.List.Induction

/-! # Rows with one key

A selection that fails closed asks the rows in question for their keys, and goes on when they have
exactly one.  Whether they do, and which it is, does not depend on the order of the rows; which row
then stands for them may, and a loop that lets some rows replace others settles it.
-/

namespace DartPlant.SoleKey
open List

section Keys
variable {α κ : Type} [DecidableEq κ] {key : α → κ} {rows rows' : List α} {k : κ}

/-- The keys of the rows, without repetition, are a single key. -/
theorem dedup_eq_singleton :
    (rows.map key).dedup = [k] ↔ rows ≠ [] ∧ ∀ row ∈ rows, key row = k := by
  constructor
  · intro h
    have hmem (k' : κ) : k' ∈ rows.map key ↔ k' = k := by
      rw [← mem_dedup, h, mem_singleton]
    refine ⟨?_, fun row hrow => (hmem _).mp (mem_map_of_mem hrow)⟩
    intro hnil
    have hk := (hmem k).mpr rfl
    rw [hnil] at hk
    cases hk
  · intro ⟨hne, hkeys⟩
    obtain ⟨row, rest, rfl⟩ := exists_cons_of_ne_nil hne
    have hperm : ((row :: rest).map key).dedup.Perm [k] := by
      rw [perm_ext_iff_of_nodup (nodup_dedup _) (nodup_singleton k)]
      intro k'
      rw [mem_dedup, mem_singleton, mem_map]
      constructor
      · intro ⟨other, hother, hkey⟩
        exact hkey ▸ hkeys other hother
      · intro hk
        exact ⟨row, mem_cons_self, hk ▸ hkeys row mem_cons_self⟩
    exact hperm.eq_singleton

/-- Exactly one key, said without a list of keys. -/
theorem dedup_eq_singleton_iff_existsUnique :
    (∃ k, (rows.map key).dedup = [k]) ↔ ∃! k, ∃ row ∈ rows, key row = k := by
  constructor
  · intro ⟨k, h⟩
    obtain ⟨hne, hkeys⟩ := dedup_eq_singleton.mp h
    obtain ⟨row, hrow⟩ := exists_mem_of_ne_nil rows hne
    refine ⟨k, ⟨row, hrow, hkeys row hrow⟩, ?_⟩
    intro k' ⟨other, hother, hkey⟩
    exact hkey ▸ hkeys other hother
  · intro ⟨k, ⟨row, hrow, _⟩, hunique⟩
    refine ⟨k, dedup_eq_singleton.mpr ⟨ne_nil_of_mem hrow, ?_⟩⟩
    intro other hother
    exact hunique _ ⟨other, hother, rfl⟩

theorem dedup_eq_singleton_perm (h : rows.Perm rows') :
    (rows.map key).dedup = [k] ↔ (rows'.map key).dedup = [k] := by
  rw [dedup_eq_singleton, dedup_eq_singleton]
  refine and_congr (not_congr ?_) (forall_congr' fun row => imp_congr_left h.mem_iff)
  exact ⟨fun hnil => (hnil ▸ h).symm.eq_nil, fun hnil => (hnil ▸ h).eq_nil⟩

end Keys

/-! ## Who stands for the rows -/

section Keep
variable {α : Type} (replaces : Option α → α → Prop) [∀ chosen row, Decidable (replaces chosen row)]

/-- The row left when every row replaces the one chosen so far or is passed over. -/
def keep (rows : List α) : Option α :=
  rows.foldl (fun chosen row => if replaces chosen row then some row else chosen) none

theorem keep_concat (rows : List α) (row : α) :
    keep replaces (rows ++ [row]) =
      if replaces (keep replaces rows) row then some row else keep replaces rows := by
  rw [keep, foldl_append]
  rfl

variable {replaces}

/-- A loop that starts with the first row, never gives up a preferred row for another kind, and
never passes over a preferred one before it has one, ends with a preferred row if there is one. -/
theorem keep_prefers {preferred : α → Prop} (hfirst : ∀ row, replaces none row)
    (hgains : ∀ chosen row, ¬ preferred chosen → preferred row → replaces (some chosen) row)
    (hkeeps : ∀ chosen row, preferred chosen → replaces (some chosen) row → preferred row)
    {rows : List α} (hne : rows ≠ []) :
    ∃ row ∈ rows, keep replaces rows = some row ∧
      ((∃ other ∈ rows, preferred other) → preferred row) := by
  induction rows using List.reverseRecOn with
  | nil => exact absurd rfl hne
  | append_singleton rows last ih =>
    rw [keep_concat]
    by_cases hrows : rows = []
    · subst hrows
      refine ⟨last, mem_singleton_self _, if_pos (hfirst last), ?_⟩
      intro ⟨other, hother, hpreferred⟩
      rwa [← mem_singleton.mp hother]
    · obtain ⟨row, hrow, hkept, hprefers⟩ := ih hrows
      rw [hkept]
      by_cases hreplaces : replaces (some row) last
      · refine ⟨last, mem_append_right _ (mem_singleton_self _), if_pos hreplaces, ?_⟩
        intro ⟨other, hother, hpreferred⟩
        rcases mem_append.mp hother with hother | hother
        · exact hkeeps row last (hprefers ⟨other, hother, hpreferred⟩) hreplaces
        · rwa [← mem_singleton.mp hother]
      · refine ⟨row, mem_append_left _ hrow, if_neg hreplaces, ?_⟩
        intro ⟨other, hother, hpreferred⟩
        rcases mem_append.mp hother with hother | hother
        · exact hprefers ⟨other, hother, hpreferred⟩
        · rw [mem_singleton.mp hother] at hpreferred
          exact by_contra fun hnot => hreplaces (hgains row last hnot hpreferred)

end Keep

end DartPlant.SoleKey
