import Mathlib.Data.List.Nodup

/-! # A ledger of shared entries

`entries` have a key and a count, and each holder holds a list of keys.  The ledger is `Balanced`
when the keys are distinct, every held key has an entry, and an entry's count is the number of
holders that hold its key, which is never zero.

`Balanced.acquire` adds a holder that shares some entries and brings others, `Balanced.release`
empties a holder and drops the entries that nobody holds any more.  Both take the update of one
entry as a parameter, so that an entry may carry whatever else it likes.
-/

namespace SharedLedger
open List

universe u v
variable {ε : Type u} {κ : Type v} [DecidableEq κ]

/-- Update the first entry with the key. -/
def alter (key : ε → κ) (update : ε → ε) (k : κ) : List ε → List ε
  | [] => []
  | e :: es => if key e = k then update e :: es else e :: alter key update k es

section Alter
variable {key : ε → κ} {update : ε → ε}

/-- With distinct keys the first entry is the only one. -/
theorem alter_eq_map (k : κ) {es : List ε} (h : (es.map key).Nodup) :
    alter key update k es = es.map fun e => if key e = k then update e else e := by
  induction es with
  | nil => rfl
  | cons e es ih =>
    obtain ⟨hfresh, hrest⟩ := nodup_cons.mp h
    by_cases hk : key e = k
    · have htail : ∀ other ∈ es, (if key other = k then update other else other) = other := by
        intro other hother
        rw [if_neg]
        rintro rfl
        exact hfresh (mem_map.mpr ⟨other, hother, hk.symm⟩)
      rw [alter, if_pos hk, map_cons, if_pos hk, map_congr_left htail, map_id']
    · rw [alter, if_neg hk, map_cons, if_neg hk, ih hrest]

/-- A lookup sees the update, at its own key only. -/
theorem find_alter (hkey : ∀ e, key (update e) = key e) (k other : κ) (es : List ε) :
    (alter key update k es).find? (fun e => key e == other) =
      if k = other then (es.find? fun e => key e == other).map update
      else es.find? fun e => key e == other := by
  induction es with
  | nil => simp only [alter, List.find?_nil, Option.map_none, ite_self]
  | cons e es ih =>
    by_cases hk : key e = k
    · rw [alter, if_pos hk, List.find?_cons, List.find?_cons, hkey, hk]
      by_cases hother : k = other
      · rw [if_pos hother, beq_iff_eq.mpr hother, Option.map_some]
      · rw [if_neg hother, beq_eq_false_iff_ne.mpr hother]
    · rw [alter, if_neg hk, List.find?_cons, List.find?_cons]
      by_cases hfound : key e = other
      · have hne : k ≠ other := fun heq => hk (hfound.trans heq.symm)
        rw [beq_iff_eq.mpr hfound, if_neg hne]
      · rw [beq_eq_false_iff_ne.mpr hfound]
        exact ih

/-- Updating at distinct keys in turn updates the entries with those keys. -/
theorem foldl_alter_eq_map (hkey : ∀ e, key (update e) = key e) {ks : List κ} (hks : ks.Nodup)
    {es : List ε} (h : (es.map key).Nodup) :
    ks.foldl (fun es k => alter key update k es) es =
      es.map fun e => if key e ∈ ks then update e else e := by
  induction ks generalizing es with
  | nil => simp only [foldl_nil, not_mem_nil, if_false, map_id']
  | cons k ks ih =>
    obtain ⟨hfresh, hrest⟩ := nodup_cons.mp hks
    have hkeys : ((alter key update k es).map key) = es.map key := by
      rw [alter_eq_map k h, map_map]
      refine map_congr_left fun e _ => ?_
      simp only [Function.comp_apply]
      split
      · exact hkey e
      · rfl
    rw [foldl_cons, ih hrest (hkeys ▸ h), alter_eq_map k h, map_map]
    refine map_congr_left fun e _ => ?_
    simp only [Function.comp_apply, mem_cons]
    by_cases hk : key e = k
    · have hout : key (update e) ∉ ks := by
        rw [hkey e, hk]
        exact hfresh
      rw [if_pos hk, if_neg hout, if_pos (Or.inl hk)]
    · rw [if_neg hk]
      by_cases hin : key e ∈ ks
      · rw [if_pos hin, if_pos (Or.inr hin)]
      · rw [if_neg hin, if_neg (not_or.mpr ⟨hk, hin⟩)]

end Alter

/-- The counts are right. -/
structure Balanced (key : ε → κ) (count : ε → ℕ) (entries : List ε) (holders : List (List κ)) :
    Prop where
  keys : (entries.map key).Nodup
  nodup : ∀ held ∈ holders, held.Nodup
  recorded : ∀ held ∈ holders, ∀ k ∈ held, ∃ e ∈ entries, key e = k
  positive : ∀ e ∈ entries, 0 < count e
  counts : ∀ e ∈ entries, count e = holders.countP fun held => key e ∈ held

section Laws
variable {key : ε → κ} {count : ε → ℕ} {entries : List ε} {holders : List (List κ)}

theorem balanced_empty : Balanced key count [] [] where
  keys := nodup_nil
  nodup := fun _ h => absurd h not_mem_nil
  recorded := fun _ h => absurd h not_mem_nil
  positive := fun _ h => absurd h not_mem_nil
  counts := fun _ h => absurd h not_mem_nil

/-- Two entries with one key are the same entry. -/
theorem Balanced.eq_of_key (h : Balanced key count entries holders) {e e' : ε} (he : e ∈ entries)
    (he' : e' ∈ entries) (hk : key e = key e') : e = e' :=
  inj_on_of_nodup_map h.keys he he' hk

/-- When nobody holds anything, nothing is left. -/
theorem Balanced.entries_eq_nil (h : Balanced key count entries holders)
    (hidle : ∀ held ∈ holders, held = []) : entries = [] := by
  refine eq_nil_iff_forall_not_mem.mpr fun e he => ?_
  have hpos := h.positive e he
  rw [h.counts e he, countP_pos_iff] at hpos
  obtain ⟨held, hheld, hk⟩ := hpos
  rw [hidle held hheld] at hk
  simp only [not_mem_nil, decide_false, Bool.false_eq_true] at hk

/-- A new holder shares the entries of some keys and brings fresh entries of its own. -/
theorem Balanced.acquire (h : Balanced key count entries holders) {shared held : List κ}
    {fresh : List ε} {gain : ε → ε} (hkey : ∀ e, key (gain e) = key e)
    (hgain : ∀ e, count (gain e) = count e + 1)
    (hshared : ∀ k ∈ shared, ∃ e ∈ entries, key e = k)
    (hfreshKeys : (fresh.map key).Nodup) (hfreshCount : ∀ e ∈ fresh, count e = 1)
    (hfresh : ∀ e ∈ fresh, ∀ e' ∈ entries, key e' ≠ key e)
    (hnodup : held.Nodup) (hheld : ∀ k, k ∈ held ↔ k ∈ shared ∨ k ∈ fresh.map key) :
    Balanced key count
      ((entries.map fun e => if key e ∈ shared then gain e else e) ++ fresh)
      (holders ++ [held]) := by
  have hkeyIf : ∀ e, key (if key e ∈ shared then gain e else e) = key e := by
    intro e
    split
    · exact hkey e
    · rfl
  have hkeys : (entries.map fun e => if key e ∈ shared then gain e else e).map key =
      entries.map key := by
    rw [map_map]
    exact map_congr_left fun e _ => hkeyIf e
  have hfreshOut : ∀ e ∈ fresh, ∀ other ∈ holders, key e ∉ other := by
    intro e he other hother hk
    obtain ⟨e', he', heq⟩ := h.recorded other hother _ hk
    exact hfresh e he e' he' heq
  refine ⟨?_, ?_, ?_, ?_, ?_⟩
  · rw [map_append, hkeys, nodup_append]
    refine ⟨h.keys, hfreshKeys, ?_⟩
    intro k hk k' hk' heq
    obtain ⟨e', he', rfl⟩ := mem_map.mp hk
    obtain ⟨e, he, rfl⟩ := mem_map.mp hk'
    exact hfresh e he e' he' heq
  · intro other hother
    rcases mem_append.mp hother with hother | hother
    · exact h.nodup other hother
    · rw [mem_singleton.mp hother]
      exact hnodup
  · intro other hother k hk
    have hold : (∃ e ∈ entries, key e = k) → ∃ e ∈ (entries.map fun e =>
        if key e ∈ shared then gain e else e) ++ fresh, key e = k := by
      rintro ⟨e, he, rfl⟩
      exact ⟨_, mem_append_left _ (mem_map.mpr ⟨e, he, rfl⟩), hkeyIf e⟩
    rcases mem_append.mp hother with hother | hother
    · exact hold (h.recorded other hother k hk)
    · rw [mem_singleton.mp hother] at hk
      rcases (hheld k).mp hk with hk | hk
      · exact hold (hshared k hk)
      · obtain ⟨e, he, rfl⟩ := mem_map.mp hk
        exact ⟨e, mem_append_right _ he, rfl⟩
  · intro e he
    rcases mem_append.mp he with he | he
    · obtain ⟨e', he', rfl⟩ := mem_map.mp he
      split
      · rw [hgain]
        exact Nat.succ_pos _
      · exact h.positive e' he'
    · rw [hfreshCount e he]
      exact Nat.one_pos
  · intro e he
    rw [countP_append, countP_singleton]
    rcases mem_append.mp he with he | he
    · obtain ⟨e', he', rfl⟩ := mem_map.mp he
      have hout : key e' ∉ fresh.map key := by
        intro hin
        obtain ⟨e, hfre, heq⟩ := mem_map.mp hin
        exact hfresh e hfre e' he' heq.symm
      simp only [hkeyIf, hheld, hout, or_false, decide_eq_true_eq]
      split
      · rw [hgain, h.counts e' he']
      · rw [h.counts e' he', Nat.add_zero]
    · have hin : key e ∈ held := (hheld _).mpr (Or.inr (mem_map.mpr ⟨e, he, rfl⟩))
      have hzero : holders.countP (fun other => decide (key e ∈ other)) = 0 := by
        refine countP_eq_zero.mpr fun other hother hk => ?_
        exact hfreshOut e he other hother (of_decide_eq_true hk)
      rw [hfreshCount e he, hzero, decide_eq_true hin, if_pos rfl]

/-- A holder gives everything back, and the entries nobody holds any more go. -/
theorem Balanced.release (h : Balanced key count entries holders) {i : ℕ} {held : List κ}
    (hi : holders[i]? = some held) {drop : ε → ε} (hkey : ∀ e, key (drop e) = key e)
    (hdrop : ∀ e, count (drop e) = count e - 1) :
    Balanced key count
      ((entries.map fun e => if key e ∈ held then drop e else e).filter fun e => count e ≠ 0)
      (holders.set i []) := by
  obtain ⟨hlt, hget⟩ := List.getElem?_eq_some_iff.mp hi
  have hkeyIf : ∀ e, key (if key e ∈ held then drop e else e) = key e := by
    intro e
    split
    · exact hkey e
    · rfl
  have hkeys : (entries.map fun e => if key e ∈ held then drop e else e).map key =
      entries.map key := by
    rw [map_map]
    exact map_congr_left fun e _ => hkeyIf e
  have hcount : ∀ e ∈ entries, count (if key e ∈ held then drop e else e) =
      (holders.set i []).countP fun other => key e ∈ other := by
    intro e he
    rw [countP_set hlt, hget]
    simp only [not_mem_nil, decide_false, Bool.false_eq_true, if_false, Nat.add_zero,
      decide_eq_true_eq]
    split
    · rw [hdrop, h.counts e he]
    · rw [h.counts e he, Nat.sub_zero]
  have hset : ∀ other ∈ holders.set i [], other ∈ holders ∨ other = [] := fun other hother =>
    mem_or_eq_of_mem_set hother
  refine ⟨?_, ?_, ?_, ?_, ?_⟩
  · refine List.Nodup.sublist ((filter_sublist).map key) ?_
    rw [hkeys]
    exact h.keys
  · intro other hother
    rcases hset other hother with hmem | rfl
    · exact h.nodup other hmem
    · exact nodup_nil
  · intro other hother k hk
    rcases hset other hother with hmem | rfl
    · obtain ⟨e, he, rfl⟩ := h.recorded other hmem k hk
      refine ⟨_, mem_filter.mpr ⟨mem_map.mpr ⟨e, he, rfl⟩, ?_⟩, hkeyIf e⟩
      rw [hcount e he, decide_eq_true_eq]
      have hpos : 0 < (holders.set i []).countP fun other => key e ∈ other :=
        countP_pos_iff.mpr ⟨other, hother, decide_eq_true hk⟩
      omega
    · exact absurd hk not_mem_nil
  · intro e he
    exact Nat.pos_of_ne_zero (of_decide_eq_true (mem_filter.mp he).2)
  · intro e he
    obtain ⟨e', he', rfl⟩ := mem_map.mp (mem_filter.mp he).1
    rw [hkeyIf]
    exact hcount e' he'

end Laws

end SharedLedger
