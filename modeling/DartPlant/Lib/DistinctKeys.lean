import Mathlib.Data.List.Induction
import Mathlib.Data.List.Nodup

/-! # Distinct keys

A loop that puts the keys of rows in a set, and stops at a key that is there already or at a row it
does not allow.  A row may have no key.
-/

namespace DistinctKeys

universe u v
variable {α : Type u} {κ : Type v} [DecidableEq κ]

/-- The set with the key of one more row. -/
def allowRow (allow : α → Bool) (key : α → Option κ) (seen : List κ) (row : α) :
    Option (List κ) :=
  if allow row = false then none
  else
    match key row with
    | none => some seen
    | some found => if found ∈ seen then none else some (found :: seen)

/-- The keys of the rows. -/
def collect (allow : α → Bool) (key : α → Option κ) (rows : List α) : Option (List κ) :=
  rows.foldlM (allowRow allow key) []

section Laws
variable {allow : α → Bool} {key : α → Option κ} {rows : List α} {seen : List κ}

theorem collect_concat (rows : List α) (row : α) :
    collect allow key (rows ++ [row]) =
      (collect allow key rows).bind fun seen => allowRow allow key seen row := by
  unfold collect
  rw [List.foldlM_append]
  refine congrArg (Option.bind _) (funext fun seen => ?_)
  rw [List.foldlM_cons]
  exact Option.bind_fun_some _

/-- The loop ends when it allows every row and no key comes twice. -/
theorem collect_eq_some_iff : collect allow key rows = some seen ↔
    (∀ row ∈ rows, allow row = true) ∧ (rows.filterMap key).Nodup ∧
      seen = (rows.filterMap key).reverse := by
  induction rows using List.reverseRecOn generalizing seen with
  | nil =>
    constructor
    · intro h
      obtain rfl := Option.some.inj h
      exact ⟨nofun, List.nodup_nil, rfl⟩
    · rintro ⟨-, -, rfl⟩
      rfl
  | append_singleton rows row ih =>
    rw [collect_concat, Option.bind_eq_some_iff, List.filterMap_append]
    have hrows : (∀ other ∈ rows ++ [row], allow other = true) ↔
        (∀ other ∈ rows, allow other = true) ∧ allow row = true := by
      rw [List.forall_mem_append, List.forall_mem_singleton]
    rw [hrows]
    cases hkey : key row with
    | none =>
      have hlast : [row].filterMap key = [] := List.filterMap_cons_none hkey
      rw [hlast, List.append_nil]
      constructor
      · rintro ⟨before, hbefore, hrow⟩
        obtain ⟨hall, hdistinct, rfl⟩ := ih.mp hbefore
        unfold allowRow at hrow
        rw [hkey] at hrow
        split at hrow
        · cases hrow
        next hallow =>
          exact ⟨⟨hall, Bool.not_eq_false _ ▸ hallow⟩, hdistinct, (Option.some.inj hrow).symm⟩
      · rintro ⟨⟨hall, hallow⟩, hdistinct, rfl⟩
        refine ⟨_, ih.mpr ⟨hall, hdistinct, rfl⟩, ?_⟩
        unfold allowRow
        rw [hallow, hkey]
        rfl
    | some found =>
      have hlast : [row].filterMap key = [found] := List.filterMap_cons_some hkey
      rw [hlast, List.reverse_concat, List.nodup_append_comm, List.singleton_append,
        List.nodup_cons]
      constructor
      · rintro ⟨before, hbefore, hrow⟩
        obtain ⟨hall, hdistinct, rfl⟩ := ih.mp hbefore
        unfold allowRow at hrow
        rw [hkey] at hrow
        split at hrow
        · cases hrow
        next hallow =>
          dsimp only at hrow
          split at hrow
          · cases hrow
          next hnew =>
            rw [List.mem_reverse] at hnew
            exact ⟨⟨hall, Bool.not_eq_false _ ▸ hallow⟩, ⟨hnew, hdistinct⟩,
              (Option.some.inj hrow).symm⟩
      · rintro ⟨⟨hall, hallow⟩, ⟨hnew, hdistinct⟩, rfl⟩
        refine ⟨_, ih.mpr ⟨hall, hdistinct, rfl⟩, ?_⟩
        unfold allowRow
        rw [hallow, hkey, if_neg (by decide)]
        exact if_neg fun h => hnew (List.mem_reverse.mp h)

/-- The set holds the keys of the rows. -/
theorem mem_collect (h : collect allow key rows = some seen) {found : κ} :
    found ∈ seen ↔ ∃ row ∈ rows, key row = some found := by
  obtain ⟨-, -, rfl⟩ := collect_eq_some_iff.mp h
  rw [List.mem_reverse, List.mem_filterMap]

end Laws

end DistinctKeys
