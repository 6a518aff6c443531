import Mathlib.Data.List.Basic

/-! # Readers of separated lists

The members of an object and the elements of an array are read by one loop: an item, then the end or
a separator, and after a separator the next item.  The loop is over any tokens, any state that the
items update, and any two readers of the end and of the separator.
-/

namespace DartPlant.SeparatedList

/-- How a list ends and how its items are separated. -/
structure Separators (τ : Type) where
  close : List τ → Option (List τ)
  comma : List τ → Option (List τ)

/-- What a reader makes of a text: the state after it and the rest of the text, or an error. -/
abbrev Reader (τ ε σ : Type) := σ → List τ → Except ε (σ × List τ)

/-- The loop.  A list with `trailing` set may end where an item is expected. -/
def readSeparated {τ ε σ : Type} (separators : Separators τ) (trailing : Bool)
    (missing exhausted : ε) (item : Reader τ ε σ) : Nat → Reader τ ε σ
  | 0, _, _ => .error exhausted
  | fuel + 1, state, input =>
    match if trailing then separators.close input else none with
    | some rest => .ok (state, rest)
    | none =>
      match item state input with
      | .error failure => .error failure
      | .ok (state, rest) =>
        match separators.close rest with
        | some rest => .ok (state, rest)
        | none =>
          match separators.comma rest with
          | none => .error missing
          | some rest => readSeparated separators trailing missing exhausted item fuel state rest

section Loop
variable {τ ε ε' σ σ' : Type} {separators : Separators τ} {trailing : Bool} {missing exhausted : ε}
  {item : Reader τ ε σ} {fuel : Nat}

/-- Where the first reader goes, the second one goes, in states that stay related. -/
def Tracks (related : σ → σ' → Prop) (item : Reader τ ε σ) (item' : Reader τ ε' σ') : Prop :=
  ∀ state state' input after rest, related state state' → item state input = .ok (after, rest) →
    ∃ after', item' state' input = .ok (after', rest) ∧ related after after'

/-- Two readers of the same items leave the same rest. -/
theorem readSeparated_tracks {item' : Reader τ ε' σ'} {missing' exhausted' : ε'}
    {related : σ → σ' → Prop} (hitem : Tracks related item item') :
    Tracks related (readSeparated separators trailing missing exhausted item fuel)
      (readSeparated separators trailing missing' exhausted' item' fuel) := by
  intro state state' input after rest hrelated h
  induction fuel generalizing state state' input with
  | zero => cases h
  | succ fuel ih =>
    rw [readSeparated] at h ⊢
    split at h
    next closed hclosed =>
      obtain ⟨rfl, rfl⟩ := Prod.mk.inj (Except.ok.inj h)
      exact ⟨state', rfl, hrelated⟩
    split at h
    · cases h
    next middle left hread =>
    obtain ⟨middle', hread', hmiddle⟩ := hitem _ _ _ _ _ hrelated hread
    simp only [hread']
    split at h
    next closed hclosed =>
      obtain ⟨rfl, rfl⟩ := Prod.mk.inj (Except.ok.inj h)
      exact ⟨middle', rfl, hmiddle⟩
    split at h
    · cases h
    exact ih _ _ _ hmiddle h

end Loop

/-! ## Lists as they are written -/

/-- Items with separators between them. -/
def joined {τ α : Type} (comma : τ) (text : α → List τ) : List α → List τ
  | [] => []
  | [item] => text item
  | item :: next :: items => text item ++ comma :: joined comma text (next :: items)

section Written
variable {τ ε σ α : Type} {separators : Separators τ} {trailing : Bool} {missing exhausted : ε}
  {item : Reader τ ε σ} {text : α → List τ} {update : σ → α → Option σ} {comma : τ}

/-- The commas alone are all but as many as the items. -/
theorem length_le_joined (comma : τ) (text : α → List τ) (items : List α) :
    items.length ≤ (joined comma text items).length + 1 := by
  induction items with
  | nil => exact Nat.zero_le _
  | cons first items ih =>
    cases items with
    | nil => exact Nat.le_add_left _ _
    | cons next items =>
      rw [joined, List.length_append]
      simp only [List.length_cons] at ih ⊢
      omega

/-- An item that has a meaning is read off the front of any text that a separator or the end
continues. -/
def ReadsBack (separators : Separators τ) (item : Reader τ ε σ) (text : α → List τ)
    (update : σ → α → Option σ) (written : α) : Prop :=
  ∀ state after rest, update state written = some after →
    (separators.close rest).isSome ∨ (separators.comma rest).isSome →
    ∃ left, item state (text written ++ rest) = .ok (after, left) ∧
      separators.close left = separators.close rest ∧
      separators.comma left = separators.comma rest

/-- A list that is written item for item is read item for item. -/
theorem readSeparated_joined (hclose : ∀ rest, separators.close (comma :: rest) = none)
    (hcomma : ∀ rest, separators.comma (comma :: rest) = some rest) {items : List α}
    (hne : items ≠ []) (hreads : ∀ written ∈ items, ReadsBack separators item text update written)
    (hstarts : trailing = true → ∀ written ∈ items, ∀ rest,
      separators.close (text written ++ rest) = none)
    {closing rest : List τ} (hend : separators.close closing = some rest) {fuel : Nat}
    (hfuel : items.length ≤ fuel) {state after : σ}
    (hmeaning : items.foldlM update state = some after) :
    readSeparated separators trailing missing exhausted item fuel state
        (joined comma text items ++ closing) = .ok (after, rest) := by
  induction items generalizing state fuel with
  | nil => exact absurd rfl hne
  | cons written items ih =>
    obtain ⟨fuel, rfl⟩ := Nat.exists_eq_succ_of_ne_zero (Nat.ne_zero_of_lt hfuel)
    have hwritten := hreads written List.mem_cons_self
    have hopen (after : List τ) :
        (if trailing then separators.close (text written ++ after) else none) = none := by
      cases htrailing : trailing with
      | false => rfl
      | true => exact hstarts htrailing written List.mem_cons_self after
    rw [List.foldlM_cons] at hmeaning
    obtain ⟨middle, hmiddle, hmeaning⟩ := Option.bind_eq_some_iff.mp hmeaning
    cases items with
    | nil =>
      obtain ⟨left, hread, hleft, -⟩ := hwritten state middle closing hmiddle (.inl (hend ▸ rfl))
      obtain rfl : middle = after := Option.some.inj hmeaning
      rw [joined, readSeparated, hopen, hread]
      simp only [hleft, hend]
    | cons next items =>
      have hrest := ih (List.cons_ne_nil _ _)
        (fun written hmem => hreads written (List.mem_cons_of_mem _ hmem))
        (fun htrailing written hmem => hstarts htrailing written (List.mem_cons_of_mem _ hmem))
        (Nat.le_of_succ_le_succ hfuel) hmeaning
      obtain ⟨left, hread, hleft, hleft'⟩ := hwritten state middle
        (comma :: (joined comma text (next :: items) ++ closing)) hmiddle (.inr (hcomma _ ▸ rfl))
      rw [joined, List.append_assoc, List.cons_append, readSeparated, hopen, hread]
      simp only [hleft, hleft', hclose, hcomma]
      exact hrest

end Written

end DartPlant.SeparatedList
