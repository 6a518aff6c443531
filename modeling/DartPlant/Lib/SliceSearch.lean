import Mathlib.Data.List.Basic
import Mathlib.Data.List.Range

/-! # Occurrences of one list in another

A search that goes on one place behind each hit finds every occurrence, overlapping ones too.
-/

namespace SliceSearch

universe u
variable {α : Type u}

/-- So many elements from a place on. -/
def slice (xs : List α) (start count : ℕ) : List α := (xs.drop start).take count

/-- The places from which so many elements end before `stop`. -/
def places (count start stop : ℕ) : List ℕ := List.range' start (stop + 1 - count - start)

theorem mem_places {count start stop place : ℕ} :
    place ∈ places count start stop ↔ start ≤ place ∧ place + count ≤ stop := by
  rw [places, List.mem_range'_1]
  omega

variable [DecidableEq α] (xs pattern : List α) (stop : ℕ)

/-- The pattern is at this place. -/
def occurs (place : ℕ) : Bool := slice xs place pattern.length = pattern

/-- The first occurrence from a place on that ends before `stop`. -/
def find (cursor : ℕ) : Option ℕ :=
  (places pattern.length cursor stop).find? (occurs xs pattern)

theorem find_bounds {cursor found : ℕ} (h : find xs pattern stop cursor = some found) :
    cursor ≤ found ∧ found + pattern.length ≤ stop :=
  mem_places.mp (List.mem_of_find?_eq_some h)

/-- The search: from each hit on to the place behind it. -/
def findAll (cursor : ℕ) : List ℕ :=
  match h : find xs pattern stop cursor with
  | none => []
  | some found => found :: findAll (found + 1)
termination_by stop + 1 - cursor
decreasing_by
  obtain ⟨hlow, hhigh⟩ := find_bounds xs pattern stop h
  omega

/-- Nothing is before the first occurrence. -/
theorem filter_of_find {cursor found : ℕ} (h : find xs pattern stop cursor = some found) :
    (places pattern.length cursor stop).filter (occurs xs pattern) =
      found :: (places pattern.length (found + 1) stop).filter (occurs xs pattern) := by
  obtain ⟨hlow, hhigh⟩ := find_bounds xs pattern stop h
  obtain ⟨hoccurs, -⟩ := List.find?_eq_some_iff_append.mp h
  have hbefore : ∀ place, cursor ≤ place → place < found → occurs xs pattern place = false := by
    intro place hplace hfound
    rw [Bool.eq_false_iff]
    intro hearlier
    obtain ⟨-, before, after, hsplit, hnone⟩ := List.find?_eq_some_iff_append.mp h
    have hmem : place ∈ places pattern.length cursor stop := mem_places.mpr ⟨hplace, by omega⟩
    have hsorted : (places pattern.length cursor stop).Pairwise (· < ·) := List.pairwise_lt_range'
    rw [hsplit] at hmem hsorted
    rcases List.mem_append.mp hmem with hin | hin
    · exact absurd hearlier (by simpa using hnone place hin)
    · rcases List.mem_cons.mp hin with rfl | hlater
      · exact Nat.lt_irrefl _ hfound
      · have hgreater := (List.pairwise_cons.mp (List.pairwise_append.mp hsorted).2.1).1 place hlater
        omega
  have hsplit : places pattern.length cursor stop =
      List.range' cursor (found - cursor) ++ found :: places pattern.length (found + 1) stop := by
    have hcount : stop + 1 - pattern.length - cursor =
        (found - cursor) + (1 + (stop + 1 - pattern.length - (found + 1))) := by omega
    have hstart : cursor + (found - cursor) = found := by omega
    rw [places, hcount, ← List.range'_append_1, hstart, Nat.add_comm 1, List.range'_succ]
    rfl
  rw [hsplit, List.filter_append, List.filter_eq_nil_iff.mpr, List.nil_append,
    List.filter_cons_of_pos hoccurs]
  intro place hplace
  obtain ⟨hfirst, hlast⟩ := List.mem_range'_1.mp hplace
  rw [hbefore place hfirst (by omega)]
  exact Bool.false_ne_true

/-- The search finds every occurrence. -/
theorem findAll_eq (cursor : ℕ) : findAll xs pattern stop cursor =
    (places pattern.length cursor stop).filter (occurs xs pattern) := by
  induction cursor using findAll.induct xs pattern stop with
  | case1 cursor hnone =>
    rw [findAll]
    split
    next =>
      symm
      rw [List.filter_eq_nil_iff]
      intro place hplace
      exact List.find?_eq_none.mp hnone place hplace
    next found hfound => cases hnone.symm.trans hfound
  | case2 cursor found hfound ih =>
    rw [findAll]
    split
    next hnone => cases hnone.symm.trans hfound
    next found' hfound' =>
      obtain rfl := Option.some.inj (hfound.symm.trans hfound')
      rw [ih, filter_of_find xs pattern stop hfound]

end SliceSearch
