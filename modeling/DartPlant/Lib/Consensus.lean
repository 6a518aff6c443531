import Mathlib.Data.List.Induction

/-! # Reports that must agree

Several reporters say something, or nothing, about one question.  A loop that keeps the first thing
said and compares everything later with it notices a dispute exactly when two reporters say
different things, whatever the order in which they are heard.
-/

namespace DartPlant.Consensus
open List

section Reports
variable {α : Type}

/-- The first thing said. -/
def firstReport (reports : List (Option α)) : Option α :=
  reports.foldl (fun first report => first <|> report) none

/-- Two reporters say different things. -/
def Disputed (reports : List (Option α)) : Prop :=
  ∃ left right, some left ∈ reports ∧ some right ∈ reports ∧ left ≠ right

/-- What the loop compares at each report. -/
def differs [DecidableEq α] : Option α → Option α → Bool
  | some first, some report => decide (first ≠ report)
  | _, _ => false

@[simp] theorem firstReport_nil : firstReport ([] : List (Option α)) = none := rfl

@[simp] theorem firstReport_concat (reports : List (Option α)) (report : Option α) :
    firstReport (reports ++ [report]) = (firstReport reports <|> report) := by
  simp only [firstReport, foldl_append, foldl_cons, foldl_nil]

theorem firstReport_mem {reports : List (Option α)} {value : α}
    (h : firstReport reports = some value) : some value ∈ reports := by
  induction reports using List.reverseRecOn with
  | nil => cases h
  | append_singleton reports report ih =>
    rw [firstReport_concat] at h
    cases hfirst : firstReport reports with
    | none =>
      rw [hfirst] at h
      obtain rfl : report = some value := h
      exact mem_append_right _ (mem_singleton_self _)
    | some first =>
      rw [hfirst] at h
      obtain rfl : first = value := Option.some.inj h
      exact mem_append_left _ (ih hfirst)

theorem firstReport_eq_none_iff {reports : List (Option α)} :
    firstReport reports = none ↔ ∀ value, some value ∉ reports := by
  induction reports using List.reverseRecOn with
  | nil => exact ⟨fun _ _ => not_mem_nil, fun _ => rfl⟩
  | append_singleton reports report ih =>
    rw [firstReport_concat]
    constructor
    · intro h value hmem
      have hsilent : firstReport reports = none ∧ report = none := by
        cases hfirst : firstReport reports with
        | none => exact ⟨rfl, by rw [hfirst] at h; exact h⟩
        | some first => rw [hfirst] at h; cases h
      rcases mem_append.mp hmem with hmem | hmem
      · exact ih.mp hsilent.1 value hmem
      · rw [← mem_singleton.mp hmem] at hsilent
        cases hsilent.2
    · intro h
      have hfirst : firstReport reports = none :=
        ih.mpr fun value hmem => h value (mem_append_left _ hmem)
      rw [hfirst]
      cases report with
      | none => rfl
      | some value => exact absurd (mem_append_right _ (mem_singleton_self _)) (h value)

/-- Without a dispute, whatever is said is the first thing said. -/
theorem eq_of_not_disputed {reports : List (Option α)} (h : ¬ Disputed reports) {left right : α}
    (hleft : some left ∈ reports) (hright : some right ∈ reports) : left = right :=
  by_contra fun hne => h ⟨left, right, hleft, hright, hne⟩

/-- Without a dispute, the first thing said is whatever is said. -/
theorem firstReport_of_mem {reports : List (Option α)} {value : α} (h : ¬ Disputed reports)
    (hmem : some value ∈ reports) : firstReport reports = some value := by
  cases hfirst : firstReport reports with
  | none => exact absurd hmem (firstReport_eq_none_iff.mp hfirst value)
  | some first => rw [eq_of_not_disputed h (firstReport_mem hfirst) hmem]

/-- Without a dispute, the order in which reporters are heard does not matter. -/
theorem firstReport_congr {reports more : List (Option α)} (h : ¬ Disputed reports)
    (hsame : ∀ value, some value ∈ reports ↔ some value ∈ more) :
    firstReport reports = firstReport more := by
  cases hfirst : firstReport more with
  | none =>
    rw [firstReport_eq_none_iff]
    exact fun value hmem => firstReport_eq_none_iff.mp hfirst value ((hsame value).mp hmem)
  | some value => exact firstReport_of_mem h ((hsame value).mpr (firstReport_mem hfirst))

theorem firstReport_append (left right : List (Option α)) :
    firstReport (left ++ right) = (firstReport left <|> firstReport right) := by
  induction right using List.reverseRecOn with
  | nil =>
    rw [append_nil]
    cases firstReport left <;> rfl
  | append_singleton right report ih =>
    rw [← append_assoc, firstReport_concat, firstReport_concat, ih]
    cases firstReport left <;> rfl

/-- A dispute outlives every further report. -/
theorem Disputed.mono {reports more : List (Option α)} (h : Disputed reports)
    (hsub : ∀ value, some value ∈ reports → some value ∈ more) : Disputed more := by
  obtain ⟨left, right, hleft, hright, hne⟩ := h
  exact ⟨left, right, hsub left hleft, hsub right hright, hne⟩

theorem not_disputed_nil : ¬ Disputed ([] : List (Option α)) := by
  rintro ⟨_, _, h, -⟩
  cases h

variable [DecidableEq α]

theorem differs_iff {first report : Option α} :
    differs first report = true ↔ ∃ left right, first = some left ∧ report = some right ∧
      left ≠ right := by
  constructor
  · intro h
    cases first with
    | none => cases h
    | some left =>
      cases report with
      | none => cases h
      | some right => exact ⟨left, right, rfl, rfl, of_decide_eq_true h⟩
  · rintro ⟨left, right, rfl, rfl, hne⟩
    exact decide_eq_true hne

/-- Two sequences of reports dispute when one of them does, or the first things they say differ. -/
theorem disputed_append {left right : List (Option α)} : Disputed (left ++ right) ↔
    Disputed left ∨ Disputed right ∨ differs (firstReport left) (firstReport right) = true := by
  constructor
  · rintro ⟨first, second, hfirst, hsecond, hne⟩
    by_cases hleft : Disputed left
    · exact Or.inl hleft
    by_cases hright : Disputed right
    · exact Or.inr (Or.inl hright)
    -- Neither disputes itself, so that each says its first thing only.
    refine Or.inr (Or.inr (differs_iff.mpr ?_))
    rcases mem_append.mp hfirst with hfirst | hfirst <;>
      rcases mem_append.mp hsecond with hsecond | hsecond
    · exact absurd ⟨first, second, hfirst, hsecond, hne⟩ hleft
    · exact ⟨first, second, firstReport_of_mem hleft hfirst, firstReport_of_mem hright hsecond,
        hne⟩
    · exact ⟨second, first, firstReport_of_mem hleft hsecond, firstReport_of_mem hright hfirst,
        hne.symm⟩
    · exact absurd ⟨first, second, hfirst, hsecond, hne⟩ hright
  · rintro (h | h | h)
    · exact h.mono fun _ hmem => mem_append_left _ hmem
    · exact h.mono fun _ hmem => mem_append_right _ hmem
    · obtain ⟨first, second, hfirst, hsecond, hne⟩ := differs_iff.mp h
      exact ⟨first, second, mem_append_left _ (firstReport_mem hfirst),
        mem_append_right _ (firstReport_mem hsecond), hne⟩

omit [DecidableEq α] in
theorem not_disputed_singleton {report : Option α} : ¬ Disputed [report] := by
  rintro ⟨left, right, hleft, hright, hne⟩
  have heq : some left = some right :=
    (mem_singleton.mp hleft).trans (mem_singleton.mp hright).symm
  exact hne (Option.some.inj heq)

/-- The next report starts a dispute exactly when it differs from the first thing said. -/
theorem disputed_concat {reports : List (Option α)} {report : Option α} :
    Disputed (reports ++ [report]) ↔
      Disputed reports ∨ differs (firstReport reports) report = true := by
  have hfirst : firstReport [report] = report := by cases report <;> rfl
  rw [disputed_append, hfirst, or_iff_right not_disputed_singleton]

end Reports

section Reporters
variable {ρ α : Type} {report : ρ → Option α} {left right : ρ}

/-- The two reporters say different things. -/
def DisagreeOn (report : ρ → Option α) (left right : ρ) : Prop :=
  ∃ first second, report left = some first ∧ report right = some second ∧ first ≠ second

theorem disputed_map_iff {reporters : List ρ} :
    Disputed (reporters.map report) ↔
      ∃ left ∈ reporters, ∃ right ∈ reporters, DisagreeOn report left right := by
  constructor
  · rintro ⟨first, second, hfirst, hsecond, hne⟩
    obtain ⟨left, hleft, hleft'⟩ := mem_map.mp hfirst
    obtain ⟨right, hright, hright'⟩ := mem_map.mp hsecond
    exact ⟨left, hleft, right, hright, first, second, hleft', hright', hne⟩
  · rintro ⟨left, hleft, right, hright, first, second, hfirst, hsecond, hne⟩
    exact ⟨first, second, mem_map.mpr ⟨left, hleft, hfirst⟩,
      mem_map.mpr ⟨right, hright, hsecond⟩, hne⟩

end Reporters

end DartPlant.Consensus
