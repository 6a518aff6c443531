import Mathlib.Data.List.Basic

/-! # Scans that count brackets

A scan looks for the end of a bracketed text by counting brackets.  A tracker says which characters
count, from what it has seen before them.  Where the scan stops is a matter of the characters that
count: at the first place where as many closing brackets as opening ones have been seen.
-/

namespace DartPlant.BracketScan

/-- What a scan remembers, and which characters count. -/
structure Tracker (σ : Type) where
  counts : σ → Bool
  next : σ → Char → σ

section Scan
variable {σ : Type} (tracker : Tracker σ) (opening closing : Char)

/-- The rest of the text after the bracket that closes `depth` open ones. -/
def skipBrackets : Nat → σ → List Char → Option (List Char)
  | _, _, [] => none
  | depth, state, character :: rest =>
    if tracker.counts state ∧ character = opening then
      skipBrackets (depth + 1) (tracker.next state character) rest
    else if tracker.counts state ∧ character = closing then
      if depth ≤ 1 then some rest else skipBrackets (depth - 1) (tracker.next state character) rest
    else skipBrackets depth (tracker.next state character) rest

/-- The characters of a text that count. -/
def counted : σ → List Char → List Char
  | _, [] => []
  | state, character :: rest =>
    if tracker.counts state then character :: counted (tracker.next state character) rest
    else counted (tracker.next state character) rest

/-- The brackets that count close `depth` open ones at the end of the text, and not before. -/
def ClosesAtEnd (depth : Nat) (state : σ) (text : List Char) : Prop :=
  (counted tracker state text).count closing = depth + (counted tracker state text).count opening ∧
    ∀ length < text.length, (counted tracker state (text.take length)).count closing <
      depth + (counted tracker state (text.take length)).count opening

instance (depth : Nat) (state : σ) (text : List Char) :
    Decidable (ClosesAtEnd tracker opening closing depth state text) :=
  inferInstanceAs (Decidable (_ ∧ _))

end Scan

section Laws
variable {σ : Type} {tracker : Tracker σ} {opening closing : Char} {depth : Nat} {state : σ}
  {text rest : List Char}

theorem skipBrackets_length
    (h : skipBrackets tracker opening closing depth state text = some rest) :
    rest.length < text.length := by
  induction text generalizing depth state with
  | nil => cases h
  | cons character text ih =>
    rw [List.length_cons]
    rw [skipBrackets] at h
    split at h
    · exact Nat.lt_succ_of_lt (ih h)
    split at h
    · split at h
      · obtain rfl := Option.some.inj h
        exact Nat.lt_succ_self _
      · exact Nat.lt_succ_of_lt (ih h)
    · exact Nat.lt_succ_of_lt (ih h)

theorem count_counted_cons (bracket character : Char) :
    (counted tracker state (character :: text)).count bracket =
      (counted tracker (tracker.next state character) text).count bracket +
        if tracker.counts state ∧ character = bracket then 1 else 0 := by
  rw [counted]
  cases hcounts : tracker.counts state with
  | true =>
    rw [if_pos rfl, List.count_cons]
    simp only [beq_iff_eq, true_and]
  | false =>
    rw [if_neg Bool.false_ne_true, if_neg (fun h => Bool.false_ne_true h.1), Nat.add_zero]

/-- What the first character leaves to the others. -/
theorem closesAtEnd_cons {character : Char} (hdistinct : opening ≠ closing) (hdepth : 0 < depth) :
    ClosesAtEnd tracker opening closing depth state (character :: text) ↔
      if tracker.counts state ∧ character = opening then
        ClosesAtEnd tracker opening closing (depth + 1) (tracker.next state character) text
      else if tracker.counts state ∧ character = closing then
        if depth ≤ 1 then text = []
        else ClosesAtEnd tracker opening closing (depth - 1) (tracker.next state character) text
      else ClosesAtEnd tracker opening closing depth (tracker.next state character) text := by
  have hstart : (counted tracker state []).count closing <
      depth + (counted tracker state []).count opening := by
    rw [counted, List.count_nil, List.count_nil]
    exact hdepth
  unfold ClosesAtEnd
  rw [List.length_cons, Nat.forall_lt_succ_left, List.take_zero, and_iff_right hstart]
  simp only [List.take_succ_cons, count_counted_cons]
  by_cases hopens : tracker.counts state ∧ character = opening
  · have hcloses : ¬(tracker.counts state ∧ character = closing) :=
      fun hcloses => hdistinct (hopens.2.symm.trans hcloses.2)
    simp only [if_pos hopens, if_neg hcloses, Nat.add_zero, Nat.add_assoc, Nat.add_comm 1]
  by_cases hcloses : tracker.counts state ∧ character = closing
  · simp only [if_neg hopens, if_pos hcloses, Nat.add_zero]
    split
    next hlast =>
      obtain rfl : depth = 1 := by omega
      constructor
      · intro ⟨_, hbefore⟩
        by_contra hne
        have hfirst := hbefore 0 (List.length_pos_of_ne_nil hne)
        rw [List.take_zero, counted, List.count_nil, List.count_nil] at hfirst
        exact Nat.lt_irrefl _ hfirst
      · rintro rfl
        exact ⟨rfl, fun length hlength => absurd hlength (Nat.not_lt_zero _)⟩
    next hinner =>
      refine and_congr ?_ (forall_congr' fun length => imp_congr_right fun hlength => ?_)
      · omega
      · omega
  · simp only [if_neg hopens, if_neg hcloses, Nat.add_zero]

/-- The scan stops at the end of a text, whatever follows it, just when the text closes there. -/
theorem skipBrackets_append_iff (hdistinct : opening ≠ closing) (hdepth : 0 < depth) :
    skipBrackets tracker opening closing depth state (text ++ rest) = some rest ↔
      ClosesAtEnd tracker opening closing depth state text := by
  induction text generalizing depth state with
  | nil =>
    constructor
    · intro h
      exact absurd (skipBrackets_length h) (Nat.lt_irrefl _)
    · intro hcloses
      have hcount := hcloses.1
      rw [counted, List.count_nil, List.count_nil] at hcount
      omega
  | cons character text ih =>
    rw [closesAtEnd_cons hdistinct hdepth, List.cons_append, skipBrackets]
    split
    · exact ih (Nat.succ_pos _)
    split
    · split
      · constructor
        · intro h
          exact List.append_cancel_right ((Option.some.inj h).trans (List.nil_append rest).symm)
        · rintro rfl
          rfl
      · exact ih (by omega)
    · exact ih hdepth

end Laws

end DartPlant.BracketScan
