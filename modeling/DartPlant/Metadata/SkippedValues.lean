import DartPlant.Lib.BracketScan
import DartPlant.Lib.JsonScan
import DartPlant.Metadata.MetadataParser

/-! # JSON values that the parser skips

A string is read by its escapes, and a scalar runs to the next comma or closing brace.  An array is
scanned for square brackets wherever they are, also in strings; an object is scanned for braces, and
a quotation mark after a backslash is no end of a string, whatever stands before the backslash.
-/

namespace DartPlant.Metadata
open SeparatedList JsonText BracketScan List

/-! ## The two scans -/

/-- The scan over an array sees every bracket. -/
def arrayTracker : Tracker Unit := ⟨fun _ => true, fun _ _ => ()⟩

/-- The scan over an object sees the braces outside of what it takes for strings; it remembers
whether it is in one, and the character before. -/
def objectTracker : Tracker (Bool × Char) where
  counts state := !state.1
  next state character :=
    (if character = '"' ∧ state.2 ≠ '\\' then !state.1 else state.1, character)

theorem skipArray_eq (depth : Nat) (input : List Char) :
    skipArray depth input = skipBrackets arrayTracker '[' ']' depth () input := by
  induction input generalizing depth with
  | nil => rfl
  | cons character rest ih =>
    rw [skipArray, skipBrackets]
    simp only [ih, arrayTracker, true_and]

theorem skipObject_eq (depth : Nat) (quoted : Bool) (previous : Char) (input : List Char) :
    skipObject depth quoted previous input =
      skipBrackets objectTracker '\x7b' '\x7d' depth (quoted, previous) input := by
  induction input generalizing depth quoted previous with
  | nil => rfl
  | cons character rest ih =>
    rw [skipObject, skipBrackets]
    by_cases hquote : character = '"' ∧ previous ≠ '\\'
    · have hnext : objectTracker.next (quoted, previous) character = (!quoted, character) :=
        congrArg (·, character) (if_pos hquote)
      rw [if_pos hquote, hnext, ih]
      obtain ⟨rfl, -⟩ := hquote
      rw [if_neg fun h => absurd h.2 (by decide), if_neg fun h => absurd h.2 (by decide)]
    · have hnext : objectTracker.next (quoted, previous) character = (quoted, character) :=
        congrArg (·, character) (if_neg hquote)
      have hcounts : (objectTracker.counts (quoted, previous) = true) = (quoted = false) := by
        simp only [objectTracker, Bool.not_eq_true']
      rw [if_neg hquote, hnext]
      simp only [hcounts, ih]

/-! ## Exact skips -/

/-- The scan over the value ends with the value: of the brackets that it sees, strings or not, the
last one is the first to close the first one. -/
def SkippedExactly : Value → Prop
  | .array blanks elements =>
    ClosesAtEnd arrayTracker '[' ']' 1 () (elementsText blanks elements ++ [']'])
  | .object blanks members =>
    ClosesAtEnd objectTracker '\x7b' '\x7d' 1 (false, '\x7b')
      (membersText blanks members ++ ['\x7d'])
  | _ => True

instance (value : Value) : Decidable (SkippedExactly value) := by
  unfold SkippedExactly
  split <;> infer_instance

section Blanks
variable {input rest : List Char}

theorem isSpace_of_isBlank {character : Char} (h : IsBlank character) :
    isSpace character = true := by
  rcases h with rfl | rfl | rfl | rfl <;> rfl

/-- Blanks in front of a text do not matter. -/
theorem skipWhitespace_blanks (blanks : Blanks) (input : List Char) :
    skipWhitespace (blanks.val ++ input) = skipWhitespace input := by
  obtain ⟨text, hblank⟩ := blanks
  induction text with
  | nil => rfl
  | cons character text ih =>
    have hspace := isSpace_of_isBlank (hblank character mem_cons_self)
    have hrest := ih fun other hmem => hblank other (mem_cons_of_mem _ hmem)
    rw [← hrest]
    exact dropWhile_cons_of_pos hspace

theorem skipWhitespace_cons {character : Char} (h : isSpace character = false) (rest : List Char) :
    skipWhitespace (character :: rest) = character :: rest :=
  dropWhile_cons_of_neg (by rw [h]; exact Bool.false_ne_true)

theorem consume_blanks (expected : Char) (blanks : Blanks) (input : List Char) :
    consume expected (blanks.val ++ input) = consume expected input := by
  unfold consume
  rw [skipWhitespace_blanks]

theorem consume_self {expected : Char} (h : isSpace expected = false) (rest : List Char) :
    consume expected (expected :: rest) = some rest := by
  unfold consume
  rw [skipWhitespace_cons h]
  exact if_pos rfl

theorem consume_other {expected character : Char} (h : isSpace character = false)
    (hother : character ≠ expected) (rest : List Char) :
    consume expected (character :: rest) = none := by
  unfold consume
  rw [skipWhitespace_cons h]
  exact if_neg hother

end Blanks

/-! ## Strings -/

theorem unescape_letter (code : Escape) : unescape code.letter = some code.value := by
  cases code <;> rfl

theorem parseStringBody_text (text : Text) (rest : List Char) :
    parseStringBody (text.body ++ '"' :: rest) = .ok (text.map Letter.value, rest) := by
  induction text with
  | nil => exact parseStringBody_quote rest
  | cons letter text ih =>
    cases letter with
    | plain character h =>
      have hbody : Text.body (.plain character h :: text) = character :: Text.body text := rfl
      rw [hbody, cons_append, parseStringBody_plain _ h.1 h.2.1, ih]
      rfl
    | escape code =>
      have hbody : Text.body (.escape code :: text) = '\\' :: code.letter :: Text.body text := rfl
      rw [hbody, cons_append, cons_append,
        parseStringBody_escape _ (unescape_letter code), ih]
      rfl

/-- A string is read as what it says. -/
theorem parseString_text (blanks : Blanks) (text : Text) (rest : List Char) :
    parseString (blanks.val ++ (text.quoted ++ rest)) = .ok (text.string, rest) := by
  unfold parseString Text.quoted
  rw [consume_blanks, cons_append, consume_self rfl, append_assoc, singleton_append]
  dsimp only
  rw [parseStringBody_text]
  rfl

/-! ## Skipped values -/

/-- The end of a member: a comma or the closing brace, after blanks. -/
def EndsMember (rest : List Char) : Prop :=
  ∃ character tail, skipWhitespace rest = character :: tail ∧ (character = ',' ∨ character = '\x7d')

section Values
variable {rest : List Char}

/-- Where a scalar ends, the rest of the member starts. -/
theorem dropWhile_endsMember (h : EndsMember rest) :
    rest.dropWhile (fun character => character ≠ ',' ∧ character ≠ '\x7d') =
      skipWhitespace rest := by
  obtain ⟨ending, tail, hending, hcharacter⟩ := h
  induction rest with
  | nil => rfl
  | cons character rest ih =>
    by_cases hspace : isSpace character = true
    · have hskip : skipWhitespace (character :: rest) = skipWhitespace rest :=
        dropWhile_cons_of_pos hspace
      have hplain : character ≠ ',' ∧ character ≠ '\x7d' := by
        constructor <;> (rintro rfl; revert hspace; decide)
      rw [hskip] at hending ⊢
      rw [dropWhile_cons, if_pos (decide_eq_true hplain)]
      exact ih hending
    · rw [Bool.not_eq_true] at hspace
      rw [skipWhitespace_cons hspace] at hending ⊢
      obtain ⟨rfl, rfl⟩ := List.cons.inj hending
      refine dropWhile_cons_of_neg ?_
      rw [decide_eq_true_iff]
      intro ⟨hcomma, hbrace⟩
      exact hcharacter.elim hcomma hbrace

/-- A scalar is skipped with the blanks after it. -/
theorem skipValue_scalar {text : List Char} (hne : text ≠ [])
    (hscalar : ∀ character ∈ text, Inert character ∧ character ≠ ',' ∧ isSpace character = false)
    (blanks : Blanks) (hrest : EndsMember rest) :
    skipValue (blanks.val ++ (text ++ rest)) = .ok (skipWhitespace rest) := by
  have hdrop : (text ++ rest).dropWhile (fun character => character ≠ ',' ∧ character ≠ '\x7d') =
      rest.dropWhile (fun character => character ≠ ',' ∧ character ≠ '\x7d') := by
    refine dropWhile_append_of_pos fun character hmem => decide_eq_true ?_
    obtain ⟨hinert, hcomma, -⟩ := hscalar character hmem
    exact ⟨hcomma, hinert.2.2.2.2.2⟩
  obtain ⟨character, text, rfl⟩ := exists_cons_of_ne_nil hne
  obtain ⟨hinert, -, hspace⟩ := hscalar character mem_cons_self
  obtain ⟨hquote, -, hbracket, -, hbrace, -⟩ := hinert
  unfold skipValue
  rw [skipWhitespace_blanks, cons_append, skipWhitespace_cons hspace]
  dsimp only
  rw [if_neg hquote, if_neg hbrace, if_neg hbracket, ← cons_append, hdrop,
    dropWhile_endsMember hrest]

theorem isSpace_of_isDigit {character : Char} (h : character.isDigit) :
    isSpace character = false := by
  rw [Char.isDigit, Bool.and_eq_true, decide_eq_true_eq] at h
  have hlow : 48 ≤ character.toNat := h.1
  rw [isSpace, Bool.or_eq_false_iff, Bool.and_eq_false_iff]
  refine ⟨?_, .inr (decide_eq_false (by omega))⟩
  rw [beq_eq_false_iff_ne]
  rintro rfl
  exact absurd hlow (by decide)

theorem scalar_number (number : Number) : ∀ character ∈ number.text,
    Inert character ∧ character ≠ ',' ∧ isSpace character = false := by
  have hothers : ∀ character ∈ ['-', '+', '.', 'e', 'E'],
      character ≠ ',' ∧ isSpace character = false :=
    forall_mem_of_all (by decide)
  intro character hmem
  refine ⟨inert_number number character hmem, ?_⟩
  rcases mem_number hmem with hdigit | hother
  · refine ⟨?_, isSpace_of_isDigit hdigit⟩
    rintro rfl
    exact absurd hdigit (by decide)
  · exact hothers character hother

theorem number_ne_nil (number : Number) : number.text ≠ [] := by
  obtain ⟨digit, digits, hdigits⟩ := exists_cons_of_ne_nil number.integer.val.property.1
  refine ne_nil_of_mem (a := digit) ?_
  rw [Number.text, hdigits]
  simp only [mem_append, mem_cons, true_or, or_true]

/-- What remains after a container is the rest of the text just when it is skipped exactly. -/
theorem skipValue_array_iff (blanks inner : Blanks) (elements : List Element) :
    skipValue (blanks.val ++ ((Value.array inner elements).text ++ rest)) = .ok rest ↔
      SkippedExactly (.array inner elements) := by
  unfold skipValue
  rw [skipWhitespace_blanks, Value.text, cons_append, skipWhitespace_cons rfl]
  dsimp only
  rw [if_neg (by decide), if_neg (by decide), if_pos rfl, skipArray_eq]
  have hexact : skipBrackets arrayTracker '[' ']' 1 ()
        (elementsText inner elements ++ [']'] ++ rest) = some rest ↔
      SkippedExactly (.array inner elements) := skipBrackets_append_iff (by decide) Nat.one_pos
  rw [← hexact]
  split
  next hscan => exact iff_of_false nofun (by rw [hscan]; nofun)
  next left hscan => rw [hscan, Except.ok.injEq, Option.some.injEq]

theorem skipValue_object_iff (blanks inner : Blanks) (members : List Member) :
    skipValue (blanks.val ++ ((Value.object inner members).text ++ rest)) = .ok rest ↔
      SkippedExactly (.object inner members) := by
  unfold skipValue
  rw [skipWhitespace_blanks, Value.text, cons_append, skipWhitespace_cons rfl]
  dsimp only
  rw [if_neg (by decide), if_pos rfl, skipObject_eq]
  have hexact : skipBrackets objectTracker '\x7b' '\x7d' 1 (false, '\x7b')
        (membersText inner members ++ ['\x7d'] ++ rest) = some rest ↔
      SkippedExactly (.object inner members) := skipBrackets_append_iff (by decide) Nat.one_pos
  rw [← hexact]
  split
  next hscan => exact iff_of_false nofun (by rw [hscan]; nofun)
  next left hscan => rw [hscan, Except.ok.injEq, Option.some.injEq]

/-- A value that is skipped exactly leaves the rest of its member. -/
theorem skipValue_exact {value : Value} (hexact : SkippedExactly value) (blanks : Blanks)
    (hrest : EndsMember rest) :
    ∃ left, skipValue (blanks.val ++ (value.text ++ rest)) = .ok left ∧
      skipWhitespace left = skipWhitespace rest := by
  have hscalar (text : List Char) (hne : text ≠ [])
      (hchars : ∀ character ∈ text,
        Inert character ∧ character ≠ ',' ∧ isSpace character = false) :
      ∃ left, skipValue (blanks.val ++ (text ++ rest)) = .ok left ∧
        skipWhitespace left = skipWhitespace rest := by
    refine ⟨_, skipValue_scalar hne hchars blanks hrest, ?_⟩
    obtain ⟨character, tail, hending, hcharacter⟩ := hrest
    rw [hending]
    rcases hcharacter with rfl | rfl <;> exact skipWhitespace_cons rfl tail
  cases value with
  | null => exact hscalar _ (by decide) (forall_mem_of_all (by decide))
  | boolean value =>
    cases value <;> exact hscalar _ (by decide) (forall_mem_of_all (by decide))
  | number number => exact hscalar _ (number_ne_nil number) (scalar_number number)
  | string text =>
    have hread : parseString (text.quoted ++ rest) = .ok (text.string, rest) :=
      parseString_text default text rest
    refine ⟨rest, ?_, rfl⟩
    unfold skipValue
    rw [skipWhitespace_blanks, Value.text]
    unfold Text.quoted at hread ⊢
    rw [cons_append, skipWhitespace_cons rfl]
    dsimp only
    rw [if_pos rfl, ← cons_append, hread]
    rfl
  | array inner elements =>
    exact ⟨rest, (skipValue_array_iff blanks inner elements).mpr hexact, rfl⟩
  | object inner members =>
    exact ⟨rest, (skipValue_object_iff blanks inner members).mpr hexact, rfl⟩

end Values

end DartPlant.Metadata
