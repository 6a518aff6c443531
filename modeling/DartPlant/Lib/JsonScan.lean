import DartPlant.Lib.JsonText

/-! # Characters that a scan for brackets does not see

Neither the digits nor the signs of a number are quotation marks, backslashes or brackets.
-/

namespace DartPlant.JsonText

/-! ## Texts without strings and brackets -/

/-- The characters that a scan has no eye for. -/
def Inert (character : Char) : Prop :=
  character ≠ '"' ∧ character ≠ '\\' ∧ character ≠ '[' ∧ character ≠ ']' ∧
    character ≠ '\x7b' ∧ character ≠ '\x7d'

instance (character : Char) : Decidable (Inert character) := inferInstanceAs (Decidable (_ ∧ _))

theorem inert_of_isDigit {character : Char} (h : character.isDigit) : Inert character := by
  refine ⟨?_, ?_, ?_, ?_, ?_, ?_⟩ <;>
    (rintro rfl; revert h; decide)

/-- The characters of a number. -/
theorem mem_number {number : Number} {character : Char} (hmem : character ∈ number.text) :
    character.isDigit ∨ character ∈ ['-', '+', '.', 'e', 'E'] := by
  obtain ⟨negative, integer, fraction, exponent⟩ := number
  simp only [Number.text, List.mem_append] at hmem
  rcases hmem with ((hsign | hinteger) | hfraction) | hexponent
  · cases negative with
    | true =>
      rw [List.mem_singleton.mp hsign]
      exact .inr (by decide)
    | false => cases hsign
  · exact .inl (integer.val.property.2 character hinteger)
  · cases fraction with
    | none => cases hfraction
    | some digits =>
      rcases List.mem_cons.mp hfraction with rfl | hdigits
      · exact .inr (by decide)
      · exact .inl (digits.property.2 character hdigits)
  · cases exponent with
    | none => cases hexponent
    | some parts =>
      obtain ⟨capital, sign, digits⟩ := parts
      rcases List.mem_append.mp hexponent with hprefix | hdigits
      · refine .inr ?_
        rcases List.mem_cons.mp hprefix with rfl | hsign
        · cases capital <;> decide
        · cases sign with
          | none => cases hsign
          | some negative =>
            rw [List.mem_singleton.mp hsign]
            cases negative <;> decide
      · exact .inl (digits.property.2 character hdigits)

theorem inert_number (number : Number) : ∀ character ∈ number.text, Inert character := by
  have hothers : ∀ character ∈ ['-', '+', '.', 'e', 'E'], Inert character :=
    forall_mem_of_all (by decide)
  intro character hmem
  rcases mem_number hmem with hdigit | hother
  · exact inert_of_isDigit hdigit
  · exact hothers character hother

end DartPlant.JsonText
