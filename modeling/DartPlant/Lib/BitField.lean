import Mathlib.Data.Nat.Notation
import Mathlib.Logic.Basic

/-! # Fields of a machine word

A decoder tests a word under a mask.  Here such a test is read as what it says about the word's bit
fields: one lemma for a mask that covers one field, and one that splits a mask into two.
-/

namespace DartPlant

variable {n low len : ℕ} {w : BitVec n}

/-- The bits of a word that the field of `len` bits at `low` takes. -/
def fieldMask (n low len : ℕ) : BitVec n := (BitVec.allOnes len).setWidth n <<< low

/-- A word that holds a value in that field and is zero elsewhere. -/
def inField (n low : ℕ) (value : BitVec len) : BitVec n := value.setWidth n <<< low

/-- A test under the mask of one field compares the field. -/
theorem and_fieldMask (h : low + len ≤ n) {value : BitVec len} :
    w &&& fieldMask n low len = inField n low value ↔ w.extractLsb' low len = value := by
  constructor
  · intro heq
    ext i hi
    have hbit := congrArg (fun word => word.getLsbD (low + i)) heq
    have hlow : low + i < n := by omega
    have habove : ¬ low + i < low := by omega
    simpa [fieldMask, inField, hlow, hi, habove, show i < n by omega] using hbit
  · intro heq
    subst heq
    ext i hi
    by_cases hbelow : i < low
    · simp [fieldMask, inField, hbelow]
    · by_cases habove : i - low < len
      · simp [fieldMask, inField, hi, hbelow, habove, show low + (i - low) = i by omega]
      · simp [fieldMask, inField, hbelow, habove]

theorem and_mask_iff {mask : BitVec n} {value : BitVec n} {bits : BitVec len} (h : low + len ≤ n)
    (hmask : fieldMask n low len = mask) (hvalue : inField n low bits = value) :
    w &&& mask = value ↔ w.extractLsb' low len = bits := by
  rw [← hmask, ← hvalue]
  exact and_fieldMask h

theorem and_of_and_or {mask₁ mask₂ value₁ value₂ : BitVec n} (h₁ : value₁ &&& mask₁ = value₁)
    (h₂ : value₂ &&& mask₂ = value₂) (hdisjoint : mask₁ &&& mask₂ = 0)
    (h : w &&& (mask₁ ||| mask₂) = value₁ ||| value₂) : w &&& mask₁ = value₁ := by
  have hvalue₂ : value₂ &&& mask₁ = 0 := by
    rw [← h₂, BitVec.and_assoc, BitVec.and_comm mask₂, hdisjoint, BitVec.ofNat_eq_ofNat,
      BitVec.and_zero]
  calc w &&& mask₁ = (w &&& (mask₁ ||| mask₂)) &&& mask₁ := by
        ext i hi
        simp only [BitVec.getElem_and, BitVec.getElem_or]
        cases mask₁[i] <;> simp
    _ = (value₁ &&& mask₁) ||| (value₂ &&& mask₁) := by rw [h, BitVec.and_or_distrib_right]
    _ = value₁ := by rw [h₁, hvalue₂, BitVec.ofNat_eq_ofNat, BitVec.or_zero]

/-- A test under a mask of two parts is a test under each. -/
theorem and_or_eq {mask₁ mask₂ value₁ value₂ : BitVec n} (h₁ : value₁ &&& mask₁ = value₁)
    (h₂ : value₂ &&& mask₂ = value₂) (hdisjoint : mask₁ &&& mask₂ = 0) :
    w &&& (mask₁ ||| mask₂) = value₁ ||| value₂ ↔ w &&& mask₁ = value₁ ∧ w &&& mask₂ = value₂ := by
  constructor
  · intro h
    refine ⟨and_of_and_or h₁ h₂ hdisjoint h, and_of_and_or h₂ h₁ ?_ ?_⟩
    · rw [BitVec.and_comm, hdisjoint]
    · rw [BitVec.or_comm mask₂, BitVec.or_comm value₂, h]
  · rintro ⟨hfirst, hsecond⟩
    rw [BitVec.and_or_distrib_left, hfirst, hsecond]

/-- One bit of a word whose field is known. -/
theorem getLsbD_of_field {value : BitVec len} (h : w.extractLsb' low len = value) {i : ℕ}
    (hi : i < len) : w.getLsbD (low + i) = value.getLsbD i := by
  rw [← h, BitVec.getLsbD_extractLsb', decide_eq_true hi, Bool.true_and]

end DartPlant
