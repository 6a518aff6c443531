import Mathlib.Algebra.Order.Group.Unbundled.Int
import Mathlib.Tactic.Ring

/-! # Signed variable-length numbers

A number is written seven bits at a time, low bits first.  Every byte but the last is below 128; the
last one holds what is left, a number from -64 to 63, over a marker of 192.
-/

namespace SignedVarint

/-- What fits in a last byte. -/
def Small (value : ℤ) : Prop := -64 ≤ value ∧ value ≤ 63

instance (value : ℤ) : Decidable (Small value) := inferInstanceAs (Decidable (_ ∧ _))

/-- The bytes of a number. -/
def write (value : ℤ) : List (BitVec 8) :=
  if Small value then [BitVec.ofInt 8 (value + 192)]
  else BitVec.ofInt 8 (value % 128) :: write (value / 128)
termination_by value.natAbs
decreasing_by
  unfold Small at *
  omega

theorem write_small {value : ℤ} (h : Small value) : write value = [BitVec.ofInt 8 (value + 192)] := by
  rw [write, if_pos h]

theorem write_large {value : ℤ} (h : ¬Small value) :
    write value = BitVec.ofInt 8 (value % 128) :: write (value / 128) := by
  rw [write, if_neg h]

/-- A byte that is not the last one. -/
theorem toNat_low (value : ℤ) : ((BitVec.ofInt 8 (value % 128)).toNat : ℤ) = value % 128 := by
  rw [BitVec.toNat_ofInt]
  omega

/-- A last byte. -/
theorem toNat_last {value : ℤ} (h : Small value) :
    ((BitVec.ofInt 8 (value + 192)).toNat : ℤ) = value + 192 := by
  unfold Small at h
  rw [BitVec.toNat_ofInt]
  omega

theorem write_length_pos (value : ℤ) : 0 < (write value).length := by
  rw [write]
  split
  · exact Nat.one_pos
  · exact Nat.succ_pos _

/-- Seven more bits take one more byte. -/
theorem write_length_le {value : ℤ} {count : ℕ} (hlow : -(64 * 128 ^ count) ≤ value)
    (hhigh : value < 64 * 128 ^ count) : (write value).length ≤ count + 1 := by
  induction count generalizing value with
  | zero =>
    have hsmall : Small value := by
      unfold Small
      omega
    rw [write_small hsmall, List.length_singleton]
  | succ count ih =>
    rw [write]
    split
    · exact Nat.succ_le_succ (Nat.zero_le _)
    · have hpower : (128 : ℤ) ^ (count + 1) = 128 * 128 ^ count := pow_succ' _ _
      have hrest : (write (value / 128)).length ≤ count + 1 := by
        apply ih
        · omega
        · omega
      exact Nat.succ_le_succ hrest

end SignedVarint
