import Mathlib.Data.BitVec

/-! # Two 32-bit halves in one 64-bit word

Lock-free code packs a state and a counter into one word so that one compare-and-swap moves both.
`pack` is that word.  Every operation such code performs on it, replacing the low half under a mask,
adding one to the high half, taking one from it and testing it by a shift, is stated here as an
operation on the halves, so that a proof about the code never looks at a bit.
-/

namespace PackedWord
open BitVec

/-- The word with the given halves. -/
def pack (hi lo : BitVec 32) : BitVec 64 := (hi.setWidth 64 <<< 32) ||| lo.setWidth 64

def low (w : BitVec 64) : BitVec 32 := w.setWidth 32

def high (w : BitVec 64) : BitVec 32 := (w >>> 32).setWidth 32

def lowMask : BitVec 64 := 0xffffffff#64

def highOne : BitVec 64 := 1#64 <<< 32

theorem pack_eq_append (hi lo : BitVec 32) : pack hi lo = hi ++ lo := by
  rw [pack, append_def, shiftLeftZeroExtend_eq]
  rfl

theorem toNat_pack (hi lo : BitVec 32) : (pack hi lo).toNat = hi.toNat * 2 ^ 32 + lo.toNat := by
  rw [pack_eq_append, toNat_append, ← Nat.shiftLeft_add_eq_or_of_lt lo.isLt,
    Nat.shiftLeft_eq]

@[simp] theorem low_pack (hi lo : BitVec 32) : low (pack hi lo) = lo := by
  rw [pack_eq_append, low, setWidth_append_eq_right]

@[simp] theorem high_pack (hi lo : BitVec 32) : high (pack hi lo) = hi := by
  apply eq_of_toNat_eq
  have h := toNat_pack hi lo
  have hhi := hi.isLt
  have hlo := lo.isLt
  simp only [high, toNat_setWidth, toNat_ushiftRight, h, Nat.shiftRight_eq_div_pow]
  omega

theorem pack_inj {hi lo hi' lo' : BitVec 32} : pack hi lo = pack hi' lo' ↔ hi = hi' ∧ lo = lo' := by
  constructor
  · intro h
    exact ⟨by simpa only [high_pack] using congrArg high h,
      by simpa only [low_pack] using congrArg low h⟩
  · rintro ⟨rfl, rfl⟩
    rfl

theorem getLsbD_lowMask (i : Nat) : lowMask.getLsbD i = decide (i < 32) := by
  have hmask : lowMask = (BitVec.allOnes 32).setWidth 64 := by decide
  rw [hmask, getLsbD_setWidth, getLsbD_allOnes]
  by_cases h : i < 32
  · simp only [h, decide_true, Bool.and_true, decide_eq_true_eq]
    omega
  · simp only [h, decide_false, Bool.and_false]

/-- Masking with the low mask reads the low half. -/
theorem low_and_lowMask (w : BitVec 64) : low (w &&& lowMask) = low w := by
  apply eq_of_getLsbD_eq
  intro i hi
  simp only [low, getLsbD_setWidth, getLsbD_and, getLsbD_lowMask, hi, decide_true,
    Bool.and_true]

theorem setWidth_eq_pack (lo : BitVec 32) : lo.setWidth 64 = pack 0#32 lo := by
  apply eq_of_toNat_eq
  have := lo.isLt
  rw [toNat_pack]
  simp only [toNat_setWidth, BitVec.toNat_ofNat]
  omega

/-- Masking the low half away and adding a new one replaces it. -/
theorem replace_low (hi lo lo' : BitVec 32) :
    (pack hi lo &&& ~~~lowMask) ||| lo'.setWidth 64 = pack hi lo' := by
  apply eq_of_getLsbD_eq
  intro i hi64
  simp only [pack, getLsbD_or, getLsbD_and, getLsbD_not,
    getLsbD_setWidth, getLsbD_shiftLeft, getLsbD_lowMask, hi64, decide_true,
    Bool.true_and]
  by_cases hi32 : i < 32
  · simp only [hi32, decide_true, Bool.not_true, Bool.and_false, Bool.false_or, Bool.false_and]
  · have hlo : lo.getLsbD i = false := getLsbD_of_ge _ _ (by omega)
    simp only [hi32, hlo, decide_false, Bool.not_false, Bool.and_true, Bool.or_false]

/-- Adding the high unit increments the high half and leaves the low half alone. -/
theorem pack_add_highOne (hi lo : BitVec 32) : pack hi lo + highOne = pack (hi + 1#32) lo := by
  apply eq_of_toNat_eq
  have hone : highOne.toNat = 2 ^ 32 := by
    simp only [highOne, toNat_shiftLeft, BitVec.toNat_ofNat, Nat.shiftLeft_eq]
    omega
  have hlo := lo.isLt
  have hhi := hi.isLt
  rw [toNat_add, toNat_pack, toNat_pack, hone, toNat_add, BitVec.toNat_ofNat]
  omega

/-- Subtracting the high unit decrements the high half and leaves the low half alone. -/
theorem pack_sub_highOne (hi lo : BitVec 32) : pack hi lo - highOne = pack (hi - 1#32) lo := by
  rw [BitVec.sub_eq_iff_eq_add, pack_add_highOne, BitVec.sub_add_cancel]

theorem pack_shift (hi lo : BitVec 32) : pack hi lo >>> 32 = hi.setWidth 64 := by
  apply eq_of_toNat_eq
  have hlo := lo.isLt
  have hhi := hi.isLt
  simp only [toNat_ushiftRight, toNat_pack, toNat_setWidth,
    Nat.shiftRight_eq_div_pow]
  omega

/-- The high half is zero exactly when the shifted word is. -/
theorem pack_shift_eq_zero {hi lo : BitVec 32} : pack hi lo >>> 32 = 0#64 ↔ hi = 0#32 := by
  rw [pack_shift]
  constructor
  · intro h
    apply eq_of_toNat_eq
    have hz := congrArg BitVec.toNat h
    have hhi := hi.isLt
    simp only [toNat_setWidth, BitVec.toNat_ofNat] at hz ⊢
    omega
  · rintro rfl
    rfl

end PackedWord
