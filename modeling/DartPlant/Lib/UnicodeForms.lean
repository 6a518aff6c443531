import Mathlib.Data.List.Basic
import Mathlib.Data.Nat.Bitwise

/-! # Encoding forms of a text

The bytes of a text in UTF-8 and its units in UTF-16.  Either form determines the text; the units of
the texts are those in which every surrogate has its partner; and the only code point with a zero byte
is the zero one, so that a text without it is found again in front of a terminator.
-/

/-! ## Bytes -/

namespace Utf8
open List

/-- The bytes of a code point. -/
def bytesOf (point : Char) : List (BitVec 8) :=
  (String.utf8EncodeChar point).map UInt8.toBitVec

/-- The bytes of a text. -/
def encode (points : List Char) : List (BitVec 8) := points.flatMap bytesOf

theorem encode_cons (point : Char) (points : List Char) :
    encode (point :: points) = bytesOf point ++ encode points := List.flatMap_cons

theorem encode_eq_map (points : List Char) :
    encode points = (points.flatMap String.utf8EncodeChar).map UInt8.toBitVec :=
  map_flatMap.symm

theorem encode_injective {points others : List Char} (h : encode points = encode others) :
    points = others := by
  rw [encode_eq_map, encode_eq_map] at h
  have hbytes : points.flatMap String.utf8EncodeChar = others.flatMap String.utf8EncodeChar :=
    map_injective_iff.mpr (fun _ _ => UInt8.toBitVec_inj.mp) h
  have htext : (String.ofList points).toByteArray = (String.ofList others).toByteArray := by
    rw [String.toByteArray_ofList, String.toByteArray_ofList, List.utf8Encode, List.utf8Encode,
      hbytes]
  exact String.ofList_injective (String.toByteArray_inj.mp htext)

/-- The forms of a code point by its size. -/
theorem bytesOf_cases (point : Char) :
    (point.toNat ≤ 0x7f ∧ bytesOf point = [BitVec.ofNat 8 point.toNat]) ∨
    (0x7f < point.toNat ∧ point.toNat ≤ 0x7ff ∧ bytesOf point =
      [BitVec.ofNat 8 (point.toNat / 64 % 0x20 + 0xc0),
        BitVec.ofNat 8 (point.toNat % 0x40 + 0x80)]) ∨
    (0x7ff < point.toNat ∧ point.toNat ≤ 0xffff ∧ bytesOf point =
      [BitVec.ofNat 8 (point.toNat / 4096 % 0x10 + 0xe0),
        BitVec.ofNat 8 (point.toNat / 64 % 0x40 + 0x80),
        BitVec.ofNat 8 (point.toNat % 0x40 + 0x80)]) ∨
    (0xffff < point.toNat ∧ bytesOf point =
      [BitVec.ofNat 8 (point.toNat / 262144 % 0x08 + 0xf0),
        BitVec.ofNat 8 (point.toNat / 4096 % 0x40 + 0x80),
        BitVec.ofNat 8 (point.toNat / 64 % 0x40 + 0x80),
        BitVec.ofNat 8 (point.toNat % 0x40 + 0x80)]) := by
  have hval : point.val.toNat = point.toNat := rfl
  unfold bytesOf String.utf8EncodeChar
  rw [hval]
  dsimp only
  split
  next hone => exact .inl ⟨hone, rfl⟩
  next hone =>
    split
    next htwo => exact .inr (.inl ⟨Nat.not_le.mp hone, htwo, rfl⟩)
    next htwo =>
      split
      next hthree => exact .inr (.inr (.inl ⟨Nat.not_le.mp htwo, hthree, rfl⟩))
      next hthree => exact .inr (.inr (.inr ⟨Nat.not_le.mp hthree, rfl⟩))

theorem marked_high {bits marker : Nat} (hmarker : 0x80 ≤ marker) (h : bits + marker < 256) :
    0x80 ≤ (BitVec.ofNat 8 (bits + marker)).toNat := by
  rw [BitVec.toNat_ofNat, Nat.mod_eq_of_lt h]
  exact hmarker.trans (Nat.le_add_left _ _)

/-- Every byte of a code point beyond ASCII carries a marker. -/
theorem high_of_mem {point : Char} (h : 0x7f < point.toNat) :
    ∀ byte ∈ bytesOf point, 0x80 ≤ byte.toNat := by
  obtain ⟨hone, -⟩ | ⟨-, -, hbytes⟩ | ⟨-, -, hbytes⟩ | ⟨-, hbytes⟩ := bytesOf_cases point
  · exact absurd h (Nat.not_lt.mpr hone)
  · rw [hbytes, forall_mem_cons, forall_mem_singleton]
    exact ⟨marked_high (by decide) (by omega), marked_high (by decide) (by omega)⟩
  · rw [hbytes, forall_mem_cons, forall_mem_cons, forall_mem_singleton]
    exact ⟨marked_high (by decide) (by omega), marked_high (by decide) (by omega),
      marked_high (by decide) (by omega)⟩
  · rw [hbytes, forall_mem_cons, forall_mem_cons, forall_mem_cons,
      forall_mem_singleton]
    exact ⟨marked_high (by decide) (by omega), marked_high (by decide) (by omega),
      marked_high (by decide) (by omega), marked_high (by decide) (by omega)⟩

theorem bytesOf_ascii {point : Char} (h : point.toNat ≤ 0x7f) :
    bytesOf point = [BitVec.ofNat 8 point.toNat] := by
  obtain ⟨-, hbytes⟩ | ⟨hlow, -⟩ | ⟨hlow, -⟩ | ⟨hlow, -⟩ := bytesOf_cases point
  · exact hbytes
  all_goals omega

/-- The zero byte belongs to the zero code point only. -/
theorem zero_mem_bytesOf {point : Char} : (0 : BitVec 8) ∈ bytesOf point ↔ point = '\x00' := by
  constructor
  · intro hmem
    by_cases hascii : point.toNat ≤ 0x7f
    · rw [bytesOf_ascii hascii, mem_singleton] at hmem
      have hnat := congrArg BitVec.toNat hmem
      rw [BitVec.toNat_ofNat, Nat.mod_eq_of_lt (by omega)] at hnat
      exact Char.toNat_inj.mp hnat.symm
    · exact absurd (high_of_mem (Nat.not_le.mp hascii) _ hmem) (by decide)
  · rintro rfl
    decide

/-- The text in front of the first zero code point. -/
def beforeZero (points : List Char) : List Char := points.takeWhile (· ≠ '\x00')

/-- What stands in front of the first zero byte of a terminated text. -/
theorem takeWhile_encode (points : List Char) (rest : List (BitVec 8)) :
    (encode points ++ 0 :: rest).takeWhile (· ≠ 0) = encode (beforeZero points) := by
  induction points with
  | nil => rfl
  | cons point points ih =>
    rw [encode_cons, append_assoc]
    by_cases hzero : point = '\x00'
    · subst hzero
      rfl
    · have hbytes : ∀ byte ∈ bytesOf point, decide (byte ≠ 0) = true := by
        intro byte hbyte
        refine decide_eq_true fun hbyteZero => hzero ?_
        exact zero_mem_bytesOf.mp (hbyteZero ▸ hbyte)
      have hbefore : beforeZero (point :: points) = point :: beforeZero points :=
        takeWhile_cons_of_pos (decide_eq_true hzero)
      rw [takeWhile_append_of_pos hbytes, ih, hbefore, encode_cons]

end Utf8

/-! ## Units -/

namespace Utf16

def High (unit : BitVec 16) : Prop := 0xd800 ≤ unit.toNat ∧ unit.toNat ≤ 0xdbff

def Low (unit : BitVec 16) : Prop := 0xdc00 ≤ unit.toNat ∧ unit.toNat ≤ 0xdfff

instance (unit : BitVec 16) : Decidable (High unit) := inferInstanceAs (Decidable (_ ∧ _))

instance (unit : BitVec 16) : Decidable (Low unit) := inferInstanceAs (Decidable (_ ∧ _))

/-- Every surrogate has its partner. -/
inductive Paired : List (BitVec 16) → Prop where
  | nil : Paired []
  | unit {unit : BitVec 16} {rest : List (BitVec 16)} :
      ¬High unit → ¬Low unit → Paired rest → Paired (unit :: rest)
  | pair {high low : BitVec 16} {rest : List (BitVec 16)} :
      High high → Low low → Paired rest → Paired (high :: low :: rest)

/-- The units of a code point. -/
def unitsOf (point : Char) : List (BitVec 16) :=
  if point.toNat ≤ 0xffff then [BitVec.ofNat 16 point.toNat]
  else [BitVec.ofNat 16 (0xd800 + (point.toNat - 0x10000) / 0x400),
    BitVec.ofNat 16 (0xdc00 + (point.toNat - 0x10000) % 0x400)]

/-- The units of a text. -/
def encode (points : List Char) : List (BitVec 16) := points.flatMap unitsOf

/-- The code point of a unit that is no surrogate. -/
def pointOf (unit : BitVec 16) : Char := Char.ofNat unit.toNat

/-- The number of the code point that a pair of surrogates stands for. -/
def pairNumber (high low : BitVec 16) : Nat :=
  0x10000 + (high.toNat - 0xd800) * 0x400 + (low.toNat - 0xdc00)

theorem toNat_ofNat {number : Nat} (h : number.isValidChar) :
    (Char.ofNat number).toNat = number := by
  unfold Char.ofNat
  rw [dif_pos h]
  rfl

theorem unitsOf_pointOf {unit : BitVec 16} (hhigh : ¬High unit) (hlow : ¬Low unit) :
    unitsOf (pointOf unit) = [unit] := by
  have hlt := unit.isLt
  unfold High at hhigh
  unfold Low at hlow
  have hvalid : unit.toNat.isValidChar := by
    unfold Nat.isValidChar
    omega
  unfold unitsOf pointOf
  rw [toNat_ofNat hvalid, if_pos (by omega), BitVec.ofNat_toNat, BitVec.setWidth_eq]

theorem unitsOf_pair {high low : BitVec 16} (hhigh : High high) (hlow : Low low) :
    unitsOf (Char.ofNat (pairNumber high low)) = [high, low] := by
  unfold High at hhigh
  unfold Low at hlow
  have hvalid : (pairNumber high low).isValidChar := by
    unfold pairNumber Nat.isValidChar
    omega
  unfold unitsOf
  rw [toNat_ofNat hvalid]
  unfold pairNumber
  rw [if_neg (by omega)]
  refine List.cons_eq_cons.mpr ⟨?_, List.cons_eq_cons.mpr ⟨?_, rfl⟩⟩
  · refine BitVec.eq_of_toNat_eq ?_
    rw [BitVec.toNat_ofNat]
    omega
  · refine BitVec.eq_of_toNat_eq ?_
    rw [BitVec.toNat_ofNat]
    omega

theorem encode_cons (point : Char) (points : List Char) :
    encode (point :: points) = unitsOf point ++ encode points := List.flatMap_cons

/-- The forms of a code point by its size. -/
theorem unitsOf_cases (point : Char) :
    (∃ unit, unitsOf point = [unit] ∧ ¬High unit ∧ ¬Low unit ∧ unit.toNat = point.toNat) ∨
    ∃ high low, unitsOf point = [high, low] ∧ High high ∧ Low low ∧
      pairNumber high low = point.toNat := by
  have hvalid : point.toNat.isValidChar := point.valid
  unfold Nat.isValidChar at hvalid
  unfold unitsOf
  split
  next hplane =>
    have hunit : (BitVec.ofNat 16 point.toNat).toNat = point.toNat := by
      rw [BitVec.toNat_ofNat]
      omega
    refine .inl ⟨_, rfl, ?_, ?_, hunit⟩
    · unfold High
      omega
    · unfold Low
      omega
  next hplane =>
    have hhigh : (BitVec.ofNat 16 (0xd800 + (point.toNat - 0x10000) / 0x400)).toNat =
        0xd800 + (point.toNat - 0x10000) / 0x400 := by
      rw [BitVec.toNat_ofNat]
      omega
    have hlow : (BitVec.ofNat 16 (0xdc00 + (point.toNat - 0x10000) % 0x400)).toNat =
        0xdc00 + (point.toNat - 0x10000) % 0x400 := by
      rw [BitVec.toNat_ofNat]
      omega
    refine .inr ⟨_, _, rfl, ?_, ?_, ?_⟩
    · unfold High
      omega
    · unfold Low
      omega
    · unfold pairNumber
      rw [hhigh, hlow]
      omega

/-- The units of the texts are those in which every surrogate has its partner. -/
theorem paired_iff {units : List (BitVec 16)} : Paired units ↔ ∃ points, encode points = units := by
  constructor
  · intro hpaired
    induction hpaired with
    | nil => exact ⟨[], rfl⟩
    | @unit unit _ hhigh hlow _ ih =>
      obtain ⟨points, rfl⟩ := ih
      refine ⟨pointOf unit :: points, ?_⟩
      rw [encode_cons, unitsOf_pointOf hhigh hlow]
      rfl
    | @pair high low _ hhigh hlow _ ih =>
      obtain ⟨points, rfl⟩ := ih
      refine ⟨Char.ofNat (pairNumber high low) :: points, ?_⟩
      rw [encode_cons, unitsOf_pair hhigh hlow]
      rfl
  · rintro ⟨points, rfl⟩
    induction points with
    | nil => exact .nil
    | cons point points ih =>
      rw [encode_cons]
      obtain ⟨unit, hunits, hhigh, hlow, -⟩ | ⟨high, low, hunits, hhigh, hlow, -⟩ :=
        unitsOf_cases point
      · rw [hunits]
        exact .unit hhigh hlow ih
      · rw [hunits]
        exact .pair hhigh hlow ih

end Utf16
