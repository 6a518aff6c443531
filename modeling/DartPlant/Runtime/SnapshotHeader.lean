import DartPlant.Elf.DynamicView
import DartPlant.Lib.BoundedReads
import DartPlant.Lib.SignedVarint

/-! # The header of a Dart snapshot

A snapshot begins with a magic number, its length, its kind, the hash of its version and a string of
features.  In a deferred unit the hash of the program follows, in the signed variable-length form, and
is accepted only in the form that the writer gives it.
-/

namespace DartPlant
open NoteFormat BoundedReads SignedVarint List

structure DartSnapshotHeader where
  declaredLength : Nat
  kind : Nat
  payloadOffset : Nat
  snapshotHash : List Byte
  features : List Byte
  deriving DecidableEq, Repr

namespace SnapshotHeader

/-- `kMagicValue`. -/
def kMagicValue : Nat := 0xdcdcf5f5

/-- `kFullAotKind`. -/
def kFullAotKind : Nat := 3

/-- `kHeaderSize`. -/
def kHeaderSize : Nat := 20

/-- `kHashSize`. -/
def kHashSize : Nat := 32

/-- `kMinimumSize`. -/
def kMinimumSize : Nat := kHeaderSize + kHashSize + 1

/-- What a digit of the hash is. -/
def isHashDigit (value : Byte) : Bool :=
  (0x30 ≤ value && value ≤ 0x39) || (0x61 ≤ value && value ≤ 0x66) ||
    (0x41 ≤ value && value ≤ 0x46)

/-- `strnlen`. -/
def strnlen (bytes : List Byte) (offset : Nat) : Nat → Reading Nat
  | 0 => .ok 0
  | remaining + 1 => do
    let byte ← elementAt bytes offset
    if byte = 0 then .ok 0
    else do
      let length ← strnlen bytes (offset + 1) remaining
      .ok (length + 1)

/-- `kMaxEncodedBytes`. -/
def kMaxEncodedBytes : Nat := 5

/-- The loop that takes the program hash apart: the value, and how many bytes it takes. -/
def decodeProgramHashFrom (bytes : List Byte) (header : DartSnapshotHeader) :
    (left encodedSize : Nat) → (value : BitVec 32) → Reading (BitVec 32 × Nat)
  | 0, encodedSize, value => .ok (value, encodedSize)
  | left + 1, encodedSize, value => do
    let offset := header.payloadOffset + encodedSize
    require (offset < header.declaredLength)
    let byte ← elementAt bytes offset
    let shift := encodedSize * 7
    if byte.toNat ≤ 0x7f then do
      require (encodedSize + 1 ≠ kMaxEncodedBytes)
      decodeProgramHashFrom bytes header left (encodedSize + 1)
        (value ||| byte.setWidth 32 <<< shift)
    else .ok (value ||| (byte.setWidth 32 - 0xc0) <<< shift, encodedSize + 1)

/-- The loop that writes the program hash again, with so much room left. -/
def canonicalBytes : (room : Nat) → (remaining : BitVec 32) → Option (List Byte)
  | 0, _ => none
  | room + 1, remaining =>
    if remaining.toInt < -64 ∨ remaining.toInt > 63 then
      (canonicalBytes room (remaining.sshiftRight 7)).map fun canonical =>
        (remaining &&& 0x7f).setWidth 8 :: canonical
    else some [(remaining + 0xc0).setWidth 8]

end SnapshotHeader

open SnapshotHeader

/-- `ParseDartSnapshotHeader`. -/
def parseDartSnapshotHeader (bytes : List Byte) : Reading DartSnapshotHeader := do
  require (kMinimumSize ≤ bytes.length)
  let magic ← slice bytes 0 4
  let storedLength ← slice bytes 4 8
  let kind ← slice bytes 12 8
  require (word magic 0 = kMagicValue ∧ xword storedLength 0 < 2 ^ 63 ∧
    xword kind 0 = kFullAotKind ∧ xword storedLength 0 ≤ 2 ^ 64 - 1 - 4)
  let declaredLength := xword storedLength 0 + 4
  require (kMinimumSize ≤ declaredLength ∧ declaredLength ≤ bytes.length)
  let hash ← slice bytes kHeaderSize kHashSize
  require (hash.all isHashDigit = true)
  let remaining := declaredLength - kHeaderSize - kHashSize
  let featureLength ← strnlen bytes (kHeaderSize + kHashSize) remaining
  require (featureLength ≠ remaining)
  let payloadOffset := kHeaderSize + kHashSize + featureLength + 1
  require (payloadOffset ≤ declaredLength)
  let features ← slice bytes (kHeaderSize + kHashSize) featureLength
  .ok ⟨declaredLength, xword kind 0, payloadOffset, hash, features⟩

/-- `ParseDartDeferredProgramHash`. -/
def parseDartDeferredProgramHash (bytes : List Byte) (header : DartSnapshotHeader) :
    Reading (BitVec 32) := do
  require (header.payloadOffset < header.declaredLength ∧ header.declaredLength ≤ bytes.length)
  let (value, encodedSize) ← decodeProgramHashFrom bytes header kMaxEncodedBytes 0 0
  require (encodedSize ≠ 0 ∧ encodedSize ≤ kMaxEncodedBytes)
  match canonicalBytes kMaxEncodedBytes value with
  | none => BoundedReads.refuse
  | some canonical => do
    require (canonical.length = encodedSize)
    let written ← slice bytes header.payloadOffset encodedSize
    require (canonical = written)
    .ok value

/-! ## Nothing is read outside -/

section Inside
variable {bytes : List Byte} {header : DartSnapshotHeader}

theorem inside_strnlen {offset remaining : Nat} (h : offset + remaining ≤ bytes.length) :
    Inside (strnlen bytes offset remaining) := by
  induction remaining generalizing offset with
  | zero => exact inside_ok 0
  | succ remaining ih =>
    refine (inside_elementAt (by omega)).bind fun byte _ => ?_
    split
    · exact inside_ok 0
    · exact (ih (by omega)).bind fun length _ => inside_ok _

theorem parseDartSnapshotHeader_inside (bytes : List Byte) :
    Inside (parseDartSnapshotHeader bytes) := by
  refine inside_require_bind fun hsize => ?_
  unfold kMinimumSize kHeaderSize kHashSize at hsize
  refine (inside_slice (by omega)).bind fun magic _ => ?_
  refine (inside_slice (by omega)).bind fun storedLength _ => ?_
  refine (inside_slice (by omega)).bind fun kind _ => inside_require_bind fun _ => ?_
  refine inside_require_bind fun hdeclared => ?_
  unfold kMinimumSize kHeaderSize kHashSize at hdeclared
  refine (inside_slice (by unfold kHeaderSize kHashSize; omega)).bind fun hash _ =>
    inside_require_bind fun _ => ?_
  refine (inside_strnlen (by unfold kHeaderSize kHashSize; omega)).bind fun length _ =>
    inside_require_bind fun _ => inside_require_bind fun hpayload => ?_
  unfold kHeaderSize kHashSize at hpayload
  exact (inside_slice (by unfold kHeaderSize kHashSize; omega)).bind fun _ _ => inside_ok _

/-- What the decoding loop leaves behind lies before the declared end. -/
theorem decodeProgramHashFrom_le {left encodedSize size : Nat} {value result : BitVec 32}
    (h : decodeProgramHashFrom bytes header left encodedSize value = .ok (result, size)) :
    encodedSize ≤ size ∧ size ≤ encodedSize + left ∧
      (encodedSize < size → header.payloadOffset + size ≤ header.declaredLength) := by
  induction left generalizing encodedSize value with
  | zero =>
    obtain ⟨-, rfl⟩ := Prod.mk.inj (Except.ok.inj h)
    exact ⟨Nat.le_refl _, Nat.le_refl _, fun hlt => absurd hlt (Nat.lt_irrefl _)⟩
  | succ left ih =>
    obtain ⟨hoffset, h⟩ := require_bind_eq_ok.mp h
    obtain ⟨byte, -, h⟩ := bind_eq_ok.mp h
    split at h
    · obtain ⟨-, h⟩ := require_bind_eq_ok.mp h
      obtain ⟨hle, hroom, hend⟩ := ih h
      refine ⟨by omega, by omega, fun _ => ?_⟩
      by_cases hlast : encodedSize + 1 < size
      · exact hend hlast
      · omega
    · obtain ⟨-, rfl⟩ := Prod.mk.inj (Except.ok.inj h)
      exact ⟨by omega, by omega, fun _ => by omega⟩

theorem inside_decodeProgramHashFrom {left encodedSize : Nat} {value : BitVec 32}
    (h : header.declaredLength ≤ bytes.length) :
    Inside (decodeProgramHashFrom bytes header left encodedSize value) := by
  induction left generalizing encodedSize value with
  | zero => exact inside_ok _
  | succ left ih =>
    refine inside_require_bind fun hoffset => ?_
    refine (inside_elementAt (by omega)).bind fun byte _ => ?_
    split
    · exact inside_require_bind fun _ => ih
    · exact inside_ok _

theorem parseDartDeferredProgramHash_inside (bytes : List Byte) (header : DartSnapshotHeader) :
    Inside (parseDartDeferredProgramHash bytes header) := by
  refine inside_require_bind fun hdeclared => ?_
  refine (inside_decodeProgramHashFrom hdeclared.2).bind fun decoded hdecoded => ?_
  obtain ⟨value, encodedSize⟩ := decoded
  obtain ⟨-, -, hend⟩ := decodeProgramHashFrom_le hdecoded
  refine inside_require_bind fun hsize => ?_
  split
  · exact inside_refuse
  · refine inside_require_bind fun _ => ?_
    refine (inside_slice ?_).bind fun _ _ => inside_require_bind fun _ => inside_ok _
    exact (hend (by omega)).trans hdeclared.2

end Inside

/-! ## The canonical form -/

theorem toInt_low (remaining : BitVec 32) :
    (remaining &&& 0x7f).setWidth 8 = BitVec.ofInt 8 (remaining.toInt % 128) := by
  refine BitVec.eq_of_toNat_eq ?_
  have hmask : (remaining &&& 0x7f).toNat = remaining.toNat % 128 := by
    rw [BitVec.toNat_and]
    exact Nat.and_two_pow_sub_one_eq_mod _ 7
  have hlt := remaining.isLt
  rw [BitVec.toNat_setWidth, hmask, BitVec.toNat_ofInt, BitVec.toInt_eq_toNat_cond]
  split <;> omega

theorem toInt_last (remaining : BitVec 32) :
    (remaining + 0xc0).setWidth 8 = BitVec.ofInt 8 (remaining.toInt + 192) := by
  refine BitVec.eq_of_toNat_eq ?_
  have hmarker : (0xc0 : BitVec 32).toNat = 192 := rfl
  have hlt := remaining.isLt
  rw [BitVec.toNat_setWidth, BitVec.toNat_add, hmarker, BitVec.toNat_ofInt,
    BitVec.toInt_eq_toNat_cond]
  split <;> omega

theorem toInt_shift (remaining : BitVec 32) :
    (remaining.sshiftRight 7).toInt = remaining.toInt / 128 := by
  rw [BitVec.toInt_sshiftRight, Int.shiftRight_eq_div_pow]
  rfl

/-- The loop writes the canonical form, where there is room for it. -/
theorem canonicalBytes_eq (room : Nat) (remaining : BitVec 32) :
    canonicalBytes room remaining =
      if (write remaining.toInt).length ≤ room then
        some (write remaining.toInt)
      else none := by
  induction room generalizing remaining with
  | zero =>
    have hpos := write_length_pos remaining.toInt
    rw [if_neg (by omega)]
    rfl
  | succ room ih =>
    unfold canonicalBytes
    by_cases hsmall : SignedVarint.Small remaining.toInt
    · rw [write_small hsmall, if_neg (by unfold SignedVarint.Small at hsmall; omega),
        toInt_last, if_pos (by rw [length_singleton]; omega)]
    · rw [write_large hsmall, if_pos (by unfold SignedVarint.Small at hsmall; omega),
        ih, toInt_shift, toInt_low, length_cons]
      by_cases hroom : (write (remaining.toInt / 128)).length ≤ room
      · rw [if_pos hroom, if_pos (Nat.succ_le_succ hroom)]
        rfl
      · rw [if_neg hroom, if_neg fun h => hroom (Nat.le_of_succ_le_succ h)]
        rfl

/-- Five bytes are enough. -/
theorem write_toInt_length_le (value : BitVec 32) :
    (write value.toInt).length ≤ kMaxEncodedBytes := by
  have hlow := value.le_toInt
  have hhigh := value.toInt_lt
  exact write_length_le (by omega) (by omega)

/-! ## Taking apart what was written -/

section Decoding
variable {bytes : List Byte} {header : DartSnapshotHeader}

theorem elementAt_of_drop {offset : Nat} {byte : Byte} {rest : List Byte}
    (h : bytes.drop offset = byte :: rest) : elementAt bytes offset = .ok byte := by
  have hget : bytes[offset]? = some byte := by
    rw [← Nat.add_zero offset, ← List.getElem?_drop, h]
    rfl
  unfold elementAt
  rw [hget]

/-- Bits above the value are added to it. -/
theorem or_shiftLeft {value group : BitVec 32} {shift : Nat} (h : value.toNat < 2 ^ shift) :
    value ||| group <<< shift = value + group <<< shift := by
  refine (BitVec.add_eq_or_of_and_eq_zero _ _ ?_).symm
  ext position hposition
  rw [BitVec.getElem_and, BitVec.getElem_shiftLeft]
  by_cases hlow : position < shift
  · simp [hlow]
  · have hhigh : value[position] = false :=
      Nat.testBit_lt_two_pow
        (Nat.lt_of_lt_of_le h (Nat.pow_le_pow_right Nat.two_pos (Nat.not_lt.mp hlow)))
    simp [hhigh]

theorem ofInt_shiftLeft (number : ℤ) (shift : Nat) :
    BitVec.ofInt 32 number <<< shift = BitVec.ofInt 32 (number * 2 ^ shift) := by
  have hpower : BitVec.twoPow 32 shift = BitVec.ofInt 32 (2 ^ shift) := by
    have hcast : (2 : ℤ) ^ shift = ((2 ^ shift : ℕ) : ℤ) := by norm_cast
    refine BitVec.eq_of_toNat_eq ?_
    rw [hcast, BitVec.ofInt_natCast, BitVec.toNat_twoPow, BitVec.toNat_ofNat]
  rw [BitVec.shiftLeft_eq_mul_twoPow, hpower, BitVec.ofInt_mul]

/-- The bits of a byte that is not the last one. -/
theorem group_low (number : ℤ) :
    (BitVec.ofInt 8 (number % 128)).setWidth 32 = BitVec.ofInt 32 (number % 128) := by
  have hbyte := toNat_low number
  have hgroup : (BitVec.ofInt 32 (number % 128)).toNat = (number % 128 % (2 ^ 32 : ℕ)).toNat :=
    BitVec.toNat_ofInt _
  refine BitVec.eq_of_toNat_eq ?_
  rw [BitVec.toNat_setWidth, hgroup]
  omega

/-- The bits of the last byte, without its marker. -/
theorem group_last {number : ℤ} (h : SignedVarint.Small number) :
    (BitVec.ofInt 8 (number + 192)).setWidth 32 - 0xc0 = BitVec.ofInt 32 number := by
  have hbyte := toNat_last h
  have hmarker : (0xc0 : BitVec 32).toNat = 192 := rfl
  have hgroup : (BitVec.ofInt 32 number).toNat = (number % (2 ^ 32 : ℕ)).toNat :=
    BitVec.toNat_ofInt _
  unfold SignedVarint.Small at h
  refine BitVec.eq_of_toNat_eq ?_
  rw [BitVec.toNat_sub, BitVec.toNat_setWidth, hmarker, hgroup]
  omega

/-- Seven more bits. -/
theorem accumulated_lt {value : BitVec 32} {number : ℤ} {encodedSize : Nat}
    (hvalue : value.toNat < 2 ^ (encodedSize * 7)) :
    (value + BitVec.ofInt 32 (number % 128 * 2 ^ (encodedSize * 7))).toNat <
      2 ^ ((encodedSize + 1) * 7) := by
  obtain ⟨low, hlow⟩ := Int.eq_ofNat_of_zero_le (Int.emod_nonneg number (by decide : (128 : ℤ) ≠ 0))
  have hlt : low < 128 := by omega
  have hcast : number % 128 * 2 ^ (encodedSize * 7) = ((low * 2 ^ (encodedSize * 7) : ℕ) : ℤ) := by
    rw [hlow]
    norm_cast
  have hmod := Nat.mod_le (low * 2 ^ (encodedSize * 7)) (2 ^ 32)
  have hmul : low * 2 ^ (encodedSize * 7) ≤ 127 * 2 ^ (encodedSize * 7) :=
    Nat.mul_le_mul_right _ (by omega)
  have hpower : 2 ^ ((encodedSize + 1) * 7) = 128 * 2 ^ (encodedSize * 7) := by
    rw [Nat.succ_mul, pow_add, Nat.mul_comm]
    rfl
  rw [hcast, BitVec.ofInt_natCast, BitVec.toNat_add, BitVec.toNat_ofNat, hpower]
  refine Nat.lt_of_le_of_lt (Nat.mod_le _ _) ?_
  omega

/-- The loop takes a number apart that was written, above the bits that it has. -/
theorem decodeProgramHashFrom_write {left encodedSize : Nat} {value : BitVec 32} {number : ℤ}
    {rest : List Byte}
    (hbytes : bytes.drop (header.payloadOffset + encodedSize) =
      write number ++ rest)
    (hroom : (write number).length ≤ left)
    (hfive : encodedSize + left = kMaxEncodedBytes)
    (hend : header.payloadOffset + encodedSize + (write number).length ≤
      header.declaredLength)
    (hvalue : value.toNat < 2 ^ (encodedSize * 7)) :
    decodeProgramHashFrom bytes header left encodedSize value =
      .ok (value + BitVec.ofInt 32 (number * 2 ^ (encodedSize * 7)),
        encodedSize + (write number).length) := by
  induction left generalizing encodedSize value number with
  | zero =>
    have hpos := write_length_pos number
    omega
  | succ left ih =>
    have hpos := write_length_pos number
    unfold decodeProgramHashFrom
    rw [require_bind_of (by omega)]
    by_cases hsmall : SignedVarint.Small number
    · have hbyte := toNat_last hsmall
      rw [write_small hsmall] at hbytes ⊢
      have hgroup := group_last hsmall
      unfold SignedVarint.Small at hsmall
      rw [elementAt_of_drop hbytes]
      show (if (BitVec.ofInt 8 (number + 192)).toNat ≤ 0x7f then _ else _) = _
      rw [if_neg (by omega), hgroup, or_shiftLeft hvalue, ofInt_shiftLeft]
      rfl
    · have hbyte := toNat_low number
      rw [write_large hsmall] at hbytes hroom hend ⊢
      have hnext := write_length_pos (number / 128)
      rw [length_cons] at hroom hend
      rw [elementAt_of_drop hbytes]
      show (if (BitVec.ofInt 8 (number % 128)).toNat ≤ 0x7f then _ else _) = _
      rw [if_pos (by omega), require_bind_of (by omega), group_low, or_shiftLeft hvalue,
        ofInt_shiftLeft]
      have hrest : bytes.drop (header.payloadOffset + (encodedSize + 1)) =
          write (number / 128) ++ rest := by
        rw [← Nat.add_assoc, ← drop_drop, hbytes]
        rfl
      have hshift : (encodedSize + 1) * 7 = encodedSize * 7 + 7 := Nat.succ_mul _ _
      have hsum : number % 128 * 2 ^ (encodedSize * 7) +
          number / 128 * 2 ^ ((encodedSize + 1) * 7) = number * 2 ^ (encodedSize * 7) := by
        have hnumber := Int.emod_add_mul_ediv number 128
        calc number % 128 * 2 ^ (encodedSize * 7) + number / 128 * 2 ^ ((encodedSize + 1) * 7)
            = (number % 128 + 128 * (number / 128)) * 2 ^ (encodedSize * 7) := by
              rw [hshift, pow_add]
              ring
          _ = number * 2 ^ (encodedSize * 7) := by rw [hnumber]
      rw [ih hrest (by omega) (by omega) (by omega) (accumulated_lt hvalue), BitVec.add_assoc,
        ← BitVec.ofInt_add, hsum, Nat.add_assoc, Nat.add_comm 1]
      rfl

end Decoding

/-! ## What the writer emits -/

/-- The little-endian bytes of a number. -/
def littleEndian (count value : Nat) : List Byte :=
  (List.range count).map fun index => BitVec.ofNat 8 (value / 256 ^ index)

/-- What a writer puts into a snapshot, up to the end that it declares.  The format has a signed number
of eight bytes for the length. -/
structure WrittenSnapshot where
  hash : { digits : List Byte // digits.length = kHashSize ∧ digits.all isHashDigit = true }
  features : { text : List Byte // (0 : Byte) ∉ text }
  programHash : BitVec 32
  trailing : List Byte
  fits : 16 + kHashSize + features.val.length + 1 +
    (write programHash.toInt).length + trailing.length < 2 ^ 63

namespace WrittenSnapshot

/-- What comes after the three numbers. -/
def body (written : WrittenSnapshot) : List Byte :=
  written.hash ++ (written.features ++
    ((0 : Byte) :: (write written.programHash.toInt ++ written.trailing)))

/-- The length does not count the magic number. -/
def storedLength (written : WrittenSnapshot) : Nat := 16 + written.body.length

def bytes (written : WrittenSnapshot) : List Byte :=
  littleEndian 4 kMagicValue ++ (littleEndian 8 written.storedLength ++
    (littleEndian 8 kFullAotKind ++ written.body))

def header (written : WrittenSnapshot) : DartSnapshotHeader where
  declaredLength := written.storedLength + 4
  kind := kFullAotKind
  payloadOffset := kHeaderSize + kHashSize + written.features.val.length + 1
  snapshotHash := written.hash
  features := written.features

end WrittenSnapshot

theorem littleEndian_length (count value : Nat) : (littleEndian count value).length = count := by
  rw [littleEndian, length_map, length_range]

theorem word_littleEndian {value : Nat} (h : value < 2 ^ 32) :
    word (littleEndian 4 value) 0 = value := by
  simp only [word, littleEndian, range_succ, range_zero, nil_append,
    cons_append, map_cons, map_nil, getD_cons_zero, getD_cons_succ,
    BitVec.toNat_ofNat]
  omega

theorem xword_littleEndian {value : Nat} (h : value < 2 ^ 64) :
    xword (littleEndian 8 value) 0 = value := by
  simp only [xword, word, littleEndian, range_succ, range_zero, nil_append,
    cons_append, map_cons, map_nil, getD_cons_zero, getD_cons_succ,
    BitVec.toNat_ofNat]
  omega

/-- The part of a buffer that a slice takes. -/
theorem slice_at {buffer left middle : List Byte} (right : List Byte) {offset count : Nat}
    (hbuffer : buffer = left ++ (middle ++ right)) (hleft : left.length = offset)
    (hmiddle : middle.length = count) : slice buffer offset count = .ok middle := by
  subst hbuffer hleft hmiddle
  rw [slice_of_le (by simp only [length_append]; omega), drop_left, take_left]

/-- A terminated string is as long as its text. -/
theorem strnlen_text {bytes text rest : List Byte} {offset remaining : Nat}
    (hbytes : bytes.drop offset = text ++ 0 :: rest) (htext : (0 : Byte) ∉ text)
    (hroom : text.length < remaining) : strnlen bytes offset remaining = .ok text.length := by
  induction text generalizing offset remaining with
  | nil =>
    obtain ⟨remaining, rfl⟩ := Nat.exists_eq_succ_of_ne_zero (Nat.ne_of_gt hroom)
    unfold strnlen
    rw [elementAt_of_drop hbytes]
    rfl
  | cons byte text ih =>
    obtain ⟨remaining, rfl⟩ := Nat.exists_eq_succ_of_ne_zero (Nat.ne_of_gt (Nat.zero_lt_of_lt hroom))
    have hbyte : byte ≠ 0 := fun h => htext (h ▸ mem_cons_self)
    have hrest : bytes.drop (offset + 1) = text ++ 0 :: rest := by
      rw [← drop_drop, hbytes]
      rfl
    have hlength := ih hrest (fun h => htext (mem_cons_of_mem _ h)) (Nat.lt_of_succ_lt_succ hroom)
    unfold strnlen
    rw [elementAt_of_drop hbytes]
    show (if byte = 0 then _ else _) = _
    rw [if_neg hbyte, hlength]
    rfl

namespace WrittenSnapshot
variable (written : WrittenSnapshot) (beyond : List Byte)

theorem storedLength_eq :
    written.storedLength = 16 + kHashSize + written.features.val.length + 1 +
      (write written.programHash.toInt).length + written.trailing.length := by
  have hhash := written.hash.property.1
  unfold storedLength body
  simp only [length_append, length_cons, hhash]
  omega

theorem bytes_length : written.bytes.length = written.storedLength + 4 := by
  unfold bytes storedLength
  simp only [length_append, littleEndian_length]
  omega

/-- The bytes after the three numbers. -/
theorem drop_body :
    (written.bytes ++ beyond).drop kHeaderSize = written.body ++ beyond := by
  have hnumbers : (littleEndian 4 kMagicValue ++ (littleEndian 8 written.storedLength ++
      littleEndian 8 kFullAotKind)).length = kHeaderSize := by
    simp only [length_append, littleEndian_length, kHeaderSize]
  have hsplit : written.bytes ++ beyond = (littleEndian 4 kMagicValue ++
      (littleEndian 8 written.storedLength ++ littleEndian 8 kFullAotKind)) ++
        (written.body ++ beyond) := by
    simp only [bytes, append_assoc]
  rw [hsplit, ← hnumbers, drop_left]

/-- The bytes from the hash on. -/
theorem drop_hash :
    (written.bytes ++ beyond).drop kHeaderSize = written.hash.val ++ (written.features.val ++ 0 ::
      (write written.programHash.toInt ++ (written.trailing ++ beyond))) := by
  rw [drop_body]
  simp only [body, append_assoc, cons_append]

/-- The bytes after the hash. -/
theorem drop_features :
    (written.bytes ++ beyond).drop (kHeaderSize + kHashSize) =
      written.features ++ 0 ::
        (write written.programHash.toInt ++ (written.trailing ++ beyond)) := by
  rw [← drop_drop, drop_hash]
  exact drop_left' written.hash.property.1

/-- The bytes from the payload on. -/
theorem drop_payload :
    (written.bytes ++ beyond).drop written.header.payloadOffset =
      write written.programHash.toInt ++ (written.trailing ++ beyond) := by
  have hoffset : written.header.payloadOffset =
      (kHeaderSize + kHashSize) + (written.features.val.length + 1) := rfl
  rw [hoffset, ← drop_drop, drop_features, ← drop_drop, drop_left]
  rfl

theorem slice_magic : slice (written.bytes ++ beyond) 0 4 = .ok (littleEndian 4 kMagicValue) := by
  refine slice_at (littleEndian 8 written.storedLength ++
    (littleEndian 8 kFullAotKind ++ (written.body ++ beyond))) ?_ length_nil
    (littleEndian_length _ _)
  rw [nil_append, bytes, append_assoc, append_assoc, append_assoc]

theorem slice_storedLength :
    slice (written.bytes ++ beyond) 4 8 = .ok (littleEndian 8 written.storedLength) := by
  refine slice_at (littleEndian 8 kFullAotKind ++ (written.body ++ beyond)) ?_
    (littleEndian_length 4 kMagicValue) (littleEndian_length _ _)
  rw [bytes, append_assoc, append_assoc, append_assoc]

theorem slice_kind :
    slice (written.bytes ++ beyond) 12 8 = .ok (littleEndian 8 kFullAotKind) := by
  have hleft : (littleEndian 4 kMagicValue ++ littleEndian 8 written.storedLength).length = 12 := by
    rw [length_append, littleEndian_length, littleEndian_length]
  refine slice_at (written.body ++ beyond) ?_ hleft (littleEndian_length _ _)
  rw [bytes, append_assoc, append_assoc, append_assoc, append_assoc]

/-- What lies at an offset inside the buffer. -/
theorem slice_drop {buffer middle rest : List Byte} {offset count : Nat}
    (hoffset : offset ≤ buffer.length) (hdrop : buffer.drop offset = middle ++ rest)
    (hmiddle : middle.length = count) : slice buffer offset count = .ok middle := by
  refine slice_at rest ?_ (length_take_of_le hoffset) hmiddle
  rw [← hdrop, take_append_drop]

theorem parseHeader : parseDartSnapshotHeader (written.bytes ++ beyond) = .ok written.header := by
  have hstored := written.storedLength_eq
  have hfits := written.fits
  have hlength : (written.bytes ++ beyond).length = written.storedLength + 4 + beyond.length := by
    rw [length_append, bytes_length]
  have hpos := write_length_pos written.programHash.toInt
  have hhash : slice (written.bytes ++ beyond) kHeaderSize kHashSize = .ok written.hash.val :=
    slice_drop (by unfold kHeaderSize; omega) (written.drop_hash beyond) written.hash.property.1
  have hword := word_littleEndian (by decide : kMagicValue < 2 ^ 32)
  have hkind := xword_littleEndian (by decide : kFullAotKind < 2 ^ 64)
  have hxword := xword_littleEndian (by omega : written.storedLength < 2 ^ 64)
  have hremaining : written.features.val.length <
      written.storedLength + 4 - kHeaderSize - kHashSize := by
    unfold kHeaderSize
    omega
  have hfeatures := strnlen_text (written.drop_features beyond) written.features.property hremaining
  have htext : slice (written.bytes ++ beyond) (kHeaderSize + kHashSize)
      written.features.val.length = .ok written.features.val :=
    slice_drop (by unfold kHeaderSize; omega) (written.drop_features beyond) rfl
  unfold parseDartSnapshotHeader
  rw [require_bind_of (by unfold kMinimumSize kHeaderSize; omega), slice_magic, ok_bind,
    slice_storedLength, ok_bind, slice_kind, ok_bind, hword, hkind, hxword,
    require_bind_of ⟨rfl, by omega, rfl, by omega⟩]
  rw [require_bind_of (by unfold kMinimumSize kHeaderSize; omega), hhash, ok_bind,
    require_bind_of written.hash.property.2]
  dsimp only
  rw [hfeatures, ok_bind, require_bind_of (by omega),
    require_bind_of (by unfold kHeaderSize; omega), htext, ok_bind]
  rfl

theorem parseProgramHash :
    parseDartDeferredProgramHash (written.bytes ++ beyond) written.header =
      .ok written.programHash := by
  have hstored := written.storedLength_eq
  have hpos := write_length_pos written.programHash.toInt
  have hfive := write_toInt_length_le written.programHash
  have hlength : (written.bytes ++ beyond).length = written.storedLength + 4 + beyond.length := by
    rw [length_append, bytes_length]
  have hend : written.header.payloadOffset +
      (write written.programHash.toInt).length ≤ written.header.declaredLength := by
    show kHeaderSize + kHashSize + written.features.val.length + 1 + _ ≤ written.storedLength + 4
    unfold kHeaderSize
    omega
  have hdeclared : written.header.declaredLength = written.storedLength + 4 := rfl
  have hdecoded : decodeProgramHashFrom (written.bytes ++ beyond) written.header kMaxEncodedBytes
      0 0 = .ok (written.programHash, (write written.programHash.toInt).length) := by
    have hdrop : (written.bytes ++ beyond).drop (written.header.payloadOffset + 0) = _ :=
      written.drop_payload beyond
    have hzero : (0 : BitVec 32).toNat < 2 ^ (0 * 7) := by decide
    have hsum : 0 + written.programHash = written.programHash := BitVec.zero_add _
    rw [decodeProgramHashFrom_write hdrop hfive (Nat.zero_add _) hend hzero, Nat.zero_mul, pow_zero,
      mul_one, BitVec.ofInt_toInt, Nat.zero_add, hsum]
  unfold parseDartDeferredProgramHash
  rw [require_bind_of (by omega), hdecoded, ok_bind]
  show (require _ >>= fun _ => _) = _
  rw [require_bind_of (by omega), canonicalBytes_eq, if_pos hfive]
  show (require _ >>= fun _ => _) = _
  rw [require_bind_of rfl, slice_drop (by omega) (written.drop_payload beyond) rfl, ok_bind,
    require_bind_of rfl]

end WrittenSnapshot

/-! ## What was taken apart -/

/-- A program hash stands in its canonical form before the declared end. -/
theorem parseDartDeferredProgramHash_written {bytes : List Byte} {header : DartSnapshotHeader}
    {value : BitVec 32} (h : parseDartDeferredProgramHash bytes header = .ok value) :
    write value.toInt <+: bytes.drop header.payloadOffset ∧
      header.payloadOffset + (write value.toInt).length ≤ header.declaredLength ∧
        header.declaredLength ≤ bytes.length := by
  obtain ⟨⟨-, hdeclared⟩, h⟩ := require_bind_eq_ok.mp h
  obtain ⟨⟨decoded, encodedSize⟩, hdecoded, h⟩ := bind_eq_ok.mp h
  obtain ⟨-, -, hend⟩ := decodeProgramHashFrom_le hdecoded
  obtain ⟨⟨hsize, -⟩, h⟩ := require_bind_eq_ok.mp h
  rw [canonicalBytes_eq, if_pos (write_toInt_length_le decoded)] at h
  obtain ⟨hlength, h⟩ := require_bind_eq_ok.mp h
  obtain ⟨written, hwritten, h⟩ := bind_eq_ok.mp h
  obtain ⟨hcanonical, h⟩ := require_bind_eq_ok.mp h
  obtain rfl := Except.ok.inj h
  obtain ⟨-, htake⟩ := slice_eq_ok.mp hwritten
  refine ⟨?_, ?_, hdeclared⟩
  · rw [hcanonical, htake]
    exact take_prefix _ _
  · rw [hlength]
    exact hend (Nat.pos_of_ne_zero hsize)

/-- The header and the program hash of what a writer emits are the ones that it put in, whatever lies
beyond the declared end; a hash that is accepted stands in the writer's form inside the declared
length and inside the buffer; and no buffer makes either of the two read outside of it. -/
theorem snapshot_header_exact :
    (∀ (written : WrittenSnapshot) (beyond : List Byte),
      parseDartSnapshotHeader (written.bytes ++ beyond) = .ok written.header ∧
        parseDartDeferredProgramHash (written.bytes ++ beyond) written.header =
          .ok written.programHash) ∧
    (∀ (bytes : List Byte) (header : DartSnapshotHeader) (value : BitVec 32),
      parseDartSnapshotHeader bytes = .ok header →
        parseDartDeferredProgramHash bytes header = .ok value →
          write value.toInt <+: bytes.drop header.payloadOffset ∧
            header.payloadOffset + (write value.toInt).length ≤
              header.declaredLength ∧ header.declaredLength ≤ bytes.length) ∧
    (∀ bytes : List Byte, Inside (parseDartSnapshotHeader bytes)) ∧
    ∀ (bytes : List Byte) (header : DartSnapshotHeader),
      Inside (parseDartDeferredProgramHash bytes header) := by
  refine ⟨?_, ?_, parseDartSnapshotHeader_inside, parseDartDeferredProgramHash_inside⟩
  · intro written beyond
    exact ⟨written.parseHeader beyond, written.parseProgramHash beyond⟩
  · intro bytes header value _ hvalue
    exact parseDartDeferredProgramHash_written hvalue

/-- A deferred unit without features, whose program hash is minus one. -/
def WrittenSnapshot.deferredUnit : WrittenSnapshot where
  hash := ⟨List.replicate kHashSize 0x61, by decide, by decide⟩
  features := ⟨[], not_mem_nil⟩
  programHash := 0xffffffff
  trailing := [0x5a]
  fits := by
    have hfive := write_toInt_length_le 0xffffffff
    unfold kMaxEncodedBytes at hfive
    simp only [kHashSize, length_nil, length_singleton]
    omega

theorem snapshot_header_exact_deferredUnit :
    parseDartDeferredProgramHash (WrittenSnapshot.deferredUnit.bytes ++ [0x7f])
        WrittenSnapshot.deferredUnit.header = .ok 0xffffffff ∧
      write (-1) <+:
        (WrittenSnapshot.deferredUnit.bytes ++ [0x7f]).drop 53 := by
  have hread := snapshot_header_exact.1 WrittenSnapshot.deferredUnit [0x7f]
  exact ⟨hread.2, (snapshot_header_exact.2.1 _ _ _ hread.1 hread.2).1⟩

end DartPlant
