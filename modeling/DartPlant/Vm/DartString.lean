import DartPlant.Interceptor.Invocation
import DartPlant.Lib.ByteImage
import DartPlant.Lib.UnicodeForms

/-! # Strings of the Dart heap

A string object holds its code units one or two bytes wide.  The reader checks the header of the
object, reads the payload, in chunks where its units are bytes, and writes the code points in UTF-8
into a buffer that it never leaves, with a terminator behind them.
-/

namespace DartPlant
open ByteImage Utf8 List

/-- What a profile records of string objects. -/
structure DartStringLayout where
  rawObject : RawObjectLayout
  cidOneByteString : Nat
  cidTwoByteString : Nat
  stringLengthOffset : Nat
  stringDataOffset : Nat
  deriving DecidableEq, Repr

/-- The two classes of strings. -/
inductive StringWidth where
  | oneByte
  | twoByte
  deriving DecidableEq, Repr

def StringWidth.bytes : StringWidth → Nat
  | oneByte => 1
  | twoByte => 2

/-- The output of the reader, which goes on behind its capacity, and the place of the next byte. -/
structure Utf8Writer where
  output : Nat → BitVec 8
  cursor : Nat

open Utf8Writer

namespace Utf8Writer

def put (writer : Utf8Writer) (byte : BitVec 8) : Utf8Writer where
  output := Function.update writer.output writer.cursor byte
  cursor := writer.cursor + 1

/-- How many bytes a code point takes. -/
def encodedSize (codePoint : BitVec 32) : Option Nat :=
  if codePoint.toNat ≤ 0x7f then some 1
  else if codePoint.toNat ≤ 0x7ff then some 2
  else if codePoint.toNat ≤ 0xffff then some 3
  else if codePoint.toNat ≤ 0x10ffff then some 4
  else none

/-- `append`.  Either way the writer is left as it is then. -/
def append (capacity : Nat) (writer : Utf8Writer) (codePoint : BitVec 32) :
    Except Utf8Writer Utf8Writer :=
  match encodedSize codePoint with
  | none => .error writer
  | some size =>
    if capacity ≤ writer.cursor ∨ capacity - writer.cursor ≤ size then .error writer
    else if size = 1 then .ok (writer.put (codePoint.setWidth 8))
    else if size = 2 then
      .ok ((writer.put ((0xc0#32 ||| codePoint >>> 6).setWidth 8)).put
        ((0x80#32 ||| codePoint &&& 0x3f#32).setWidth 8))
    else if size = 3 then
      .ok (((writer.put ((0xe0#32 ||| codePoint >>> 12).setWidth 8)).put
        ((0x80#32 ||| codePoint >>> 6 &&& 0x3f#32).setWidth 8)).put
          ((0x80#32 ||| codePoint &&& 0x3f#32).setWidth 8))
    else
      .ok ((((writer.put ((0xf0#32 ||| codePoint >>> 18).setWidth 8)).put
        ((0x80#32 ||| codePoint >>> 12 &&& 0x3f#32).setWidth 8)).put
          ((0x80#32 ||| codePoint >>> 6 &&& 0x3f#32).setWidth 8)).put
            ((0x80#32 ||| codePoint &&& 0x3f#32).setWidth 8))

/-- The loop over the bytes of a chunk. -/
def appendBytes (capacity : Nat) (writer : Utf8Writer) (bytes : List (BitVec 8)) :
    Except Utf8Writer Utf8Writer :=
  bytes.foldlM (fun writer byte => append capacity writer (byte.setWidth 32)) writer

/-- `kChunkBytes`. -/
def kChunkBytes : Nat := 256

/-- The loop over the chunks of a one-byte payload. -/
def appendChunks (image : Image) (data : BitVec 64) (capacity length chunkStart : Nat)
    (writer : Utf8Writer) : Except Utf8Writer Utf8Writer :=
  if chunkStart < length then
    match read image (data + BitVec.ofNat 64 chunkStart) (min kChunkBytes (length - chunkStart)) with
    | none => .error writer
    | some bytes => do
      let writer ← appendBytes capacity writer bytes
      appendChunks image data capacity length (chunkStart + kChunkBytes) writer
  else .ok writer
termination_by length - chunkStart
decreasing_by
  unfold kChunkBytes
  omega

/-- The loop over the units of a two-byte payload. -/
def appendUnits (capacity : Nat) (writer : Utf8Writer) :
    List (BitVec 16) → Except Utf8Writer Utf8Writer
  | [] => .ok writer
  | unit :: rest =>
    if 0xd800#16 ≤ unit ∧ unit ≤ 0xdbff#16 then
      match rest with
      | [] => .error writer
      | next :: rest =>
        if next < 0xdc00#16 ∨ 0xdfff#16 < next then .error writer
        else do
          let writer ← append capacity writer
            (0x10000#32 + (unit.setWidth 32 - 0xd800#32) <<< 10 + (next.setWidth 32 - 0xdc00#32))
          appendUnits capacity writer rest
    else if 0xdc00#16 ≤ unit ∧ unit ≤ 0xdfff#16 then .error writer
    else do
      let writer ← append capacity writer (unit.setWidth 32)
      appendUnits capacity writer rest

end Utf8Writer

/-- The units that some bytes hold. -/
def unitsOfBytes : List (BitVec 8) → List (BitVec 16)
  | low :: high :: rest => (high ++ low) :: unitsOfBytes rest
  | _ => []

/-- The class that a class id names. -/
def stringWidth (layout : DartStringLayout) (cid : Nat) : Option StringWidth :=
  if cid = layout.cidOneByteString then some .oneByte
  else if cid = layout.cidTwoByteString then some .twoByte
  else none

/-- The class id in the tags of an object. -/
def classIdOf (layout : DartStringLayout) (tags : Nat) : Nat :=
  tags / 2 ^ layout.rawObject.classIdTagShift % 2 ^ layout.rawObject.classIdTagBits % 2 ^ 32

/-- The checks of the header: the class of the string and its length. -/
def readStringHeader (layout : DartStringLayout) (image : Image) (tagged : BitVec 64) :
    Option (StringWidth × Nat) := do
  let raw := layout.rawObject
  guard (raw.compressedWordSize = 4 ∧ tagged.toNat &&& raw.smiTagMask = raw.heapObjectTag ∧
    raw.heapObjectTag ≤ tagged.toNat ∧ raw.classIdTagBits ≠ 0 ∧ raw.classIdTagBits < 64)
  let object := tagged - BitVec.ofNat 64 raw.heapObjectTag
  let tags ← readValue image object 8
  let width ← stringWidth layout (classIdOf layout tags)
  let rawLength ← readValue image (object + BitVec.ofNat 64 layout.stringLengthOffset) 4
  guard (rawLength &&& raw.smiTagMask = raw.smiTag ∧ raw.smiTagShift < 32)
  let length := rawLength >>> raw.smiTagShift
  guard (length ≤ 2 ^ 20)
  some (width, length)

/-- The address of the payload. -/
def stringData (layout : DartStringLayout) (tagged : BitVec 64) : BitVec 64 :=
  tagged - BitVec.ofNat 64 layout.rawObject.heapObjectTag + BitVec.ofNat 64 layout.stringDataOffset

/-- The payload of either class. -/
def appendPayload (layout : DartStringLayout) (image : Image) (tagged : BitVec 64) (capacity : Nat)
    (writer : Utf8Writer) : StringWidth × Nat → Except Utf8Writer Utf8Writer
  | (.oneByte, length) =>
    writer.appendChunks image (stringData layout tagged) capacity length 0
  | (.twoByte, length) =>
    match if length = 0 then some [] else read image (stringData layout tagged) (length * 2) with
    | none => .error writer
    | some bytes => writer.appendUnits capacity (unitsOfBytes bytes)

/-- `ReadDartStringUtf8`: the output after a success or after a failure. -/
def readDartStringUtf8 (layout : DartStringLayout) (image : Image) (tagged : BitVec 64)
    (capacity : Nat) (output : Nat → BitVec 8) : Except (Nat → BitVec 8) (Nat → BitVec 8) :=
  if capacity = 0 then .error output
  else match readStringHeader layout image tagged with
    | none => .error output
    | some header =>
      match appendPayload layout image tagged capacity ⟨Function.update output 0 0, 0⟩ header with
      | .error writer => .error writer.output
      | .ok writer => .ok (writer.put 0).output

namespace Utf8Writer

/-! ## The writer -/

/-- The bytes, one after the other. -/
def write (writer : Utf8Writer) (bytes : List (BitVec 8)) : Utf8Writer := bytes.foldl put writer

theorem write_append (writer : Utf8Writer) (bytes rest : List (BitVec 8)) :
    writer.write (bytes ++ rest) = (writer.write bytes).write rest := foldl_append

theorem write_cursor (writer : Utf8Writer) (bytes : List (BitVec 8)) :
    (writer.write bytes).cursor = writer.cursor + bytes.length := by
  induction bytes generalizing writer with
  | nil => rfl
  | cons byte bytes ih =>
    show ((writer.put byte).write bytes).cursor = _
    rw [ih, length_cons, Nat.add_comm bytes.length, ← Nat.add_assoc]
    rfl

/-- What lies in front of the cursor stays. -/
theorem write_output_before {writer : Utf8Writer} {bytes : List (BitVec 8)} {index : Nat}
    (h : index < writer.cursor) : (writer.write bytes).output index = writer.output index := by
  induction bytes generalizing writer with
  | nil => rfl
  | cons byte bytes ih =>
    show ((writer.put byte).write bytes).output index = _
    rw [ih (Nat.lt_succ_of_lt h)]
    exact Function.update_of_ne (Nat.ne_of_lt h) _ _

/-- The bytes stand from the cursor on, and nothing else changes. -/
theorem write_output (writer : Utf8Writer) (bytes : List (BitVec 8)) (index : Nat) :
    (writer.write bytes).output (writer.cursor + index) =
      bytes[index]?.getD (writer.output (writer.cursor + index)) := by
  induction bytes generalizing writer index with
  | nil => rfl
  | cons byte bytes ih =>
    show ((writer.put byte).write bytes).output (writer.cursor + index) = _
    cases index with
    | zero =>
      rw [write_output_before (Nat.lt_succ_self _)]
      exact Function.update_self _ _ _
    | succ index =>
      have hplace : writer.cursor + (index + 1) = (writer.put byte).cursor + index := by
        rw [Nat.add_comm index, ← Nat.add_assoc]
        rfl
      have hother : (writer.put byte).output ((writer.put byte).cursor + index) =
          writer.output ((writer.put byte).cursor + index) := by
        refine Function.update_of_ne ?_ _ _
        show writer.cursor + 1 + index ≠ writer.cursor
        omega
      rw [hplace, ih, hother, List.getElem?_cons_succ]

/-! ## Code points -/

/-- A marker over bits that it leaves free. -/
theorem marked_eq {codePoint : BitVec 32} {marker bits : Nat} (shift : Nat)
    (hmarker : 2 ^ shift ∣ marker) (hsmall : codePoint.toNat < 2 ^ shift) (hfits : marker < 2 ^ 32)
    (hbits : codePoint.toNat = bits) :
    (BitVec.ofNat 32 marker ||| codePoint).setWidth 8 = BitVec.ofNat 8 (bits + marker) := by
  obtain ⟨factor, rfl⟩ := hmarker
  subst hbits
  refine BitVec.eq_of_toNat_eq ?_
  rw [BitVec.toNat_setWidth, BitVec.toNat_or, BitVec.toNat_ofNat, BitVec.toNat_ofNat,
    Nat.mod_eq_of_lt hfits, ← Nat.two_pow_add_eq_or_of_lt hsmall, Nat.add_comm]

theorem toNat_shifted (codePoint : BitVec 32) (shift : Nat) :
    (codePoint >>> shift).toNat = codePoint.toNat / 2 ^ shift := by
  rw [BitVec.toNat_ushiftRight, Nat.shiftRight_eq_div_pow]

theorem toNat_masked (codePoint : BitVec 32) :
    (codePoint &&& 0x3f#32).toNat = codePoint.toNat % 64 := by
  rw [BitVec.toNat_and]
  exact Nat.and_two_pow_sub_one_eq_mod _ 6

/-- The bytes that a code point of a given size is written as. -/
def encodedBytes (codePoint : BitVec 32) : Nat → List (BitVec 8)
  | 1 => [codePoint.setWidth 8]
  | 2 => [(0xc0#32 ||| codePoint >>> 6).setWidth 8,
      (0x80#32 ||| codePoint &&& 0x3f#32).setWidth 8]
  | 3 => [(0xe0#32 ||| codePoint >>> 12).setWidth 8,
      (0x80#32 ||| codePoint >>> 6 &&& 0x3f#32).setWidth 8,
      (0x80#32 ||| codePoint &&& 0x3f#32).setWidth 8]
  | 4 => [(0xf0#32 ||| codePoint >>> 18).setWidth 8,
      (0x80#32 ||| codePoint >>> 12 &&& 0x3f#32).setWidth 8,
      (0x80#32 ||| codePoint >>> 6 &&& 0x3f#32).setWidth 8,
      (0x80#32 ||| codePoint &&& 0x3f#32).setWidth 8]
  | _ => []

theorem append_eq {codePoint : BitVec 32} {size : Nat} (capacity : Nat) (writer : Utf8Writer)
    (hsize : encodedSize codePoint = some size) :
    append capacity writer codePoint =
      if writer.cursor + size < capacity then .ok (writer.write (encodedBytes codePoint size))
      else .error writer := by
  have hsizes : size = 1 ∨ size = 2 ∨ size = 3 ∨ size = 4 := by
    unfold encodedSize at hsize
    grind
  unfold append
  rw [hsize]
  dsimp only
  by_cases hroom : writer.cursor + size < capacity
  · rw [if_neg (by omega), if_pos hroom]
    obtain rfl | rfl | rfl | rfl := hsizes <;> rfl
  · rw [if_pos (by omega), if_neg hroom]

theorem encodedBytes_point (point : Char) :
    ∃ size, encodedSize (BitVec.ofNat 32 point.toNat) = some size ∧
      encodedBytes (BitVec.ofNat 32 point.toNat) size = bytesOf point ∧
        (bytesOf point).length = size := by
  have hvalid : point.toNat.isValidChar := point.valid
  unfold Nat.isValidChar at hvalid
  have hnumber : (BitVec.ofNat 32 point.toNat).toNat = point.toNat := by
    rw [BitVec.toNat_ofNat, Nat.mod_eq_of_lt (by omega)]
  have hshifted (shift : Nat) :
      (BitVec.ofNat 32 point.toNat >>> shift).toNat = point.toNat / 2 ^ shift := by
    rw [toNat_shifted, hnumber]
  have hmasked (shift : Nat) : (BitVec.ofNat 32 point.toNat >>> shift &&& 0x3f#32).toNat =
      point.toNat / 2 ^ shift % 64 := by
    rw [toNat_masked, hshifted]
  have hlast : (0x80#32 ||| BitVec.ofNat 32 point.toNat &&& 0x3f#32).setWidth 8 =
      BitVec.ofNat 8 (point.toNat % 0x40 + 0x80) := by
    have htoNat := toNat_masked (BitVec.ofNat 32 point.toNat)
    rw [hnumber] at htoNat
    exact marked_eq 6 (by decide) (by omega) (by decide) htoNat
  have hmiddle (shift : Nat) :
      (0x80#32 ||| BitVec.ofNat 32 point.toNat >>> shift &&& 0x3f#32).setWidth 8 =
        BitVec.ofNat 8 (point.toNat / 2 ^ shift % 0x40 + 0x80) :=
    marked_eq 6 (by decide) (by rw [hmasked]; omega) (by decide) (hmasked shift)
  unfold encodedSize
  rw [hnumber]
  obtain ⟨hone, hbytes⟩ | ⟨hone, htwo, hbytes⟩ | ⟨htwo, hthree, hbytes⟩ | ⟨hthree, hbytes⟩ :=
    bytesOf_cases point
  · refine ⟨1, if_pos hone, ?_, congrArg List.length hbytes⟩
    have hbyte : (BitVec.ofNat 32 point.toNat).setWidth 8 = BitVec.ofNat 8 point.toNat := by
      refine BitVec.eq_of_toNat_eq ?_
      rw [BitVec.toNat_setWidth, hnumber, BitVec.toNat_ofNat]
    rw [hbytes, encodedBytes, hbyte]
  · refine ⟨2, by rw [if_neg (by omega), if_pos htwo], ?_, congrArg List.length hbytes⟩
    have hfirst : (0xc0#32 ||| BitVec.ofNat 32 point.toNat >>> 6).setWidth 8 =
        BitVec.ofNat 8 (point.toNat / 64 % 0x20 + 0xc0) :=
      marked_eq 5 (by decide) (by rw [hshifted]; omega) (by decide) (by rw [hshifted]; omega)
    rw [hbytes, encodedBytes, hfirst, hlast]
  · refine ⟨3, by rw [if_neg (by omega), if_neg (by omega), if_pos hthree], ?_,
      congrArg List.length hbytes⟩
    have hfirst : (0xe0#32 ||| BitVec.ofNat 32 point.toNat >>> 12).setWidth 8 =
        BitVec.ofNat 8 (point.toNat / 4096 % 0x10 + 0xe0) :=
      marked_eq 4 (by decide) (by rw [hshifted]; omega) (by decide) (by rw [hshifted]; omega)
    rw [hbytes, encodedBytes, hfirst, hmiddle, hlast]
    rfl
  · have hplanes : point.toNat ≤ 0x10ffff := by omega
    refine ⟨4, by rw [if_neg (by omega), if_neg (by omega), if_neg (by omega), if_pos hplanes], ?_,
      congrArg List.length hbytes⟩
    have hfirst : (0xf0#32 ||| BitVec.ofNat 32 point.toNat >>> 18).setWidth 8 =
        BitVec.ofNat 8 (point.toNat / 262144 % 0x08 + 0xf0) :=
      marked_eq 3 (by decide) (by rw [hshifted]; omega) (by decide) (by rw [hshifted]; omega)
    rw [hbytes, encodedBytes, hfirst, hmiddle, hmiddle, hlast]
    rfl

/-- A code point is written where it leaves room for a terminator. -/
theorem append_point (capacity : Nat) (writer : Utf8Writer) (point : Char) :
    append capacity writer (BitVec.ofNat 32 point.toNat) =
      if writer.cursor + (bytesOf point).length < capacity then
        .ok (writer.write (bytesOf point))
      else .error writer := by
  obtain ⟨size, hsize, hbytes, hlength⟩ := encodedBytes_point point
  rw [append_eq capacity writer hsize, hbytes, hlength]

/-! ## Texts -/

/-- The code points of a text, one after the other. -/
def appendPoints (capacity : Nat) (writer : Utf8Writer) (points : List Char) :
    Except Utf8Writer Utf8Writer :=
  points.foldlM (fun writer point => append capacity writer (BitVec.ofNat 32 point.toNat)) writer

section Points
variable {capacity : Nat} {writer : Utf8Writer}

theorem appendPoints_append (points rest : List Char) :
    appendPoints capacity writer (points ++ rest) =
      (appendPoints capacity writer points).bind fun writer => appendPoints capacity writer rest :=
  foldlM_append

/-- A text is written where it leaves room for the terminator. -/
theorem appendPoints_fits {points : List Char}
    (h : writer.cursor + (encode points).length < capacity) :
    appendPoints capacity writer points = .ok (writer.write (encode points)) := by
  induction points generalizing writer with
  | nil => rfl
  | cons point points ih =>
    rw [encode_cons, length_append] at h
    have hcursor := write_cursor writer (bytesOf point)
    unfold appendPoints
    rw [foldlM_cons, append_point, if_pos (by omega), encode_cons, write_append]
    exact ih (by omega)

/-- A text that leaves no room is refused. -/
theorem appendPoints_overflow {points : List Char} (hcursor : writer.cursor < capacity)
    (h : capacity ≤ writer.cursor + (encode points).length) :
    ∃ left, appendPoints capacity writer points = .error left := by
  induction points generalizing writer with
  | nil => exact absurd h (Nat.not_le.mpr hcursor)
  | cons point points ih =>
    rw [encode_cons, length_append] at h
    unfold appendPoints
    rw [foldlM_cons, append_point]
    split
    next hroom =>
      have hnext := write_cursor writer (bytesOf point)
      exact ih (by omega) (by omega)
    next hroom => exact ⟨writer, rfl⟩

/-- The code point of a Latin-1 byte. -/
def latin1 (byte : BitVec 8) : Char := Char.ofNat byte.toNat

theorem latin1_toNat (byte : BitVec 8) : (latin1 byte).toNat = byte.toNat := by
  have hlt := byte.isLt
  refine Utf16.toNat_ofNat ?_
  unfold Nat.isValidChar
  omega

theorem appendBytes_eq (bytes : List (BitVec 8)) :
    appendBytes capacity writer bytes = appendPoints capacity writer (bytes.map latin1) := by
  unfold appendBytes appendPoints
  rw [foldlM_map]
  have hstep : (fun (writer : Utf8Writer) (byte : BitVec 8) =>
      append capacity writer (byte.setWidth 32)) =
        fun writer byte => append capacity writer (BitVec.ofNat 32 (latin1 byte).toNat) := by
    funext writer byte
    rw [latin1_toNat, BitVec.ofNat_toNat]
  rw [hstep]

/-- The chunks are read as the whole payload. -/
theorem appendChunks_eq {image : Image} {data : BitVec 64} {length chunkStart : Nat} :
    (∀ bytes, read image (data + BitVec.ofNat 64 chunkStart) (length - chunkStart) = some bytes →
      appendChunks image data capacity length chunkStart writer =
        appendPoints capacity writer (bytes.map latin1)) ∧
    (read image (data + BitVec.ofNat 64 chunkStart) (length - chunkStart) = none →
      ∃ left, appendChunks image data capacity length chunkStart writer = .error left) := by
  induction hleft : length - chunkStart using Nat.strong_induction_on
    generalizing chunkStart writer with
  | _ left ih =>
    unfold appendChunks
    by_cases hmore : chunkStart < length
    · obtain ⟨rest, hrest⟩ := Nat.exists_eq_add_of_le (Nat.min_le_right kChunkBytes left)
      have hpos : 0 < kChunkBytes := by decide
      have hstart : length - (chunkStart + kChunkBytes) = rest := by omega
      -- Behind the last chunk there is nothing to read, wherever the next one would begin.
      have hnext : read image (data + BitVec.ofNat 64 chunkStart +
          BitVec.ofNat 64 (min kChunkBytes left)) rest =
            read image (data + BitVec.ofNat 64 (chunkStart + kChunkBytes)) rest := by
        by_cases hlast : left ≤ kChunkBytes
        · have hzero : rest = 0 := by omega
          subst hzero
          rfl
        · rw [Nat.min_eq_left (Nat.le_of_not_le hlast), BitVec.add_assoc, ← BitVec.ofNat_add]
      have hread := read_add image (data + BitVec.ofNat 64 chunkStart)
        (min kChunkBytes left) rest
      rw [← hrest, hnext] at hread
      rw [if_pos hmore, hleft, hread]
      cases read image (data + BitVec.ofNat 64 chunkStart) (min kChunkBytes left) with
      | none => exact ⟨nofun, fun _ => ⟨writer, rfl⟩⟩
      | some chunk =>
        dsimp only
        rw [appendBytes_eq, Option.bind_some]
        cases hmoreRead : read image (data + BitVec.ofNat 64 (chunkStart + kChunkBytes)) rest with
        | none =>
          refine ⟨nofun, fun _ => ?_⟩
          cases appendPoints capacity writer (chunk.map latin1) with
          | error stopped => exact ⟨stopped, rfl⟩
          | ok next => exact (ih rest (by omega) hstart).2 hmoreRead
        | some more =>
          refine ⟨fun bytes hbytes => ?_, nofun⟩
          obtain rfl := Option.some.inj hbytes
          rw [map_append, appendPoints_append]
          cases appendPoints capacity writer (chunk.map latin1) with
          | error stopped => rfl
          | ok next => exact (ih rest (by omega) hstart).1 more hmoreRead
    · have hzero : left = 0 := by omega
      subst hzero
      rw [if_neg hmore]
      refine ⟨fun bytes hbytes => ?_, nofun⟩
      obtain rfl := Option.some.inj hbytes
      rfl

theorem not_low_iff {unit : BitVec 16} :
    (unit < 0xdc00#16 ∨ 0xdfff#16 < unit) ↔ ¬Utf16.Low unit := by
  rw [BitVec.lt_def, BitVec.lt_def, Utf16.Low, BitVec.toNat_ofNat, BitVec.toNat_ofNat]
  omega

/-- The code point of two surrogates. -/
theorem pair_eq {high low : BitVec 16} (hhigh : Utf16.High high) (hlow : Utf16.Low low) :
    0x10000#32 + (high.setWidth 32 - 0xd800#32) <<< 10 + (low.setWidth 32 - 0xdc00#32) =
      BitVec.ofNat 32 (Utf16.pairNumber high low) := by
  have hhighNumber : (high.setWidth 32 - 0xd800#32).toNat = high.toNat - 0xd800 := by
    unfold Utf16.High at hhigh
    rw [BitVec.toNat_sub, BitVec.toNat_setWidth, BitVec.toNat_ofNat]
    omega
  have hlowNumber : (low.setWidth 32 - 0xdc00#32).toNat = low.toNat - 0xdc00 := by
    unfold Utf16.Low at hlow
    rw [BitVec.toNat_sub, BitVec.toNat_setWidth, BitVec.toNat_ofNat]
    omega
  refine BitVec.eq_of_toNat_eq ?_
  rw [BitVec.toNat_add, BitVec.toNat_add, BitVec.toNat_shiftLeft, Nat.shiftLeft_eq, hhighNumber,
    hlowNumber, BitVec.toNat_ofNat, BitVec.toNat_ofNat]
  unfold Utf16.pairNumber
  omega

/-- A unit that is no surrogate is a code point. -/
theorem appendUnits_unit {unit : BitVec 16} {rest : List (BitVec 16)} (hhigh : ¬Utf16.High unit)
    (hlow : ¬Utf16.Low unit) :
    appendUnits capacity writer (unit :: rest) =
      (append capacity writer (unit.setWidth 32)).bind fun writer =>
        appendUnits capacity writer rest := by
  rw [appendUnits.eq_def]
  exact (if_neg hhigh).trans (if_neg hlow)

/-- Two surrogates are one code point. -/
theorem appendUnits_pair {high low : BitVec 16} {rest : List (BitVec 16)}
    (hhigh : Utf16.High high) (hlow : Utf16.Low low) :
    appendUnits capacity writer (high :: low :: rest) =
      (append capacity writer (BitVec.ofNat 32 (Utf16.pairNumber high low))).bind fun writer =>
        appendUnits capacity writer rest := by
  rw [appendUnits.eq_def, ← pair_eq hhigh hlow]
  exact (if_pos hhigh).trans (if_neg fun h => not_low_iff.mp h hlow)

theorem appendUnits_encode (points : List Char) :
    appendUnits capacity writer (Utf16.encode points) = appendPoints capacity writer points := by
  induction points generalizing writer with
  | nil => rfl
  | cons point points ih =>
    have hpoints : appendPoints capacity writer (point :: points) =
        (append capacity writer (BitVec.ofNat 32 point.toNat)).bind fun writer =>
          appendPoints capacity writer points := foldlM_cons
    have hrest : (fun writer => appendUnits capacity writer (Utf16.encode points)) =
        fun writer => appendPoints capacity writer points := funext fun writer => ih
    rw [hpoints, ← hrest, Utf16.encode_cons]
    obtain ⟨unit, hunits, hhigh, hlow, hpoint⟩ | ⟨high, low, hunits, hhigh, hlow, hpoint⟩ :=
      Utf16.unitsOf_cases point
    · rw [hunits, ← hpoint, BitVec.ofNat_toNat]
      exact appendUnits_unit hhigh hlow
    · rw [hunits, ← hpoint]
      exact appendUnits_pair hhigh hlow

/-- What the loop over the units accepts has all its surrogates paired. -/
theorem paired_of_appendUnits {units : List (BitVec 16)} {left : Utf8Writer}
    (h : appendUnits capacity writer units = .ok left) : Utf16.Paired units := by
  fun_induction appendUnits capacity writer units with
  | case1 => exact .nil
  | case2 => cases h
  | case3 => cases h
  | case4 writer unit hhigh next rest hlow ih =>
    cases hstep : append capacity writer
        (0x10000#32 + (unit.setWidth 32 - 0xd800#32) <<< 10 + (next.setWidth 32 - 0xdc00#32)) with
    | error stopped =>
      rw [hstep] at h
      cases h
    | ok between =>
      rw [hstep] at h
      exact .pair hhigh (not_not.mp fun hnot => hlow (not_low_iff.mpr hnot)) (ih between h)
  | case5 => cases h
  | case6 writer unit rest hhigh hlow ih =>
    cases hstep : append capacity writer (unit.setWidth 32) with
    | error stopped =>
      rw [hstep] at h
      cases h
    | ok between =>
      rw [hstep] at h
      exact .unit hhigh hlow (ih between h)

end Points

/-! ## The capacity -/

/-- There is room for the terminator, and nothing behind the capacity was written. -/
structure Within (capacity : Nat) (output : Nat → BitVec 8) (writer : Utf8Writer) : Prop where
  room : writer.cursor < capacity
  beyond : ∀ index, capacity ≤ index → writer.output index = output index

/-- What a loop leaves behind, however it ended, stays within the capacity. -/
def Leaves (capacity : Nat) (output : Nat → BitVec 8) : Except Utf8Writer Utf8Writer → Prop
  | .ok writer => Within capacity output writer
  | .error writer => Within capacity output writer

section Capacity
variable {capacity : Nat} {output : Nat → BitVec 8} {writer : Utf8Writer}

theorem Within.write {bytes : List (BitVec 8)} (h : Within capacity output writer)
    (hroom : writer.cursor + bytes.length < capacity) :
    Within capacity output (writer.write bytes) := by
  refine ⟨by rwa [write_cursor], fun index hindex => ?_⟩
  obtain ⟨offset, rfl⟩ := Nat.exists_eq_add_of_le (by omega : writer.cursor ≤ index)
  rw [write_output, List.getElem?_eq_none (by omega), Option.getD_none]
  exact h.beyond _ hindex

theorem Leaves.bind {first : Except Utf8Writer Utf8Writer}
    {next : Utf8Writer → Except Utf8Writer Utf8Writer} (h : Leaves capacity output first)
    (hnext : ∀ writer, Within capacity output writer → Leaves capacity output (next writer)) :
    Leaves capacity output (first.bind next) := by
  cases first with
  | error writer => exact h
  | ok writer => exact hnext writer h

theorem Within.append (h : Within capacity output writer) (codePoint : BitVec 32) :
    Leaves capacity output (append capacity writer codePoint) := by
  cases hsize : encodedSize codePoint with
  | none =>
    unfold Utf8Writer.append
    rw [hsize]
    exact h
  | some size =>
    rw [append_eq capacity writer hsize]
    have hlength : (encodedBytes codePoint size).length ≤ size := by
      unfold encodedBytes
      split
      · exact Nat.le_refl _
      · exact Nat.le_refl _
      · exact Nat.le_refl _
      · exact Nat.le_refl _
      · exact Nat.zero_le _
    split
    next hroom => exact h.write (by omega)
    next => exact h

theorem Within.appendBytes (h : Within capacity output writer) (bytes : List (BitVec 8)) :
    Leaves capacity output (appendBytes capacity writer bytes) := by
  induction bytes generalizing writer with
  | nil => exact h
  | cons byte bytes ih =>
    unfold appendBytes
    rw [foldlM_cons]
    exact (h.append _).bind fun writer hwriter => ih hwriter

theorem Within.appendChunks (h : Within capacity output writer) (image : Image)
    (data : BitVec 64) (length chunkStart : Nat) :
    Leaves capacity output (appendChunks image data capacity length chunkStart writer) := by
  fun_induction Utf8Writer.appendChunks image data capacity length chunkStart writer with
  | case1 => exact h
  | case2 chunkStart writer hmore bytes hread ih =>
    exact (h.appendBytes bytes).bind fun writer hwriter => ih writer hwriter
  | case3 => exact h

theorem Within.appendUnits (h : Within capacity output writer) (units : List (BitVec 16)) :
    Leaves capacity output (appendUnits capacity writer units) := by
  fun_induction Utf8Writer.appendUnits capacity writer units with
  | case1 => exact h
  | case2 => exact h
  | case3 => exact h
  | case4 writer unit hhigh next rest hlow ih =>
    exact (h.append _).bind fun writer hwriter => ih writer hwriter
  | case5 => exact h
  | case6 writer unit rest hhigh hlow ih =>
    exact (h.append _).bind fun writer hwriter => ih writer hwriter

end Capacity

end Utf8Writer

/-! ## The string at a tagged word -/

/-- The header of a string object can be read at the tagged word. -/
structure IsDartString (layout : DartStringLayout) (image : Image) (tagged : BitVec 64)
    (width : StringWidth) (length : Nat) : Prop where
  compressed : layout.rawObject.compressedWordSize = 4
  heapObject : tagged.toNat &&& layout.rawObject.smiTagMask = layout.rawObject.heapObjectTag
  above : layout.rawObject.heapObjectTag ≤ tagged.toNat
  tagBits : layout.rawObject.classIdTagBits ≠ 0 ∧ layout.rawObject.classIdTagBits < 64
  tags : ∃ tags, readValue image (tagged - BitVec.ofNat 64 layout.rawObject.heapObjectTag) 8 =
    some tags ∧ stringWidth layout (classIdOf layout tags) = some width
  smi : ∃ rawLength, readValue image (tagged - BitVec.ofNat 64 layout.rawObject.heapObjectTag +
      BitVec.ofNat 64 layout.stringLengthOffset) 4 = some rawLength ∧
    rawLength &&& layout.rawObject.smiTagMask = layout.rawObject.smiTag ∧
      rawLength >>> layout.rawObject.smiTagShift = length
  smiShift : layout.rawObject.smiTagShift < 32
  accepted : length ≤ 2 ^ 20

/-- The text that a payload spells. -/
def SpellsText (bytes : List (BitVec 8)) (points : List Char) : StringWidth → Prop
  | .oneByte => points = bytes.map latin1
  | .twoByte => Utf16.encode points = unitsOfBytes bytes

/-- A string object with its payload can be read at the tagged word, and this is its text. -/
def DartText (layout : DartStringLayout) (image : Image) (tagged : BitVec 64)
    (points : List Char) : Prop :=
  ∃ width length bytes, IsDartString layout image tagged width length ∧
    read image (stringData layout tagged) (length * width.bytes) = some bytes ∧
      SpellsText bytes points width

section Reading
variable {layout : DartStringLayout} {image : Image} {tagged : BitVec 64} {width : StringWidth}
  {length : Nat}

/-- The checks of the header find the string objects. -/
theorem readStringHeader_iff :
    readStringHeader layout image tagged = some (width, length) ↔
      IsDartString layout image tagged width length := by
  unfold readStringHeader
  simp only [Option.bind_eq_bind, Option.bind_eq_some_iff, Option.guard_eq_some', exists_const]
  constructor
  · rintro ⟨⟨hcompressed, hheap, habove, hbits, hsmall⟩, tags, htags, found, hfound, rawLength,
      hraw, ⟨hsmi, hshift⟩, haccepted, hresult⟩
    obtain ⟨rfl, rfl⟩ := Prod.mk.inj (Option.some.inj hresult)
    exact ⟨hcompressed, hheap, habove, ⟨hbits, hsmall⟩, ⟨tags, htags, hfound⟩,
      ⟨rawLength, hraw, hsmi, rfl⟩, hshift, haccepted⟩
  · intro h
    obtain ⟨tags, htags, hwidth⟩ := h.tags
    obtain ⟨rawLength, hraw, hsmi, rfl⟩ := h.smi
    exact ⟨⟨h.compressed, h.heapObject, h.above, h.tagBits.1, h.tagBits.2⟩, tags, htags, width,
      hwidth, rawLength, hraw, ⟨hsmi, h.smiShift⟩, h.accepted, rfl⟩

/-- The payload of a one-byte string, from its first chunk on. -/
theorem read_oneByte :
    read image (stringData layout tagged + BitVec.ofNat 64 0) (length - 0) =
      read image (stringData layout tagged) (length * StringWidth.oneByte.bytes) := by
  have hstart : stringData layout tagged + BitVec.ofNat 64 0 = stringData layout tagged :=
    BitVec.add_zero _
  rw [hstart, Nat.sub_zero, StringWidth.bytes, Nat.mul_one]

/-- The payload of a two-byte string, which is not read where it is empty. -/
theorem read_twoByte :
    (if length = 0 then some [] else read image (stringData layout tagged) (length * 2)) =
      read image (stringData layout tagged) (length * StringWidth.twoByte.bytes) := by
  split
  next hzero =>
    subst hzero
    rfl
  next => rfl

/-- The loops over a payload write the text that it spells. -/
theorem appendPayload_text {capacity : Nat} {writer : Utf8Writer} {bytes : List (BitVec 8)}
    {points : List Char}
    (hread : read image (stringData layout tagged) (length * width.bytes) = some bytes)
    (htext : SpellsText bytes points width) :
    appendPayload layout image tagged capacity writer (width, length) =
      appendPoints capacity writer points := by
  unfold appendPayload
  cases width with
  | oneByte =>
    obtain rfl := htext
    exact appendChunks_eq.1 bytes (read_oneByte.trans hread)
  | twoByte =>
    have hunits : Utf16.encode points = unitsOfBytes bytes := htext
    dsimp only
    rw [read_twoByte, hread, ← appendUnits_encode, hunits]

/-- A payload that the loops accept can be read and spells a text. -/
theorem text_of_appendPayload {capacity : Nat} {writer left : Utf8Writer}
    (h : appendPayload layout image tagged capacity writer (width, length) = .ok left) :
    ∃ bytes points, read image (stringData layout tagged) (length * width.bytes) = some bytes ∧
      SpellsText bytes points width := by
  unfold appendPayload at h
  cases width with
  | oneByte =>
    cases hread : read image (stringData layout tagged) (length * StringWidth.oneByte.bytes) with
    | none =>
      obtain ⟨stopped, herror⟩ : ∃ stopped, Utf8Writer.appendChunks image
          (stringData layout tagged) capacity length 0 writer = .error stopped :=
        appendChunks_eq.2 (read_oneByte.trans hread)
      exact absurd (herror.symm.trans h) nofun
    | some bytes => exact ⟨bytes, bytes.map latin1, rfl, rfl⟩
  | twoByte =>
    dsimp only at h
    rw [read_twoByte] at h
    cases hread : read image (stringData layout tagged) (length * StringWidth.twoByte.bytes) with
    | none =>
      rw [hread] at h
      cases h
    | some bytes =>
      rw [hread] at h
      obtain ⟨points, hpoints⟩ := Utf16.paired_iff.mp (paired_of_appendUnits h)
      exact ⟨bytes, points, rfl, hpoints⟩

theorem Utf8Writer.Within.appendPayload {capacity : Nat} {output : Nat → BitVec 8}
    {writer : Utf8Writer} (h : Utf8Writer.Within capacity output writer)
    (layout : DartStringLayout) (image : Image) (tagged : BitVec 64) (header : StringWidth × Nat) :
    Leaves capacity output
      (DartPlant.appendPayload layout image tagged capacity writer header) := by
  obtain ⟨width, length⟩ := header
  unfold DartPlant.appendPayload
  cases width with
  | oneByte => exact h.appendChunks _ _ _ _
  | twoByte =>
    dsimp only
    split
    · exact h
    · exact h.appendUnits _

end Reading

/-! ## Exact reading -/

/-- One call of the reader. -/
structure StringRead where
  layout : DartStringLayout
  image : Image
  tagged : BitVec 64
  capacity : Nat
  output : Nat → BitVec 8

namespace StringRead

def result (call : StringRead) : Except (Nat → BitVec 8) (Nat → BitVec 8) :=
  readDartStringUtf8 call.layout call.image call.tagged call.capacity call.output

/-- The text that can be read at the tagged word. -/
def Text (call : StringRead) (points : List Char) : Prop :=
  DartText call.layout call.image call.tagged points

/-- The encoding leaves room for its terminator. -/
def Fits (call : StringRead) (points : List Char) : Prop :=
  (encode points).length < call.capacity

/-- A call succeeds on the texts that fit, leaves their encoding behind and nothing else, and never
touches what lies behind the capacity. -/
structure Exact (call : StringRead) : Prop where
  success : (∃ output, call.result = .ok output) ↔ ∃ points, call.Text points ∧ call.Fits points
  content : ∀ output points, call.result = .ok output → call.Text points → ∀ index,
    output index = (encode points ++ [0])[index]?.getD (call.output index)
  beyond : ∀ output, call.result = .ok output ∨ call.result = .error output →
    ∀ index, call.capacity ≤ index → output index = call.output index

/-- The writer at the beginning of a text. -/
def start (call : StringRead) : Utf8Writer := ⟨Function.update call.output 0 0, 0⟩

section Calls
variable {call : StringRead} {points : List Char}

theorem result_of_text (h : call.Text points) (hfits : call.Fits points) :
    call.result = .ok (call.start.write (encode points ++ [0])).output := by
  obtain ⟨width, length, bytes, hheader, hread, htext⟩ := h
  unfold Fits at hfits
  have hcapacity : call.capacity ≠ 0 := by omega
  have hpoints : appendPoints call.capacity call.start points =
      .ok (call.start.write (encode points)) :=
    appendPoints_fits ((Nat.zero_add _).symm ▸ hfits)
  unfold result readDartStringUtf8
  rw [if_neg hcapacity, readStringHeader_iff.mpr hheader]
  dsimp only
  rw [appendPayload_text hread htext]
  show (match appendPoints call.capacity call.start points with
    | .error writer => _ | .ok writer => _) = _
  rw [hpoints, write_append]
  rfl

theorem fits_of_result {output : Nat → BitVec 8} (h : call.result = .ok output)
    (htext : call.Text points) : call.Fits points := by
  obtain ⟨width, length, bytes, hheader, hread, hspells⟩ := htext
  unfold result readDartStringUtf8 at h
  split at h
  next => cases h
  next hcapacity =>
    rw [readStringHeader_iff.mpr hheader] at h
    dsimp only at h
    rw [appendPayload_text hread hspells] at h
    by_contra hnot
    obtain ⟨stopped, hstopped⟩ : ∃ stopped,
        appendPoints call.capacity call.start points = .error stopped := by
      refine appendPoints_overflow (Nat.pos_of_ne_zero hcapacity) ?_
      rw [start, Nat.zero_add]
      exact Nat.not_lt.mp hnot
    unfold start at hstopped
    rw [hstopped] at h
    cases h

theorem text_of_result {output : Nat → BitVec 8} (h : call.result = .ok output) :
    ∃ points, call.Text points := by
  unfold result readDartStringUtf8 at h
  split at h
  next => cases h
  next =>
    split at h
    next => cases h
    next header hheader =>
      split at h
      next => cases h
      next writer hpayload =>
        obtain ⟨width, length⟩ := header
        obtain ⟨bytes, points, hread, hspells⟩ := text_of_appendPayload hpayload
        exact ⟨points, width, length, bytes, readStringHeader_iff.mp hheader, hread, hspells⟩

/-- A terminated text from the first place of the output on. -/
theorem start_write (call : StringRead) (bytes : List (BitVec 8)) (index : Nat) :
    (call.start.write (bytes ++ [0])).output index =
      (bytes ++ [0])[index]?.getD (call.output index) := by
  have hwritten := call.start.write_output (bytes ++ [0]) index
  have hcursor : call.start.cursor + index = index := Nat.zero_add index
  rw [hcursor] at hwritten
  rw [hwritten]
  cases index with
  | zero => cases bytes <;> rfl
  | succ index =>
    have hother : call.start.output (index + 1) = call.output (index + 1) :=
      Function.update_of_ne (Nat.succ_ne_zero index) 0 call.output
    rw [hother]

theorem beyond_of_result {output : Nat → BitVec 8}
    (h : call.result = .ok output ∨ call.result = .error output) {index : Nat}
    (hindex : call.capacity ≤ index) : output index = call.output index := by
  unfold result readDartStringUtf8 at h
  split at h
  next =>
    obtain h | h := h
    · cases h
    · cases h
      rfl
  next hcapacity =>
    split at h
    next =>
      obtain h | h := h
      · cases h
      · cases h
        rfl
    next header hheader =>
      have hstart : Utf8Writer.Within call.capacity call.output call.start := by
        refine ⟨Nat.pos_of_ne_zero hcapacity, fun index hindex => ?_⟩
        exact Function.update_of_ne (by omega) _ _
      have hleaves := hstart.appendPayload call.layout call.image call.tagged header
      unfold start at hleaves
      split at h
      next writer hpayload =>
        rw [hpayload] at hleaves
        obtain h | h := h
        · cases h
        · cases h
          exact hleaves.beyond index hindex
      next writer hpayload =>
        rw [hpayload] at hleaves
        obtain h | h := h
        · cases h
          have hroom : writer.cursor < call.capacity := hleaves.room
          have hterminator : (writer.put 0).output index = writer.output index :=
            Function.update_of_ne (by omega) _ _
          exact hterminator.trans (hleaves.beyond index hindex)
        · cases h

/-- Every call is exact. -/
theorem exact (call : StringRead) : call.Exact := by
  refine ⟨⟨?_, ?_⟩, ?_, fun output h index => beyond_of_result h⟩
  · rintro ⟨output, h⟩
    obtain ⟨points, htext⟩ := text_of_result h
    exact ⟨points, htext, fits_of_result h htext⟩
  · rintro ⟨points, htext, hfits⟩
    exact ⟨_, result_of_text htext hfits⟩
  · intro output points h htext index
    have hresult := result_of_text htext (fits_of_result h htext)
    obtain rfl := Except.ok.inj (h.symm.trans hresult)
    exact call.start_write _ index

/-! ## Strings compared -/

/-- The string in front of the first zero byte of a buffer. -/
def cString (capacity : Nat) (output : Nat → BitVec 8) : List (BitVec 8) :=
  ((List.range capacity).map output).takeWhile (· ≠ 0)

/-- A comparison sees a text up to its first zero code point. -/
theorem cString_eq {output : Nat → BitVec 8} (h : call.result = .ok output)
    (htext : call.Text points) :
    cString call.capacity output = encode (beforeZero points) := by
  have hfits : (encode points).length < call.capacity := fits_of_result h htext
  obtain ⟨rest, hrest⟩ := Nat.exists_eq_add_of_le (Nat.succ_le_of_lt hfits)
  have hcontent := call.exact.content output points h htext
  have hbuffer : (List.range call.capacity).map output = encode points ++ 0 ::
      (List.range rest).map fun index => output ((encode points).length + 1 + index) := by
    have hterminated : (List.range ((encode points).length + 1)).map output =
        encode points ++ [0] := by
      apply ext_getElem
      · simp
      · intro index _ hindex
        rw [getElem_map, getElem_range, hcontent, List.getElem?_eq_getElem hindex,
          Option.getD_some]
    rw [hrest, range_add, map_append, hterminated, map_map, append_assoc]
    rfl
  unfold cString
  rw [hbuffer, takeWhile_encode]

end Calls

/-- Two different texts that were read never compare equal. -/
def Distinguished (first second : StringRead) : Prop :=
  ∀ output other points others, first.result = .ok output → second.result = .ok other →
    first.Text points → second.Text others → points ≠ others →
      cString first.capacity output ≠ cString second.capacity other

end StringRead

/-- Every call is exact, and two texts that were read are told apart exactly where they differ in front
of their first zero code points. -/
theorem string_reads_exact_iff (first second : StringRead) :
    (first.Exact ∧ second.Exact ∧ first.Distinguished second) ↔
      ∀ points others, first.Text points → first.Fits points → second.Text others →
        second.Fits others → points ≠ others →
          beforeZero points ≠ beforeZero others := by
  constructor
  · rintro ⟨-, -, hdistinguished⟩ points others htext hfits hother hroom hne hsame
    have hfirst := StringRead.result_of_text htext hfits
    have hsecond := StringRead.result_of_text hother hroom
    refine hdistinguished _ _ points others hfirst hsecond htext hother hne ?_
    rw [StringRead.cString_eq hfirst htext, StringRead.cString_eq hsecond hother, hsame]
  · intro h
    refine ⟨first.exact, second.exact, ?_⟩
    intro output other points others hfirst hsecond htext hother hne hsame
    rw [StringRead.cString_eq hfirst htext, StringRead.cString_eq hsecond hother] at hsame
    exact h points others htext (StringRead.fits_of_result hfirst htext) hother
      (StringRead.fits_of_result hsecond hother) hne (encode_injective hsame)

/-- The tags of a profile with compressed pointers. -/
def compressedStrings : DartStringLayout :=
  ⟨⟨1, 0, 1, 1, 12, 20, 4⟩, 93, 94, 8, 12⟩

/-- A one-byte string of three units, the second of them zero. -/
def threeUnits (last : BitVec 8) : StringRead where
  layout := compressedStrings
  image := fun address =>
    [0x00, 0xd0, 0x05, 0x00, 0x00, 0x00, 0x00, 0x00, 0x06, 0x00, 0x00, 0x00,
      0x61, 0x00, last][(address - 0x1000#64).toNat]?
  tagged := 0x1001#64
  capacity := 256
  output := fun _ => 0xff

theorem threeUnits_text {last : BitVec 8}
    (htags : readValue (threeUnits last).image
      (0x1001#64 - BitVec.ofNat 64 compressedStrings.rawObject.heapObjectTag) 8 = some 0x5d000)
    (hlength : readValue (threeUnits last).image
      (0x1001#64 - BitVec.ofNat 64 compressedStrings.rawObject.heapObjectTag +
        BitVec.ofNat 64 compressedStrings.stringLengthOffset) 4 = some 6)
    (hpayload : read (threeUnits last).image (stringData compressedStrings 0x1001#64) 3 =
      some [0x61, 0x00, last]) :
    (threeUnits last).Text ['a', '\x00', latin1 last] := by
  refine ⟨.oneByte, 3, [0x61, 0x00, last], ?_, hpayload, rfl⟩
  show IsDartString compressedStrings (threeUnits last).image 0x1001#64 .oneByte 3
  exact ⟨by decide, by decide, by decide, by decide, ⟨0x5d000, htags, by decide⟩,
    ⟨6, hlength, by decide, by decide⟩, by decide, by decide⟩

/-- Two strings that differ behind a zero unit only. -/
theorem string_reads_after_zero :
    ¬((threeUnits 0x62).Exact ∧ (threeUnits 0x63).Exact ∧
      (threeUnits 0x62).Distinguished (threeUnits 0x63)) := by
  rw [string_reads_exact_iff]
  intro h
  have hfirst := @threeUnits_text 0x62 (by decide +kernel) (by decide +kernel)
    (by decide +kernel)
  have hsecond := @threeUnits_text 0x63 (by decide +kernel) (by decide +kernel)
    (by decide +kernel)
  unfold StringRead.Fits at h
  exact h _ _ hfirst (by decide) hsecond (by decide) (by decide) (by decide)

end DartPlant
