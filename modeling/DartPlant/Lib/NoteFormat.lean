import Mathlib

/-! # The ELF note format

A note segment is a sequence of notes, each a header of three little-endian words (the size of the
name, the size of the descriptor, the type), then the name and the descriptor, both padded to four
bytes.  Fewer than twelve zero bytes may follow the last note.
-/

namespace DartPlant.NoteFormat

abbrev Byte := BitVec 8

/-- The little-endian word at an offset. -/
def word (bytes : List Byte) (offset : Nat) : Nat :=
  (bytes.getD offset 0).toNat + 256 * (bytes.getD (offset + 1) 0).toNat +
    65536 * (bytes.getD (offset + 2) 0).toNat + 16777216 * (bytes.getD (offset + 3) 0).toNat

/-- A size, with its padding. -/
def padded (size : Nat) : Nat := (size + 3) / 4 * 4

/-- The bytes of a header. -/
def headerSize : Nat := 12

structure Note where
  type : Nat
  name : List Byte
  descriptor : List Byte
  deriving DecidableEq, Repr

/-- The note at the head of the bytes. -/
def headNote (bytes : List Byte) : Note where
  type := word bytes 8
  name := (bytes.drop headerSize).take (word bytes 0)
  descriptor := (bytes.drop (headerSize + padded (word bytes 0))).take (word bytes 4)

/-- The bytes it takes. -/
def headSize (bytes : List Byte) : Nat :=
  headerSize + padded (word bytes 0) + padded (word bytes 4)

/-- The notes of a segment, if it is well formed. -/
def notes (bytes : List Byte) : Option (List Note) :=
  if bytes.length < headerSize then
    if bytes.all fun byte => byte == 0 then some [] else none
  else if bytes.length < headSize bytes then none
  else (notes (bytes.drop (headSize bytes))).map fun rest => headNote bytes :: rest
termination_by bytes.length
decreasing_by
  simp only [List.length_drop, headSize, headerSize] at *
  omega

/-- The notes of several segments, one after the other. -/
def allNotes : List (List Byte) → Option (List Note)
  | [] => some []
  | segment :: segments =>
    (notes segment).bind fun first => (allNotes segments).map fun rest => first ++ rest

/-! ## Reading at an offset -/

section Reading
variable {bytes : List Byte} {offset start : Nat}

theorem word_lt : word bytes offset < 2 ^ 32 := by
  have h0 := (bytes.getD offset 0).isLt
  have h1 := (bytes.getD (offset + 1) 0).isLt
  have h2 := (bytes.getD (offset + 2) 0).isLt
  have h3 := (bytes.getD (offset + 3) 0).isLt
  unfold word
  omega

/-- A word of a suffix is the word of the whole further on. -/
theorem word_drop : word (bytes.drop start) offset = word bytes (start + offset) := by
  simp only [word, List.getD_eq_getElem?_getD, List.getElem?_drop, Nat.add_assoc]

/-- A word that ends before the cut is not changed by it. -/
theorem word_take {size : Nat} (h : offset + 4 ≤ size) :
    word (bytes.take size) offset = word bytes offset := by
  have hget : ∀ index, index < size → (bytes.take size).getD index 0 = bytes.getD index 0 := by
    intro index hindex
    simp only [List.getD_eq_getElem?_getD, List.getElem?_take_of_lt hindex]
  unfold word
  rw [hget offset (by omega), hget (offset + 1) (by omega), hget (offset + 2) (by omega),
    hget (offset + 3) (by omega)]

theorem le_padded (size : Nat) : size ≤ padded size := by
  unfold padded
  omega

theorem headerSize_le_headSize : headerSize ≤ headSize bytes := by
  unfold headSize
  omega

/-- A slice that ends before the cut is not changed by it. -/
theorem take_drop_take {size count : Nat} (h : start + count ≤ size) :
    ((bytes.take size).drop start).take count = (bytes.drop start).take count := by
  rw [List.drop_take, List.take_take, Nat.min_eq_left (by omega)]

end Reading

/-! ## The notes of a segment -/

section Notes
variable {bytes : List Byte} {found : List Note}

/-- Fewer bytes than a header are well formed when they are padding. -/
theorem notes_short (h : bytes.length < headerSize) :
    notes bytes = if bytes.all fun byte => byte == 0 then some [] else none := by
  rw [notes, if_pos h]

theorem notes_truncated (h : headerSize ≤ bytes.length) (hsize : bytes.length < headSize bytes) :
    notes bytes = none := by
  rw [notes, if_neg (by omega), if_pos hsize]

theorem notes_cons (h : headSize bytes ≤ bytes.length) :
    notes bytes = (notes (bytes.drop (headSize bytes))).map fun rest => headNote bytes :: rest := by
  have hheader : headerSize ≤ headSize bytes := headerSize_le_headSize
  rw [notes, if_neg (by omega), if_neg (by omega)]

/-- Induction over the cursor of a loop that walks the notes of a segment. -/
theorem cursor_induct (bytes : List Byte) {motive : Nat → Prop}
    (short : ∀ cursor, (bytes.drop cursor).length < headerSize → motive cursor)
    (truncated : ∀ cursor, headerSize ≤ (bytes.drop cursor).length →
      (bytes.drop cursor).length < headSize (bytes.drop cursor) → motive cursor)
    (note : ∀ cursor, headSize (bytes.drop cursor) ≤ (bytes.drop cursor).length →
      motive (cursor + headSize (bytes.drop cursor)) → motive cursor)
    (cursor : Nat) : motive cursor := by
  induction hlength : (bytes.drop cursor).length using Nat.strongRecOn generalizing cursor with
  | ind length ih =>
    subst hlength
    by_cases hshort : (bytes.drop cursor).length < headerSize
    · exact short cursor hshort
    by_cases htruncated : (bytes.drop cursor).length < headSize (bytes.drop cursor)
    · exact truncated cursor (by omega) htruncated
    · refine note cursor (by omega) (ih _ ?_ _ rfl)
      have hheader : headerSize ≤ headSize (bytes.drop cursor) := headerSize_le_headSize
      rw [← List.drop_drop, List.length_drop]
      unfold headerSize at *
      omega

/-- A note that fits has the name and the descriptor its header says. -/
theorem headNote_length (h : headSize bytes ≤ bytes.length) :
    (headNote bytes).name.length = word bytes 0 ∧
      (headNote bytes).descriptor.length = word bytes 4 := by
  have hname := le_padded (word bytes 0)
  have hdescriptor := le_padded (word bytes 4)
  unfold headSize at h
  simp only [headNote, List.length_take, List.length_drop]
  omega

theorem allNotes_cons_eq_some {segment : List Byte} {segments : List (List Byte)} :
    allNotes (segment :: segments) = some found ↔
      ∃ first rest, notes segment = some first ∧ allNotes segments = some rest ∧
        first ++ rest = found := by
  simp only [allNotes, Option.bind_eq_some_iff, Option.map_eq_some_iff]
  constructor
  · rintro ⟨first, hfirst, rest, hrest, rfl⟩
    exact ⟨first, rest, hfirst, hrest, rfl⟩
  · rintro ⟨first, rest, hfirst, hrest, rfl⟩
    exact ⟨first, hfirst, rest, hrest, rfl⟩

end Notes

end DartPlant.NoteFormat
