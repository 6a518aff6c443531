import DartPlant.Lib.NoteFormat
import Mathlib.Data.List.Perm.Basic

/-! # Writing notes

The notes of a segment are written one after the other, each with zero bytes up to the next multiple
of four after its name and after its descriptor.  What is written is read back (`notes_encode`).
-/

namespace DartPlant.NoteFormat
open List

/-- The four bytes of a word. -/
def encodeWord (value : Nat) : List Byte :=
  [BitVec.ofNat 8 value, BitVec.ofNat 8 (value / 256), BitVec.ofNat 8 (value / 65536),
    BitVec.ofNat 8 (value / 16777216)]

/-- Bytes, and the zero bytes that pad them. -/
def encodePadded (bytes : List Byte) : List Byte :=
  bytes ++ List.replicate (padded bytes.length - bytes.length) 0

def Note.encode (note : Note) : List Byte :=
  encodeWord note.name.length ++ (encodeWord note.descriptor.length ++ (encodeWord note.type ++
    (encodePadded note.name ++ encodePadded note.descriptor)))

def encodeNotes (found : List Note) : List Byte := found.flatMap Note.encode

/-- The sizes and the type of a note fit in words. -/
structure Note.Encodable (note : Note) : Prop where
  name : note.name.length < 2 ^ 32
  descriptor : note.descriptor.length < 2 ^ 32
  type : note.type < 2 ^ 32

/-- A segment: notes that can be written, and the number of zero bytes after them. -/
structure NoteSegment where
  found : List Note
  tail : Nat
  encodable : ∀ note ∈ found, note.Encodable
  short : tail < headerSize

namespace NoteSegment

/-- The bytes of the notes. -/
def body (segment : NoteSegment) : List Byte := encodeNotes segment.found

def bytes (segment : NoteSegment) : List Byte := segment.body ++ List.replicate segment.tail 0

end NoteSegment

/-! ## Reading back -/

section Words
variable {rest : List Byte} {value : Nat}

theorem word_encodeWord (h : value < 2 ^ 32) : word (encodeWord value ++ rest) 0 = value := by
  simp only [word, encodeWord, cons_append, getD_cons_zero, getD_cons_succ,
    nil_append, Nat.zero_add, BitVec.toNat_ofNat]
  omega

/-- A word past the first one. -/
theorem word_past (value offset : Nat) (rest : List Byte) :
    word (encodeWord value ++ rest) (4 + offset) = word rest offset := by
  rw [← word_drop]
  rfl

theorem encodeWord_length : (encodeWord value).length = 4 := rfl

theorem encodePadded_length (bytes : List Byte) :
    (encodePadded bytes).length = padded bytes.length := by
  have hpadded := le_padded bytes.length
  rw [encodePadded, length_append, length_replicate]
  omega

theorem take_encodePadded (bytes : List Byte) :
    (encodePadded bytes ++ rest).take bytes.length = bytes := by
  rw [encodePadded, append_assoc, take_left]

end Words

section Notes
variable {note : Note} {rest : List Byte}

/-- The three words at the head of a note. -/
structure HeadWords (note : Note) (bytes : List Byte) : Prop where
  name : word bytes 0 = note.name.length
  descriptor : word bytes 4 = note.descriptor.length
  type : word bytes 8 = note.type

theorem headWords_encode (h : note.Encodable) : HeadWords note (note.encode ++ rest) := by
  simp only [Note.encode, append_assoc]
  constructor
  · exact word_encodeWord h.name
  · exact (word_past _ 0 _).trans (word_encodeWord h.descriptor)
  · exact (word_past _ 4 _).trans ((word_past _ 0 _).trans (word_encodeWord h.type))

theorem drop_header_encode :
    (note.encode ++ rest).drop headerSize =
      encodePadded note.name ++ (encodePadded note.descriptor ++ rest) := by
  simp only [Note.encode, append_assoc]
  rfl

theorem encode_length :
    note.encode.length = headerSize + padded note.name.length + padded note.descriptor.length := by
  simp only [Note.encode, length_append, encodePadded_length, encodeWord_length, headerSize]
  omega

theorem headSize_encode (h : note.Encodable) :
    headSize (note.encode ++ rest) = note.encode.length := by
  have hwords := @headWords_encode note rest h
  rw [headSize, hwords.name, hwords.descriptor, encode_length]

theorem headNote_encode (h : note.Encodable) : headNote (note.encode ++ rest) = note := by
  have hwords := @headWords_encode note rest h
  have hname : ((note.encode ++ rest).drop headerSize).take note.name.length = note.name := by
    rw [drop_header_encode, take_encodePadded]
  have hdescriptor : ((note.encode ++ rest).drop (headerSize + padded note.name.length)).take
      note.descriptor.length = note.descriptor := by
    rw [← drop_drop, drop_header_encode, ← encodePadded_length, drop_left,
      take_encodePadded]
  rw [headNote, hwords.name, hwords.descriptor, hwords.type, hname, hdescriptor]

/-- Notes that are written and followed by fewer zero bytes than a header are read back. -/
theorem notes_encode (found : List Note) (tail : Nat) (h : ∀ note ∈ found, note.Encodable)
    (hshort : tail < headerSize) :
    notes (encodeNotes found ++ List.replicate tail 0) = some found := by
  induction found with
  | nil =>
    have hzero : (List.replicate tail (0 : Byte)).all (fun byte => byte == 0) = true := by
      simp
    rw [encodeNotes, flatMap_nil, nil_append, notes_short (by simpa using hshort),
      if_pos hzero]
  | cons note found ih =>
    rw [forall_mem_cons] at h
    have hsplit : encodeNotes (note :: found) ++ List.replicate tail 0 =
        note.encode ++ (encodeNotes found ++ List.replicate tail 0) := by
      rw [encodeNotes, flatMap_cons, append_assoc, encodeNotes]
    have hsize := @headSize_encode _ (encodeNotes found ++ List.replicate tail 0) h.1
    have hfits : headSize (note.encode ++ (encodeNotes found ++ List.replicate tail 0)) ≤
        (note.encode ++ (encodeNotes found ++ List.replicate tail 0)).length := by
      rw [hsize, length_append]
      omega
    rw [hsplit, notes_cons hfits, hsize, drop_left, ih h.2, Option.map_some,
      headNote_encode h.1]

theorem NoteSegment.notes_bytes (segment : NoteSegment) :
    notes segment.bytes = some segment.found :=
  notes_encode segment.found segment.tail segment.encodable segment.short

/-- The bodies of several segments hold their notes one after the other. -/
theorem encodeNotes_segments (segments : List NoteSegment) :
    segments.flatMap NoteSegment.body = encodeNotes (segments.flatMap NoteSegment.found) := by
  simp only [encodeNotes, flatMap_assoc]
  rfl

end Notes

end DartPlant.NoteFormat
