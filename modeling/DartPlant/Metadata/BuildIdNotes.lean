import DartPlant.Lib.Consensus
import DartPlant.Lib.NoteFormat

/-! # The build id, as the runtime and the two tools read it

The runtime takes the notes of type 3 whose name is exactly `GNU` with its terminator and whose
descriptor is not empty, and all of them have to agree.  The Rust indexer takes the first note of
type 3 whose name begins with `GNU`, the Python sidecar builder the last, with any descriptor.
-/

namespace DartPlant
open NoteFormat

/-- `kGnuBuildIdType`. -/
def kGnuBuildIdType : Nat := 3

/-- `PT_NOTE`. -/
def kPtNote : Nat := 4

/-- `BytesToHex`; Rust's `{:02x}` of every byte and Python's `hex` are the same. -/
def bytesToHex (bytes : List Byte) : String :=
  String.ofList (bytes.flatMap fun byte =>
    [Nat.digitChar (byte.toNat / 16), Nat.digitChar (byte.toNat % 16)])

/-- The fields of a program header that the note loops read. -/
structure ElfProgramHeader where
  type : Nat
  offset : Nat
  fileSize : Nat
  deriving DecidableEq, Repr

/-! ## The runtime -/

/-- `ElfBuildIdResult`: only a result that is found has a build id. -/
inductive ElfBuildIdResult where
  | malformed
  | notFound
  | ambiguous
  | found (buildId : String)
  deriving DecidableEq, Repr

/-- `AlignUp4`. -/
def alignUp4 (value : Nat) : Option Nat :=
  if value > 2 ^ 64 - 1 - 3 then none else some (padded value)

/-- `GNU` and its terminator. -/
def gnuName : List Byte := [0x47, 0x4e, 0x55, 0]

/-- The loop of `ParseGnuBuildIdNotes`. -/
def parseGnuBuildIdNotesFrom (notes : List Byte) (cursor : Nat) (buildId : Option String) :
    ElfBuildIdResult :=
  if cursor < notes.length then
    if notes.length - cursor < 12 then
      if (notes.drop cursor).all fun value => value == 0 then
        match buildId with
        | some id => .found id
        | none => .notFound
      else .malformed
    else
      let namesz := word notes cursor
      let descsz := word notes (cursor + 4)
      let nameOffset := cursor + 12
      match alignUp4 namesz, alignUp4 descsz with
      | some paddedName, some paddedDesc =>
        if paddedName > notes.length - nameOffset then .malformed
        else
          let descriptorOffset := nameOffset + paddedName
          if paddedDesc > notes.length - descriptorOffset then .malformed
          else if word notes (cursor + 8) = kGnuBuildIdType ∧ namesz = 4 ∧ descsz ≠ 0 ∧
              (notes.drop nameOffset).take 4 = gnuName then
            let candidate := bytesToHex ((notes.drop descriptorOffset).take descsz)
            if buildId.isSome ∧ buildId ≠ some candidate then .ambiguous
            else parseGnuBuildIdNotesFrom notes (descriptorOffset + paddedDesc) (some candidate)
          else parseGnuBuildIdNotesFrom notes (descriptorOffset + paddedDesc) buildId
      | _, _ => .malformed
  else
    match buildId with
    | some id => .found id
    | none => .notFound
termination_by notes.length - cursor

/-- `ParseGnuBuildIdNotes`. -/
def parseGnuBuildIdNotes (notes : List Byte) : ElfBuildIdResult :=
  parseGnuBuildIdNotesFrom notes 0 none

/-- `MergeElfBuildIdResults`. -/
def mergeElfBuildIdResults (current next : ElfBuildIdResult) : ElfBuildIdResult :=
  if current = .malformed ∨ next = .malformed then .malformed
  else if current = .ambiguous ∨ next = .ambiguous then .ambiguous
  else
    match current, next with
    | .found id, .found id' => if id = id' then .found id else .ambiguous
    | .found id, _ => .found id
    | _, next => next

/-- The bytes of a segment. -/
def ElfProgramHeader.contents (header : ElfProgramHeader) (bytes : List Byte) : List Byte :=
  (bytes.drop header.offset).take header.fileSize

/-- The loop of `ReadLoadedGnuBuildIdNotes` over the segments. -/
def readGnuBuildIdNotes (bytes : List Byte) :
    List ElfProgramHeader → ElfBuildIdResult → ElfBuildIdResult
  | [], aggregate => aggregate
  | header :: headers, aggregate =>
    if header.type ≠ kPtNote then readGnuBuildIdNotes bytes headers aggregate
    else
      let merged := mergeElfBuildIdResults aggregate (parseGnuBuildIdNotes (header.contents bytes))
      if merged = .malformed then merged else readGnuBuildIdNotes bytes headers merged

/-! ## The indexer -/

/-- The first three bytes of the name. -/
def gnuPrefix : List Byte := [0x47, 0x4e, 0x55]

/-- The inner loop of `extract_build_id`.  A slice has at most 2^63 - 1 bytes, so that its
saturating sums are sums. -/
def extractBuildIdFrom (bytes : List Byte) (segmentEnd cursor : Nat) : Option String :=
  if cursor + 12 ≤ segmentEnd then
    let namesz := word bytes cursor
    let descsz := word bytes (cursor + 4)
    let nameStart := cursor + 12
    let nameEnd := nameStart + padded namesz
    let descEnd := nameEnd + padded descsz
    if descEnd > segmentEnd then none
    else if word bytes (cursor + 8) = 3 ∧ namesz ≥ 3 ∧
        (bytes.drop nameStart).take 3 = gnuPrefix then
      some (bytesToHex ((bytes.drop nameEnd).take descsz))
    else extractBuildIdFrom bytes segmentEnd descEnd
  else none
termination_by segmentEnd - cursor

/-- `extract_build_id`. -/
def extractBuildId (bytes : List Byte) : List ElfProgramHeader → Option String
  | [] => none
  | header :: headers =>
    if header.type ≠ kPtNote then extractBuildId bytes headers
    else
      match extractBuildIdFrom bytes (min (header.offset + header.fileSize) bytes.length)
          header.offset with
      | some id => some id
      | none => extractBuildId bytes headers

/-! ## The sidecar builder -/

/-- The note loop of `_parse_elf64`. -/
def parseElf64NotesFrom (data : List Byte) (noteEnd cursor : Nat) (buildId : String) : String :=
  if cursor + 12 ≤ noteEnd then
    let namesz := word data cursor
    let descsz := word data (cursor + 4)
    let nameStart := cursor + 12
    let descStart := nameStart + padded namesz
    let nextCursor := descStart + padded descsz
    if nextCursor > noteEnd then buildId
    else if word data (cursor + 8) = 3 ∧ (data.drop nameStart).take (min namesz 3) = gnuPrefix then
      parseElf64NotesFrom data noteEnd nextCursor (bytesToHex ((data.drop descStart).take descsz))
    else parseElf64NotesFrom data noteEnd nextCursor buildId
  else buildId
termination_by noteEnd - cursor

/-- The build id of `_parse_elf64`; empty when there is none. -/
def parseElf64BuildId (data : List Byte) : List ElfProgramHeader → String → String
  | [], buildId => buildId
  | header :: headers, buildId =>
    if header.type ≠ kPtNote then parseElf64BuildId data headers buildId
    else parseElf64BuildId data headers (parseElf64NotesFrom data
      (min data.length (header.offset + header.fileSize)) header.offset buildId)

end DartPlant
