import DartPlant.Elf.DynamicView

/-! # The program headers of an ELF image

The program table is read from the bytes of a file, and its loads have to be in order, disjoint and
inside the file.  Three readers share the headers: one reads the file, one a loaded image, and one
what a loaded image has from the file.
-/

namespace DartPlant
open NoteFormat

/-! ## Validation -/

/-- `RangeFits`. -/
def rangeFits (start size limit : Nat) : Bool := start ≤ limit && size ≤ limit - start

/-- `IsValidLoadAlignment`. -/
def isValidLoadAlignment (alignment offset virtualAddress : Nat) : Bool :=
  if alignment ≤ 1 then true
  else alignment &&& (alignment - 1) == 0 && virtualAddress % alignment == offset % alignment

/-- The loop of `ValidateElfLoadLayout`; `previous` is the address and the end of the load before,
when there is one. -/
def validateElfLoadLayoutFrom : Option (Nat × Nat) → List ElfProgramHeaderView → Bool
  | _, [] => true
  | previous, header :: headers =>
    if header.type ≠ kPtLoad then validateElfLoadLayoutFrom previous headers
    else
      match checkedAddVa header.virtualAddress header.memorySize with
      | none => false
      | some loadEnd =>
        if header.fileSize > header.memorySize ∨
            isValidLoadAlignment header.alignment header.offset header.virtualAddress = false ∨
            previous.any (fun (previousVa, previousEnd) =>
              header.virtualAddress < previousVa || header.virtualAddress < previousEnd) then
          false
        else validateElfLoadLayoutFrom (some (header.virtualAddress, loadEnd)) headers

/-- `ValidateElfLoadLayout`. -/
def validateElfLoadLayout (headers : List ElfProgramHeaderView) : Bool :=
  validateElfLoadLayoutFrom none headers

/-- `ValidateElfLoadFileBounds`. -/
def validateElfLoadFileBounds (bytes : List Byte) (headers : List ElfProgramHeaderView) : Bool :=
  headers.all fun header =>
    !(header.type == kPtLoad && !rangeFits header.offset header.fileSize bytes.length)

/-- `ValidateElfLoadSegments`. -/
def validateElfLoadSegments (bytes : List Byte) (headers : List ElfProgramHeaderView) : Bool :=
  validateElfLoadLayout headers && validateElfLoadFileBounds bytes headers

/-! ## Parsing -/

/-- The little-endian half word at an offset. -/
def half (bytes : List Byte) (offset : Nat) : Nat :=
  (bytes.getD offset 0).toNat + 256 * (bytes.getD (offset + 1) 0).toNat

/-- `sizeof(Elf64_Ehdr)`. -/
def sizeofElf64Ehdr : Nat := 64

/-- `sizeof(Elf64_Phdr)`. -/
def sizeofElf64Phdr : Nat := 56

/-- The checks of the ELF header: a little-endian ELF64 shared object for AArch64, with program
headers of the known size whose count is in the header. -/
def elf64HeaderValid (bytes : List Byte) : Bool :=
  bytes.take 4 == [0x7f, 0x45, 0x4c, 0x46] && bytes.getD 4 0 == 2 && bytes.getD 5 0 == 1 &&
    bytes.getD 6 0 == 1 && word bytes 20 == 1 && half bytes 16 == 3 && half bytes 18 == 183 &&
    half bytes 54 == sizeofElf64Phdr && half bytes 56 != 0xffff

/-- The program header at an offset. -/
def programHeaderAt (bytes : List Byte) (offset : Nat) : ElfProgramHeaderView where
  type := word bytes offset
  flags := word bytes (offset + 4)
  offset := xword bytes (offset + 8)
  virtualAddress := xword bytes (offset + 16)
  fileSize := xword bytes (offset + 32)
  memorySize := xword bytes (offset + 40)
  alignment := xword bytes (offset + 48)

/-- `ParseElf64ProgramHeaders`. -/
def parseElf64ProgramHeaders (bytes : List Byte) : Option (List ElfProgramHeaderView) := do
  guard (sizeofElf64Ehdr ≤ bytes.length)
  guard (elf64HeaderValid bytes)
  let phoff := xword bytes 32
  let phnum := half bytes 56
  guard (rangeFits phoff (phnum * sizeofElf64Phdr) bytes.length)
  let parsed ← (List.range phnum).mapM fun index =>
    (checkedMulAddVa phoff index sizeofElf64Phdr).map (programHeaderAt bytes)
  guard (validateElfLoadSegments bytes parsed)
  pure parsed

/-! ## Loaded images -/

/-- `header.flags & PF_R`. -/
def ElfProgramHeaderView.readable (header : ElfProgramHeaderView) : Bool := header.flags &&& 4 != 0

/-- The bytes that `memcpy` copies out of the memory. -/
def copyFrom (memory : Nat → Byte) (runtime size : Nat) : List Byte :=
  (List.range size).map fun index => memory (runtime + index)

/-- `LoadedElfReader::ReadableBytes`. -/
def loadedReadableBytes : List ElfProgramHeaderView → Nat → Option Nat
  | [], _ => none
  | header :: headers, va =>
    if header.type ≠ kPtLoad ∨ header.readable = false ∨ va < header.virtualAddress then
      loadedReadableBytes headers va
    else
      let delta := va - header.virtualAddress
      if delta < header.memorySize then some (header.memorySize - delta)
      else loadedReadableBytes headers va

/-- The end of both loaded readers: the copy, unless the address or its end is beyond the address
space. -/
def loadedCopy (memory : Nat → Byte) (loadBias va size : Nat) : Option (List Byte) :=
  if va > 2 ^ 64 - 1 - loadBias then none
  else
    let runtime := loadBias + va
    if size > 2 ^ 64 - 1 - runtime then none else some (copyFrom memory runtime size)

/-- `LoadedElfReader::Read`. -/
def loadedRead (memory : Nat → Byte) (loadBias : Nat) (headers : List ElfProgramHeaderView)
    (va size : Nat) : Option (List Byte) :=
  if size = 0 then none
  else
    match loadedReadableBytes headers va with
    | none => none
    | some remaining => if size > remaining then none else loadedCopy memory loadBias va size

/-- The loop of `FileBackedLoadedElfReader::ReadableBytes`. -/
def fileBackedReadableBytesFrom (va : Nat) :
    List ElfProgramHeaderView → Option Nat → Option Nat → Option Nat
  | [], remaining, _ => remaining
  | header :: headers, remaining, fileOffset =>
    if header.type ≠ kPtLoad ∨ va < header.virtualAddress then
      fileBackedReadableBytesFrom va headers remaining fileOffset
    else
      let delta := va - header.virtualAddress
      if delta ≥ header.fileSize ∨ header.offset > 2 ^ 64 - 1 - delta then
        fileBackedReadableBytesFrom va headers remaining fileOffset
      else
        let candidateOffset := header.offset + delta
        if header.readable = false ∨ fileOffset.isSome ∧ fileOffset ≠ some candidateOffset then
          none
        else
          let candidateRemaining := header.fileSize - delta
          fileBackedReadableBytesFrom va headers
            (some ((remaining.map fun known => min known candidateRemaining).getD
              candidateRemaining))
            (some candidateOffset)

/-- `FileBackedLoadedElfReader::ReadableBytes`. -/
def fileBackedReadableBytes (headers : List ElfProgramHeaderView) (va : Nat) : Option Nat :=
  fileBackedReadableBytesFrom va headers none none

/-- `FileBackedLoadedElfReader::Read`. -/
def fileBackedRead (memory : Nat → Byte) (loadBias : Nat) (headers : List ElfProgramHeaderView)
    (va size : Nat) : Option (List Byte) :=
  if size = 0 then none
  else
    match fileBackedReadableBytes headers va, elfVaToFileOffset headers va size with
    | some remaining, some _ =>
      if size > remaining then none else loadedCopy memory loadBias va size
    | _, _ => none

theorem loadedCopy_length {memory : Nat → Byte} {loadBias va size : Nat} {found : List Byte}
    (h : loadedCopy memory loadBias va size = some found) : found.length = size := by
  rw [loadedCopy] at h
  split at h
  · cases h
  · dsimp only at h
    split at h
    · cases h
    · cases h
      simp [copyFrom]

/-- `LoadedElfReader`. -/
def loadedElfReader (memory : Nat → Byte) (loadBias : Nat) (headers : List ElfProgramHeaderView) :
    ElfVaReader where
  read := loadedRead memory loadBias headers
  readableBytes := loadedReadableBytes headers
  read_length va size found h := by
    rw [loadedRead] at h
    split at h
    · cases h
    · split at h
      · cases h
      · split at h
        · cases h
        · exact loadedCopy_length h

/-- `FileBackedLoadedElfReader`. -/
def fileBackedLoadedElfReader (memory : Nat → Byte) (loadBias : Nat)
    (headers : List ElfProgramHeaderView) : ElfVaReader where
  read := fileBackedRead memory loadBias headers
  readableBytes := fileBackedReadableBytes headers
  read_length va size found h := by
    rw [fileBackedRead] at h
    split at h
    · cases h
    · split at h
      · split at h
        · cases h
        · exact loadedCopy_length h
      · cases h

end DartPlant
