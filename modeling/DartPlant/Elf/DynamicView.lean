import DartPlant.Lib.NoteFormat

/-! # Dynamic symbols of an ELF image

A reader gives the bytes at ELF virtual addresses, and a view has the addresses of the tables that
`PT_DYNAMIC` names.  A symbol is looked up by name through the GNU hash table, or through the System
V one where there is no GNU table.  Every address is computed with a check against 2^64, and whatever
cannot be computed or read makes the lookup malformed.
-/

namespace DartPlant
open NoteFormat

/-! ## Readers -/

/-- `ElfVaReader`: `Read` gives as many bytes as were asked for, or fails. -/
structure ElfVaReader where
  read (va size : Nat) : Option (List Byte)
  readableBytes (va : Nat) : Option Nat
  read_length : ∀ va size bytes, read va size = some bytes → bytes.length = size

/-- `ElfProgramHeaderView`. -/
structure ElfProgramHeaderView where
  type : Nat
  flags : Nat
  offset : Nat
  virtualAddress : Nat
  fileSize : Nat
  memorySize : Nat
  alignment : Nat
  deriving DecidableEq, Repr

/-- `PT_LOAD`. -/
def kPtLoad : Nat := 1

/-- The loop of `ElfVaToFileOffset`. -/
def elfVaToFileOffsetFrom (va width : Nat) : List ElfProgramHeaderView → Option Nat → Option Nat
  | [], result => result
  | header :: headers, result =>
    if header.type ≠ kPtLoad ∨ va < header.virtualAddress then
      elfVaToFileOffsetFrom va width headers result
    else
      let delta := va - header.virtualAddress
      if delta ≥ header.fileSize ∨ width > header.fileSize - delta ∨
          header.offset > 2 ^ 64 - 1 - delta then
        elfVaToFileOffsetFrom va width headers result
      else
        let candidate := header.offset + delta
        if result.isSome ∧ result ≠ some candidate then none
        else elfVaToFileOffsetFrom va width headers (some candidate)

/-- `ElfVaToFileOffset`. -/
def elfVaToFileOffset (headers : List ElfProgramHeaderView) (va size : Nat) : Option Nat :=
  if size = 0 then none else elfVaToFileOffsetFrom va size headers none

/-- `FileElfReader::ReadableBytes`. -/
def fileReadableBytes (bytes : List Byte) : List ElfProgramHeaderView → Nat → Option Nat
  | [], _ => none
  | header :: headers, va =>
    if header.type ≠ kPtLoad ∨ va < header.virtualAddress then fileReadableBytes bytes headers va
    else
      let delta := va - header.virtualAddress
      if delta ≥ header.fileSize ∨ header.offset > bytes.length then
        fileReadableBytes bytes headers va
      else
        let fileAvailable := bytes.length - header.offset
        if delta ≥ fileAvailable then fileReadableBytes bytes headers va
        else some (min (header.fileSize - delta) (fileAvailable - delta))

/-- `FileElfReader::Read`. -/
def fileRead (bytes : List Byte) (headers : List ElfProgramHeaderView) (va size : Nat) :
    Option (List Byte) :=
  if size = 0 then none
  else
    match elfVaToFileOffset headers va size with
    | none => none
    | some offset =>
      if offset > bytes.length ∨ size > bytes.length - offset then none
      else some ((bytes.drop offset).take size)

/-- `FileElfReader`. -/
def fileElfReader (bytes : List Byte) (headers : List ElfProgramHeaderView) : ElfVaReader where
  read := fileRead bytes headers
  readableBytes := fileReadableBytes bytes headers
  read_length va size found h := by
    rw [fileRead] at h
    split at h
    · cases h
    · split at h
      · cases h
      · split at h
        · cases h
        next hinside =>
          cases h
          rw [List.length_take, List.length_drop]
          omega

/-! ## Addresses -/

/-- `CheckedAddVa`. -/
def checkedAddVa (base offset : Nat) : Option Nat :=
  if base > 2 ^ 64 - 1 - offset then none else some (base + offset)

/-- `CheckedMul`. -/
def checkedMul (left right : Nat) : Option Nat :=
  if left ≠ 0 ∧ right > (2 ^ 64 - 1) / left then none else some (left * right)

/-- `CheckedMulAddVa`. -/
def checkedMulAddVa (base index stride : Nat) : Option Nat :=
  (checkedMul index stride).bind fun offset => checkedAddVa base offset

/-- `DynamicAnchorReadable`. -/
def dynamicAnchorReadable (reader : ElfVaReader) (va minimumSize : Nat) : Bool :=
  va != 0 && match reader.readableBytes va with
    | none => false
    | some remaining => minimumSize ≤ remaining

/-! ## Values -/

/-- `ReadValue` of a 32-bit word. -/
def readWord (reader : ElfVaReader) (va : Nat) : Option Nat :=
  (reader.read va 4).map fun bytes => word bytes 0

/-- The little-endian 64-bit word at an offset. -/
def xword (bytes : List Byte) (offset : Nat) : Nat :=
  word bytes offset + 2 ^ 32 * word bytes (offset + 4)

/-- `ReadValue` of a 64-bit word. -/
def readXword (reader : ElfVaReader) (va : Nat) : Option Nat :=
  (reader.read va 8).map fun bytes => xword bytes 0

/-- The one byte that `ReadSymbolName` reads at a time. -/
def readByte (reader : ElfVaReader) (va : Nat) : Option Byte :=
  (reader.read va 1).map fun bytes => bytes.getD 0 0

/-- `Elf64_Sym`. -/
structure Elf64Sym where
  stName : Nat
  stInfo : Nat
  stOther : Nat
  stShndx : Nat
  stValue : Nat
  stSize : Nat
  deriving DecidableEq, Repr

/-- `sizeof(Elf64_Sym)`. -/
def sizeofElf64Sym : Nat := 24

/-- `ReadValue` of a symbol. -/
def readSymbol (reader : ElfVaReader) (va : Nat) : Option Elf64Sym :=
  (reader.read va sizeofElf64Sym).map fun bytes => {
    stName := word bytes 0
    stInfo := (bytes.getD 4 0).toNat
    stOther := (bytes.getD 5 0).toNat
    stShndx := (bytes.getD 6 0).toNat + 256 * (bytes.getD 7 0).toNat
    stValue := xword bytes 8
    stSize := xword bytes 16 }

/-! ## Symbols -/

/-- `ElfDynamicView`. -/
structure ElfDynamicView where
  symtabVa : Nat
  strtabVa : Nat
  strtabSize : Nat
  symbolEntrySize : Nat
  sysvHashVa : Option Nat
  gnuHashVa : Option Nat
  deriving DecidableEq, Repr

/-- `ElfDynamicSymbol`. -/
structure ElfDynamicSymbol where
  value : Nat
  size : Nat
  info : Nat
  other : Nat
  sectionIndex : Nat
  deriving DecidableEq, Repr

/-- `ElfDynamicLookupResult`: only a result that is found has a symbol. -/
inductive ElfDynamicLookupResult where
  | found (symbol : ElfDynamicSymbol)
  | notFound
  | unavailable
  | malformed
  deriving DecidableEq, Repr

/-- `SHN_UNDEF`. -/
def shnUndef : Nat := 0

/-- `STN_UNDEF`. -/
def stnUndef : Nat := 0

/-- The loop of `ReadSymbolName`. -/
def readSymbolNameFrom (reader : ElfVaReader) (start : Nat) : Nat → Nat → Option (List Byte)
  | 0, _ => none
  | remaining + 1, index =>
    match (checkedAddVa start index).bind (readByte reader) with
    | none => none
    | some value =>
      if value = 0 then some []
      else (readSymbolNameFrom reader start remaining (index + 1)).map fun rest => value :: rest

/-- `ReadSymbolName`. -/
def readSymbolName (reader : ElfVaReader) (view : ElfDynamicView) (symbol : Elf64Sym) :
    Option (List Byte) :=
  if symbol.stName ≥ view.strtabSize then none
  else
    (checkedAddVa view.strtabVa symbol.stName).bind fun start =>
      readSymbolNameFrom reader start (view.strtabSize - symbol.stName) 0

/-- `MatchSymbol`. -/
def matchSymbol (reader : ElfVaReader) (view : ElfDynamicView) (index : Nat)
    (wanted : List Byte) : ElfDynamicLookupResult :=
  if view.symbolEntrySize ≠ sizeofElf64Sym then .malformed
  else
    match (checkedMulAddVa view.symtabVa index view.symbolEntrySize).bind (readSymbol reader) with
    | none => .malformed
    | some symbol =>
      match readSymbolName reader view symbol with
      | none => .malformed
      | some actual =>
        if actual ≠ wanted then .notFound
        else if symbol.stShndx = shnUndef ∨ symbol.stValue = 0 then .malformed
        else .found {
          value := symbol.stValue
          size := symbol.stSize
          info := symbol.stInfo
          other := symbol.stOther
          sectionIndex := symbol.stShndx }

/-- `SameDynamicSymbol`. -/
def sameDynamicSymbol (left right : ElfDynamicSymbol) : Bool :=
  left.value == right.value && left.size == right.size && left.info == right.info &&
    left.other == right.other && left.sectionIndex == right.sectionIndex

/-- `RememberDynamicSymbol`: the new candidate, unless it returns false. -/
def rememberDynamicSymbol (candidate : Option ElfDynamicSymbol) :
    ElfDynamicLookupResult → Option ElfDynamicSymbol
  | .found symbol =>
    if candidate.any fun remembered => !sameDynamicSymbol remembered symbol then none
    else some symbol
  | _ => none

/-- What both loops do with a symbol of the chain: the candidate after it, unless the lookup ends as
malformed. -/
def considerSymbol (reader : ElfVaReader) (view : ElfDynamicView) (name : List Byte) (index : Nat)
    (candidate : Option ElfDynamicSymbol) : Option (Option ElfDynamicSymbol) :=
  match matchSymbol reader view index name with
  | .malformed => none
  | .found symbol => (rememberDynamicSymbol candidate (.found symbol)).map some
  | _ => some candidate

/-- The result at the end of a chain. -/
def lookupResult : Option ElfDynamicSymbol → ElfDynamicLookupResult
  | none => .notFound
  | some symbol => .found symbol

/-! ## The System V table -/

/-- `SysvHash`. -/
def sysvHash (name : List Byte) : BitVec 32 :=
  name.foldl (fun hash value =>
    let hash := (hash <<< 4) + value.setWidth 32
    let high := hash &&& 0xf0000000#32
    let hash := if high ≠ 0 then hash ^^^ (high >>> 24) else hash
    hash &&& ~~~high) 0

/-- The loop of `FindSysvSymbol`, which may still visit so many symbols. -/
def findSysvSymbolFrom (reader : ElfVaReader) (view : ElfDynamicView) (name : List Byte)
    (chainsVa chainCount : Nat) (remaining symbolIndex : Nat)
    (candidate : Option ElfDynamicSymbol) : ElfDynamicLookupResult :=
  if symbolIndex = stnUndef then lookupResult candidate
  else
    match remaining with
    | 0 => .malformed
    | remaining + 1 =>
      if symbolIndex ≥ chainCount then .malformed
      else
        match considerSymbol reader view name symbolIndex candidate with
        | none => .malformed
        | some candidate =>
          match (checkedMulAddVa chainsVa symbolIndex 4).bind (readWord reader) with
          | none => .malformed
          | some next =>
            if next = symbolIndex then .malformed
            else findSysvSymbolFrom reader view name chainsVa chainCount remaining next candidate

/-- `FindSysvSymbol`.  Whatever fails before the loop is malformed. -/
def findSysvSymbol (reader : ElfVaReader) (view : ElfDynamicView) (name : List Byte) :
    ElfDynamicLookupResult :=
  Option.getD (do
    let hashVa ← view.sysvHashVa
    let header ← reader.read hashVa 8
    let bucketCount := word header 0
    let chainCount := word header 4
    guard (bucketCount ≠ 0)
    guard (chainCount ≠ 0 ∧ view.symbolEntrySize = sizeofElf64Sym)
    let bucketsVa ← checkedAddVa hashVa 8
    let bucketsSize ← checkedMul bucketCount 4
    let chainsSize ← checkedMul chainCount 4
    let fixedSize ← checkedAddVa 8 bucketsSize
    let hashTableSize ← checkedAddVa fixedSize chainsSize
    let dynsymSize ← checkedMul chainCount view.symbolEntrySize
    guard (dynamicAnchorReadable reader hashVa hashTableSize)
    guard (dynamicAnchorReadable reader view.symtabVa dynsymSize)
    let bucketVa ← checkedMulAddVa bucketsVa ((sysvHash name).toNat % bucketCount) 4
    let symbolIndex ← readWord reader bucketVa
    let chainsVa ← checkedAddVa bucketsVa bucketsSize
    pure (findSysvSymbolFrom reader view name chainsVa chainCount chainCount symbolIndex none))
  .malformed

/-! ## The GNU table -/

/-- `GnuHash`. -/
def gnuHash (name : List Byte) : BitVec 32 :=
  name.foldl (fun hash value => hash * 33 + value.setWidth 32) 5381

/-- The loop of `FindGnuSymbol`, which may still read so many chain entries. -/
def findGnuSymbolFrom (reader : ElfVaReader) (view : ElfDynamicView) (name : List Byte)
    (chainsVa : Nat) : Nat → Nat → Nat → Option ElfDynamicSymbol → ElfDynamicLookupResult
  | 0, _, _, _ => .malformed
  | remaining + 1, chainIndex, symbolIndex, candidate =>
    match (checkedMulAddVa chainsVa chainIndex 4).bind (readWord reader) with
    | none => .malformed
    | some chainHash =>
      match (if chainHash ||| 1 = (gnuHash name).toNat ||| 1 then
          considerSymbol reader view name symbolIndex candidate else some candidate) with
      | none => .malformed
      | some candidate =>
        if chainHash &&& 1 ≠ 0 then lookupResult candidate
        else if symbolIndex = 2 ^ 32 - 1 then .malformed
        else findGnuSymbolFrom reader view name chainsVa remaining (chainIndex + 1)
          (symbolIndex + 1) candidate

/-- `FindGnuSymbol`.  Whatever fails before the loop is malformed. -/
def findGnuSymbol (reader : ElfVaReader) (view : ElfDynamicView) (name : List Byte) :
    ElfDynamicLookupResult :=
  Option.getD (do
    let hashVa ← view.gnuHashVa
    let header ← reader.read hashVa 16
    let bucketCount := word header 0
    let symbolOffset := word header 4
    let bloomWords := word header 8
    let bloomShift := word header 12
    guard (bucketCount ≠ 0 ∧ bloomWords ≠ 0 ∧ bloomShift < 32 ∧
      bloomWords &&& (bloomWords - 1) = 0)
    let bloomBase ← checkedAddVa hashVa 16
    let bloomSize ← checkedMul bloomWords 8
    let bucketsVa ← checkedAddVa bloomBase bloomSize
    let bucketsSize ← checkedMul bucketCount 4
    let headerSize ← checkedAddVa 16 bloomSize
    let fixedTableSize ← checkedAddVa headerSize bucketsSize
    guard (dynamicAnchorReadable reader hashVa fixedTableSize)
    let hash := (gnuHash name).toNat
    let bloomIndex := hash / 64 &&& (bloomWords - 1)
    let bloomVa ← checkedMulAddVa bloomBase bloomIndex 8
    let bloom ← readXword reader bloomVa
    let mask := 1 <<< (hash % 64) ||| 1 <<< ((hash >>> bloomShift) % 64)
    if bloom &&& mask ≠ mask then pure .notFound
    else
      let bucketVa ← checkedMulAddVa bucketsVa (hash % bucketCount) 4
      let symbolIndex ← readWord reader bucketVa
      if symbolIndex = 0 then pure .notFound
      else
        guard (symbolOffset ≤ symbolIndex)
        let chainsVa ← checkedAddVa bucketsVa bucketsSize
        let remaining ← reader.readableBytes chainsVa
        let chainIndex := symbolIndex - symbolOffset
        pure (findGnuSymbolFrom reader view name chainsVa (remaining / 4 - chainIndex) chainIndex
          symbolIndex none))
  .malformed

/-- `FindElfDynamicSymbol`. -/
def findElfDynamicSymbol (reader : ElfVaReader) (view : ElfDynamicView) (name : List Byte) :
    ElfDynamicLookupResult :=
  if name.isEmpty then .malformed
  else if view.gnuHashVa.isSome then findGnuSymbol reader view name
  else if view.sysvHashVa.isSome then findSysvSymbol reader view name
  else .malformed

end DartPlant
