import DartPlant.Elf.DynamicView
import DartPlant.Lib.Metered

/-! # Symbol lookup on machine words

The same lookups as the machine does them: every computation of an address, an offset or an index
wraps around at the width of its type.  The events of a run are these computations with their exact
values, the bytes that the reader gave, and the chain entries that were visited.  The loops end
because the visits and the chain entries are counted.
-/

namespace DartPlant
open NoteFormat Metered

inductive LookupEvent where
  | computed (width : Nat) (exact : Int)
  | read (va size : Nat)
  | visited
  deriving DecidableEq, Repr

abbrev LookupRun := Run LookupEvent

namespace LookupMachine

/-- A computation in words of a width. -/
def compute (width : Nat) (exact : Int) : LookupRun Nat := do
  Run.emit (.computed width exact)
  pure (exact % 2 ^ width).toNat

/-- `CheckedAddVa`. -/
def checkedAddVa (base offset : Nat) : LookupRun Nat := do
  let limit ← compute 64 (2 ^ 64 - 1 - offset)
  if base > limit then Run.fail else compute 64 (base + offset)

/-- `CheckedMul`. -/
def checkedMul (left right : Nat) : LookupRun Nat :=
  if left ≠ 0 ∧ right > (2 ^ 64 - 1) / left then Run.fail else compute 64 (left * right)

/-- `CheckedMulAddVa`. -/
def checkedMulAddVa (base index stride : Nat) : LookupRun Nat := do
  let offset ← checkedMul index stride
  checkedAddVa base offset

/-- `reader.Read`. -/
def read (reader : ElfVaReader) (va size : Nat) : LookupRun (List Byte) :=
  match reader.read va size with
  | none => Run.fail
  | some bytes => do
    Run.emit (.read va size)
    pure bytes

/-- What must be there for the lookup to go on. -/
def require {α : Type} : Option α → LookupRun α
  | none => Run.fail
  | some value => pure value

/-- A check that must hold for the lookup to go on. -/
def check (condition : Prop) [Decidable condition] : LookupRun Unit :=
  if condition then pure () else Run.fail

/-- `ReadValue` of a 32-bit word. -/
def readWord (reader : ElfVaReader) (va : Nat) : LookupRun Nat := do
  let bytes ← read reader va 4
  pure (word bytes 0)

/-- `ReadValue` of a 64-bit word. -/
def readXword (reader : ElfVaReader) (va : Nat) : LookupRun Nat := do
  let bytes ← read reader va 8
  pure (xword bytes 0)

/-- `ReadValue` of a symbol. -/
def readSymbol (reader : ElfVaReader) (va : Nat) : LookupRun Elf64Sym := do
  let bytes ← read reader va sizeofElf64Sym
  pure {
    stName := word bytes 0
    stInfo := (bytes.getD 4 0).toNat
    stOther := (bytes.getD 5 0).toNat
    stShndx := (bytes.getD 6 0).toNat + 256 * (bytes.getD 7 0).toNat
    stValue := xword bytes 8
    stSize := xword bytes 16 }

/-- The loop of `ReadSymbolName`. -/
def readSymbolNameFrom (reader : ElfVaReader) (start : Nat) (remaining : Fin (2 ^ 64))
    (index : Nat) : LookupRun (List Byte) :=
  if index < remaining then do
    let entryVa ← checkedAddVa start index
    let bytes ← read reader entryVa 1
    let value := bytes.getD 0 0
    if value = 0 then pure []
    else do
      Run.emit (.computed 64 (index + 1))
      let rest ← readSymbolNameFrom reader start remaining ((index + 1) % 2 ^ 64)
      pure (value :: rest)
  else Run.fail
termination_by remaining.val - index
decreasing_by
  have _ := remaining.isLt
  omega

/-- `ReadSymbolName`. -/
def readSymbolName (reader : ElfVaReader) (view : ElfDynamicView) (symbol : Elf64Sym) :
    LookupRun (List Byte) := do
  check (symbol.stName < view.strtabSize)
  let start ← checkedAddVa view.strtabVa symbol.stName
  let remaining ← compute 64 (view.strtabSize - symbol.stName)
  readSymbolNameFrom reader start (Fin.ofNat (2 ^ 64) remaining) 0

/-- `MatchSymbol`. -/
def matchSymbol (reader : ElfVaReader) (view : ElfDynamicView) (index : Nat)
    (wanted : List Byte) : LookupRun ElfDynamicLookupResult := do
  check (view.symbolEntrySize = sizeofElf64Sym)
  let symbolVa ← checkedMulAddVa view.symtabVa index view.symbolEntrySize
  let symbol ← readSymbol reader symbolVa
  let actual ← readSymbolName reader view symbol
  if actual ≠ wanted then pure .notFound
  else do
    check (symbol.stShndx ≠ shnUndef ∧ symbol.stValue ≠ 0)
    pure (.found {
      value := symbol.stValue
      size := symbol.stSize
      info := symbol.stInfo
      other := symbol.stOther
      sectionIndex := symbol.stShndx })

/-- What both loops do with a symbol of the chain. -/
def considerSymbol (reader : ElfVaReader) (view : ElfDynamicView) (name : List Byte) (index : Nat)
    (candidate : Option ElfDynamicSymbol) : LookupRun (Option ElfDynamicSymbol) := do
  let result ← matchSymbol reader view index name
  match result with
  | .found symbol => do
    let remembered ← require (rememberDynamicSymbol candidate (.found symbol))
    pure (some remembered)
  | _ => pure candidate

/-- The loop of `FindSysvSymbol`. -/
def findSysvSymbolFrom (reader : ElfVaReader) (view : ElfDynamicView) (name : List Byte)
    (chainsVa : Nat) (chainCount : Fin (2 ^ 32)) (visited symbolIndex : Nat)
    (candidate : Option ElfDynamicSymbol) : LookupRun ElfDynamicLookupResult :=
  if symbolIndex = stnUndef then pure (lookupResult candidate)
  else if symbolIndex ≥ chainCount ∨ visited ≥ chainCount then Run.fail
  else do
    Run.emit .visited
    let candidate ← considerSymbol reader view name symbolIndex candidate
    let chainVa ← checkedMulAddVa chainsVa symbolIndex 4
    let next ← readWord reader chainVa
    check (next ≠ symbolIndex)
    Run.emit (.computed 64 (visited + 1))
    findSysvSymbolFrom reader view name chainsVa chainCount ((visited + 1) % 2 ^ 64) next candidate
termination_by chainCount.val - visited
decreasing_by
  have _ := chainCount.isLt
  omega

/-- `FindSysvSymbol`. -/
def findSysvSymbol (reader : ElfVaReader) (view : ElfDynamicView) (name : List Byte) :
    LookupRun ElfDynamicLookupResult := do
  let hashVa ← require view.sysvHashVa
  let header ← read reader hashVa 8
  let bucketCount := word header 0
  let chainCount := word header 4
  check (bucketCount ≠ 0)
  check (chainCount ≠ 0 ∧ view.symbolEntrySize = sizeofElf64Sym)
  let bucketsVa ← checkedAddVa hashVa 8
  let bucketsSize ← checkedMul bucketCount 4
  let chainsSize ← checkedMul chainCount 4
  let fixedSize ← checkedAddVa 8 bucketsSize
  let hashTableSize ← checkedAddVa fixedSize chainsSize
  let dynsymSize ← checkedMul chainCount view.symbolEntrySize
  check (dynamicAnchorReadable reader hashVa hashTableSize)
  check (dynamicAnchorReadable reader view.symtabVa dynsymSize)
  let bucketVa ← checkedMulAddVa bucketsVa ((sysvHash name).toNat % bucketCount) 4
  let symbolIndex ← readWord reader bucketVa
  let chainsVa ← checkedAddVa bucketsVa bucketsSize
  findSysvSymbolFrom reader view name chainsVa (Fin.ofNat (2 ^ 32) chainCount) 0 symbolIndex none

/-- The symbol is compared when its hash is that of the name. -/
def considerHashed (reader : ElfVaReader) (view : ElfDynamicView) (name : List Byte)
    (chainHash index : Nat) (candidate : Option ElfDynamicSymbol) :
    LookupRun (Option ElfDynamicSymbol) :=
  if chainHash ||| 1 = (gnuHash name).toNat ||| 1 then
    considerSymbol reader view name index candidate
  else pure candidate

/-- The loop of `FindGnuSymbol`. -/
def findGnuSymbolFrom (reader : ElfVaReader) (view : ElfDynamicView) (name : List Byte)
    (chainsVa : Nat) (maxChainEntries : Fin (2 ^ 64)) (chainIndex symbolIndex : Nat)
    (candidate : Option ElfDynamicSymbol) : LookupRun ElfDynamicLookupResult :=
  if chainIndex < maxChainEntries then do
    Run.emit .visited
    let chainVa ← checkedMulAddVa chainsVa chainIndex 4
    let chainHash ← readWord reader chainVa
    let candidate ← considerHashed reader view name chainHash symbolIndex candidate
    if chainHash &&& 1 ≠ 0 then pure (lookupResult candidate)
    else do
      check (symbolIndex ≠ 2 ^ 32 - 1)
      let symbolIndex ← compute 32 (symbolIndex + 1)
      Run.emit (.computed 64 (chainIndex + 1))
      findGnuSymbolFrom reader view name chainsVa maxChainEntries ((chainIndex + 1) % 2 ^ 64)
        symbolIndex candidate
  else Run.fail
termination_by maxChainEntries.val - chainIndex
decreasing_by
  have _ := maxChainEntries.isLt
  omega

/-- `FindGnuSymbol`. -/
def findGnuSymbol (reader : ElfVaReader) (view : ElfDynamicView) (name : List Byte) :
    LookupRun ElfDynamicLookupResult := do
  let hashVa ← require view.gnuHashVa
  let header ← read reader hashVa 16
  let bucketCount := word header 0
  let symbolOffset := word header 4
  let bloomWords := word header 8
  let bloomShift := word header 12
  check (bucketCount ≠ 0 ∧ bloomWords ≠ 0 ∧ bloomShift < 32)
  let bloomLast ← compute 32 (bloomWords - 1)
  check (bloomWords &&& bloomLast = 0)
  let bloomBase ← checkedAddVa hashVa 16
  let bloomSize ← checkedMul bloomWords 8
  let bucketsVa ← checkedAddVa bloomBase bloomSize
  let bucketsSize ← checkedMul bucketCount 4
  let headerSize ← checkedAddVa 16 bloomSize
  let fixedTableSize ← checkedAddVa headerSize bucketsSize
  check (dynamicAnchorReadable reader hashVa fixedTableSize)
  let hash := (gnuHash name).toNat
  let bloomVa ← checkedMulAddVa bloomBase (hash / 64 &&& bloomLast) 8
  let bloom ← readXword reader bloomVa
  let mask := 1 <<< (hash % 64) ||| 1 <<< ((hash >>> bloomShift) % 64)
  if bloom &&& mask ≠ mask then pure .notFound
  else do
    let bucketVa ← checkedMulAddVa bucketsVa (hash % bucketCount) 4
    let symbolIndex ← readWord reader bucketVa
    if symbolIndex = 0 then pure .notFound
    else do
      check (symbolOffset ≤ symbolIndex)
      let chainsVa ← checkedAddVa bucketsVa bucketsSize
      let remaining ← require (reader.readableBytes chainsVa)
      let chainIndex ← compute 32 (symbolIndex - symbolOffset)
      findGnuSymbolFrom reader view name chainsVa (Fin.ofNat (2 ^ 64) (remaining / 4)) chainIndex
        symbolIndex none

end LookupMachine

end DartPlant
