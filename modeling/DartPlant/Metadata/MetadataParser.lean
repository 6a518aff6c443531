import DartPlant.Lib.SeparatedList
import Mathlib.Data.BitVec

/-! # The metadata parser of the runtime

A parser of the part of JSON that the indexer writes.  It reads single bytes and looks for ASCII
ones only, so that a text is a list of characters here and every other character stands for its
bytes.  No text has a zero character, which would end it.

A function takes the text from its position on and gives back what is left of it.  An error is the
message of `Fail` without the byte position that it adds, and `none` where the source returns
without a message.
-/

namespace DartPlant.Metadata
open SeparatedList

abbrev Failure := Option String

/-- What a step reads, with the text it leaves. -/
abbrev Parsed (α : Type) := Except Failure (α × List Char)

/-! ## Records -/

/-- `DARTPLANT_ENTRY_MONOMORPHIC_UNCHECKED`, the last of the entry kinds that count from zero. -/
def kEntryKindLast : BitVec 32 := 3

/-- `DARTPLANT_ADDRESS_ELF_VA`. -/
def kAddressElfVa : BitVec 32 := 1

/-- `DARTPLANT_ADDRESS_SNAPSHOT_OFFSET`, the last of the address kinds that count from zero. -/
def kAddressKindLast : BitVec 32 := 3

/-- A method.  The enumerations have the representation of `unsigned int`, which a cast truncates
to. -/
structure MethodRecord where
  libraryUri : String := ""
  className : String := ""
  functionName : String := ""
  signature : String := ""
  entryKind : BitVec 32 := 0
  addressKind : BitVec 32 := kAddressElfVa
  sectionVa : BitVec 64 := 0
  address : BitVec 64 := 0
  codeSize : BitVec 32 := 0
  fingerprint : String := ""
  deriving DecidableEq, Repr

structure MetadataIndex where
  format : BitVec 32 := 0
  moduleName : String := ""
  buildId : String := ""
  snapshotHash : String := ""
  methods : List MethodRecord := []
  deriving DecidableEq, Repr

/-! ## Characters and numbers -/

/-- `std::isspace` in the C locale. -/
def isSpace (character : Char) : Bool :=
  character == ' ' || (decide ('\t'.toNat ≤ character.toNat) && decide (character.toNat ≤ 13))

/-- `SkipWhitespace`. -/
def skipWhitespace (input : List Char) : List Char := input.dropWhile isSpace

/-- `Consume`; `none` when the next character is another one. -/
def consume (expected : Char) (input : List Char) : Option (List Char) :=
  match skipWhitespace input with
  | character :: rest => if character = expected then some rest else none
  | [] => none

/-- The value of a digit or letter in `strtoull`. -/
def digitValue (character : Char) : Nat :=
  if character.isDigit then character.toNat - 48
  else if character.isLower then character.toNat - 87
  else if character.isUpper then character.toNat - 55
  else 36

def isDigitOf (base : Nat) (character : Char) : Bool := decide (digitValue character < base)

/-- The value of digits of a base. -/
def ofDigits (base : Nat) (digits : List Char) : Nat :=
  digits.foldl (fun value digit => base * value + digitValue digit) 0

/-- The base of the digits, when it is read off them. -/
def detectBase : List Char → Nat × List Char
  | '0' :: letter :: digit :: rest =>
    if (letter = 'x' ∨ letter = 'X') ∧ isDigitOf 16 digit = true then (16, digit :: rest)
    else (8, '0' :: letter :: digit :: rest)
  | '0' :: rest => (8, '0' :: rest)
  | digits => (10, digits)

/-- The sign and the base of a literal, and its digits with all that follows. -/
structure Literal where
  negative : Bool
  base : Nat
  digits : List Char

/-- The literal at the front of a text, of the base or, with base 0, of the base its prefix says. -/
def readLiteral (text : List Char) (base : Nat) : Literal :=
  let body := skipWhitespace text
  let unsigned := if body.head? = some '-' ∨ body.head? = some '+' then body.tail else body
  let detected := if base = 0 then detectBase unsigned else (base, unsigned)
  ⟨decide (body.head? = some '-'), detected.1, detected.2⟩

/-- `strtoull` with base 0 or 10: the value, and what is not converted. -/
def strtoull (text : List Char) (base : Nat) : BitVec 64 × List Char :=
  let literal := readLiteral text base
  let digits := literal.digits.takeWhile (isDigitOf literal.base)
  if digits = [] then (0, text)
  else
    let value := ofDigits literal.base digits
    (if value ≥ 2 ^ 64 then BitVec.allOnes 64
      else if literal.negative then -BitVec.ofNat 64 value else BitVec.ofNat 64 value,
      literal.digits.dropWhile (isDigitOf literal.base))

/-! ## Values -/

/-- The character of an escape. -/
def unescape (escaped : Char) : Option Char :=
  if escaped = '"' ∨ escaped = '\\' ∨ escaped = '/' then some escaped
  else if escaped = 'b' then some '\x08'
  else if escaped = 'f' then some '\x0c'
  else if escaped = 'n' then some '\n'
  else if escaped = 'r' then some '\r'
  else if escaped = 't' then some '\t'
  else none

/-- `ParseString` after its quotation mark. -/
def parseStringBody : List Char → Parsed (List Char)
  | [] => .error (some "unterminated string")
  | character :: rest =>
    if character = '"' then .ok ([], rest)
    else if character = '\\' then
      match rest with
      | [] => .error (some "unterminated escape")
      | escaped :: rest =>
        match unescape escaped with
        | none => .error (some "unsupported string escape")
        | some value => (parseStringBody rest).map fun parsed => (value :: parsed.1, parsed.2)
    else (parseStringBody rest).map fun parsed => (character :: parsed.1, parsed.2)

theorem parseStringBody_quote (rest : List Char) :
    parseStringBody ('"' :: rest) = .ok ([], rest) := by
  rw [parseStringBody.eq_def]
  exact if_pos rfl

theorem parseStringBody_escape {escaped value : Char} (rest : List Char)
    (h : unescape escaped = some value) :
    parseStringBody ('\\' :: escaped :: rest) =
      (parseStringBody rest).map fun parsed => (value :: parsed.1, parsed.2) := by
  rw [parseStringBody, if_neg (by decide), if_pos rfl, h]

theorem parseStringBody_plain {character : Char} (rest : List Char) (hquote : character ≠ '"')
    (hescape : character ≠ '\\') :
    parseStringBody (character :: rest) =
      (parseStringBody rest).map fun parsed => (character :: parsed.1, parsed.2) := by
  rw [parseStringBody.eq_def]
  exact (if_neg hquote).trans (if_neg hescape)

/-- `ParseString`. -/
def parseString (input : List Char) : Parsed String :=
  match consume '"' input with
  | none => .error (some "expected string")
  | some rest => (parseStringBody rest).map fun parsed => (String.ofList parsed.1, parsed.2)

/-- `ParseUnsigned`. -/
def parseUnsigned (input : List Char) : Parsed (BitVec 64) :=
  let rest := skipWhitespace input
  let token := rest.takeWhile Char.isDigit
  if token = [] then .error (some "expected unsigned integer")
  else
    let value := strtoull token 10
    if value.2 ≠ [] then .error (some "invalid unsigned integer")
    else .ok (value.1, rest.dropWhile Char.isDigit)

/-- `ParseAddress`: a number, or a string that `strtoull` converts whole. -/
def parseAddress (input : List Char) : Parsed (BitVec 64) :=
  if (skipWhitespace input).head? = some '"' then
    match parseString input with
    | .error failure => .error failure
    | .ok (token, rest) =>
      if token = "" then .error none
      else
        let value := strtoull token.toList 0
        if value.2 ≠ [] then .error (some "invalid address string") else .ok (value.1, rest)
  else parseUnsigned input

/-- The loop of `SkipValue` over an object; `previous` is the character before. -/
def skipObject (depth : Nat) (quoted : Bool) (previous : Char) : List Char → Option (List Char)
  | [] => none
  | character :: rest =>
    if character = '"' ∧ previous ≠ '\\' then skipObject depth (!quoted) character rest
    else if quoted = false ∧ character = '\x7b' then skipObject (depth + 1) quoted character rest
    else if quoted = false ∧ character = '\x7d' then
      if depth ≤ 1 then some rest else skipObject (depth - 1) quoted character rest
    else skipObject depth quoted character rest

/-- The loop of `SkipValue` over an array. -/
def skipArray (depth : Nat) : List Char → Option (List Char)
  | [] => none
  | character :: rest =>
    if character = '[' then skipArray (depth + 1) rest
    else if character = ']' then if depth ≤ 1 then some rest else skipArray (depth - 1) rest
    else skipArray depth rest

/-- `SkipValue`. -/
def skipValue (input : List Char) : Except Failure (List Char) :=
  match skipWhitespace input with
  | [] => .error (some "missing value")
  | character :: rest =>
    if character = '"' then (parseString (character :: rest)).map fun parsed => parsed.2
    else if character = '\x7b' then
      match skipObject 1 false character rest with
      | none => .error (some "unterminated object")
      | some rest => .ok rest
    else if character = '[' then
      match skipArray 1 rest with
      | none => .error (some "unterminated array")
      | some rest => .ok rest
    else .ok ((character :: rest).dropWhile fun character => character ≠ ',' ∧ character ≠ '\x7d')

/-! ## Members -/

/-- The end and the separator of the lists. -/
def separators (close : Char) : Separators Char := ⟨consume close, consume ','⟩

/-- A key and its colon; a missing colon has no message of its own. -/
def parseKey (input : List Char) : Parsed String :=
  match parseString input with
  | .error failure => .error failure
  | .ok (key, rest) =>
    match consume ':' rest with
    | none => .error none
    | some rest => .ok (key, rest)

/-- A value that is read by `parse` and stored by `store`. -/
def parseInto {α σ : Type} (parse : List Char → Parsed α) (store : α → σ) (input : List Char) :
    Parsed σ :=
  (parse input).map fun parsed => (store parsed.1, parsed.2)

/-- A member of `ParseModule`. -/
def parseModuleMember (result : MetadataIndex) (input : List Char) : Parsed MetadataIndex :=
  match parseKey input with
  | .error failure => .error failure
  | .ok (key, rest) =>
    if key = "soname" then
      parseInto parseString (fun value => { result with moduleName := value }) rest
    else if key = "build_id" then
      parseInto parseString (fun value => { result with buildId := value }) rest
    else (skipValue rest).map fun rest => (result, rest)

/-- `ParseModule`. -/
def parseModule (result : MetadataIndex) (input : List Char) : Parsed MetadataIndex :=
  match consume '\x7b' input with
  | none => .error (some "module must be an object")
  | some rest =>
    readSeparated (separators '\x7d') false (some "invalid module object") none parseModuleMember
      (rest.length + 1) result rest

/-- The text of a member, stored in the field that the member names. -/
def MethodRecord.storeText (method : MethodRecord) (key value : String) : MethodRecord :=
  { method with
    libraryUri := if key = "library_uri" then value else method.libraryUri
    className := if key = "class" then value else method.className
    functionName := if key = "name" then value else method.functionName
    signature := if key = "signature" then value else method.signature
    fingerprint := if key = "fingerprint" then value else method.fingerprint }

/-- The number of a member, cast to the field that the member names. -/
def MethodRecord.storeNumber (method : MethodRecord) (key : String) (value : BitVec 64) :
    MethodRecord :=
  { method with
    address := if key = "code_offset" then value else method.address
    sectionVa := if key = "code_section_va" then value else method.sectionVa
    codeSize := if key = "code_size" then value.setWidth 32 else method.codeSize
    entryKind := if key = "entry_kind" then value.setWidth 32 else method.entryKind
    addressKind := if key = "address_kind" then value.setWidth 32 else method.addressKind }

/-- A member of a method in `ParseMethods`. -/
def parseMethodMember (method : MethodRecord) (input : List Char) : Parsed MethodRecord :=
  match parseKey input with
  | .error failure => .error failure
  | .ok (key, rest) =>
    if key = "library_uri" ∨ key = "class" ∨ key = "name" ∨ key = "signature" ∨
        key = "fingerprint" then
      parseInto parseString (method.storeText key) rest
    else if key = "code_offset" ∨ key = "code_size" ∨ key = "entry_kind" ∨ key = "address_kind" ∨
        key = "code_section_va" then
      parseInto (if key = "code_offset" then parseAddress else parseUnsigned)
        (method.storeNumber key) rest
    else (skipValue rest).map fun rest => (method, rest)

/-- A method of `ParseMethods`. -/
def parseMethod (result : MetadataIndex) (input : List Char) : Parsed MetadataIndex :=
  match consume '\x7b' input with
  | none => .error (some "method must be an object")
  | some rest =>
    match readSeparated (separators '\x7d') false (some "invalid method object") none
      parseMethodMember (rest.length + 1) {} rest with
    | .error failure => .error failure
    | .ok (method, rest) =>
      if method.libraryUri = "" ∨ method.functionName = "" then
        .error (some "method requires library_uri and name")
      else .ok ({ result with methods := result.methods ++ [method] }, rest)

/-- `ParseMethods`. -/
def parseMethods (result : MetadataIndex) (input : List Char) : Parsed MetadataIndex :=
  match consume '[' input with
  | none => .error (some "methods must be an array")
  | some rest =>
    match consume ']' rest with
    | some rest => .ok (result, rest)
    | none =>
      readSeparated (separators ']') false (some "invalid methods array") none parseMethod
        (rest.length + 1) result rest

/-- A member of the root in `Parse`. -/
def parseMember (result : MetadataIndex) (input : List Char) : Parsed MetadataIndex :=
  match parseKey input with
  | .error _ => .error (some "invalid object member")
  | .ok (key, rest) =>
    if key = "format" then
      parseInto parseUnsigned (fun value => { result with format := value.setWidth 32 }) rest
    else if key = "snapshot_hash" then
      parseInto parseString (fun value => { result with snapshotHash := value }) rest
    else if key = "module" then parseModule result rest
    else if key = "methods" then parseMethods result rest
    else (skipValue rest).map fun rest => (result, rest)

/-- `JsonParser::Parse`: here a member may be missing before the closing brace. -/
def parse (input : List Char) : Except Failure MetadataIndex :=
  match consume '\x7b' input with
  | none => .error (some "metadata root must be an object")
  | some rest =>
    match readSeparated (separators '\x7d') true (some "expected comma between object members") none
      parseMember (rest.length + 1) {} rest with
    | .error failure => .error failure
    | .ok (result, rest) =>
      if skipWhitespace rest ≠ [] then .error (some "trailing data after metadata object")
      else if result.format ≠ 1 ∨ result.moduleName = "" ∨ result.methods = [] then
        .error (some "metadata requires format=1, module.name and methods")
      else .ok result

/-- `ParseMetadata`; a null pointer is no text. -/
def parseMetadata (json : Option (List Char)) : Except Failure MetadataIndex :=
  match json with
  | none => .error (some "metadata JSON is null")
  | some input => parse input

theorem mapped_ok {α β : Type} {step : Except Failure α} {f : α → β} {value : β}
    (h : step.map f = .ok value) : ∃ read, step = .ok read ∧ f read = value := by
  cases step with
  | error failure => cases h
  | ok read => exact ⟨read, rfl, Except.ok.inj h⟩

end DartPlant.Metadata
