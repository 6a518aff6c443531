import DartPlant.Metadata.MetadataParser

/-! # The numbers of a metadata document

A document is read a second time with its numbers kept as they are written, and every number of the
index is compared with the mathematical value of the text it was read from.
-/

namespace DartPlant.Metadata
open SeparatedList List

/-! ## Numbers as they are written -/

/-- The members that hold a number. -/
inductive NumberField where
  | format
  | codeOffset
  | codeSectionVa
  | codeSize
  | entryKind
  | addressKind
  deriving DecidableEq, Repr

namespace NumberField

/-- The values of a field are those below its bound; of an enumeration they are its enumerators. -/
def bound : NumberField → Nat
  | .format => 2 ^ 32
  | .codeOffset => 2 ^ 64
  | .codeSectionVa => 2 ^ 64
  | .codeSize => 2 ^ 32
  | .entryKind => kEntryKindLast.toNat + 1
  | .addressKind => kAddressKindLast.toNat + 1

/-- What a field keeps of 64 bits. -/
def narrow (field : NumberField) (value : BitVec 64) : Nat :=
  if field = .codeOffset ∨ field = .codeSectionVa then value.toNat else (value.setWidth 32).toNat

end NumberField

/-- The mathematical value of a text that is a literal, of the base or of the base it says. -/
def literalValue (text : List Char) (base : Nat) : Int :=
  let literal := readLiteral text base
  let magnitude : Int := ofDigits literal.base literal.digits
  if literal.negative then -magnitude else magnitude

/-- A number of the document: the text of a decimal number, or the content of a quoted literal. -/
structure WrittenNumber where
  field : NumberField
  quoted : Bool
  text : List Char
  deriving DecidableEq, Repr

open WrittenNumber

namespace WrittenNumber

/-- A quoted literal says its base itself. -/
def base (number : WrittenNumber) : Nat := if number.quoted then 0 else 10

/-- What the document says. -/
def value (number : WrittenNumber) : Int := literalValue number.text number.base

/-- What the parser stores. -/
def stored (number : WrittenNumber) : Nat :=
  number.field.narrow (strtoull number.text number.base).1

/-- The number is a value of its field. -/
def Fits (number : WrittenNumber) : Prop := 0 ≤ number.value ∧ number.value < number.field.bound

instance (number : WrittenNumber) : Decidable number.Fits := inferInstanceAs (Decidable (_ ∧ _))

/-- The parser stores the number as it is written, as a value of its field. -/
def Unaltered (number : WrittenNumber) : Prop :=
  (number.stored : Int) = number.value ∧ number.stored < number.field.bound

/-- `strtoull` converts the whole text. -/
def IsLiteral (number : WrittenNumber) : Prop :=
  number.text ≠ [] ∧ (strtoull number.text number.base).2 = []

end WrittenNumber

/-! ## Documents as they are written -/

/-- The field of a method that a number is written for. -/
def numberField (key : String) : Option NumberField :=
  if key = "code_offset" then some .codeOffset
  else if key = "code_size" then some .codeSize
  else if key = "entry_kind" then some .entryKind
  else if key = "address_kind" then some .addressKind
  else if key = "code_section_va" then some .codeSectionVa
  else none

/-- A decimal number as it is written. -/
def writtenUnsigned (field : NumberField) (input : List Char) : Parsed WrittenNumber :=
  let rest := skipWhitespace input
  let token := rest.takeWhile Char.isDigit
  if token = [] then .error none else .ok (⟨field, false, token⟩, rest.dropWhile Char.isDigit)

/-- A number as it is written; an offset may be a quoted literal. -/
def writtenNumber (field : NumberField) (input : List Char) : Parsed WrittenNumber :=
  if field = .codeOffset ∧ (skipWhitespace input).head? = some '"' then
    (parseString input).map fun parsed => (⟨field, true, parsed.1.toList⟩, parsed.2)
  else writtenUnsigned field input

/-- The numbers of a method, in the order of the text. -/
def writtenMethodMember (numbers : List WrittenNumber) (input : List Char) :
    Parsed (List WrittenNumber) :=
  match parseKey input with
  | .error failure => .error failure
  | .ok (key, rest) =>
    if key = "library_uri" ∨ key = "class" ∨ key = "name" ∨ key = "signature" ∨
        key = "fingerprint" then
      (parseString rest).map fun parsed => (numbers, parsed.2)
    else
      match numberField key with
      | none => (skipValue rest).map fun rest => (numbers, rest)
      | some field => parseInto (writtenNumber field) (fun number => numbers ++ [number]) rest

/-- The numbers of a document: those of its format members, and those of each method. -/
structure WrittenDocument where
  formats : List WrittenNumber := []
  methods : List (List WrittenNumber) := []
  deriving DecidableEq, Repr

def writtenMethod (document : WrittenDocument) (input : List Char) : Parsed WrittenDocument :=
  match consume '\x7b' input with
  | none => .error none
  | some rest =>
    (readSeparated (separators '\x7d') false none none writtenMethodMember (rest.length + 1) []
      rest).map fun read => ({ document with methods := document.methods ++ [read.1] }, read.2)

def writtenMethods (document : WrittenDocument) (input : List Char) : Parsed WrittenDocument :=
  match consume '[' input with
  | none => .error none
  | some rest =>
    match consume ']' rest with
    | some rest => .ok (document, rest)
    | none =>
      readSeparated (separators ']') false none none writtenMethod (rest.length + 1) document rest

def writtenMember (document : WrittenDocument) (input : List Char) : Parsed WrittenDocument :=
  match parseKey input with
  | .error _ => .error none
  | .ok (key, rest) =>
    if key = "format" then
      parseInto (writtenUnsigned .format)
        (fun number => { document with formats := document.formats ++ [number] }) rest
    else if key = "snapshot_hash" then
      (parseString rest).map fun parsed => (document, parsed.2)
    else if key = "module" then (parseModule {} rest).map fun parsed => (document, parsed.2)
    else if key = "methods" then writtenMethods document rest
    else (skipValue rest).map fun rest => (document, rest)

/-- The numbers that a document holds, as they are written. -/
def writtenDocument (input : List Char) : WrittenDocument :=
  match consume '\x7b' input with
  | none => {}
  | some rest =>
    match readSeparated (separators '\x7d') true none none writtenMember (rest.length + 1) {}
      rest with
    | .error _ => {}
    | .ok (document, _) => document

/-- All the numbers of a document. -/
def WrittenDocument.numbers (document : WrittenDocument) : List WrittenNumber :=
  document.formats ++ document.methods.flatten

/-- The last number that is written for a field is the one that counts. -/
def lastOf (field : NumberField) (numbers : List WrittenNumber) : Option WrittenNumber :=
  (numbers.filter fun number => number.field = field).getLast?

/-- The number that a method holds in a field. -/
def MethodRecord.number (method : MethodRecord) : NumberField → Nat
  | .format => 0
  | .codeOffset => method.address.toNat
  | .codeSectionVa => method.sectionVa.toNat
  | .codeSize => method.codeSize.toNat
  | .entryKind => method.entryKind.toNat
  | .addressKind => method.addressKind.toNat

/-- The fields of a method are the numbers that are written for it, or the default of the field. -/
structure MethodRecord.Exact (method : MethodRecord) (numbers : List WrittenNumber) : Prop where
  number : ∀ field, (method.number field : Int) =
    ((lastOf field numbers).map value).getD (({} : MethodRecord).number field)
  entryKind : method.entryKind ≤ kEntryKindLast
  addressKind : method.addressKind ≤ kAddressKindLast

/-- The index holds the numbers of the document, and none of them was altered on the way. -/
structure MetadataIndex.Exact (index : MetadataIndex) (document : WrittenDocument) : Prop where
  format : (index.format.toNat : Int) =
    ((lastOf .format document.formats).map value).getD 0
  methods : List.Forall₂ MethodRecord.Exact index.methods document.methods
  unaltered : ∀ number ∈ document.numbers, number.Unaltered

/-! ## Conversion -/

section Conversion
variable {text : List Char} {base : Nat}

/-- A magnitude of 64 bits or more saturates, and a negative one wraps. -/
theorem saturated_toNat (negative : Bool) (magnitude : Nat) :
    ((if magnitude ≥ 2 ^ 64 then BitVec.allOnes 64
        else if negative then -BitVec.ofNat 64 magnitude
        else BitVec.ofNat 64 magnitude).toNat : Int) =
      if 2 ^ 64 ≤ magnitude then 2 ^ 64 - 1
      else (if negative then -(magnitude : Int) else magnitude) % 2 ^ 64 := by
  by_cases hlarge : 2 ^ 64 ≤ magnitude
  · rw [if_pos hlarge, if_pos hlarge]
    rfl
  · rw [if_neg hlarge, if_neg hlarge]
    cases negative with
    | true =>
      rw [if_pos rfl, if_pos rfl, BitVec.toNat_neg, BitVec.toNat_ofNat]
      omega
    | false =>
      rw [if_neg Bool.false_ne_true, if_neg Bool.false_ne_true, BitVec.toNat_ofNat]
      omega

/-- A text that is converted whole is exactly its value where that has 64 bits. -/
theorem strtoull_exact_iff (hne : text ≠ []) (h : (strtoull text base).2 = []) :
    ((strtoull text base).1.toNat : Int) = literalValue text base ↔
      0 ≤ literalValue text base ∧ literalValue text base < 2 ^ 64 := by
  unfold strtoull at h ⊢
  unfold literalValue
  dsimp only at h ⊢
  generalize readLiteral text base = literal at h ⊢
  split at h
  next => exact absurd h hne
  next hdigits =>
  dsimp only at h
  have hwhole : literal.digits.takeWhile (isDigitOf literal.base) = literal.digits := by
    have happend : literal.digits.takeWhile (isDigitOf literal.base) ++
      literal.digits.dropWhile (isDigitOf literal.base) = literal.digits :=
        takeWhile_append_dropWhile
    rwa [h, append_nil] at happend
  rw [if_neg hdigits, hwhole]
  dsimp only
  rw [saturated_toNat]
  cases literal.negative with
  | true =>
    rw [if_pos rfl]
    split <;> omega
  | false =>
    rw [if_neg Bool.false_ne_true]
    split <;> omega

end Conversion

namespace WrittenNumber
variable {number : WrittenNumber}

theorem stored_eq (number : WrittenNumber)
    (hsmall : (strtoull number.text number.base).1.toNat < number.field.bound) :
    number.stored = (strtoull number.text number.base).1.toNat := by
  unfold stored NumberField.narrow
  split
  · rfl
  next hnarrow =>
  have hbound : number.field.bound ≤ 2 ^ 32 := by
    cases hfield : number.field with
    | codeOffset => exact absurd (.inl hfield) hnarrow
    | codeSectionVa => exact absurd (.inr hfield) hnarrow
    | _ => decide
  rw [BitVec.toNat_setWidth]
  exact Nat.mod_eq_of_lt (Nat.lt_of_lt_of_le hsmall hbound)

/-- A number is stored as it is written just when it is a value of its field. -/
theorem unaltered_iff_fits (h : number.IsLiteral) : number.Unaltered ↔ number.Fits := by
  obtain ⟨hne, hwhole⟩ := h
  have hexact := strtoull_exact_iff hne hwhole
  constructor
  · intro ⟨hstored, hbound⟩
    show 0 ≤ number.value ∧ number.value < number.field.bound
    omega
  · intro ⟨hnonneg, hbound⟩
    have hwide : number.field.bound ≤ 2 ^ 64 := by
      cases number.field <;> decide
    have hconverted : ((strtoull number.text number.base).1.toNat : Int) = number.value :=
      hexact.mpr ⟨hnonneg, by unfold value at hbound; omega⟩
    have hstored := stored_eq number (by omega)
    exact ⟨by omega, by omega⟩

end WrittenNumber

/-! ## The two readings -/

section LastOf
variable {field : NumberField} {number : WrittenNumber} {numbers : List WrittenNumber}

theorem lastOf_append :
    lastOf field (numbers ++ [number]) =
      if number.field = field then some number else lastOf field numbers := by
  unfold lastOf
  rw [filter_append, filter_singleton]
  by_cases hfield : number.field = field
  · rw [if_pos hfield, decide_eq_true hfield]
    exact List.getLast?_concat
  · rw [if_neg hfield, decide_eq_false hfield]
    exact congrArg List.getLast? (append_nil _)

theorem mem_of_lastOf (h : lastOf field numbers = some number) :
    number ∈ numbers ∧ number.field = field := by
  obtain ⟨hmem, hfield⟩ := mem_filter.mp (mem_of_getLast? h)
  exact ⟨hmem, of_decide_eq_true hfield⟩

/-- The last number of a field counts as it is written when none was altered. -/
theorem lastOf_unaltered (h : ∀ number ∈ numbers, number.Unaltered) (default : Nat) :
    (((lastOf field numbers).map stored).getD default : Int) =
      ((lastOf field numbers).map value).getD default := by
  cases hlast : lastOf field numbers with
  | none => rfl
  | some number => exact (h number (mem_of_lastOf hlast).1).1

end LastOf

/-- The numbers of a method are stored as the parser converts and narrows them. -/
structure MethodRecord.Stores (method : MethodRecord) (numbers : List WrittenNumber) : Prop where
  number : ∀ field, method.number field =
    ((lastOf field numbers).map stored).getD (({} : MethodRecord).number field)
  literals : ∀ number ∈ numbers, number.IsLiteral

section Readings
variable {input rest : List Char} {value : BitVec 64}

theorem parseUnsigned_written (field : NumberField)
    (h : parseUnsigned input = .ok (value, rest)) :
    ∃ number, writtenUnsigned field input = .ok (number, rest) ∧ number.field = field ∧
      number.IsLiteral ∧ number.stored = field.narrow value := by
  unfold parseUnsigned at h
  dsimp only at h
  unfold writtenUnsigned
  dsimp only
  split at h
  · cases h
  next hne =>
  split at h
  · cases h
  next hwhole =>
  obtain ⟨rfl, rfl⟩ := Prod.mk.inj (Except.ok.inj h)
  rw [if_neg hne]
  exact ⟨_, rfl, rfl, ⟨hne, not_not.mp hwhole⟩, rfl⟩

theorem parseAddress_written (h : parseAddress input = .ok (value, rest)) :
    ∃ number, writtenNumber .codeOffset input = .ok (number, rest) ∧
      number.field = .codeOffset ∧ number.IsLiteral ∧ number.stored = value.toNat := by
  unfold parseAddress at h
  unfold writtenNumber
  split at h
  next hquoted =>
    rw [if_pos ⟨rfl, hquoted⟩]
    split at h
    · cases h
    next token left hread =>
    split at h
    · cases h
    next hne =>
    dsimp only at h
    split at h
    · cases h
    next hwhole =>
    obtain ⟨rfl, rfl⟩ := Prod.mk.inj (Except.ok.inj h)
    rw [hread]
    refine ⟨_, rfl, rfl, ⟨?_, not_not.mp hwhole⟩, rfl⟩
    intro hnil
    exact hne (String.toList_eq_nil_iff.mp hnil)
  next hunquoted =>
    rw [if_neg fun hquoted => hunquoted hquoted.2]
    obtain ⟨number, hwritten, hfield, hliteral, hstored⟩ := parseUnsigned_written .codeOffset h
    exact ⟨number, hwritten, hfield, hliteral, hstored⟩

theorem parseInto_ok {α σ : Type} {parse : List Char → Parsed α} {store : α → σ} {state : σ}
    (h : parseInto parse store input = .ok (state, rest)) :
    ∃ value, parse input = .ok (value, rest) ∧ state = store value := by
  obtain ⟨read, hread, hvalue⟩ := mapped_ok h
  obtain ⟨rfl, rfl⟩ := Prod.mk.inj hvalue
  exact ⟨read.1, hread, rfl⟩

theorem skipped_ok {σ : Type} {state after : σ}
    (h : (skipValue input).map (fun rest => (state, rest)) = .ok (after, rest)) :
    skipValue input = .ok rest ∧ after = state := by
  obtain ⟨left, hleft, hvalue⟩ := mapped_ok h
  obtain ⟨rfl, rfl⟩ := Prod.mk.inj hvalue
  exact ⟨hleft, rfl⟩

end Readings

section Methods
variable {method : MethodRecord} {input rest : List Char}
  {key : String} {field : NumberField} {value : BitVec 64}

@[simp] theorem MethodRecord.storeText_number (value : String) :
    (method.storeText key value).number field = method.number field := by
  cases field <;> rfl

theorem numberField_some (h : numberField key = some field) :
    (key = "code_offset" ∧ field = .codeOffset) ∨ (key = "code_size" ∧ field = .codeSize) ∨
      (key = "entry_kind" ∧ field = .entryKind) ∨ (key = "address_kind" ∧ field = .addressKind) ∨
      (key = "code_section_va" ∧ field = .codeSectionVa) := by
  unfold numberField at h
  repeat' split at h
  all_goals simp_all

theorem numberField_none :
    numberField key = none ↔ ¬(key = "code_offset" ∨ key = "code_size" ∨ key = "entry_kind" ∨
      key = "address_kind" ∨ key = "code_section_va") := by
  unfold numberField
  repeat' split
  all_goals simp_all

/-- A number replaces the one that the method holds in its field. -/
theorem MethodRecord.storeNumber_number (hkey : numberField key = some field)
    (other : NumberField) :
    (method.storeNumber key value).number other =
      if field = other then field.narrow value else method.number other := by
  rcases numberField_some hkey with ⟨rfl, rfl⟩ | ⟨rfl, rfl⟩ | ⟨rfl, rfl⟩ | ⟨rfl, rfl⟩ | ⟨rfl, rfl⟩
  all_goals
    cases other <;> simp [MethodRecord.storeNumber, MethodRecord.number, NumberField.narrow]

/-- Every number of a method other than its offset is a decimal one. -/
theorem writtenNumber_unsigned (hfield : field ≠ .codeOffset) :
    writtenNumber field = writtenUnsigned field := by
  funext input
  exact if_neg fun hquoted => hfield hquoted.1

/-- The number of a member is the one that is written there. -/
theorem numberMember_written (hkey : numberField key = some field)
    (h : (if key = "code_offset" then parseAddress else parseUnsigned) input = .ok (value, rest)) :
    ∃ number, writtenNumber field input = .ok (number, rest) ∧ number.field = field ∧
      number.IsLiteral ∧ number.stored = field.narrow value := by
  by_cases hoffset : key = "code_offset"
  · rw [if_pos hoffset] at h
    obtain rfl : field = .codeOffset := by
      rw [hoffset] at hkey
      exact (Option.some.inj hkey).symm
    exact parseAddress_written h
  · rw [if_neg hoffset] at h
    have hfield : field ≠ .codeOffset := by
      rintro rfl
      rcases numberField_some hkey with
        ⟨hname, -⟩ | ⟨-, hname⟩ | ⟨-, hname⟩ | ⟨-, hname⟩ | ⟨-, hname⟩
      · exact hoffset hname
      all_goals cases hname
    rw [writtenNumber_unsigned hfield]
    exact parseUnsigned_written field h

theorem parseMethodMember_tracks :
    Tracks MethodRecord.Stores parseMethodMember writtenMethodMember := by
  intro method numbers input after rest h hread
  unfold parseMethodMember at hread
  unfold writtenMethodMember
  cases hkey : parseKey input with
  | error failure =>
    rw [hkey] at hread
    cases hread
  | ok parsed =>
    obtain ⟨key, left⟩ := parsed
    rw [hkey] at hread
    dsimp only at hread ⊢
    split at hread
    next htext =>
      obtain ⟨value, hvalue, rfl⟩ := parseInto_ok hread
      refine ⟨numbers, by rw [if_pos htext, hvalue]; rfl, ⟨?_, h.literals⟩⟩
      intro field
      rw [MethodRecord.storeText_number]
      exact h.number field
    next htext =>
    rw [if_neg htext]
    split at hread
    next hnumber =>
      cases hfield : numberField key with
      | none => exact absurd hnumber (numberField_none.mp hfield)
      | some field =>
        obtain ⟨value, hvalue, rfl⟩ := parseInto_ok hread
        obtain ⟨number, hwritten, hown, hliteral, hstored⟩ := numberMember_written hfield hvalue
        refine ⟨numbers ++ [number], by dsimp only; rw [parseInto, hwritten]; rfl, ⟨?_, ?_⟩⟩
        · intro other
          rw [MethodRecord.storeNumber_number hfield, lastOf_append, hown]
          split
          · exact hstored.symm
          · exact h.number other
        · intro other hother
          rcases mem_append.mp hother with hother | hother
          · exact h.literals other hother
          · rw [mem_singleton.mp hother]
            exact hliteral
    next hunknown =>
      obtain ⟨hskipped, rfl⟩ := skipped_ok hread
      rw [numberField_none.mpr hunknown]
      exact ⟨numbers, by dsimp only; rw [hskipped]; rfl, h⟩

end Methods

/-- The numbers of a document are stored as the parser converts and narrows them. -/
structure MetadataIndex.Stores (index : MetadataIndex) (document : WrittenDocument) : Prop where
  format : index.format.toNat =
    ((lastOf .format document.formats).map stored).getD 0
  methods : List.Forall₂ MethodRecord.Stores index.methods document.methods
  literals : ∀ number ∈ document.formats, number.IsLiteral

section Documents
variable {result : MetadataIndex} {input : List Char}

/-- The members of a module are read the same whatever is in the index, and leave its numbers. -/
theorem parseModuleMember_tracks (index : MetadataIndex) :
    Tracks (fun state _ => state.format = index.format ∧ state.methods = index.methods)
      parseModuleMember parseModuleMember := by
  intro state state' input after rest hsame hread
  unfold parseModuleMember at hread ⊢
  cases hkey : parseKey input with
  | error failure =>
    rw [hkey] at hread
    cases hread
  | ok parsed =>
    obtain ⟨key, left⟩ := parsed
    rw [hkey] at hread
    dsimp only at hread ⊢
    by_cases hname : key = "soname"
    · rw [if_pos hname] at hread ⊢
      obtain ⟨value, hvalue, rfl⟩ := parseInto_ok hread
      exact ⟨{ state' with moduleName := value }, by rw [parseInto, hvalue]; rfl, hsame⟩
    rw [if_neg hname] at hread ⊢
    by_cases hbuild : key = "build_id"
    · rw [if_pos hbuild] at hread ⊢
      obtain ⟨value, hvalue, rfl⟩ := parseInto_ok hread
      exact ⟨{ state' with buildId := value }, by rw [parseInto, hvalue]; rfl, hsame⟩
    rw [if_neg hbuild] at hread ⊢
    obtain ⟨hskipped, rfl⟩ := skipped_ok hread
    exact ⟨state', by rw [hskipped]; rfl, hsame⟩

theorem parseModule_tracks :
    Tracks MetadataIndex.Stores parseModule
      (fun document input => (parseModule {} input).map fun parsed => (document, parsed.2)) := by
  intro result document input after rest h hread
  unfold parseModule at hread ⊢
  cases hopen : consume '\x7b' input with
  | none =>
    rw [hopen] at hread
    cases hread
  | some inner =>
    simp only [hopen] at hread ⊢
    have hmembers : Tracks (fun state _ => state.format = result.format ∧
          state.methods = result.methods)
        (readSeparated (separators '\x7d') false (some "invalid module object") none
          parseModuleMember (inner.length + 1))
        (readSeparated (separators '\x7d') false (some "invalid module object") none
          parseModuleMember (inner.length + 1)) :=
      readSeparated_tracks (parseModuleMember_tracks result)
    obtain ⟨after', hread', hformat, hmethods⟩ := hmembers _ {} _ _ _ ⟨rfl, rfl⟩ hread
    rw [hread']
    refine ⟨document, rfl, ?_, ?_, h.literals⟩
    · rw [hformat]
      exact h.format
    · rw [hmethods]
      exact h.methods

theorem stores_default : ({} : MethodRecord).Stores [] :=
  ⟨fun _ => rfl, fun _ hmem => absurd hmem not_mem_nil⟩

theorem parseMethod_tracks : Tracks MetadataIndex.Stores parseMethod writtenMethod := by
  intro result document input after rest h hread
  unfold parseMethod at hread
  unfold writtenMethod
  cases hopen : consume '\x7b' input with
  | none =>
    rw [hopen] at hread
    cases hread
  | some inner =>
    rw [hopen] at hread
    dsimp only at hread ⊢
    split at hread
    · cases hread
    next method left hmembers =>
    split at hread
    · cases hread
    obtain ⟨rfl, rfl⟩ := Prod.mk.inj (Except.ok.inj hread)
    obtain ⟨numbers, hwritten, hstores⟩ :=
      readSeparated_tracks parseMethodMember_tracks _ [] _ _ _ stores_default hmembers
    rw [hwritten]
    exact ⟨_, rfl, h.format, rel_append h.methods (.cons hstores .nil), h.literals⟩

theorem parseMethods_tracks : Tracks MetadataIndex.Stores parseMethods writtenMethods := by
  intro result document input after rest h hread
  unfold parseMethods at hread
  unfold writtenMethods
  cases hopen : consume '[' input with
  | none =>
    rw [hopen] at hread
    cases hread
  | some inner =>
    rw [hopen] at hread
    dsimp only at hread ⊢
    cases hclosed : consume ']' inner with
    | none =>
      rw [hclosed] at hread
      exact readSeparated_tracks parseMethod_tracks _ _ _ _ _ h hread
    | some closed =>
      rw [hclosed] at hread
      obtain ⟨rfl, rfl⟩ := Prod.mk.inj (Except.ok.inj hread)
      exact ⟨document, rfl, h⟩

theorem parseMember_tracks : Tracks MetadataIndex.Stores parseMember writtenMember := by
  intro result document input after rest h hread
  unfold parseMember at hread
  unfold writtenMember
  cases hkey : parseKey input with
  | error failure =>
    rw [hkey] at hread
    cases hread
  | ok parsed =>
    obtain ⟨key, left⟩ := parsed
    rw [hkey] at hread
    dsimp only at hread ⊢
    by_cases hformat : key = "format"
    · rw [if_pos hformat] at hread ⊢
      obtain ⟨value, hvalue, rfl⟩ := parseInto_ok hread
      obtain ⟨number, hwritten, hfield, hliteral, hstored⟩ := parseUnsigned_written .format hvalue
      refine ⟨{ document with formats := document.formats ++ [number] },
        by rw [parseInto, hwritten]; rfl, ?_, h.methods, ?_⟩
      · rw [lastOf_append, if_pos hfield]
        exact hstored.symm
      · intro other hother
        rcases mem_append.mp hother with hother | hother
        · exact h.literals other hother
        · rw [mem_singleton.mp hother]
          exact hliteral
    rw [if_neg hformat] at hread ⊢
    by_cases hhash : key = "snapshot_hash"
    · rw [if_pos hhash] at hread ⊢
      obtain ⟨value, hvalue, rfl⟩ := parseInto_ok hread
      exact ⟨document, by rw [hvalue]; rfl, h.format, h.methods, h.literals⟩
    rw [if_neg hhash] at hread ⊢
    by_cases hmodule : key = "module"
    · rw [if_pos hmodule] at hread ⊢
      exact parseModule_tracks _ _ _ _ _ h hread
    rw [if_neg hmodule] at hread ⊢
    by_cases hmethods : key = "methods"
    · rw [if_pos hmethods] at hread ⊢
      exact parseMethods_tracks _ _ _ _ _ h hread
    rw [if_neg hmethods] at hread ⊢
    obtain ⟨hskipped, rfl⟩ := skipped_ok hread
    exact ⟨document, by rw [hskipped]; rfl, h⟩

/-- An index that was read holds what the parser stored of the numbers of the document. -/
theorem parse_stores (h : parse input = .ok result) : result.Stores (writtenDocument input) := by
  unfold parse at h
  split at h
  · cases h
  next inner hopen =>
  unfold writtenDocument
  rw [hopen]
  split at h
  · cases h
  next index left hmembers =>
  split at h
  · cases h
  split at h
  · cases h
  obtain rfl := Except.ok.inj h
  have hnone : ({} : MetadataIndex).Stores {} :=
    ⟨rfl, .nil, fun _ hmem => absurd hmem not_mem_nil⟩
  obtain ⟨document, hwritten, hstores⟩ :=
    readSeparated_tracks parseMember_tracks _ {} _ _ _ hnone hmembers
  dsimp only
  rw [hwritten]
  exact hstores

end Documents

/-! ## Exact numbers -/

section Exactness
variable {method : MethodRecord} {numbers : List WrittenNumber} {index : MetadataIndex}
  {document : WrittenDocument} {input : List Char}

/-- A field holds a value below its bound when the numbers for it are and the default is. -/
theorem MethodRecord.Stores.bounded (h : method.Stores numbers)
    (hkept : ∀ number ∈ numbers, number.Unaltered) (field : NumberField)
    (hdefault : ({} : MethodRecord).number field < field.bound) :
    method.number field < field.bound := by
  rw [h.number]
  cases hlast : lastOf field numbers with
  | none => exact hdefault
  | some number =>
    obtain ⟨hmem, hfield⟩ := mem_of_lastOf hlast
    rw [← hfield]
    exact (hkept number hmem).2

theorem MethodRecord.Stores.exact (h : method.Stores numbers)
    (hkept : ∀ number ∈ numbers, number.Unaltered) : method.Exact numbers where
  number := by
    intro field
    rw [h.number, lastOf_unaltered hkept]
  entryKind := Nat.le_of_lt_succ (h.bounded hkept .entryKind (by decide))
  addressKind := Nat.le_of_lt_succ (h.bounded hkept .addressKind (by decide))

theorem methods_literal {methods : List MethodRecord} {written : List (List WrittenNumber)}
    (h : List.Forall₂ MethodRecord.Stores methods written) :
    ∀ number ∈ written.flatten, number.IsLiteral := by
  induction h with
  | nil => exact fun _ hmem => absurd hmem not_mem_nil
  | cons hstores _ ih =>
    intro number hmem
    rw [flatten_cons] at hmem
    rcases mem_append.mp hmem with hmem | hmem
    · exact hstores.literals number hmem
    · exact ih number hmem

theorem methods_exact {methods : List MethodRecord} {written : List (List WrittenNumber)}
    (h : List.Forall₂ MethodRecord.Stores methods written)
    (hkept : ∀ number ∈ written.flatten, number.Unaltered) :
    List.Forall₂ MethodRecord.Exact methods written := by
  induction h with
  | nil => exact .nil
  | cons hstores _ ih =>
    rw [flatten_cons] at hkept
    have hfirst := hstores.exact fun number hmem => hkept number (mem_append_left _ hmem)
    exact .cons hfirst (ih fun number hmem => hkept number (mem_append_right _ hmem))

theorem MetadataIndex.Stores.literal (h : index.Stores document) :
    ∀ number ∈ document.numbers, number.IsLiteral := by
  intro number hmem
  rcases mem_append.mp hmem with hmem | hmem
  · exact h.literals number hmem
  · exact methods_literal h.methods number hmem

theorem MetadataIndex.Stores.exact_iff (h : index.Stores document) :
    index.Exact document ↔ ∀ number ∈ document.numbers, number.Fits := by
  constructor
  · intro hexact number hmem
    exact (unaltered_iff_fits (h.literal number hmem)).mp
      (hexact.unaltered number hmem)
  · intro hfits
    have hkept (number : WrittenNumber) (hmem : number ∈ document.numbers) : number.Unaltered :=
      (unaltered_iff_fits (h.literal number hmem)).mpr (hfits number hmem)
    refine ⟨?_, ?_, hkept⟩
    · rw [h.format]
      exact lastOf_unaltered (fun number hmem => hkept number (mem_append_left _ hmem)) 0
    · exact methods_exact h.methods fun number hmem => hkept number (mem_append_right _ hmem)

theorem parseMetadata_stores (h : parseMetadata (some input) = .ok index) :
    index.Stores (writtenDocument input) :=
  parse_stores h

/-- The numbers of an index that was read are those of the document, each of them as it is written
and a value of its field, just when every number that is written is a value of its field. -/
theorem metadata_numbers_exact_iff (h : parseMetadata (some input) = .ok index) :
    index.Exact (writtenDocument input) ↔
      ∀ number ∈ (writtenDocument input).numbers, number.Fits :=
  (parseMetadata_stores h).exact_iff

/-- A document with an offset in hexadecimal and the given code size. -/
def numberedDocument (codeSize : String) : List Char :=
  ("\x7b\"format\":1,\"module\":\x7b\"soname\":\"m\"\x7d,\"methods\":[\x7b\"library_uri\":\"l\"," ++
    "\"name\":\"n\",\"code_offset\":\"0x20\",\"code_size\":" ++ codeSize ++
    "\x7d]\x7d").toList

/-- What is read of it. -/
def numberedIndex (codeSize : BitVec 32) : MetadataIndex where
  format := 1
  moduleName := "m"
  methods := [{ libraryUri := "l", functionName := "n", address := 0x20, codeSize }]

theorem metadata_numbers_exact_hexadecimal :
    (numberedIndex 64).Exact (writtenDocument (numberedDocument "64")) := by
  have h : parseMetadata (some (numberedDocument "64")) = .ok (numberedIndex 64) := by
    decide +kernel
  exact (metadata_numbers_exact_iff h).mpr (by decide +kernel)

/-- A code size of 33 bits is accepted and truncated. -/
theorem code_size_truncated :
    parseMetadata (some (numberedDocument "4294967297")) = .ok (numberedIndex 1) ∧
      ¬ (numberedIndex 1).Exact (writtenDocument (numberedDocument "4294967297")) := by
  have h : parseMetadata (some (numberedDocument "4294967297")) = .ok (numberedIndex 1) := by
    decide +kernel
  refine ⟨h, fun hexact => ?_⟩
  have hfits := (parseMetadata_stores h).exact_iff.mp hexact
  revert hfits
  decide +kernel

end Exactness

end DartPlant.Metadata
