import DartPlant.Metadata.SkippedValues

/-! # Metadata documents

A metadata document as a JSON value, and what it means by its schema: the known members are read and
the others have no meaning.  Nothing here looks at the text of the document.
-/

namespace DartPlant.Metadata
open SeparatedList JsonText

/-! ## The schema -/

def rootKeys : List String := ["format", "snapshot_hash", "module", "methods"]

def moduleKeys : List String := ["soname", "build_id"]

def textKeys : List String := ["library_uri", "class", "name", "signature", "fingerprint"]

def numberKeys : List String :=
  ["code_offset", "code_size", "entry_kind", "address_kind", "code_section_va"]

def methodKeys : List String := textKeys ++ numberKeys

/-- The name of a member. -/
def memberName (member : Member) : String := member.key.string

def textOf : Value → Option String
  | .string text => some text.string
  | _ => none

/-- A natural number, as the 64 bits it is converted to. -/
def naturalOf : Value → Option (BitVec 64)
  | .number ⟨false, integer, none, none⟩ => some (strtoull integer.val.val 10).1
  | _ => none

/-- An address is a natural number, or a string that is a literal. -/
def addressOf : Value → Option (BitVec 64)
  | .string text =>
    let literal := strtoull text.string.toList 0
    if text = [] ∨ literal.2 ≠ [] then none else some literal.1
  | value => naturalOf value

def moduleMember (index : MetadataIndex) (member : Member) : Option MetadataIndex :=
  if memberName member = "soname" then
    (textOf member.value).map fun value => { index with moduleName := value }
  else if memberName member = "build_id" then
    (textOf member.value).map fun value => { index with buildId := value }
  else some index

/-- A module has a name. -/
def moduleValue (index : MetadataIndex) : Value → Option MetadataIndex
  | .object _ members =>
    if "soname" ∈ members.map memberName then members.foldlM moduleMember index else none
  | _ => none

def methodMember (method : MethodRecord) (member : Member) : Option MethodRecord :=
  if memberName member ∈ textKeys then
    (textOf member.value).map (method.storeText (memberName member))
  else if memberName member = "code_offset" then
    (addressOf member.value).map (method.storeNumber (memberName member))
  else if memberName member ∈ numberKeys then
    (naturalOf member.value).map (method.storeNumber (memberName member))
  else some method

/-- A method has a library and a name. -/
def methodElement (index : MetadataIndex) (element : Element) : Option MetadataIndex :=
  match element.value with
  | .object _ members =>
    (members.foldlM methodMember {}).bind fun method =>
      if method.libraryUri = "" ∨ method.functionName = "" then none
      else some { index with methods := index.methods ++ [method] }
  | _ => none

def methodsValue (index : MetadataIndex) : Value → Option MetadataIndex
  | .array _ elements => elements.foldlM methodElement index
  | _ => none

def rootMember (index : MetadataIndex) (member : Member) : Option MetadataIndex :=
  if memberName member = "format" then
    (naturalOf member.value).map fun value => { index with format := value.setWidth 32 }
  else if memberName member = "snapshot_hash" then
    (textOf member.value).map fun value => { index with snapshotHash := value }
  else if memberName member = "module" then moduleValue index member.value
  else if memberName member = "methods" then methodsValue index member.value
  else some index

/-- A document, with the blanks around it. -/
structure Document where
  before : Blanks
  blanks : Blanks
  members : List Member
  after : Blanks

namespace Document

def text (document : Document) : List Char :=
  document.before.val ++ ((Value.object document.blanks document.members).text ++
    document.after.val)

/-- The index that a document describes, when it follows the schema. -/
def index (document : Document) : Option MetadataIndex :=
  (document.members.foldlM rootMember {}).bind fun index =>
    if index.format ≠ 1 ∨ index.moduleName = "" ∨ index.methods = [] then none else some index

end Document

/-! ## Unknown members -/

def knownMembers (keys : List String) (members : List Member) : List Member :=
  members.filter fun member => memberName member ∈ keys

/-- The values of the members with other keys. -/
def unknownValues (keys : List String) (members : List Member) : List Value :=
  (members.filter fun member => memberName member ∉ keys).map Member.value

/-- An object without the members that have other keys. -/
def knownObject (keys : List String) : Value → Value
  | .object blanks members => .object blanks (knownMembers keys members)
  | value => value

def knownElement (element : Element) : Element :=
  match element with
  | .mk before value after => .mk before (knownObject methodKeys value) after

def knownArray : Value → Value
  | .array blanks elements => .array blanks (elements.map knownElement)
  | value => value

def knownMember (member : Member) : Member :=
  if memberName member = "module" then member.withValue (knownObject moduleKeys member.value)
  else if memberName member = "methods" then member.withValue (knownArray member.value)
  else member

def unknownOfObject (keys : List String) : Value → List Value
  | .object _ members => unknownValues keys members
  | _ => []

def unknownOfArray : Value → List Value
  | .array _ elements => elements.flatMap fun element => unknownOfObject methodKeys element.value
  | _ => []

/-- The values of unknown members inside of a member of the root. -/
def unknownInside (member : Member) : List Value :=
  if memberName member = "module" then unknownOfObject moduleKeys member.value
  else if memberName member = "methods" then unknownOfArray member.value
  else []

namespace Document

/-- The document without its unknown members. -/
def known (document : Document) : Document :=
  { document with members := (knownMembers rootKeys document.members).map knownMember }

/-- The values of the unknown members of the root, of the module and of the methods. -/
def unknown (document : Document) : List Value :=
  unknownValues rootKeys document.members ++ document.members.flatMap unknownInside

end Document

end DartPlant.Metadata
