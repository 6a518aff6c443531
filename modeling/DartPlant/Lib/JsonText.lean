import DartPlant.Lib.SeparatedList

/-! # JSON texts

A JSON value with everything that its text shows: the blanks, the escapes, the digits and the order
of its members.  Strings have the escapes of one letter, and no others.
-/

namespace DartPlant.JsonText
open SeparatedList

/-! ## Blanks, strings and numbers -/

/-- The characters between the tokens of a text. -/
def IsBlank (character : Char) : Prop :=
  character = ' ' ∨ character = '\t' ∨ character = '\n' ∨ character = '\r'

instance (character : Char) : Decidable (IsBlank character) := inferInstanceAs (Decidable (_ ∨ _))

abbrev Blanks := { text : List Char // ∀ character ∈ text, IsBlank character }

instance : Inhabited Blanks := ⟨⟨[], fun _ hmem => absurd hmem List.not_mem_nil⟩⟩

inductive Escape where
  | quote
  | backslash
  | slash
  | backspace
  | formFeed
  | lineFeed
  | carriageReturn
  | tab
  deriving DecidableEq, Repr

namespace Escape

def letter : Escape → Char
  | .quote => '"'
  | .backslash => '\\'
  | .slash => '/'
  | .backspace => 'b'
  | .formFeed => 'f'
  | .lineFeed => 'n'
  | .carriageReturn => 'r'
  | .tab => 't'

def value : Escape → Char
  | .quote => '"'
  | .backslash => '\\'
  | .slash => '/'
  | .backspace => '\x08'
  | .formFeed => '\x0c'
  | .lineFeed => '\n'
  | .carriageReturn => '\r'
  | .tab => '\t'

end Escape

/-- The characters that stand for themselves in a string. -/
def IsPlain (character : Char) : Prop :=
  character ≠ '"' ∧ character ≠ '\\' ∧ 0x20 ≤ character.toNat

instance (character : Char) : Decidable (IsPlain character) := inferInstanceAs (Decidable (_ ∧ _))

/-- A character of a string. -/
inductive Letter where
  | plain (character : Char) (h : IsPlain character)
  | escape (code : Escape)
  deriving DecidableEq

namespace Letter

def text : Letter → List Char
  | .plain character _ => [character]
  | .escape code => ['\\', code.letter]

def value : Letter → Char
  | .plain character _ => character
  | .escape code => code.value

end Letter

/-- The content of a string. -/
abbrev Text := List Letter

namespace Text

/-- The string between its quotation marks. -/
def body (text : Text) : List Char := text.flatMap Letter.text

def quoted (text : Text) : List Char := '"' :: (text.body ++ ['"'])

/-- The string of the characters that stand for themselves. -/
def ofPlain (text : List Char) : Text :=
  text.filterMap fun character =>
    if h : IsPlain character then some (.plain character h) else none

/-- What the string says. -/
def string (text : Text) : String := String.ofList (text.map Letter.value)

end Text

/-- Characters are checked one after the other. -/
theorem forall_mem_of_all {p : Char → Prop} [DecidablePred p] {characters : List Char}
    (h : (characters.all fun character => decide (p character)) = true) :
    ∀ character ∈ characters, p character :=
  fun character hmem => of_decide_eq_true (List.all_eq_true.mp h character hmem)

abbrev Digits := { text : List Char // text ≠ [] ∧ ∀ character ∈ text, character.isDigit }

/-- A number without a sign, a fraction and an exponent. -/
abbrev Natural := { digits : Digits // digits.val.head? = some '0' → digits.val = ['0'] }

structure Number where
  negative : Bool
  integer : Natural
  fraction : Option Digits
  exponent : Option (Bool × Option Bool × Digits)

namespace Number

def text (number : Number) : List Char :=
  (if number.negative then ['-'] else []) ++ number.integer.val.val ++
    (match number.fraction with
      | none => []
      | some digits => '.' :: digits.val) ++
    match number.exponent with
    | none => []
    | some (capital, sign, digits) =>
      (if capital then 'E' else 'e') :: (match sign with
        | none => []
        | some negative => [if negative then '-' else '+']) ++ digits.val

end Number

/-! ## Values -/

mutual

/-- A value; the blanks of an array or an object are its text when it is empty. -/
inductive Value where
  | null
  | boolean (value : Bool)
  | number (number : Number)
  | string (text : Text)
  | array (blanks : Blanks) (elements : List Element)
  | object (blanks : Blanks) (members : List Member)

inductive Element where
  | mk (before : Blanks) (value : Value) (after : Blanks)

inductive Member where
  | mk (before : Blanks) (key : Text) (beforeColon beforeValue : Blanks) (value : Value)
      (after : Blanks)

end

namespace Element

def value : Element → Value
  | .mk _ value _ => value

end Element

namespace Member

def key : Member → Text
  | .mk _ key _ _ _ _ => key

def value : Member → Value
  | .mk _ _ _ _ value _ => value

def withValue (value : Value) : Member → Member
  | .mk before key beforeColon beforeValue _ after =>
    .mk before key beforeColon beforeValue value after

end Member

mutual

def Value.text : Value → List Char
  | .null => ['n', 'u', 'l', 'l']
  | .boolean true => ['t', 'r', 'u', 'e']
  | .boolean false => ['f', 'a', 'l', 's', 'e']
  | .number number => number.text
  | .string text => text.quoted
  | .array blanks elements => '[' :: (elementsText blanks elements ++ [']'])
  | .object blanks members => '\x7b' :: (membersText blanks members ++ ['\x7d'])

def Element.text : Element → List Char
  | .mk before value after => before.val ++ value.text ++ after.val

def Member.text : Member → List Char
  | .mk before key beforeColon beforeValue value after =>
    before.val ++ key.quoted ++ beforeColon.val ++ ':' :: beforeValue.val ++ value.text ++ after.val

def elementsText (blanks : Blanks) : List Element → List Char
  | [] => blanks.val
  | [element] => element.text
  | element :: next :: elements => element.text ++ ',' :: elementsText blanks (next :: elements)

def membersText (blanks : Blanks) : List Member → List Char
  | [] => blanks.val
  | [member] => member.text
  | member :: next :: members => member.text ++ ',' :: membersText blanks (next :: members)

end

/-! ## Lists of members and elements -/

theorem membersText_eq (blanks : Blanks) {members : List Member} (hne : members ≠ []) :
    membersText blanks members = joined ',' Member.text members := by
  induction members with
  | nil => exact absurd rfl hne
  | cons member members ih =>
    cases members with
    | nil => rw [membersText, joined]
    | cons next members => rw [membersText, joined, ih (List.cons_ne_nil _ _)]

theorem elementsText_eq (blanks : Blanks) {elements : List Element} (hne : elements ≠ []) :
    elementsText blanks elements = joined ',' Element.text elements := by
  induction elements with
  | nil => exact absurd rfl hne
  | cons element elements ih =>
    cases elements with
    | nil => rw [elementsText, joined]
    | cons next elements => rw [elementsText, joined, ih (List.cons_ne_nil _ _)]

end DartPlant.JsonText
