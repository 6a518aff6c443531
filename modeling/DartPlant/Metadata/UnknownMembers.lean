import DartPlant.Metadata.MetadataDocument
import Mathlib.Data.List.TakeWhile

/-! # Unknown members are skipped

The parser reads the text of a document as the document's index, whatever blanks and unknown members
it has, when every unknown value is skipped exactly.
-/

namespace DartPlant.Metadata
open SeparatedList JsonText List

/-! ## Pieces of a member -/

section Pieces
variable {rest : List Char}

/-- The text between the colon of a member and its end. -/
def memberTail (member : Member) (rest : List Char) : List Char :=
  match member with
  | .mk _ _ _ beforeValue value after => beforeValue.val ++ (value.text ++ (after.val ++ rest))

theorem parseKey_member (member : Member) (rest : List Char) :
    parseKey (member.text ++ rest) = .ok (memberName member, memberTail member rest) := by
  obtain ⟨before, key, beforeColon, beforeValue, value, after⟩ := member
  have htext : (Member.mk before key beforeColon beforeValue value after).text ++ rest =
      before.val ++ (key.quoted ++ (beforeColon.val ++
        ':' :: (beforeValue.val ++ (value.text ++ (after.val ++ rest))))) := by
    simp only [Member.text, append_assoc, cons_append]
  unfold parseKey
  rw [htext, parseString_text]
  dsimp only
  rw [consume_blanks, consume_self rfl]
  rfl

/-- The brace that closes an object, or the comma before the next member. -/
theorem endsMember_of_separator
    (h : ((separators '\x7d').close rest).isSome ∨ ((separators '\x7d').comma rest).isSome) :
    EndsMember rest := by
  have hconsume (expected : Char) (hsome : (consume expected rest).isSome) :
      ∃ tail, skipWhitespace rest = expected :: tail := by
    unfold consume at hsome
    split at hsome
    next character tail hskip =>
      split at hsome
      next hexpected => exact ⟨tail, hexpected ▸ hskip⟩
      next => cases hsome
    next => cases hsome
  rcases h with h | h
  · obtain ⟨tail, htail⟩ := hconsume '\x7d' h
    exact ⟨'\x7d', tail, htail, .inr rfl⟩
  · obtain ⟨tail, htail⟩ := hconsume ',' h
    exact ⟨',', tail, htail, .inl rfl⟩

theorem EndsMember.blanks (h : EndsMember rest) (blanks : Blanks) :
    EndsMember (blanks.val ++ rest) := by
  unfold EndsMember
  rw [skipWhitespace_blanks]
  exact h

/-- What follows a member is no digit. -/
theorem takeWhile_endsMember (h : EndsMember rest) : rest.takeWhile Char.isDigit = [] := by
  obtain ⟨ending, tail, hending, hcharacter⟩ := h
  cases rest with
  | nil => rfl
  | cons character rest =>
    refine takeWhile_cons_of_neg fun hdigit => ?_
    rw [skipWhitespace_cons (isSpace_of_isDigit hdigit)] at hending
    obtain ⟨rfl, -⟩ := List.cons.inj hending
    rcases hcharacter with rfl | rfl <;> exact absurd hdigit (by decide)

theorem isDigitOf_ten {character : Char} (h : character.isDigit) :
    isDigitOf 10 character = true := by
  have hvalue : digitValue character = character.toNat - 48 := if_pos h
  rw [Char.isDigit, Bool.and_eq_true, decide_eq_true_eq, decide_eq_true_eq] at h
  have hhigh : character.toNat ≤ 57 := h.2
  rw [isDigitOf, hvalue]
  exact decide_eq_true (by omega)

theorem readLiteral_digits (digits : Digits) :
    readLiteral digits.val 10 = ⟨false, 10, digits.val⟩ := by
  obtain ⟨text, hne, hdigits⟩ := digits
  obtain ⟨digit, text, rfl⟩ := exists_cons_of_ne_nil hne
  have hdigit := hdigits digit mem_cons_self
  have hminus : ¬ some digit = some '-' := by
    rintro heq
    rw [Option.some.inj heq] at hdigit
    exact absurd hdigit (by decide)
  have hplus : ¬ some digit = some '+' := by
    rintro heq
    rw [Option.some.inj heq] at hdigit
    exact absurd hdigit (by decide)
  unfold readLiteral
  dsimp only
  rw [skipWhitespace_cons (isSpace_of_isDigit hdigit), List.head?_cons,
    if_neg (not_or.mpr ⟨hminus, hplus⟩), if_neg (by decide), decide_eq_false hminus]

theorem strtoull_digits (digits : Digits) : (strtoull digits.val 10).2 = [] := by
  have hall : ∀ character ∈ digits.val, isDigitOf 10 character = true :=
    fun character hmem => isDigitOf_ten (digits.property.2 character hmem)
  unfold strtoull
  dsimp only
  rw [readLiteral_digits]
  dsimp only
  rw [takeWhile_eq_self_iff.mpr hall, if_neg digits.property.1]
  exact dropWhile_eq_nil_iff.mpr hall

/-- A natural number is read as its digits are converted. -/
theorem parseUnsigned_natural {value : Value} {number : BitVec 64}
    (h : naturalOf value = some number) (blanks : Blanks) (hrest : EndsMember rest) :
    parseUnsigned (blanks.val ++ (value.text ++ rest)) = .ok (number, rest) := by
  unfold naturalOf at h
  split at h
  next integer =>
    obtain rfl := Option.some.inj h
    have htext : (Value.number ⟨false, integer, none, none⟩).text = integer.val.val := by
      simp only [Value.text, Number.text, Bool.false_eq_true, if_false, nil_append,
        append_nil]
    have hdigits := integer.val.property.2
    obtain ⟨digit, digits, hcons⟩ := exists_cons_of_ne_nil integer.val.property.1
    have hstart : skipWhitespace (blanks.val ++ (integer.val.val ++ rest)) =
        integer.val.val ++ rest := by
      have hdigit := hdigits digit (hcons ▸ mem_cons_self)
      rw [skipWhitespace_blanks, hcons, cons_append,
        skipWhitespace_cons (isSpace_of_isDigit hdigit)]
    have htake : (integer.val.val ++ rest).takeWhile Char.isDigit = integer.val.val := by
      rw [takeWhile_append_of_pos hdigits, takeWhile_endsMember hrest, append_nil]
    have hdrop : (integer.val.val ++ rest).dropWhile Char.isDigit = rest := by
      have happend : (integer.val.val ++ rest).takeWhile Char.isDigit ++
        (integer.val.val ++ rest).dropWhile Char.isDigit = integer.val.val ++ rest :=
          takeWhile_append_dropWhile
      rw [htake] at happend
      exact append_cancel_left happend
    unfold parseUnsigned
    dsimp only
    rw [htext, hstart, htake, hdrop, if_neg integer.val.property.1, strtoull_digits,
      if_neg (not_not.mpr rfl)]
  next => cases h

theorem parseUnsigned_head {input : List Char} {read : BitVec 64 × List Char}
    (h : parseUnsigned input = .ok read) : (skipWhitespace input).head? ≠ some '"' := by
  unfold parseUnsigned at h
  dsimp only at h
  split at h
  · cases h
  next hne =>
  cases hinput : skipWhitespace input with
  | nil => nofun
  | cons character rest =>
    rw [hinput] at hne
    rintro heq
    obtain rfl := Option.some.inj heq
    exact hne (takeWhile_cons_of_neg (by decide))

/-- An address is read as a number, or as its literal is converted. -/
theorem parseAddress_value {value : Value} {number : BitVec 64}
    (h : addressOf value = some number) (blanks : Blanks) (hrest : EndsMember rest) :
    parseAddress (blanks.val ++ (value.text ++ rest)) = .ok (number, rest) := by
  unfold parseAddress
  unfold addressOf at h
  split at h
  next text =>
    dsimp only at h
    split at h
    · cases h
    next hliteral =>
    obtain ⟨hne, hwhole⟩ := not_or.mp hliteral
    obtain rfl := Option.some.inj h
    have hread := parseString_text blanks text rest
    have hquoted : (skipWhitespace (blanks.val ++ (text.quoted ++ rest))).head? = some '"' := by
      rw [skipWhitespace_blanks]
      unfold Text.quoted
      rw [cons_append, skipWhitespace_cons rfl]
      rfl
    have hstring : text.string ≠ "" := by
      intro hempty
      have hnil := String.ofList_eq_empty_iff.mp hempty
      exact hne (map_eq_nil_iff.mp hnil)
    rw [Value.text, if_pos hquoted, hread]
    dsimp only
    rw [if_neg hstring, if_neg hwhole]
  next =>
    have hread := parseUnsigned_natural h blanks hrest
    rw [if_neg (parseUnsigned_head hread)]
    exact hread

theorem parseString_value {value : Value} {string : String} (h : textOf value = some string)
    (blanks : Blanks) (rest : List Char) :
    parseString (blanks.val ++ (value.text ++ rest)) = .ok (string, rest) := by
  unfold textOf at h
  split at h
  next text =>
    obtain rfl := Option.some.inj h
    rw [Value.text]
    exact parseString_text blanks text rest
  next => cases h

theorem parseInto_read {α σ : Type} {parse : List Char → Parsed α} {input : List Char} {value : α}
    (store : α → σ) (h : parse input = .ok (value, rest)) :
    parseInto parse store input = .ok (store value, rest) := by
  rw [parseInto, h]
  rfl

end Pieces

/-! ## Members -/

section Members
variable {rest : List Char}

/-- A reader of members leaves what ends the member. -/
def ReadsMember {σ : Type} (item : Reader Char Failure σ) (update : σ → Member → Option σ)
    (member : Member) : Prop :=
  ∀ state after rest, update state member = some after → EndsMember rest →
    ∃ left, item state (member.text ++ rest) = .ok (after, left) ∧
      skipWhitespace left = skipWhitespace rest

theorem ReadsMember.readsBack {σ : Type} {item : Reader Char Failure σ}
    {update : σ → Member → Option σ} {member : Member} (h : ReadsMember item update member) :
    SeparatedList.ReadsBack (separators '\x7d') item Member.text update member := by
  intro state after rest hmeaning hends
  obtain ⟨left, hread, hleft⟩ := h state after rest hmeaning (endsMember_of_separator hends)
  refine ⟨left, hread, ?_, ?_⟩
  · show consume '\x7d' left = consume '\x7d' rest
    unfold consume
    rw [hleft]
  · show consume ',' left = consume ',' rest
    unfold consume
    rw [hleft]

theorem member_starts (member : Member) (rest : List Char) :
    consume '\x7d' (member.text ++ rest) = none := by
  obtain ⟨before, key, beforeColon, beforeValue, value, after⟩ := member
  simp only [Member.text, Text.quoted, append_assoc, cons_append]
  rw [consume_blanks]
  exact consume_other rfl (by decide) _

theorem close_comma {close : Char} (h : ',' ≠ close) (rest : List Char) :
    (separators close).close (',' :: rest) = none :=
  consume_other rfl h rest

theorem comma_comma (close : Char) (rest : List Char) :
    (separators close).comma (',' :: rest) = some rest := by
  show consume ',' (',' :: rest) = some rest
  exact consume_self rfl rest

/-- The members of an object are read to its closing brace. -/
theorem readMembers {σ : Type} {item : Reader Char Failure σ} {update : σ → Member → Option σ}
    {members : List Member} (trailing : Bool) (missing : Failure) (blanks : Blanks)
    (hne : members ≠ []) (hreads : ∀ member ∈ members, ReadsMember item update member)
    {state after : σ} (hmeaning : members.foldlM update state = some after) (rest : List Char) :
    readSeparated (separators '\x7d') trailing missing none item
        ((membersText blanks members ++ '\x7d' :: rest).length + 1) state
        (membersText blanks members ++ '\x7d' :: rest) = .ok (after, rest) := by
  rw [membersText_eq blanks hne]
  refine readSeparated_joined (close_comma (by decide)) (comma_comma '\x7d') hne
    (fun member hmem => (hreads member hmem).readsBack) (fun _ member _ => member_starts member)
    (consume_self rfl rest) ?_ hmeaning
  refine Nat.le_trans (length_le_joined ',' Member.text members) ?_
  rw [length_append]
  omega

/-- An unknown member leaves the state, when its value is skipped exactly. -/
theorem skipValue_reads {σ : Type} (state : σ) {value : Value} (hexact : SkippedExactly value)
    (before after : Blanks) (hends : EndsMember rest) :
    ∃ left, (skipValue (before.val ++ (value.text ++ (after.val ++ rest)))).map
        (fun rest => (state, rest)) = .ok (state, left) ∧
      skipWhitespace left = skipWhitespace rest := by
  obtain ⟨left, hskip, hleft⟩ := skipValue_exact hexact before (hends.blanks after)
  refine ⟨left, by rw [hskip]; rfl, ?_⟩
  rw [hleft, skipWhitespace_blanks]

/-- A known member is stored, and leaves the blanks after it. -/
theorem parseInto_reads {α σ : Type} {parse : List Char → Parsed α} {input : List Char}
    (store : α → σ) {read : Option α} {state : σ} (hstore : read.map store = some state)
    (after : Blanks)
    (h : ∀ value, read = some value → parse input = .ok (value, after.val ++ rest)) :
    ∃ left, parseInto parse store input = .ok (state, left) ∧
      skipWhitespace left = skipWhitespace rest := by
  obtain ⟨value, hvalue, rfl⟩ := Option.map_eq_some_iff.mp hstore
  exact ⟨after.val ++ rest, parseInto_read store (h value hvalue), skipWhitespace_blanks after rest⟩

theorem parseModuleMember_reads {member : Member}
    (hunknown : memberName member ∉ moduleKeys → SkippedExactly member.value) :
    ReadsMember parseModuleMember moduleMember member := by
  intro state after rest hmeaning hends
  unfold parseModuleMember
  rw [parseKey_member]
  dsimp only
  unfold moduleMember at hmeaning
  obtain ⟨before, key, beforeColon, beforeValue, value, blanks⟩ := member
  generalize memberName (.mk before key beforeColon beforeValue value blanks) = name
    at hunknown hmeaning ⊢
  have htext (string : String) (hstring : textOf value = some string) :
      parseString (beforeValue.val ++ (value.text ++ (blanks.val ++ rest))) =
        .ok (string, blanks.val ++ rest) :=
    parseString_value hstring beforeValue (blanks.val ++ rest)
  by_cases hname : name = "soname"
  · rw [if_pos hname] at hmeaning ⊢
    exact parseInto_reads _ hmeaning blanks htext
  rw [if_neg hname] at hmeaning ⊢
  by_cases hbuild : name = "build_id"
  · rw [if_pos hbuild] at hmeaning ⊢
    exact parseInto_reads _ hmeaning blanks htext
  rw [if_neg hbuild] at hmeaning ⊢
  obtain rfl := Option.some.inj hmeaning
  refine skipValue_reads state (hunknown ?_) beforeValue blanks hends
  rw [moduleKeys, mem_cons, mem_singleton]
  exact not_or.mpr ⟨hname, hbuild⟩

theorem parseMethodMember_reads {member : Member}
    (hunknown : memberName member ∉ methodKeys → SkippedExactly member.value) :
    ReadsMember parseMethodMember methodMember member := by
  intro state after rest hmeaning hends
  unfold parseMethodMember
  rw [parseKey_member]
  dsimp only
  unfold methodMember at hmeaning
  obtain ⟨before, key, beforeColon, beforeValue, value, blanks⟩ := member
  generalize memberName (.mk before key beforeColon beforeValue value blanks) = name
    at hunknown hmeaning ⊢
  have htextKeys : name ∈ textKeys ↔ name = "library_uri" ∨ name = "class" ∨ name = "name" ∨
      name = "signature" ∨ name = "fingerprint" := by
    simp only [textKeys, mem_cons, not_mem_nil, or_false]
  have hnumberKeys : name ∈ numberKeys ↔ name = "code_offset" ∨ name = "code_size" ∨
      name = "entry_kind" ∨ name = "address_kind" ∨ name = "code_section_va" := by
    simp only [numberKeys, mem_cons, not_mem_nil, or_false]
  by_cases htext : name ∈ textKeys
  · rw [if_pos htext] at hmeaning
    rw [if_pos (htextKeys.mp htext)]
    exact parseInto_reads _ hmeaning blanks fun string hstring =>
      parseString_value hstring beforeValue (blanks.val ++ rest)
  rw [if_neg htext] at hmeaning
  rw [if_neg (mt htextKeys.mpr htext)]
  by_cases hoffset : name = "code_offset"
  · rw [if_pos hoffset] at hmeaning
    rw [if_pos (.inl hoffset), if_pos hoffset]
    exact parseInto_reads _ hmeaning blanks fun number hnumber =>
      parseAddress_value hnumber beforeValue (hends.blanks blanks)
  rw [if_neg hoffset] at hmeaning
  by_cases hnumber : name ∈ numberKeys
  · rw [if_pos hnumber] at hmeaning
    rw [if_pos (hnumberKeys.mp hnumber), if_neg hoffset]
    exact parseInto_reads _ hmeaning blanks fun number hnumber =>
      parseUnsigned_natural hnumber beforeValue (hends.blanks blanks)
  rw [if_neg hnumber] at hmeaning
  rw [if_neg (mt hnumberKeys.mpr hnumber)]
  obtain rfl := Option.some.inj hmeaning
  refine skipValue_reads state (hunknown ?_) beforeValue blanks hends
  rw [methodKeys, mem_append]
  exact not_or.mpr ⟨htext, hnumber⟩

end Members

/-! ## Modules and methods -/

section Objects
variable {rest : List Char}

theorem parseModule_reads {index after : MetadataIndex} {value : Value}
    (hmeaning : moduleValue index value = some after)
    (hunknown : ∀ unknown ∈ unknownOfObject moduleKeys value, SkippedExactly unknown)
    (blanks : Blanks) (rest : List Char) :
    parseModule index (blanks.val ++ (value.text ++ rest)) = .ok (after, rest) := by
  unfold moduleValue at hmeaning
  split at hmeaning
  next inner members =>
    split at hmeaning
    next hname =>
      have hne : members ≠ [] := by
        rintro rfl
        cases hname
      have hreads (member : Member) (hmem : member ∈ members) :
          ReadsMember parseModuleMember moduleMember member := by
        refine parseModuleMember_reads fun hother => hunknown _ ?_
        exact mem_map_of_mem (mem_filter.mpr ⟨hmem, decide_eq_true hother⟩)
      unfold parseModule
      rw [consume_blanks, Value.text, cons_append, consume_self rfl, append_assoc,
        singleton_append]
      exact readMembers false _ inner hne hreads hmeaning rest
    next => cases hmeaning
  next => cases hmeaning

theorem parseMethod_reads {index after : MetadataIndex} {element : Element}
    (hmeaning : methodElement index element = some after)
    (hunknown : ∀ unknown ∈ unknownOfObject methodKeys element.value, SkippedExactly unknown)
    (rest : List Char) :
    ∃ left, parseMethod index (element.text ++ rest) = .ok (after, left) ∧
      skipWhitespace left = skipWhitespace rest := by
  obtain ⟨before, value, blanks⟩ := element
  unfold methodElement at hmeaning
  split at hmeaning
  next inner members hvalue =>
    obtain rfl : value = .object inner members := hvalue
    obtain ⟨method, hmethod, hmeaning⟩ := Option.bind_eq_some_iff.mp hmeaning
    split at hmeaning
    · cases hmeaning
    next hnamed =>
    obtain rfl := Option.some.inj hmeaning
    have hne : members ≠ [] := by
      rintro rfl
      obtain rfl := Option.some.inj hmethod
      exact hnamed (.inl rfl)
    have hreads (member : Member) (hmem : member ∈ members) :
        ReadsMember parseMethodMember methodMember member := by
      refine parseMethodMember_reads fun hother => hunknown _ ?_
      exact mem_map_of_mem (mem_filter.mpr ⟨hmem, decide_eq_true hother⟩)
    refine ⟨blanks.val ++ rest, ?_, skipWhitespace_blanks blanks rest⟩
    unfold parseMethod
    rw [Element.text, append_assoc, append_assoc, consume_blanks, Value.text,
      cons_append, consume_self rfl, append_assoc, singleton_append]
    dsimp only
    rw [readMembers false _ inner hne hreads hmethod (blanks.val ++ rest)]
    dsimp only
    rw [if_neg hnamed]
  next => cases hmeaning

theorem parseMethod_readsBack {element : Element}
    (hunknown : ∀ unknown ∈ unknownOfObject methodKeys element.value, SkippedExactly unknown) :
    SeparatedList.ReadsBack (separators ']') parseMethod Element.text methodElement element := by
  intro index after rest hmeaning _
  obtain ⟨left, hread, hleft⟩ := parseMethod_reads hmeaning hunknown rest
  refine ⟨left, hread, ?_, ?_⟩
  · show consume ']' left = consume ']' rest
    unfold consume
    rw [hleft]
  · show consume ',' left = consume ',' rest
    unfold consume
    rw [hleft]

/-- A method starts with a brace. -/
theorem methodElement_starts {index after : MetadataIndex} {element : Element}
    (hmeaning : methodElement index element = some after) (rest : List Char) :
    consume ']' (element.text ++ rest) = none := by
  obtain ⟨before, value, blanks⟩ := element
  unfold methodElement at hmeaning
  split at hmeaning
  next inner members hvalue =>
    obtain rfl : value = .object inner members := hvalue
    rw [Element.text, append_assoc, append_assoc, consume_blanks, Value.text,
      cons_append]
    exact consume_other rfl (by decide) _
  next => cases hmeaning

theorem parseMethods_reads {index after : MetadataIndex} {value : Value}
    (hmeaning : methodsValue index value = some after)
    (hunknown : ∀ unknown ∈ unknownOfArray value, SkippedExactly unknown)
    (blanks : Blanks) (rest : List Char) :
    parseMethods index (blanks.val ++ (value.text ++ rest)) = .ok (after, rest) := by
  unfold methodsValue at hmeaning
  split at hmeaning
  next inner elements =>
    unfold parseMethods
    rw [consume_blanks, Value.text, cons_append, consume_self rfl, append_assoc,
      singleton_append]
    dsimp only
    cases helements : elements with
    | nil =>
      rw [helements] at hmeaning
      obtain rfl := Option.some.inj hmeaning
      rw [elementsText, consume_blanks, consume_self rfl]
    | cons element others =>
      have hne : element :: others ≠ [] := cons_ne_nil _ _
      have hreads (written : Element) (hmem : written ∈ element :: others) :
          SeparatedList.ReadsBack (separators ']') parseMethod Element.text methodElement
            written := by
        refine parseMethod_readsBack fun unknown hunknown' => hunknown unknown ?_
        exact mem_flatMap.mpr ⟨written, helements ▸ hmem, hunknown'⟩
      rw [helements] at hmeaning
      have hstart : consume ']' (elementsText inner (element :: others) ++ ']' :: rest) = none := by
        rw [foldlM_cons] at hmeaning
        obtain ⟨middle, hmiddle, -⟩ := Option.bind_eq_some_iff.mp hmeaning
        cases others with
        | nil =>
          rw [elementsText]
          exact methodElement_starts hmiddle _
        | cons next others =>
          rw [elementsText, append_assoc]
          exact methodElement_starts hmiddle _
      rw [hstart]
      dsimp only
      rw [elementsText_eq inner hne]
      refine readSeparated_joined (close_comma (by decide)) (comma_comma ']') hne hreads
        (fun htrailing => absurd htrailing Bool.false_ne_true) (consume_self rfl rest) ?_ hmeaning
      refine Nat.le_trans (length_le_joined ',' Element.text _) ?_
      rw [length_append]
      omega
  next => cases hmeaning

end Objects

/-! ## Documents -/

theorem parseMember_reads {member : Member}
    (hunknown : memberName member ∉ rootKeys → SkippedExactly member.value)
    (hinside : ∀ unknown ∈ unknownInside member, SkippedExactly unknown) :
    ReadsMember parseMember rootMember member := by
  intro state after rest hmeaning hends
  unfold parseMember
  rw [parseKey_member]
  dsimp only
  unfold rootMember at hmeaning
  unfold unknownInside at hinside
  obtain ⟨before, key, beforeColon, beforeValue, value, blanks⟩ := member
  generalize memberName (.mk before key beforeColon beforeValue value blanks) = name
    at hunknown hmeaning hinside ⊢
  by_cases hformat : name = "format"
  · rw [if_pos hformat] at hmeaning ⊢
    exact parseInto_reads _ hmeaning blanks fun number hnumber =>
      parseUnsigned_natural hnumber beforeValue (hends.blanks blanks)
  rw [if_neg hformat] at hmeaning ⊢
  by_cases hhash : name = "snapshot_hash"
  · rw [if_pos hhash] at hmeaning ⊢
    exact parseInto_reads _ hmeaning blanks fun string hstring =>
      parseString_value hstring beforeValue (blanks.val ++ rest)
  rw [if_neg hhash] at hmeaning ⊢
  by_cases hmodule : name = "module"
  · rw [if_pos hmodule] at hmeaning hinside ⊢
    exact ⟨blanks.val ++ rest, parseModule_reads hmeaning hinside beforeValue _,
      skipWhitespace_blanks blanks rest⟩
  rw [if_neg hmodule] at hmeaning hinside ⊢
  by_cases hmethods : name = "methods"
  · rw [if_pos hmethods] at hmeaning hinside ⊢
    exact ⟨blanks.val ++ rest, parseMethods_reads hmeaning hinside beforeValue _,
      skipWhitespace_blanks blanks rest⟩
  rw [if_neg hmethods] at hmeaning ⊢
  obtain rfl := Option.some.inj hmeaning
  refine skipValue_reads state (hunknown ?_) beforeValue blanks hends
  simp only [rootKeys, mem_cons, not_mem_nil, or_false, not_or]
  exact ⟨hformat, hhash, hmodule, hmethods⟩

/-- The text of a document is read as the index it describes. -/
theorem parse_document {document : Document} {index : MetadataIndex}
    (hmeaning : document.index = some index)
    (hunknown : ∀ value ∈ document.unknown, SkippedExactly value) :
    parseMetadata (some document.text) = .ok index := by
  obtain ⟨before, inner, members, blanks⟩ := document
  obtain ⟨read, hread, hcomplete⟩ := Option.bind_eq_some_iff.mp hmeaning
  split at hcomplete
  · cases hcomplete
  next hvalid =>
  obtain rfl := Option.some.inj hcomplete
  have hne : members ≠ [] := by
    rintro rfl
    obtain rfl := Option.some.inj hread
    exact hvalid (.inl (by decide))
  have hreads (member : Member) (hmem : member ∈ members) :
      ReadsMember parseMember rootMember member := by
    refine parseMember_reads (fun hother => hunknown _ ?_) fun unknown hinside => hunknown _ ?_
    · refine mem_append_left _ (mem_map_of_mem ?_)
      exact mem_filter.mpr ⟨hmem, decide_eq_true hother⟩
    · exact mem_append_right _ (mem_flatMap.mpr ⟨member, hmem, hinside⟩)
  have hblank : skipWhitespace blanks.val = [] := by
    have hskip := skipWhitespace_blanks blanks []
    rwa [append_nil] at hskip
  show parse _ = _
  unfold parse Document.text
  rw [consume_blanks, Value.text, cons_append, consume_self rfl, append_assoc,
    singleton_append]
  dsimp only
  rw [readMembers true _ inner hne hreads hread blanks.val]
  dsimp only
  rw [hblank, if_neg (not_not.mpr rfl), if_neg hvalid]

/-! ## Documents without unknown members -/

/-- A fold is the same without what it does not look at. -/
theorem foldlM_filter {α σ : Type} {update : σ → α → Option σ} {keep : α → Bool}
    (h : ∀ state item, keep item = false → update state item = some state) (items : List α)
    (state : σ) : (items.filter keep).foldlM update state = items.foldlM update state := by
  induction items generalizing state with
  | nil => rfl
  | cons item items ih =>
    rw [foldlM_cons]
    cases hkeep : keep item with
    | true =>
      rw [filter_cons_of_pos hkeep, foldlM_cons]
      exact congrArg _ (funext fun middle => ih middle)
    | false =>
      rw [filter_cons_of_neg (by rw [hkeep]; exact Bool.false_ne_true), h state item hkeep,
        ih]
      rfl

section Known
variable {index : MetadataIndex} {keys : List String}

theorem foldlM_knownMembers {σ : Type} {update : σ → Member → Option σ}
    (h : ∀ state member, memberName member ∉ keys → update state member = some state)
    (members : List Member) (state : σ) :
    (knownMembers keys members).foldlM update state = members.foldlM update state :=
  foldlM_filter (fun state member hother => h state member (of_decide_eq_false hother)) members state

theorem moduleMember_unknown (index : MetadataIndex) (member : Member)
    (h : memberName member ∉ moduleKeys) : moduleMember index member = some index := by
  simp only [moduleKeys, mem_cons, not_mem_nil, or_false, not_or] at h
  unfold moduleMember
  rw [if_neg h.1, if_neg h.2]

theorem methodMember_unknown (method : MethodRecord) (member : Member)
    (h : memberName member ∉ methodKeys) : methodMember method member = some method := by
  rw [methodKeys, mem_append, not_or] at h
  obtain ⟨htext, hnumber⟩ := h
  have hoffset : memberName member ≠ "code_offset" := by
    intro hname
    rw [hname] at hnumber
    exact hnumber (by decide)
  unfold methodMember
  rw [if_neg htext, if_neg hoffset, if_neg hnumber]

theorem rootMember_unknown (index : MetadataIndex) (member : Member)
    (h : memberName member ∉ rootKeys) : rootMember index member = some index := by
  simp only [rootKeys, mem_cons, not_mem_nil, or_false, not_or] at h
  unfold rootMember
  rw [if_neg h.1, if_neg h.2.1, if_neg h.2.2.1, if_neg h.2.2.2]

theorem moduleValue_known (index : MetadataIndex) (value : Value) :
    moduleValue index (knownObject moduleKeys value) = moduleValue index value := by
  cases value with
  | object blanks members =>
    have hname : "soname" ∈ (knownMembers moduleKeys members).map memberName ↔
        "soname" ∈ members.map memberName := by
      simp only [mem_map]
      constructor
      · intro ⟨member, hmem, hname⟩
        exact ⟨member, (mem_filter.mp hmem).1, hname⟩
      · intro ⟨member, hmem, hname⟩
        refine ⟨member, mem_filter.mpr ⟨hmem, decide_eq_true ?_⟩, hname⟩
        rw [hname]
        decide
    simp only [knownObject, moduleValue, hname, foldlM_knownMembers moduleMember_unknown]
  | _ => rfl

theorem methodElement_known (index : MetadataIndex) (element : Element) :
    methodElement index (knownElement element) = methodElement index element := by
  obtain ⟨before, value, after⟩ := element
  cases value with
  | object blanks members =>
    simp only [knownElement, knownObject, methodElement, Element.value,
      foldlM_knownMembers methodMember_unknown]
  | _ => rfl

theorem methodsValue_known (index : MetadataIndex) (value : Value) :
    methodsValue index (knownArray value) = methodsValue index value := by
  cases value with
  | array blanks elements =>
    simp only [knownArray, methodsValue, foldlM_map, methodElement_known]
  | _ => rfl

@[simp] theorem withValue_name (member : Member) (value : Value) :
    memberName (member.withValue value) = memberName member := by
  obtain ⟨before, key, beforeColon, beforeValue, old, after⟩ := member
  rfl

@[simp] theorem withValue_value (member : Member) (value : Value) :
    (member.withValue value).value = value := by
  obtain ⟨before, key, beforeColon, beforeValue, old, after⟩ := member
  rfl

theorem rootMember_module (index : MetadataIndex) {member : Member}
    (h : memberName member = "module") :
    rootMember index member = moduleValue index member.value := by
  unfold rootMember
  rw [h, if_neg (by decide), if_neg (by decide), if_pos rfl]

theorem rootMember_methods (index : MetadataIndex) {member : Member}
    (h : memberName member = "methods") :
    rootMember index member = methodsValue index member.value := by
  unfold rootMember
  rw [h, if_neg (by decide), if_neg (by decide), if_neg (by decide), if_pos rfl]

/-- What becomes of a member of the root without the unknown members inside. -/
theorem knownMember_cases (member : Member) :
    (memberName member = "module" ∧
        knownMember member = member.withValue (knownObject moduleKeys member.value)) ∨
      (memberName member = "methods" ∧
        knownMember member = member.withValue (knownArray member.value)) ∨
      (memberName member ≠ "module" ∧ memberName member ≠ "methods" ∧
        knownMember member = member) := by
  unfold knownMember
  by_cases hmodule : memberName member = "module"
  · exact .inl ⟨hmodule, if_pos hmodule⟩
  by_cases hmethods : memberName member = "methods"
  · exact .inr (.inl ⟨hmethods, (if_neg hmodule).trans (if_pos hmethods)⟩)
  · exact .inr (.inr ⟨hmodule, hmethods, (if_neg hmodule).trans (if_neg hmethods)⟩)

theorem rootMember_known (index : MetadataIndex) (member : Member) :
    rootMember index (knownMember member) = rootMember index member := by
  rcases knownMember_cases member with ⟨hname, hknown⟩ | ⟨hname, hknown⟩ | ⟨-, -, hknown⟩
  · have hsame : memberName (knownMember member) = "module" := by
      rw [hknown, withValue_name, hname]
    rw [rootMember_module index hsame, rootMember_module index hname, hknown, withValue_value,
      moduleValue_known]
  · have hsame : memberName (knownMember member) = "methods" := by
      rw [hknown, withValue_name, hname]
    rw [rootMember_methods index hsame, rootMember_methods index hname, hknown, withValue_value,
      methodsValue_known]
  · rw [hknown]

/-- The unknown members have no meaning. -/
theorem known_index (document : Document) : document.known.index = document.index := by
  unfold Document.index Document.known
  simp only [foldlM_map, rootMember_known]
  rw [foldlM_knownMembers rootMember_unknown]

theorem unknownValues_known (keys : List String) (members : List Member) :
    unknownValues keys (knownMembers keys members) = [] := by
  unfold unknownValues knownMembers
  rw [map_eq_nil_iff, filter_eq_nil_iff]
  intro member hmem hother
  exact of_decide_eq_true hother (of_decide_eq_true (mem_filter.mp hmem).2)

theorem unknownOfObject_known (keys : List String) (value : Value) :
    unknownOfObject keys (knownObject keys value) = [] := by
  cases value with
  | object blanks members => exact unknownValues_known keys members
  | _ => rfl

theorem unknownOfArray_known (value : Value) : unknownOfArray (knownArray value) = [] := by
  cases value with
  | array blanks elements =>
    simp only [knownArray, unknownOfArray, flatMap_eq_nil_iff]
    intro element hmem
    obtain ⟨⟨before, value, after⟩, -, rfl⟩ := mem_map.mp hmem
    exact unknownOfObject_known methodKeys value
  | _ => rfl

theorem unknownInside_known (member : Member) : unknownInside (knownMember member) = [] := by
  unfold unknownInside
  rcases knownMember_cases member with
    ⟨hname, hknown⟩ | ⟨hname, hknown⟩ | ⟨hmodule, hmethods, hknown⟩
  · rw [hknown, withValue_name, withValue_value, if_pos hname, unknownOfObject_known]
  · have hother : memberName member ≠ "module" := by
      rw [hname]
      decide
    rw [hknown, withValue_name, withValue_value, if_neg hother, if_pos hname, unknownOfArray_known]
  · rw [hknown, if_neg hmodule, if_neg hmethods]

theorem knownMember_name (member : Member) :
    memberName (knownMember member) = memberName member := by
  rcases knownMember_cases member with ⟨-, hknown⟩ | ⟨-, hknown⟩ | ⟨-, -, hknown⟩
  · rw [hknown, withValue_name]
  · rw [hknown, withValue_name]
  · rw [hknown]

/-- The document without its unknown members has none. -/
theorem known_unknown (document : Document) : document.known.unknown = [] := by
  unfold Document.unknown Document.known
  rw [append_eq_nil_iff]
  constructor
  · unfold unknownValues
    rw [map_eq_nil_iff, filter_eq_nil_iff]
    intro member hmem hother
    obtain ⟨old, hold, rfl⟩ := mem_map.mp hmem
    rw [knownMember_name] at hother
    exact of_decide_eq_true hother (of_decide_eq_true (mem_filter.mp hold).2)
  · rw [flatMap_eq_nil_iff]
    intro member hmem
    obtain ⟨old, -, rfl⟩ := mem_map.mp hmem
    exact unknownInside_known old

end Known

/-! ## Unknown members -/

/-- A document that follows the schema is read as its index, with its unknown members and without
them, when every unknown value is one that the scan for its end ends with. -/
theorem unknown_members_skipped {document : Document} {index : MetadataIndex}
    (hmeaning : document.index = some index)
    (hskipped : ∀ value ∈ document.unknown, SkippedExactly value) :
    parseMetadata (some document.text) = .ok index ∧
      parseMetadata (some document.known.text) = .ok index := by
  refine ⟨parse_document hmeaning hskipped, parse_document ?_ ?_⟩
  · rw [known_index]
    exact hmeaning
  · rw [known_unknown]
    exact fun _ hmem => absurd hmem not_mem_nil

section Fixtures

def compactMember (key : String) (value : Value) : Member :=
  .mk default (.ofPlain key.toList) default default value default

def compactElement (value : Value) : Element := .mk default value default

def plainString (text : String) : Value := .string (.ofPlain text.toList)

/-- A document with unknown members at its front. -/
def extendedDocument (extra : List Member) : Document where
  before := default
  blanks := default
  members := extra ++
    [compactMember "format" (.number ⟨false,
        ⟨⟨['1'], by decide, forall_mem_of_all (by decide)⟩, by decide⟩, none, none⟩),
      compactMember "module" (.object default [compactMember "soname" (plainString "m")]),
      compactMember "methods" (.array default [compactElement (.object default
        [compactMember "library_uri" (plainString "l"), compactMember "name" (plainString "n")])])]
  after := default

/-- What it describes. -/
def extendedIndex : MetadataIndex where
  format := 1
  moduleName := "m"
  methods := [{ libraryUri := "l", functionName := "n" }]

/-- An object with braces and an escaped quotation mark in a string, and an array with escaped
backslashes in one. -/
theorem unknown_members_skipped_nested :
    let quoted : Value := .string [.escape .quote, .plain '\x7d' (by decide)]
    let escaped : Value := .string [.escape .backslash, .escape .backslash]
    let extra := [compactMember "x" (.object default [compactMember "k" quoted]),
      compactMember "y" (.array default [compactElement (.array default [compactElement escaped])])]
    parseMetadata (some (extendedDocument extra).text) = .ok extendedIndex ∧
      parseMetadata (some (extendedDocument extra).known.text) = .ok extendedIndex :=
  unknown_members_skipped (by decide +kernel) (by decide +kernel)

/-- A bracket in a string of an unknown array makes the document invalid. -/
theorem bracket_in_string_misread :
    let extra := [compactMember "x" (.array default [compactElement (plainString "[")])]
    (extendedDocument extra).index = some extendedIndex ∧
      parseMetadata (some (extendedDocument extra).known.text) = .ok extendedIndex ∧
      parseMetadata (some (extendedDocument extra).text) = .error (some "unterminated array") := by
  refine ⟨?_, ?_, ?_⟩ <;> decide +kernel

-- The scan over the first array ends with the second one, and nothing is lost.
example :
    let extra := [compactMember "x" (.array default [compactElement (plainString "[")]),
      compactMember "y" (.array default [compactElement (plainString "]")])]
    parseMetadata (some (extendedDocument extra).text) = .ok extendedIndex := by
  decide +kernel

end Fixtures

end DartPlant.Metadata
