import DartPlant.Core.Status

/-! # Values and words

What a callback sees of a machine word and what it may write.  A tagged word says by its lowest bit
whether it is a Smi or a heap object; null and the two Booleans are heap objects whose words the
runtime has validated.
-/

namespace DartPlant

inductive DartPlantValueKind where
  | unknown
  | rawWord
  | null
  | bool
  | smi
  | double
  | heapObject
  | int64
  deriving DecidableEq, Repr

structure DartPlantValue where
  kind : DartPlantValueKind
  reserved : BitVec 32 := 0
  raw : BitVec 64
  deriving DecidableEq, Repr

structure DartPlantValuePair where
  first : DartPlantValue
  second : DartPlantValue
  deriving DecidableEq, Repr

/-- `dartplant_vm_abi_is_tagged_smi`. -/
def isTaggedSmi (raw : BitVec 64) : Bool := raw &&& 1 == 0

/-- `dartplant_vm_abi_is_tagged_heap_object`. -/
def isTaggedHeapObject (raw : BitVec 64) : Bool := raw &&& 1 == 1

/-- `dartplant_vm_abi_decode_gp_word`. -/
def decodeGpWord (raw : BitVec 64) (isTagged : Bool) (validatedNullValue : BitVec 64) :
    DartPlantValue :=
  if isTagged = false then ⟨.rawWord, 0, raw⟩
  else if validatedNullValue ≠ 0 ∧ raw = validatedNullValue then ⟨.null, 0, raw⟩
  else ⟨if isTaggedHeapObject raw then .heapObject else .smi, 0, raw⟩

/-- `dartplant_vm_abi_decode_fp_word`. -/
def decodeFpWord (raw : BitVec 64) : DartPlantValue := ⟨.double, 0, raw⟩

/-- `dartplant_vm_abi_encode_gp_word`. -/
def encodeGpWord (value : DartPlantValue) (isTagged : Bool) (validatedNullValue : BitVec 64) :
    Result (BitVec 64) :=
  if isTagged = false then
    if value.kind ≠ .rawWord then
      .error ⟨.unsupportedAbi, "raw GP locations only accept DARTPLANT_VALUE_RAW_WORD"⟩
    else .ok value.raw
  else if value.kind = .null then
    if validatedNullValue = 0 then
      .error ⟨.unsupportedAbi, "null value encoding requires a validated Dart NULL_REG value"⟩
    else .ok validatedNullValue
  else if value.kind = .smi ∧ isTaggedSmi value.raw = false then
    .error ⟨.profileMismatch, "SMI values must use an untagged raw word"⟩
  else if value.kind = .heapObject ∧ isTaggedHeapObject value.raw = false then
    .error ⟨.profileMismatch, "heap object values must use a tagged raw word"⟩
  else if value.kind = .bool ∨ value.kind = .double ∨ value.kind = .int64 then
    .error ⟨.unsupportedAbi,
      "GP value kind is not supported by the validated Dart ABI profile"⟩
  else .ok value.raw

/-- `dartplant_vm_abi_encode_fp_word`. -/
def encodeFpWord (value : DartPlantValue) : Result (BitVec 64) :=
  if value.kind ≠ .double ∧ value.kind ≠ .rawWord ∧ value.kind ≠ .unknown then
    .error ⟨.profileMismatch, "FP values must be encoded as a raw double word"⟩
  else .ok value.raw

/-! ## Null and the Booleans -/

/-- The words that the runtime has validated, as far as its generation is still the one they were
validated in: zero stands for a word that is not known. -/
structure ValidatedValues where
  null : BitVec 64 := 0
  boolTrue : BitVec 64 := 0
  boolFalse : BitVec 64 := 0
  deriving DecidableEq, Repr

/-- `ActiveValidatedBoolValues`. -/
def ValidatedValues.bools (values : ValidatedValues) : Option (BitVec 64 × BitVec 64) :=
  if values.boolTrue = 0 ∨ values.boolFalse = 0 ∨ values.boolTrue = values.boolFalse then none
  else some (values.boolTrue, values.boolFalse)

/-- `RefineTaggedSemanticValue`. -/
def refineTaggedSemanticValue (values : ValidatedValues) (value : DartPlantValue) :
    DartPlantValue :=
  if value.kind ≠ .heapObject then value
  else match values.bools with
    | none => value
    | some (boolTrue, boolFalse) =>
      if value.raw = boolTrue then ⟨.bool, 0, 1⟩
      else if value.raw = boolFalse then ⟨.bool, 0, 0⟩
      else value

/-- `EncodeGpSemanticValue`. -/
def encodeGpSemanticValue (values : ValidatedValues) (value : DartPlantValue) (isTagged : Bool) :
    Result (BitVec 64) :=
  if value.kind ≠ .bool then encodeGpWord value isTagged values.null
  else if isTagged = false then
    .error ⟨.unsupportedAbi, "Bool value encoding requires a tagged GP location"⟩
  else if 1 < value.raw then
    .error ⟨.profileMismatch, "Bool semantic values must use raw=0 or raw=1"⟩
  else match values.bools with
    | none =>
      .error ⟨.unsupportedAbi, "Bool value encoding requires validated canonical Bool roots"⟩
    | some (boolTrue, boolFalse) =>
      encodeGpWord ⟨.heapObject, 0, if value.raw ≠ 0 then boolTrue else boolFalse⟩ true values.null

/-- What a callback reads from a tagged word. -/
def decodeTagged (values : ValidatedValues) (raw : BitVec 64) : DartPlantValue :=
  refineTaggedSemanticValue values (decodeGpWord raw true values.null)

end DartPlant
