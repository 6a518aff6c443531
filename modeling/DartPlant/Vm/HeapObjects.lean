import DartPlant.Interceptor.ClosureArguments
import DartPlant.Vm.DartString

/-! # Objects of the Dart heap

How the proofs of the VM profile read a function type and an arguments descriptor from memory.  A
tagged word is only followed where it lies in the heap window, the four gigabytes from the heap base
on, and every word is read on its own.
-/

namespace DartPlant
open ByteImage

/-! ## Layouts -/

/-- `FunctionTypeLayout`, as far as a signature is decoded. -/
structure FunctionTypeLayout where
  functionSignatureOffset : Nat
  abstractTypeFlagsOffset : Nat
  resultTypeOffset : Nat
  parameterTypesOffset : Nat
  namedParameterNamesOffset : Nat
  packedParameterCountsOffset : Nat
  packedTypeParameterCountsOffset : Nat
  cidType : Nat
  cidFunctionType : Nat
  cidRecordType : Nat
  cidTypeParameter : Nat
  cidNull : Nat
  cidDynamic : Nat
  cidVoid : Nat
  cidNever : Nat
  typeParameterBaseOffset : Nat
  typeParameterIndexOffset : Nat
  nullabilityBits : Nat
  typeClassIdShift : Nat
  typeParameterFunctionBit : Nat
  deriving DecidableEq, Repr

/-- What a profile records of the objects of a call. -/
structure HeapProfile where
  strings : DartStringLayout
  cidFunction : Nat
  cidArray : Nat
  cidImmutableArray : Nat
  arrayLengthOffset : Nat
  arrayElementsOffset : Nat
  functionType : FunctionTypeLayout
  argumentsDescriptor : ArgumentsDescriptorLayout
  cidTypeArguments : Nat
  typeArgumentsLengthOffset : Nat
  deriving DecidableEq, Repr

/-- The tags of its objects. -/
abbrev HeapProfile.rawObject (profile : HeapProfile) : RawObjectLayout := profile.strings.rawObject

/-- `kMaxCallParameters`. -/
def kMaxCallParameters : Nat := 65536

/-- `kNamedParameterFlagsPerSmi`. -/
def kNamedParameterFlagsPerSmi : Nat := 16

/-! ## Words -/

/-- `ReadSelf`: the number in so many bytes. -/
def readSelf (image : Image) (address : BitVec 64) (size : Nat) : Option Nat :=
  if address = 0 then none else readValue image address size

/-- `IsHeapObject`. -/
def isHeapObject (profile : HeapProfile) (tagged : BitVec 64) : Bool :=
  isHeapWord profile.rawObject tagged

/-- `Untag`. -/
def untag (profile : HeapProfile) (tagged : BitVec 64) : BitVec 64 :=
  if tagged.toNat < profile.rawObject.heapObjectTag then 0
  else tagged - BitVec.ofNat 64 profile.rawObject.heapObjectTag

/-- `TaggedInHeapWindow`. -/
def taggedInHeapWindow (profile : HeapProfile) (heapBase tagged : BitVec 64) : Bool :=
  heapBase ≠ 0 && isHeapObject profile tagged &&
    heapBase.toNat + profile.rawObject.heapObjectTag < 2 ^ 64 &&
    heapBase.toNat + profile.rawObject.heapObjectTag ≤ tagged.toNat &&
    tagged.toNat - heapBase.toNat < 2 ^ 32

/-- The class id in the tags of an object. -/
def RawObjectLayout.classId (layout : RawObjectLayout) (tags : Nat) : Nat :=
  tags / 2 ^ layout.classIdTagShift % 2 ^ layout.classIdTagBits % 2 ^ 32

/-- `ReadCid`. -/
def readCid (profile : HeapProfile) (image : Image) (tagged : BitVec 64) : Option Nat := do
  guard (profile.rawObject.classIdTagBits ≠ 0 ∧ profile.rawObject.classIdTagBits < 64 ∧
    isHeapObject profile tagged = true)
  let tags ← readSelf image (untag profile tagged) 8
  return profile.rawObject.classId tags

/-- `RequireCid`. -/
def requireCid (profile : HeapProfile) (image : Image) (tagged : BitVec 64) (cid : Nat) :
    Option Unit := do
  let actual ← readCid profile image tagged
  guard (actual = cid)

/-- The class id of an array, mutable or not. -/
def HeapProfile.isArrayCid (profile : HeapProfile) (cid : Nat) : Prop :=
  cid = profile.cidArray ∨ cid = profile.cidImmutableArray

instance (profile : HeapProfile) (cid : Nat) : Decidable (profile.isArrayCid cid) :=
  inferInstanceAs (Decidable (_ ∨ _))

/-- `ReadPositiveCompressedSmi`. -/
def readPositiveSmi (profile : HeapProfile) (image : Image) (address : BitVec 64) : Option Nat := do
  guard (profile.rawObject.compressedWordSize = 4)
  let raw ← readSelf image address 4
  decodePositiveCompressedSmi raw profile.rawObject

/-- The object of a compressed word, which must not lie beyond the address space. -/
def decompress (profile : HeapProfile) (heapBase : BitVec 64) (compressed : Nat) :
    Option (BitVec 64) := do
  guard (compressed &&& profile.rawObject.smiTagMask = profile.rawObject.heapObjectTag ∧
    heapBase.toNat + compressed < 2 ^ 64)
  return heapBase + BitVec.ofNat 64 compressed

/-- `ReadCompressedObject`. -/
def readCompressedObject (profile : HeapProfile) (image : Image) (heapBase object : BitVec 64)
    (offset : Nat) : Option (BitVec 64) := do
  guard (profile.rawObject.compressedWordSize = 4)
  let compressed ← readSelf image (object + BitVec.ofNat 64 offset) 4
  decompress profile heapBase compressed

/-- The address of a slot of an array. -/
def HeapProfile.slot (profile : HeapProfile) (array : BitVec 64) (index : Nat) : BitVec 64 :=
  array + BitVec.ofNat 64 profile.arrayElementsOffset + BitVec.ofNat 64 (index * 4)

/-- `ReadArrayElement`. -/
def readArrayElement (profile : HeapProfile) (image : Image) (heapBase tagged : BitVec 64)
    (index : Nat) : Option (BitVec 64) := do
  let cid ← readCid profile image tagged
  guard (profile.isArrayCid cid)
  let array := untag profile tagged
  let length ← readPositiveSmi profile image (array + BitVec.ofNat 64 profile.arrayLengthOffset)
  guard (index < length ∧ profile.rawObject.compressedWordSize = 4)
  let compressed ← readSelf image (profile.slot array index) 4
  decompress profile heapBase compressed

/-- A `std::string`, each byte a character. -/
def byteText (bytes : List (BitVec 8)) : String := String.ofList (bytes.map Utf8Writer.latin1)

/-- `ReadDartString`, into a buffer of this capacity that is all zero. -/
def readDartString (profile : HeapProfile) (image : Image) (tagged : BitVec 64) (capacity : Nat) :
    Option String :=
  match readDartStringUtf8 profile.strings image tagged capacity fun _ => 0 with
  | .error _ => none
  | .ok output => some (byteText (StringRead.cString capacity output))

/-! ## Function types -/

/-- The class of a type object, and the rest of it that its class needs. -/
def readTypeBody (profile : HeapProfile) (image : Image) (tagged : BitVec 64) (cid flags : Nat) :
    Option Unit :=
  let layout := profile.functionType
  if cid = layout.cidType then do
    guard (layout.typeClassIdShift < 32 ∧ profile.rawObject.classIdTagBits ≠ 0 ∧
      profile.rawObject.classIdTagBits < 32)
    guard (flags / 2 ^ layout.typeClassIdShift % 2 ^ profile.rawObject.classIdTagBits ≠ 0)
  else if cid = layout.cidTypeParameter then do
    let _ ← readSelf image
      (untag profile tagged + BitVec.ofNat 64 layout.typeParameterBaseOffset) 2
    let _ ← readSelf image
      (untag profile tagged + BitVec.ofNat 64 layout.typeParameterIndexOffset) 2
    return ()
  else some ()

/-- The four classes of types. -/
def FunctionTypeLayout.isTypeCid (layout : FunctionTypeLayout) (cid : Nat) : Prop :=
  cid = layout.cidType ∨ cid = layout.cidFunctionType ∨ cid = layout.cidRecordType ∨
    cid = layout.cidTypeParameter

instance (layout : FunctionTypeLayout) (cid : Nat) : Decidable (layout.isTypeCid cid) :=
  inferInstanceAs (Decidable (_ ∨ _))

/-- `ReadAbstractType`. -/
def readAbstractType (profile : HeapProfile) (image : Image) (heapBase tagged : BitVec 64) :
    Option Unit := do
  guard (taggedInHeapWindow profile heapBase tagged = true)
  let cid ← readCid profile image tagged
  guard (profile.functionType.isTypeCid cid)
  let flags ← readSelf image
    (untag profile tagged + BitVec.ofNat 64 profile.functionType.abstractTypeFlagsOffset) 4
  readTypeBody profile image tagged cid flags

/-- The counts that a function type packs into two words. -/
structure SignatureCounts where
  implicitParameterCount : Nat
  hasNamedOptionalParameters : Bool
  fixedParameterCount : Nat
  optionalParameterCount : Nat
  parentTypeArgumentCount : Nat
  typeParameterCount : Nat
  deriving DecidableEq, Repr

def SignatureCounts.parameterCount (counts : SignatureCounts) : Nat :=
  counts.fixedParameterCount + counts.optionalParameterCount

/-- The counts of the two words. -/
def unpackCounts (packedCounts packedTypeCounts : Nat) : SignatureCounts where
  implicitParameterCount := packedCounts % 2
  hasNamedOptionalParameters := packedCounts / 2 % 2 != 0
  fixedParameterCount := packedCounts / 2 ^ 2 % 2 ^ 14
  optionalParameterCount := packedCounts / 2 ^ 16 % 2 ^ 14
  parentTypeArgumentCount := packedTypeCounts % 2 ^ 8
  typeParameterCount := packedTypeCounts / 2 ^ 8 % 2 ^ 8

/-- The words with the flags of the named parameters. -/
def SignatureCounts.flagSlots (counts : SignatureCounts) : Nat :=
  (counts.optionalParameterCount + kNamedParameterFlagsPerSmi - 1) / kNamedParameterFlagsPerSmi

/-- `NamedParameterProof`. -/
structure NamedParameter where
  name : String
  required : Bool
  deriving DecidableEq, Repr

/-- `FunctionTypeDetails` that passed. -/
structure FunctionTypeDetails where
  signature : BitVec 64
  counts : SignatureCounts
  named : List NamedParameter
  deriving DecidableEq, Repr

/-- The loop over the parameter types. -/
def readParameterTypes (profile : HeapProfile) (image : Image) (heapBase object : BitVec 64)
    (counts : SignatureCounts) : Option Unit :=
  if counts.parameterCount = 0 then some ()
  else do
    let parameterTypes ← readCompressedObject profile image heapBase object
      profile.functionType.parameterTypesOffset
    let parameterCount ← readPositiveSmi profile image
      (untag profile parameterTypes + BitVec.ofNat 64 profile.arrayLengthOffset)
    guard (parameterCount = counts.parameterCount)
    let _ ← (List.range counts.parameterCount).mapM fun index => do
      let parameterType ← readArrayElement profile image heapBase parameterTypes index
      readAbstractType profile image heapBase parameterType
    return ()

/-- One turn of the loop over the named parameters. -/
def readNamedParameter (profile : HeapProfile) (image : Image) (heapBase names : BitVec 64)
    (counts : SignatureCounts) (index : Nat) : Option NamedParameter := do
  let taggedName ← readArrayElement profile image heapBase names index
  let name ← readDartString profile image taggedName 256
  let rawFlags ← readSelf image (profile.slot (untag profile names)
    (counts.optionalParameterCount + index / kNamedParameterFlagsPerSmi)) 4
  let flags ← decodePositiveCompressedSmi rawFlags profile.rawObject
  return ⟨name, flags.testBit (index % kNamedParameterFlagsPerSmi)⟩

/-- The named parameters. -/
def readNamedParameters (profile : HeapProfile) (image : Image) (heapBase object : BitVec 64)
    (counts : SignatureCounts) : Option (List NamedParameter) :=
  if counts.hasNamedOptionalParameters = false then some []
  else do
    let names ← readCompressedObject profile image heapBase object
      profile.functionType.namedParameterNamesOffset
    let slotCount ← readPositiveSmi profile image
      (untag profile names + BitVec.ofNat 64 profile.arrayLengthOffset)
    guard (slotCount = counts.optionalParameterCount + counts.flagSlots)
    (List.range counts.optionalParameterCount).mapM
      (readNamedParameter profile image heapBase names counts)

/-- `ReadFunctionTypeDetails`. -/
def readFunctionTypeDetails (profile : HeapProfile) (image : Image) (heapBase function : BitVec 64) :
    Option FunctionTypeDetails := do
  let layout := profile.functionType
  guard (taggedInHeapWindow profile heapBase function = true)
  requireCid profile image function profile.cidFunction
  let signature ← readCompressedObject profile image heapBase (untag profile function)
    layout.functionSignatureOffset
  guard (taggedInHeapWindow profile heapBase signature = true)
  requireCid profile image signature layout.cidFunctionType
  let object := untag profile signature
  let packedCounts ← readSelf image
    (object + BitVec.ofNat 64 layout.packedParameterCountsOffset) 4
  let packedTypeCounts ← readSelf image
    (object + BitVec.ofNat 64 layout.packedTypeParameterCountsOffset) 2
  let resultType ← readCompressedObject profile image heapBase object layout.resultTypeOffset
  readAbstractType profile image heapBase resultType
  let counts := unpackCounts packedCounts packedTypeCounts
  guard (counts.parameterCount ≤ kMaxCallParameters ∧
    counts.implicitParameterCount ≤ counts.fixedParameterCount ∧
    (counts.hasNamedOptionalParameters = true → counts.optionalParameterCount ≠ 0))
  readParameterTypes profile image heapBase object counts
  let named ← readNamedParameters profile image heapBase object counts
  return ⟨signature, counts, named⟩

/-! ## Arguments descriptors -/

/-- `DescriptorNamedProof`. -/
structure DescriptorNamed where
  name : String
  position : Nat
  deriving DecidableEq, Repr

/-- `ArgumentsDescriptorDetails` that passed. -/
structure ArgumentsDescriptorDetails where
  typeArgsLen : Nat
  count : Nat
  size : Nat
  positionalCount : Nat
  named : List DescriptorNamed
  deriving DecidableEq, Repr

/-- The address of a named entry. -/
def namedEntry (profile : HeapProfile) (object : BitVec 64) (index : Nat) : BitVec 64 :=
  object + BitVec.ofNat 64 profile.argumentsDescriptor.firstNamedEntryOffset +
    BitVec.ofNat 64 (index * profile.argumentsDescriptor.namedEntrySize)

/-- One turn of the loop over the named entries. -/
def readNamedEntry (profile : HeapProfile) (image : Image) (heapBase object : BitVec 64)
    (positional count : Nat) (entries : List DescriptorNamed) (index : Nat) :
    Option (List DescriptorNamed) := do
  let entry := namedEntry profile object index
  let taggedName ← readCompressedObject profile image heapBase entry
    profile.argumentsDescriptor.nameOffset
  let name ← readDartString profile image taggedName 256
  let position ← readPositiveSmi profile image
    (entry + BitVec.ofNat 64 profile.argumentsDescriptor.positionOffset)
  guard (positional ≤ position ∧ position < count ∧ position ∉ entries.map (·.position))
  return entries ++ [⟨name, position⟩]

/-- `ReadArgumentsDescriptorDetails`. -/
def readArgumentsDescriptorDetails (profile : HeapProfile) (image : Image)
    (heapBase descriptor : BitVec 64) : Option ArgumentsDescriptorDetails := do
  let layout := profile.argumentsDescriptor
  guard (taggedInHeapWindow profile heapBase descriptor = true)
  let cid ← readCid profile image descriptor
  guard (profile.isArrayCid cid)
  let object := untag profile descriptor
  let counter := fun offset : Nat => readPositiveSmi profile image (object + BitVec.ofNat 64 offset)
  let typeArgsLen ← counter layout.typeArgsLenOffset
  let count ← counter layout.countOffset
  let size ← counter layout.sizeOffset
  let positional ← counter layout.positionalCountOffset
  guard (count ≤ kMaxCallParameters ∧ size ≤ kMaxCallParameters ∧ positional ≤ count ∧ count ≤ size)
  let named ← (List.range (count - positional)).foldlM
    (readNamedEntry profile image heapBase object positional count) []
  return ⟨typeArgsLen, count, size, positional, named⟩

/-! ## Strings -/

section Strings
variable {profile : HeapProfile} {image : Image} {tagged : BitVec 64}

/-- A string is read where its whole text fits, and is then what comes before its first zero. -/
theorem readDartString_eq_some {capacity : Nat} {name : String} :
    readDartString profile image tagged capacity = some name ↔
      ∃ points, DartText profile.strings image tagged points ∧
        (Utf8.encode points).length < capacity ∧
          name = byteText (Utf8.encode (Utf8.beforeZero points)) := by
  let call : StringRead := ⟨profile.strings, image, tagged, capacity, fun _ => 0⟩
  unfold readDartString
  constructor
  · intro h
    split at h
    · cases h
    next output houtput =>
      have hresult : call.result = .ok output := houtput
      obtain ⟨points, htext⟩ := StringRead.text_of_result hresult
      refine ⟨points, htext, StringRead.fits_of_result hresult htext, ?_⟩
      rw [← Option.some.inj h]
      exact congrArg byteText (StringRead.cString_eq hresult htext)
  · rintro ⟨points, htext, hfits, rfl⟩
    have hresult := @StringRead.result_of_text call points htext hfits
    have hread : readDartStringUtf8 profile.strings image tagged capacity (fun _ => 0) = _ := hresult
    rw [hread]
    exact congrArg (some ∘ byteText) (StringRead.cString_eq hresult htext)

/-- A larger buffer holds the same string. -/
theorem readDartString_mono {capacity larger : Nat} {name : String} (hle : capacity ≤ larger)
    (h : readDartString profile image tagged capacity = some name) :
    readDartString profile image tagged larger = some name := by
  obtain ⟨points, htext, hfits, hname⟩ := readDartString_eq_some.mp h
  exact readDartString_eq_some.mpr ⟨points, htext, Nat.lt_of_lt_of_le hfits hle, hname⟩

end Strings

end DartPlant
