import DartPlant.Abi.CallLayout
import DartPlant.Runtime.MethodModel

/-! # The live function directory

What one observation of the live heap left behind: a record for each entry of each function, a
canonical record for each function, and the FunctionType semantics, copied while the heap could be
read.  Five fields of each record say which image owns it; they are one `DartRuntimeOwnerIdentity`
here.
-/

namespace DartPlant

structure DartPlantDartFunctionSignatureInfo where
  structSize : Nat
  parameterCount : Nat
  implicitParameterCount : Nat
  fixedParameterCount : Nat
  optionalParameterCount : Nat
  typeParameterCount : Nat
  parentTypeArgumentCount : Nat
  hasNamedOptionalParameters : BitVec 8
  deriving DecidableEq, Repr

structure DartPlantDartParameterInfo where
  index : Nat
  kind : DartClosureFormalKind
  isRequired : BitVec 8
  name : String
  deriving DecidableEq, Repr

structure LiveFunctionSemanticSnapshot where
  owner : DartRuntimeOwnerIdentity
  libraryUri : String
  className : String
  functionName : String
  functionTypeProfileVersion : BitVec 32
  functionTypeAbiKey : String
  signature : DartPlantDartFunctionSignatureInfo
  parameters : List DartPlantDartParameterInfo
  ownerClassId : BitVec 32 := 0
  ownerFunctionIndex : BitVec 32 := 4294967295
  deriving DecidableEq, Repr

structure SnapshotFunction where
  owner : DartRuntimeOwnerIdentity
  libraryUri : String
  className : String
  functionName : String
  signature : String
  entryKind : DartPlantEntryKind
  functionObject : BitVec 64
  codeObject : BitVec 64
  codeObjectPool : BitVec 64
  runtimeEntry : Address
  ownerClass : BitVec 64
  library : BitVec 64
  entryAliasCount : BitVec 32
  closureCallEntryOnly : Bool
  live : Bool
  loadingUnitId : BitVec 32 := 0
  ownerClassId : BitVec 32 := 0
  ownerFunctionIndex : BitVec 32 := 4294967295
  entryVa : BitVec 64 := 0
  codeSize : BitVec 64 := 0
  codeSectionVa : BitVec 64 := 0
  fingerprint : String := ""
  codePayloadStart : BitVec 64 := 0
  codeInstructionsLength : BitVec 32 := 0
  codeEntry : Address := 0
  functionKind : BitVec 32 := 0
  ownerIsToplevelClass : Bool := false
  codeOwnerMatchesFunction : Bool := false
  deriving DecidableEq, Repr

/-- The entries of one function, by kind. -/
structure EntryFamily (α : Type) where
  default : α
  unchecked : α
  monomorphic : α
  monomorphicUnchecked : α
  deriving DecidableEq, Repr

structure DartPlantLiveVmFunctionInfo where
  owner : DartRuntimeOwnerIdentity
  loadingUnitId : BitVec 32
  ownerClassId : BitVec 32
  ownerFunctionIndex : BitVec 32
  function : BitVec 64
  code : BitVec 64
  codeObjectPool : BitVec 64
  ownerClass : BitVec 64
  library : BitVec 64
  entryPoints : EntryFamily Address
  entryKindMask : BitVec 8
  entryAliasCounts : EntryFamily (BitVec 32)
  entryAliasCount : BitVec 32
  entryIsShared : Bool
  libraryUri : String := ""
  className : String := ""
  functionName : String := ""
  entryVas : EntryFamily (BitVec 64) := ⟨0, 0, 0, 0⟩
  codeSectionVa : BitVec 64 := 0
  codeSize : BitVec 32 := 0
  functionKind : BitVec 32 := 0
  closureCallEntryOnly : Bool := false
  ownerIsToplevelClass : Bool := false
  codeOwnerMatchesFunction : Bool := false
  deriving DecidableEq, Repr

structure SnapshotIndex where
  stableLiveDirectory : Bool
  functions : List SnapshotFunction
  liveFunctionInfos : List DartPlantLiveVmFunctionInfo
  liveFunctionSemantics : List LiveFunctionSemanticSnapshot
  vmProfileVersion : BitVec 32 := 0
  liveIndexAbiKey : String := ""
  functionTypeAbiKey : String := ""
  deriving DecidableEq, Repr

/-- The only element that passes the test, and whether several do. -/
def findUnique {α : Type} (test : α → Bool) (items : List α) : Option α × Bool :=
  match items.filter test with
  | [] => (none, false)
  | [item] => (some item, false)
  | _ => (none, true)

namespace SnapshotIndex

/-- `SnapshotIndex::FindSnapshotFunction`, with its `out_ambiguous`. -/
def findSnapshotFunction (index : SnapshotIndex) (libraryUri className functionName
    signature : String) (entryKind : DartPlantEntryKind) : Option SnapshotFunction × Bool :=
  findUnique (fun function => function.libraryUri == libraryUri && function.className == className &&
    function.functionName == functionName && function.signature == signature &&
    function.entryKind == entryKind) index.functions

/-- `SnapshotIndex::FindLiveFunctionSemanticSnapshot`; image id zero matches every image. -/
def findLiveFunctionSemanticSnapshot (index : SnapshotIndex) (runtimeImageId : RuntimeImageId)
    (libraryUri className functionName : String) : Option LiveFunctionSemanticSnapshot :=
  (findUnique (fun candidate : LiveFunctionSemanticSnapshot =>
    (runtimeImageId == 0 || candidate.owner.imageId == runtimeImageId) &&
      candidate.libraryUri == libraryUri && candidate.className == className &&
      candidate.functionName == functionName) index.liveFunctionSemantics).1

end SnapshotIndex

/-- `FindRuntimeProfileByVersion`, over the generated table of profiles. -/
def findRuntimeProfileByVersion (profiles : List RuntimeProfileRecord)
    (profileVersion : BitVec 32) : Option RuntimeProfileRecord :=
  profiles.find? fun profile => profile.profileVersion == profileVersion

/-- `ResolveLiveFunctionSemanticProfile`. -/
def resolveLiveFunctionSemanticProfile (profiles : List RuntimeProfileRecord)
    (semantic : LiveFunctionSemanticSnapshot) : Option RuntimeProfileRecord :=
  (findRuntimeProfileByVersion profiles semantic.functionTypeProfileVersion).filter fun profile =>
    !semantic.functionTypeAbiKey.isEmpty && semantic.functionTypeAbiKey == profile.functionTypeAbiKey

/-- `LiveFunctionSemanticMatchesOwner`. -/
def liveFunctionSemanticMatchesOwner (semantic : LiveFunctionSemanticSnapshot)
    (owner : DartRuntimeOwnerIdentity) : Bool :=
  semantic.owner == owner

end DartPlant
