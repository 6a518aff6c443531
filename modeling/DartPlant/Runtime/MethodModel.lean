import DartPlant.Runtime.RuntimeImage

/-! # Methods and their entry targets

A resolved method names a logical Dart function and the physical entry it runs from.  The entry is
shared by everything that resolves to it, so these are its contents at the time of a call.
-/

namespace DartPlant

inductive DartPlantEntryKind where
  | default
  | unchecked
  | monomorphic
  | monomorphicUnchecked
  deriving DecidableEq, Repr

structure DartMethodIdentity where
  libraryUri : String
  className : String
  functionName : String
  signature : String
  entryKind : DartPlantEntryKind
  deriving DecidableEq, Repr

/-- `SameLogicalFunctionIdentity`: the same function, through whichever entry. -/
def sameLogicalFunctionIdentity (left right : DartMethodIdentity) : Bool :=
  left.libraryUri == right.libraryUri && left.className == right.className &&
    left.functionName == right.functionName && left.signature == right.signature

inductive DartPlantCodeIdentityProof where
  | unknown
  | unique
  | shared
  deriving DecidableEq, Repr

inductive DartFunctionSource where
  | legacyMetadata
  | offlineSnapshotIndex
  | liveVm
  | synthetic
  deriving DecidableEq, Repr

structure DartEntryTarget where
  entry : Address
  codeSize : BitVec 32
  reportedAliasCount : BitVec 32
  identityProof : DartPlantCodeIdentityProof
  aliases : List DartMethodIdentity
  hooked : Bool
  deriving DecidableEq, Repr

namespace DartEntryTarget

/-- `DistinctLogicalFunctionAliasCountLocked`: the aliases with no earlier alias of the same logical
function. -/
def distinctLogicalFunctionAliasCount (target : DartEntryTarget) : Nat :=
  go [] target.aliases
where
  go (earlier : List DartMethodIdentity) : List DartMethodIdentity → Nat
    | [] => 0
    | identity :: rest =>
      (if earlier.any (sameLogicalFunctionIdentity identity) then 0 else 1) +
        go (earlier ++ [identity]) rest

def isShared (target : DartEntryTarget) : Bool :=
  target.identityProof == .shared || decide (target.reportedAliasCount > 1) ||
    decide (target.distinctLogicalFunctionAliasCount > 1)

def hasProvenUniqueIdentity (target : DartEntryTarget) : Bool :=
  target.identityProof == .unique && decide (target.reportedAliasCount ≤ 1) &&
    decide (target.distinctLogicalFunctionAliasCount ≤ 1)

end DartEntryTarget

structure DartFunctionHandle where
  identity : DartMethodIdentity
  imageId : RuntimeImageId
  owner : DartRuntimeOwnerIdentity
  source : DartFunctionSource
  runtimeProfileVersion : BitVec 32
  closureCallEntryOnly : Bool
  codeTarget : Option DartEntryTarget
  deriving DecidableEq, Repr

structure MethodRecord where
  libraryUri : String
  className : String
  functionName : String
  signature : String
  entryKind : DartPlantEntryKind
  deriving DecidableEq, Repr

structure DartPlantMethod where
  record : MethodRecord
  module : ModuleImage
  function : Option DartFunctionHandle
  expectedRuntimeGeneration : BitVec 64
  deriving DecidableEq, Repr

/-- The entry target of a method, if it has one. -/
def DartPlantMethod.codeTarget (method : DartPlantMethod) : Option DartEntryTarget :=
  method.function.bind DartFunctionHandle.codeTarget

/-- `MethodTarget`. -/
def methodTarget (method : DartPlantMethod) : Address :=
  (method.codeTarget.map DartEntryTarget.entry).getD 0

/-- `MethodCodeSize`. -/
def methodCodeSize (method : DartPlantMethod) : BitVec 32 :=
  (method.codeTarget.map DartEntryTarget.codeSize).getD 0

end DartPlant
