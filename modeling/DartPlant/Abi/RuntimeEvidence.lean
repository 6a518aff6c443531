import DartPlant.Abi.CallingConvention
import DartPlant.Lib.SharedLedger
import DartPlant.Runtime.RuntimeImageSet
import DartPlant.Runtime.SnapshotIndex

/-! # Registered ABI evidence

`dartplant_runtime_register_compiler_abi_evidence` checks a submission against the live runtime, and
keeps its provider in the entry of the method it is about.  Everything up to the entry is
`prepareEvidence`, which reads the runtime and the submission only; `registerProvider` is the rest.

The fingerprint of live code and the table of VM profiles are data of the call.
-/

namespace DartPlant
open SharedLedger

/-! ## The submission -/

inductive DartPlantAbiRepresentation where
  | unknown
  | tagged
  | unboxedInt64
  | unboxedDouble
  | pairOfTagged
  | invalid (code : Nat)
  deriving DecidableEq, Repr

/-- The evidence of a caller.  A C string is none for the null pointer, and the representations are
what the pointer gives at each index. -/
structure DartPlantCompilerAbiEvidence where
  structSize : Nat
  snapshotHash : Option String
  appBuildId : Option String
  codeFingerprint : Option String
  parameterRepresentations : Option (Nat → DartPlantAbiRepresentation)
  parameterCount : Nat
  resultRepresentation : DartPlantAbiRepresentation
  maxParametersInRegisters : Nat
  mustUseStackCallingConvention : BitVec 8
  hasOptionalParameters : BitVec 8
  hasOverridesWithLessDirectParameters : BitVec 8
  libraryUri : Option String := none
  className : Option String := none
  functionName : Option String := none
  entryKind : DartPlantEntryKind := .default
  entryVa : BitVec 64 := 0
  codeSize : BitVec 64 := 0
  structuralSchemaVersion : BitVec 32 := 0
  structuralDecodedInstructions : BitVec 32 := 0
  structuralBasicBlockCount : BitVec 32 := 0
  structuralVerified : BitVec 8 := 0
  structuralHasUnknownControlFlow : BitVec 8 := 0
  structuralUsesArgumentsDescriptor : BitVec 8 := 0
  structuralReachedReturn : BitVec 8 := 0

/-- `offsetof(DartPlantCompilerAbiEvidence, library_uri)`. -/
def kCompilerAbiEvidenceV1Size : Nat := 56

/-- `offsetof(DartPlantCompilerAbiEvidence, structural_schema_version)`. -/
def kCompilerAbiEvidenceV2Size : Nat := 104

/-- `sizeof(DartPlantCompilerAbiEvidence)`. -/
def kCompilerAbiEvidenceSize : Nat := 128

/-- `sizeof(DartPlantDartFunctionSignatureInfo)`. -/
def kDartFunctionSignatureInfoSize : Nat := 64

/-! ## The runtime of a call -/

inductive DartPlantRuntimeState where
  | created
  | imagesReady
  | ready
  | failed
  deriving DecidableEq, Repr

inductive DartPlantResolveRejectReason where
  | snapshotUnavailable
  | snapshotMismatch
  | liveVmUnavailable
  | staleGeneration
  | codeTargetAmbiguous
  | artifactMismatch
  | abiIncomplete
  | abiConflict
  | structuralConflict
  | entryKindUnsupported
  | hookFailed
  deriving DecidableEq, Repr

/-- A call that returns an error: its status and text, and the reason it leaves in the diagnostics
when it got as far as those. -/
structure EvidenceRejection where
  status : DartPlantStatus
  reason : Option DartPlantResolveRejectReason
  message : String
  deriving DecidableEq, Repr

abbrev EvidenceResult (α : Type) := Except EvidenceRejection α

def reject {α : Type} (status : DartPlantStatus) (reason : DartPlantResolveRejectReason)
    (message : String) : EvidenceResult α :=
  .error ⟨status, some reason, message⟩

/-- What a call reads of the runtime and its active isolate group. -/
structure EvidenceRuntime where
  operationAcquired : Bool
  state : DartPlantRuntimeState
  generation : BitVec 64
  imageSet : RuntimeImageSet
  snapshot : Option FlutterSnapshotSource
  appModule : Option ModuleImage
  liveSnapshotIndex : Option SnapshotIndex
  profiles : List RuntimeProfileRecord
  fingerprint : Address → BitVec 32 → String

/-- `RuntimeReadyForMethodOperation`. -/
def runtimeReadyForMethodOperation (runtime : EvidenceRuntime) (method : DartPlantMethod) : Bool :=
  runtime.state == .ready ||
    (runtime.state == .imagesReady &&
      method.function.any fun function => function.source == .offlineSnapshotIndex)

/-- `SameModuleIdentity` of two modules. -/
def sameModuleIdentity (left right : ModuleImage) : Bool :=
  left.name == right.name && left.path == right.path &&
    equalsIgnoreCaseAscii left.buildId right.buildId && left.loadBias == right.loadBias &&
    left.executableRanges.length == right.executableRanges.length &&
    (left.executableRanges.zip right.executableRanges).all fun pair =>
      sameExecutableRange pair.1 pair.2

/-- `IsCurrentRuntimeMethod`, for a method that was resolved against this generation object. -/
def isCurrentRuntimeMethod (runtime : EvidenceRuntime) (method : DartPlantMethod) : Bool :=
  method.expectedRuntimeGeneration == runtime.generation &&
    (runtime.imageSet.images.isEmpty ||
      match method.function with
      | none => false
      | some function =>
        function.imageId != 0 &&
          match runtime.imageSet.findById function.imageId with
          | none => false
          | some image => image.lifecycle == .active && function.owner == image.ownerIdentity &&
              sameModuleIdentity image.module method.module)

/-- `FlutterSnapshotSource::ResolveInstructionVa`, which asks for four bytes. -/
def FlutterSnapshotSource.resolveInstructionVa (snapshot : FlutterSnapshotSource)
    (module : ModuleImage) (instructionVa : BitVec 64) : Option Address :=
  let offset := instructionVa - snapshot.isolateInstructionsVa
  if snapshot.matches module = false ∨ instructionVa < snapshot.isolateInstructionsVa ∨
      offset ≥ snapshot.isolateInstructionsSize then none
  else if (4 : BitVec 64) > snapshot.isolateInstructionsSize - offset ∨
      offset > BitVec.allOnes 64 - snapshot.isolateInstructionsRuntime then none
  else
    let target := snapshot.isolateInstructionsRuntime + offset
    if module.containsExecutable target 4 then some target else none

/-! ## Checks -/

/-- Nothing to compare, for a null or empty string. -/
def missing (text : Option String) : Bool := text.getD "" == ""

def checkArguments (evidence : DartPlantCompilerAbiEvidence) : EvidenceResult Unit :=
  if evidence.structSize < kCompilerAbiEvidenceV1Size ∨ missing evidence.snapshotHash = true ∨
      missing evidence.appBuildId = true ∨ missing evidence.codeFingerprint = true ∨
      (evidence.parameterCount ≠ 0 ∧ evidence.parameterRepresentations.isNone = true) then
    .error ⟨.invalidArgument, none, "compiler ABI evidence arguments are invalid"⟩
  else if evidence.mustUseStackCallingConvention > 1 ∨ evidence.hasOptionalParameters > 1 ∨
      evidence.hasOverridesWithLessDirectParameters > 1 then
    .error ⟨.invalidArgument, none, "compiler ABI evidence boolean flags must be zero or one"⟩
  else .ok ()

/-- The method is current, and its entry is not shared. -/
def checkMethod (runtime : EvidenceRuntime) (method : DartPlantMethod) :
    EvidenceResult (DartFunctionHandle × DartEntryTarget) :=
  if runtime.operationAcquired = false then
    .error ⟨.runtimeNotReady, none, "runtime is closing or destroyed"⟩
  else if runtimeReadyForMethodOperation runtime method = false ∨
      isCurrentRuntimeMethod runtime method = false then
    reject .runtimeNotReady .staleGeneration
      "compiler ABI evidence targets a stale or unready runtime method"
  else
    match method.function with
    | none => reject .invalidArgument .codeTargetAmbiguous
        "compiler ABI evidence method has no entry target"
    | some function =>
      match function.codeTarget with
      | none => reject .invalidArgument .codeTargetAmbiguous
          "compiler ABI evidence method has no entry target"
      | some target =>
        if target.isShared then
          reject .sharedCodeEntry .codeTargetAmbiguous
            ("compiler ABI evidence cannot create a typed frame for an " ++
              "identity-ambiguous shared entry target")
        else .ok (function, target)

/-- The submission is about the live image and code. -/
def checkArtifact (runtime : EvidenceRuntime) (method : DartPlantMethod)
    (evidence : DartPlantCompilerAbiEvidence) :
    EvidenceResult (FlutterSnapshotSource × ModuleImage) :=
  match runtime.snapshot, runtime.appModule with
  | some snapshot, some module =>
    if evidence.snapshotHash ≠ some snapshot.snapshotHash then
      reject .profileMismatch .snapshotMismatch
        "compiler ABI evidence snapshot hash does not match the live runtime"
    else if equalsIgnoreCaseAscii module.buildId (evidence.appBuildId.getD "") = false then
      reject .buildIdMismatch .artifactMismatch
        "compiler ABI evidence app build-id does not match the live module"
    else if methodTarget method = 0 ∨ methodCodeSize method = 0 ∨
        some (runtime.fingerprint (methodTarget method) (methodCodeSize method)) ≠
          evidence.codeFingerprint then
      reject .fingerprintMismatch .artifactMismatch
        "compiler ABI evidence code fingerprint does not match the entry target"
    else .ok (snapshot, module)
  | _, _ => reject .runtimeNotReady .snapshotUnavailable
      "compiler ABI evidence cannot bind without the current AOT image"

/-- The exact function that a submission of the second version names. -/
def checkBinding (function : DartFunctionHandle) (method : DartPlantMethod)
    (snapshot : FlutterSnapshotSource) (module : ModuleImage)
    (evidence : DartPlantCompilerAbiEvidence) : EvidenceResult Unit :=
  if evidence.structSize < kCompilerAbiEvidenceV2Size then
    if function.source = .offlineSnapshotIndex then
      reject .invalidArgument .artifactMismatch
        "artifact compiler ABI evidence requires an exact Function identity/address binding"
    else .ok ()
  else if evidence.libraryUri.getD "" ≠ function.identity.libraryUri ∨
      evidence.className.getD "" ≠ function.identity.className ∨
      evidence.functionName.getD "" ≠ function.identity.functionName ∨
      evidence.entryKind ≠ function.identity.entryKind ∨ evidence.entryVa = 0 ∨
      evidence.codeSize ≠ (methodCodeSize method).setWidth 64 then
    reject .profileMismatch .artifactMismatch
      "compiler ABI evidence Function identity does not match the runtime method"
  else if snapshot.resolveInstructionVa module evidence.entryVa ≠ some (methodTarget method) then
    reject .profileMismatch .artifactMismatch
      "compiler ABI evidence entry VA does not resolve to the runtime entry target"
  else .ok ()

/-- The calling convention makes sense, and the entry has no hook yet. -/
def checkConvention (target : DartEntryTarget) (evidence : DartPlantCompilerAbiEvidence) :
    EvidenceResult Unit :=
  if evidence.mustUseStackCallingConvention ≠ 0 ∧ evidence.maxParametersInRegisters ≠ 0 then
    reject .invalidArgument .abiConflict ("compiler ABI evidence cannot combine forced stack " ++
      "calling convention with register parameters")
  else if evidence.maxParametersInRegisters > evidence.parameterCount then
    reject .invalidArgument .abiConflict
      "compiler ABI evidence register parameter limit exceeds fixed formals"
  else if target.hooked then
    reject .alreadyHooked .hookFailed
      "compiler ABI evidence must be registered before installing the hook"
  else .ok ()

/-- The representation at an index of the array. -/
def DartPlantCompilerAbiEvidence.representationAt (evidence : DartPlantCompilerAbiEvidence)
    (index : Nat) : DartPlantAbiRepresentation :=
  (evidence.parameterRepresentations.map fun representations => representations index).getD .unknown

/-- What a closure asks of its evidence. -/
def checkClosure (function : DartFunctionHandle) (method : DartPlantMethod)
    (vmProfile : Option RuntimeProfileRecord) (evidence : DartPlantCompilerAbiEvidence) :
    EvidenceResult Unit :=
  if function.closureCallEntryOnly = false then .ok ()
  else if (function.source ≠ .liveVm ∧ vmProfile = none) ∨ method.record.entryKind ≠ .default then
    reject .profileMismatch .entryKindUnsupported
      "closure ABI evidence has no exact PRODUCT ARM64 runtime profile"
  else if evidence.mustUseStackCallingConvention = 0 ∨ evidence.maxParametersInRegisters ≠ 0 then
    reject .unsupportedAbi .abiConflict
      "Dart closure ABI evidence contradicts the forced stack calling convention"
  else if (List.range evidence.parameterCount).any (fun index =>
      evidence.representationAt index != .tagged) then
    reject .unsupportedAbi .abiConflict
      "Dart closure formals must remain boxed/tagged in PRODUCT AOT"
  else .ok ()

/-- The summary that a submission of the third version may carry. -/
def checkStructural (evidence : DartPlantCompilerAbiEvidence) : EvidenceResult Unit :=
  if evidence.structSize < kCompilerAbiEvidenceSize ∨ evidence.structuralSchemaVersion = 0 then .ok ()
  else if evidence.structuralSchemaVersion ≠ 1 ∨ evidence.structuralVerified > 1 ∨
      evidence.structuralHasUnknownControlFlow > 1 ∨
      evidence.structuralUsesArgumentsDescriptor > 1 ∨ evidence.structuralReachedReturn > 1 ∨
      evidence.structuralVerified = 0 ∨ evidence.structuralDecodedInstructions = 0 ∨
      evidence.structuralBasicBlockCount = 0 then
    reject .invalidArgument .structuralConflict
      "compiler ABI structural evidence summary is invalid or unverified"
  else .ok ()

/-! ## Function semantics -/

/-- The prefix under which an implicit closure is named after its parent. -/
def kTearOffPrefix : String := "[tear-off] "

/-- The retained FunctionType that a submission is checked against, if there is one, and whether it
is that of the parent of an implicit closure. -/
def findFunctionSemantics (runtime : EvidenceRuntime) (function : DartFunctionHandle)
    (method : DartPlantMethod) (evidence : DartPlantCompilerAbiEvidence) :
    Option LiveFunctionSemanticSnapshot × Bool :=
  match runtime.liveSnapshotIndex with
  | none => (none, false)
  | some index =>
    if function.source = .liveVm ∧ function.closureCallEntryOnly = true then
      (index.findLiveFunctionSemanticSnapshot function.imageId method.record.libraryUri
        method.record.className method.record.functionName, false)
    else if function.source = .offlineSnapshotIndex ∧ function.closureCallEntryOnly = true ∧
        evidence.hasOptionalParameters ≠ 0 ∧
        method.record.functionName.startsWith kTearOffPrefix = true then
      let parentName := (method.record.functionName.drop kTearOffPrefix.length).toString
      match index.findSnapshotFunction method.record.libraryUri method.record.className parentName
          method.record.signature .default with
      | (some parent, false) =>
        if parent.live = true ∧ parent.closureCallEntryOnly = false then
          (index.findLiveFunctionSemanticSnapshot parent.owner.imageId parent.libraryUri
            parent.className parent.functionName, true)
        else (none, false)
      | _ => (none, false)
    else (none, false)

/-- What the semantics settle: the VM profile, the formals of the layout, and the signature. -/
structure EvidenceSemantics where
  vmProfile : Option RuntimeProfileRecord
  layoutParameterCount : Nat
  liveSemantics : Option LiveFunctionSemanticSnapshot
  synthesizeImplicitClosureReceiver : Bool
  deriving DecidableEq, Repr

/-- The count of formals in the layout, when it matches the FunctionType. -/
def matchSignature (function : DartFunctionHandle) (evidence : DartPlantCompilerAbiEvidence)
    (signature : DartPlantDartFunctionSignatureInfo) (synthesize : Bool) : EvidenceResult Nat :=
  if function.closureCallEntryOnly then
    if synthesize then
      if signature.implicitParameterCount ≠ 0 ∨
          signature.fixedParameterCount ≠ evidence.parameterCount then
        reject .profileMismatch .abiConflict
          "implicit-closure parent FunctionType does not match compiler ABI evidence"
      else .ok signature.parameterCount
    else if signature.implicitParameterCount ≠ 1 ∨
        signature.fixedParameterCount < signature.implicitParameterCount ∨
        signature.parameterCount < signature.implicitParameterCount ∨
        signature.fixedParameterCount - signature.implicitParameterCount ≠
          evidence.parameterCount then
      reject .profileMismatch .abiConflict
        "closure ABI evidence does not match the FunctionType implicit receiver"
    else .ok (signature.parameterCount - signature.implicitParameterCount)
  else if signature.fixedParameterCount ≠ evidence.parameterCount then
    reject .profileMismatch .abiConflict
      "compiler ABI evidence fixed-parameter count does not match FunctionType"
  else .ok evidence.parameterCount

def resolveSemantics (runtime : EvidenceRuntime) (function : DartFunctionHandle)
    (method : DartPlantMethod) (vmProfile : Option RuntimeProfileRecord)
    (evidence : DartPlantCompilerAbiEvidence) : EvidenceResult EvidenceSemantics :=
  match findFunctionSemantics runtime function method evidence with
  | (some semantic, synthesize) =>
    let vmProfile := resolveLiveFunctionSemanticProfile runtime.profiles semantic
    if liveFunctionSemanticMatchesOwner semantic function.owner = false then
      reject .runtimeNotReady .staleGeneration
        "observation-scoped FunctionType semantics belong to a stale runtime owner"
    else if vmProfile = none ∨
        semantic.signature.structSize < kDartFunctionSignatureInfoSize then
      reject .profileMismatch .abiIncomplete
        "observation-scoped FunctionType semantics have no source profile"
    else
      match matchSignature function evidence semantic.signature synthesize with
      | .error rejection => .error rejection
      | .ok layoutParameterCount =>
        if decide (semantic.signature.optionalParameterCount ≠ 0) ≠
            decide (evidence.hasOptionalParameters ≠ 0) then
          reject .profileMismatch .abiConflict
            "compiler ABI evidence optional-parameter flag does not match FunctionType"
        else .ok ⟨vmProfile, layoutParameterCount, some semantic, synthesize⟩
  | (none, synthesize) =>
    if function.closureCallEntryOnly = true ∧ evidence.hasOptionalParameters ≠ 0 then
      reject .runtimeNotReady .liveVmUnavailable
        "optional closure ABI requires a retained live FunctionType"
    else if function.source ≠ .offlineSnapshotIndex ∧ function.source ≠ .liveVm then
      reject .runtimeNotReady .abiIncomplete
        "compiler ABI evidence requires a live Function or exact artifact-index method"
    else .ok ⟨vmProfile, evidence.parameterCount, none, synthesize⟩

/-! ## The provider -/

/-- `ToInternalRepresentation`. -/
def toInternalRepresentation (representation : DartPlantAbiRepresentation) (isResult : Bool) :
    Option DartAbiRepresentation :=
  match representation with
  | .unknown => some .unknown
  | .tagged => some .tagged
  | .unboxedInt64 => some .unboxedInt64
  | .unboxedDouble => some .unboxedDouble
  | .pairOfTagged => if isResult then some .pairOfTagged else none
  | .invalid _ => none

/-- `CompilerSlot`. -/
def compilerSlot (representation : DartAbiRepresentation) : DartAbiSlotEvidence where
  representation := representation
  source := .compilerOracle
  proof := if representation = .unknown then .unknown else .proven

/-- The provider of a submission; formals the compiler did not report are boxed. -/
def buildProvider (function : DartFunctionHandle) (layoutParameterCount : Nat)
    (evidence : DartPlantCompilerAbiEvidence) : EvidenceResult DartFunctionAbiEvidence :=
  match (List.range evidence.parameterCount).mapM fun index =>
      toInternalRepresentation (evidence.representationAt index) false with
  | none => reject .invalidArgument .abiConflict
      "compiler ABI evidence contains an invalid parameter representation"
  | some parameters =>
    match toInternalRepresentation evidence.resultRepresentation true with
    | none => reject .invalidArgument .abiConflict
        "compiler ABI evidence contains an invalid result representation"
    | some result => .ok {
        parameters := parameters.map compilerSlot ++
          List.replicate (layoutParameterCount - evidence.parameterCount) (compilerSlot .tagged)
        result := compilerSlot result
        hasStackCallingConvention := true
        mustUseStackCallingConvention := evidence.mustUseStackCallingConvention != 0
        hasOverridesWithLessDirectParameters :=
          evidence.hasOverridesWithLessDirectParameters != 0
        hasOptionalParameterInfo := true
        hasOptionalParameters := evidence.hasOptionalParameters != 0
        hasMaxParametersInRegisters := true
        maxParametersInRegisters := evidence.maxParametersInRegisters
        isClosure := function.closureCallEntryOnly }

/-! ## Entries -/

/-- The method an entry is about: the fields that `SameEvidenceTarget` compares. -/
structure EvidenceTarget where
  identity : DartMethodIdentity
  imageId : RuntimeImageId
  owner : DartRuntimeOwnerIdentity
  codeTarget : Address
  generation : BitVec 64
  deriving DecidableEq, Repr

structure RuntimeAbiEvidenceEntry where
  target : EvidenceTarget
  formalParameterCount : Nat
  providers : List DartFunctionAbiEvidence := []
  resolution : DartFunctionAbiResolution := {}
  layoutStatus : DartCallLayoutStatus := .incompleteEvidence
  callLayout : Option DartCallLayout := none
  deriving DecidableEq, Repr

/-- The target of a method in a generation, for a method that has a function. -/
def evidenceTarget (method : DartPlantMethod) (function : DartFunctionHandle)
    (generation : BitVec 64) : EvidenceTarget where
  identity := function.identity
  imageId := function.imageId
  owner := function.owner
  codeTarget := methodTarget method
  generation := generation

/-- `find_if` with `SameEvidenceTarget`. -/
def findEntry (entries : List RuntimeAbiEvidenceEntry) (target : EvidenceTarget) :
    Option RuntimeAbiEvidenceEntry :=
  entries.find? fun entry => entry.target == target

/-- `FindRuntimeCallLayoutLocked`. -/
def findRuntimeCallLayoutLocked (entries : List RuntimeAbiEvidenceEntry) (generation : BitVec 64)
    (method : DartPlantMethod) : Option DartCallLayout :=
  match method.function with
  | none => none
  | some function =>
    match function.codeTarget with
    | none => none
    | some target =>
      if target.hasProvenUniqueIdentity = false then none
      else (findEntry entries (evidenceTarget method function generation)).bind
        RuntimeAbiEvidenceEntry.callLayout

/-- A submission that passed every check, with what its layout will need. -/
structure PreparedEvidence where
  target : EvidenceTarget
  layoutParameterCount : Nat
  provider : DartFunctionAbiEvidence
  closureCall : Bool
  closureReceiver : Bool
  deferLiveProfileBinding : Bool
  provenUniqueIdentity : Bool
  semantics : EvidenceSemantics
  deriving DecidableEq, Repr

/-- Everything up to the entry. -/
def prepareEvidence (runtime : EvidenceRuntime) (method : DartPlantMethod)
    (evidence : DartPlantCompilerAbiEvidence) : EvidenceResult PreparedEvidence := do
  checkArguments evidence
  let (function, target) ← checkMethod runtime method
  let (snapshot, module) ← checkArtifact runtime method evidence
  checkBinding function method snapshot module evidence
  checkConvention target evidence
  let deferLiveProfileBinding := function.source == .liveVm
  let vmProfile := if deferLiveProfileBinding then none
    else findRuntimeProfileByVersion runtime.profiles function.runtimeProfileVersion
  checkClosure function method vmProfile evidence
  checkStructural evidence
  let semantics ← resolveSemantics runtime function method vmProfile evidence
  let provider ← buildProvider function semantics.layoutParameterCount evidence
  pure {
    target := evidenceTarget method function runtime.generation
    layoutParameterCount := semantics.layoutParameterCount
    provider := provider
    closureCall := function.closureCallEntryOnly
    closureReceiver := function.closureCallEntryOnly && method.record.entryKind == .default
    deferLiveProfileBinding := deferLiveProfileBinding
    provenUniqueIdentity := target.hasProvenUniqueIdentity
    semantics := semantics }

/-- The formals of a live signature that a call can name, when all of them were copied. -/
def signatureFormals (semantic : LiveFunctionSemanticSnapshot) (synthesize : Bool) :
    Option (List DartClosureFormalLayout) :=
  let signature := semantic.signature
  let firstUserParameter := if synthesize then 0 else signature.implicitParameterCount
  (List.range' firstUserParameter (signature.parameterCount - firstUserParameter)).mapM fun index =>
    semantic.parameters[index]?.map fun parameter =>
      ⟨parameter.index, parameter.kind, parameter.isRequired != 0, parameter.name⟩

/-- The closure signature of the layout, if there is a live one, or none when it is incomplete. -/
def closureSignatureOf (prepared : PreparedEvidence) :
    Option (Option DartClosureSignatureLayout) :=
  match prepared.semantics.liveSemantics with
  | none => some none
  | some semantic =>
    let signature := semantic.signature
    let synthesize := prepared.semantics.synthesizeImplicitClosureReceiver
    match signatureFormals semantic synthesize with
    | none => none
    | some formals =>
      if formals.length = prepared.layoutParameterCount then
        some (some {
          implicitParameterCount := signature.implicitParameterCount + synthesize.toNat
          fixedParameterCount := signature.fixedParameterCount + synthesize.toNat
          optionalParameterCount := signature.optionalParameterCount
          typeParameterCount := signature.typeParameterCount
          parentTypeArgumentCount := signature.parentTypeArgumentCount
          hasNamedOptionalParameters := signature.hasNamedOptionalParameters != 0
          formals := formals })
      else none

/-- The part of the layout that is not in the resolution. -/
def completeLayout (prepared : PreparedEvidence) (layout : DartCallLayout)
    (closureSignature : Option DartClosureSignatureLayout) : DartCallLayout :=
  let vmProfile := prepared.semantics.vmProfile
  let layout := { layout with closureSignature := closureSignature }
  let layout := if prepared.closureReceiver then
      { layout with
        hasClosureReceiver := true
        closureReceiverLocation := .gpRegister 0
        hasArgumentsDescriptor := true
        argumentsDescriptorLocation :=
          if prepared.deferLiveProfileBinding then layout.argumentsDescriptorLocation
          else (vmProfile.map fun profile =>
            DartAbiLocation.gpRegister profile.argumentsDescriptorRegister).getD .unknown }
    else layout
  { layout with
    vmCallProfile := if prepared.deferLiveProfileBinding then none else vmProfile
    vmObjectProfile := vmProfile
    vmSemanticObservationReceipt := prepared.semantics.liveSemantics.isSome }

/-- The status and the layout that an entry gets from all its providers. -/
def solveLayout (prepared : PreparedEvidence) (resolution : DartFunctionAbiResolution) :
    DartCallLayoutStatus × Option DartCallLayout :=
  match computeDartCallLayout resolution arm64AotCallingConventionProfile prepared.closureCall with
  | (.ok, layout) =>
    match closureSignatureOf prepared with
    | none => (.incompleteEvidence, none)
    | some closureSignature =>
      (.ok, if prepared.provenUniqueIdentity then
          some (completeLayout prepared layout closureSignature) else none)
  | (status, _) => (status, none)

/-- An established entry with one more provider. -/
def addProvider (prepared : PreparedEvidence) (entry : RuntimeAbiEvidenceEntry) :
    RuntimeAbiEvidenceEntry :=
  let providers := entry.providers ++ [prepared.provider]
  let resolution := resolveFunctionAbiEvidence providers entry.formalParameterCount
  let (layoutStatus, callLayout) := solveLayout prepared resolution
  { entry with providers, resolution, layoutStatus, callLayout }

/-- An entry whose formal count was contradicted; the contradicting provider is not kept. -/
def contradictCount (entry : RuntimeAbiEvidenceEntry) : RuntimeAbiEvidenceEntry :=
  { entry with
    resolution := { entry.resolution with conflicting := true }
    layoutStatus := .conflictingEvidence
    callLayout := none }

/-- What a call returns about the entry it left. -/
def evidenceOutcome (entry : RuntimeAbiEvidenceEntry) : EvidenceResult Unit :=
  if entry.layoutStatus = .conflictingEvidence ∨ entry.resolution.conflicting = true then
    reject .unsupportedAbi .abiConflict
      "compiler ABI evidence conflicts with previously registered exact evidence"
  else if entry.layoutStatus ≠ .ok then
    reject .unsupportedAbi .abiIncomplete ("compiler ABI evidence was retained but is " ++
      "insufficient for a verified DartCallLayout")
  else .ok ()

def registerProvider (entries : List RuntimeAbiEvidenceEntry) (prepared : PreparedEvidence) :
    List RuntimeAbiEvidenceEntry × EvidenceResult Unit :=
  match findEntry entries prepared.target with
  | none =>
    let entry := addProvider prepared
      { target := prepared.target, formalParameterCount := prepared.layoutParameterCount }
    (entries ++ [entry], evidenceOutcome entry)
  | some existing =>
    if existing.formalParameterCount ≠ prepared.layoutParameterCount then
      (alter RuntimeAbiEvidenceEntry.target contradictCount prepared.target entries,
        reject .unsupportedAbi .abiConflict
          "compiler ABI evidence changes the established formal parameter count")
    else
      (alter RuntimeAbiEvidenceEntry.target (addProvider prepared) prepared.target entries,
        evidenceOutcome (addProvider prepared existing))

/-- `dartplant_runtime_register_compiler_abi_evidence`. -/
def registerCompilerAbiEvidence (entries : List RuntimeAbiEvidenceEntry)
    (runtime : EvidenceRuntime) (method : DartPlantMethod)
    (evidence : DartPlantCompilerAbiEvidence) :
    List RuntimeAbiEvidenceEntry × EvidenceResult Unit :=
  match prepareEvidence runtime method evidence with
  | .error rejection => (entries, .error rejection)
  | .ok prepared => registerProvider entries prepared

end DartPlant
