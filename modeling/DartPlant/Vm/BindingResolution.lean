import DartPlant.Vm.AbiSelection
import DartPlant.Vm.CoherentRuns

/-! # Resolving the binding of an adapter

`ResolveVerifiedBinding` probes every candidate row, keeps the ones that pass with the one core ABI
there is, and binds each capability that selects one ABI among the kept rows that offer it.
`dartplant_flutter_vm_adapter_create` makes an adapter of that, and a revalidation probes the kept
rows again.

What the memory of the thread says of a row is a `ThreadReading`.  The rows come as
`ResolveRuntimeProfileCandidates` orders them, without the ones that `only_profile_version` excludes.
-/

namespace DartPlant

/-! ## Probes -/

structure RegisterEvidence where
  available : Bool := false
  heapBits : BitVec 64 := 0
  nullValue : BitVec 64 := 0
  pp : BitVec 64 := 0
  deriving DecidableEq, Repr

/-- The words of the thread that `ProveRuntimeRoots` starts from. -/
structure ThreadCore where
  heapBase : BitVec 64
  threadNull : BitVec 64
  globalObjectPool : BitVec 64
  isolate : BitVec 64
  isolateGroup : BitVec 64
  deriving DecidableEq, Repr

/-- What the memory says of a row: the words of the thread, the address of the object pool when it
is a heap object, whether everything from the null object to the list of libraries is as the row has
it, whether dart:core is among the libraries, and the entries of the safepoint stubs. -/
structure ThreadReading where
  core : Option ThreadCore
  poolObject : Option (BitVec 64)
  roots : Bool
  dartCore : Bool
  enterEntry : Option Address
  exitEntry : Option Address
  deriving DecidableEq, Repr

structure RootProofInput where
  thread : BitVec 64
  currentIsolate : BitVec 64
  canonicalNull : BitVec 64
  requireCurrentIsolate : Bool
  requireCanonicalNull : Bool
  requireDartCore : Bool
  registers : RegisterEvidence := {}
  deriving DecidableEq, Repr

structure RootProof where
  threadNull : BitVec 64 := 0
  isolateGroup : BitVec 64 := 0
  ownerMatch : Bool := false
  registerSemanticsMatch : Bool := false
  canonicalNullMatch : Bool := false
  dartCoreFound : Bool := false
  passed : Bool := false
  deriving DecidableEq, Repr

/-- `register_semantics_match`. -/
def RegisterEvidence.semanticsMatch (registers : RegisterEvidence) (core : ThreadCore)
    (poolObject : Option (BitVec 64)) : Bool :=
  registers.heapBits.setWidth 32 == (core.heapBase >>> 32).setWidth 32 &&
    registers.nullValue == core.threadNull && poolObject == some registers.pp

/-- `ProveRuntimeRoots`. -/
def proveRuntimeRoots (input : RootProofInput) (reading : ThreadReading) : RootProof :=
  match reading.core with
  | none => {}
  | some core =>
    let owner := input.currentIsolate == 0 || core.isolate == input.currentIsolate
    let registers := input.registers.available &&
      input.registers.semanticsMatch core reading.poolObject
    let null := input.canonicalNull == 0 || core.threadNull == input.canonicalNull
    if input.thread = 0 then {}
    else if input.requireCurrentIsolate = true ∧ owner = false then
      { threadNull := core.threadNull, isolateGroup := core.isolateGroup }
    else if input.registers.available = true ∧ registers = false then
      { threadNull := core.threadNull, isolateGroup := core.isolateGroup, ownerMatch := owner }
    else if (input.requireCanonicalNull = true ∧ null = false) ∨ core.heapBase = 0 ∨
        reading.roots = false then
      { threadNull := core.threadNull, isolateGroup := core.isolateGroup, ownerMatch := owner,
        registerSemanticsMatch := registers, canonicalNullMatch := null }
    else
      { threadNull := core.threadNull, isolateGroup := core.isolateGroup, ownerMatch := owner,
        registerSemanticsMatch := registers, canonicalNullMatch := null,
        dartCoreFound := input.requireDartCore && reading.dartCore,
        passed := !input.requireDartCore || reading.dartCore }

/-- `FindUniqueExecutableModule`; the module is its index. -/
def findUniqueExecutableModule (modules : List ModuleImage) (address : Address) : Option Nat :=
  match (List.range modules.length).filter fun index =>
      (modules[index]?).any fun module => module.containsExecutable address 4 with
  | [index] => some index
  | _ => none

/-- `ProbeSafepoints`: the entries, and the module of both. -/
def probeSafepoints (modules : List ModuleImage) (reading : ThreadReading) :
    Option (Address × Address × ModuleImage) :=
  match reading.enterEntry, reading.exitEntry with
  | some enter, some exit =>
    match findUniqueExecutableModule modules enter, findUniqueExecutableModule modules exit with
    | some enterModule, some exitModule =>
      match modules[enterModule]? with
      | some module =>
        if enterModule ≠ exitModule ∨ module.buildId = "" then none else some (enter, exit, module)
      | none => none
    | _, _ => none
  | _, _ => none

/-- A `CandidateProbe`, with all that the resolver reads of it. -/
structure ResolverProbe where
  roots : RootProof
  enterEntry : Address := nullptr
  exitEntry : Address := nullptr
  codeModule : Option ModuleImage := none
  passed : Bool := false
  deriving DecidableEq, Repr

/-- `ProbeCandidate`. -/
def probeCandidate (input : RootProofInput) (modules : List ModuleImage)
    (reading : ThreadReading) : ResolverProbe :=
  let roots := proveRuntimeRoots input reading
  if roots.passed = false then { roots }
  else
    match probeSafepoints modules reading with
    | none => { roots }
    | some (enter, exit, module) => ⟨roots, enter, exit, some module, true⟩

/-! ## Capabilities of a candidate -/

/-- The fields of a profile that `CandidateCapabilities` looks at. -/
structure CapabilityFields where
  topExitFrameOffset : BitVec 32
  vmTagOffset : BitVec 32
  executionStateOffset : BitVec 32
  exitThroughFfiOffset : BitVec 32
  vmTagDart : BitVec 64
  activeExceptionOffset : BitVec 32
  activeStacktraceOffset : BitVec 32
  threadJumpToFrameEntryPointOffset : BitVec 32
  cidCode : BitVec 32
  cidFunction : BitVec 32
  codeEntryPointOffset : BitVec 32
  codeOwnerOffset : BitVec 32
  codeInstructionsLengthOffset : BitVec 32
  functionEntryPointOffset : BitVec 32
  functionCodeOffset : BitVec 32
  typeArgumentsCid : BitVec 32
  typeArgumentsLengthOffset : BitVec 32
  typeArgumentsTypesOffset : BitVec 32
  descriptorCountOffset : BitVec 32
  descriptorSizeOffset : BitVec 32
  descriptorPositionalCountOffset : BitVec 32
  descriptorNamedEntrySize : BitVec 32
  dartSpRegister : Nat
  argumentsDescriptorRegister : Nat
  firstGpArgumentRegister : Nat
  instructionsMonomorphicEntryOffsetAot : BitVec 32
  instructionsPolymorphicEntryOffsetAot : BitVec 32
  functionSignatureOffset : BitVec 32
  parameterTypesOffset : BitVec 32
  resultTypeOffset : BitVec 32
  kindClosure : BitVec 32
  kindRegular : BitVec 32
  classTableNumCidsOffset : BitVec 32
  objectStoreLibrariesOffset : BitVec 32
  growableObjectArrayLengthOffset : BitVec 32
  growableObjectArrayDataOffset : BitVec 32
  classNameOffset : BitVec 32
  classFunctionsOffset : BitVec 32
  classLibraryOffset : BitVec 32
  libraryToplevelClassOffset : BitVec 32
  deriving DecidableEq, Repr

/-- `capabilities |= capability`, under a condition. -/
def offer (capability : VmCapability) (offered : Bool) : BitVec 64 :=
  if offered then capability else kCapabilityNone

/-- The layouts that the fields of the profile describe. -/
def CapabilityFields.layoutCapabilities (fields : CapabilityFields) : BitVec 64 :=
  offer kCapabilityGeneratedTransitionLayout
      (fields.vmTagDart != 0 && [fields.topExitFrameOffset, fields.vmTagOffset,
        fields.executionStateOffset, fields.exitThroughFfiOffset].all (· != 0)) |||
    offer kCapabilityExceptionLayout
      ([fields.activeExceptionOffset, fields.activeStacktraceOffset].all (· != 0)) |||
    offer kCapabilityExceptionBridgeLayout
      ([fields.threadJumpToFrameEntryPointOffset, fields.cidCode, fields.codeEntryPointOffset,
        fields.codeOwnerOffset].all (· != 0)) |||
    offer kCapabilityTypeArgumentsLayout
      ([fields.typeArgumentsCid, fields.typeArgumentsLengthOffset,
        fields.typeArgumentsTypesOffset].all (· != 0)) |||
    offer kCapabilityArgumentsDescriptorLayout
      ([fields.descriptorCountOffset, fields.descriptorSizeOffset,
        fields.descriptorPositionalCountOffset].all (· != 0)) |||
    offer kCapabilityInvocationCallAbi
      ([fields.dartSpRegister, fields.argumentsDescriptorRegister,
        fields.firstGpArgumentRegister].all (· < 31)) |||
    offer kCapabilityFunctionCodeLayout
      ([fields.functionEntryPointOffset, fields.functionCodeOffset, fields.codeEntryPointOffset,
        fields.codeOwnerOffset].all (· != 0)) |||
    offer kCapabilityAotEntryLayout
      ([fields.instructionsMonomorphicEntryOffsetAot,
        fields.instructionsPolymorphicEntryOffsetAot].all (· != 0)) |||
    offer kCapabilityFunctionTypeLayout
      ([fields.functionSignatureOffset, fields.parameterTypesOffset,
        fields.resultTypeOffset].all (· != 0)) |||
    offer kCapabilityClosureCallLayout
      (fields.kindClosure != fields.kindRegular && fields.descriptorNamedEntrySize != 0) |||
    offer kCapabilityLiveFunctionIndexLayout
      ([fields.classTableNumCidsOffset, fields.objectStoreLibrariesOffset,
        fields.growableObjectArrayLengthOffset, fields.growableObjectArrayDataOffset,
        fields.classNameOffset, fields.classFunctionsOffset, fields.classLibraryOffset,
        fields.libraryToplevelClassOffset, fields.functionEntryPointOffset,
        fields.functionCodeOffset, fields.codeEntryPointOffset,
        fields.codeInstructionsLengthOffset, fields.cidFunction, fields.cidCode].all (· != 0))

namespace ResolverProbe
variable (probe : ResolverProbe)

/-- `CandidateCapabilities` of a probe that passed. -/
def offeredCapabilities (fields : CapabilityFields) (registers : RegisterEvidence)
    (artifacts : ArtifactSet) : BitVec 64 :=
  kCapabilityRuntimeRoots ||| kCapabilitySafepointStubs |||
    offer kCapabilityOwnerIdentity probe.roots.ownerMatch |||
    offer kCapabilityCanonicalNull probe.roots.canonicalNullMatch |||
    offer kCapabilityDartCore probe.roots.dartCoreFound |||
    offer kCapabilityRegisterSemantics
      (registers.available && probe.roots.registerSemanticsMatch) |||
    offer kCapabilityArtifactLifecycle
      (artifacts.app.path != "" && !artifacts.engines.isEmpty) |||
    fields.layoutCapabilities

/-- The probe as the adapter uses it. -/
def candidate (fields : CapabilityFields) (registers : RegisterEvidence)
    (artifacts : ArtifactSet) : CandidateProbe :=
  ⟨probe.passed, probe.enterEntry, probe.exitEntry,
    probe.offeredCapabilities fields registers artifacts⟩

end ResolverProbe

/-! ## `ResolveVerifiedBinding` -/

/-- What the rows say of themselves.  `BuildCapabilityAbiKey` begins with the capability, so only
the capabilities without an ABI have no key. -/
structure CandidateRows (registry : ProfileRegistry) where
  identity : registry.Row → AbiIdentity
  fields : registry.Row → CapabilityFields
  noCapability : ∀ row, registry.rowAbiKey row kCapabilityNone = ""
  keyed : ∀ row, ∀ capability ∈ capabilityRegistry, capability ≠ kCapabilityArtifactLifecycle →
    registry.rowAbiKey row capability ≠ ""

namespace CandidateRows
variable {registry : ProfileRegistry} (rows : CandidateRows registry)

def keys : AbiKeys registry.Row := ⟨rows.identity, registry.rowAbiKey, rows.noCapability⟩

/-- `DomainAbiId(row, kCore)`. -/
def coreId (row : registry.Row) : String := (rows.identity row).domainAbiId .core

end CandidateRows

structure ResolverInput (registry : ProfileRegistry) where
  candidates : List registry.Row
  snapshotHashMatch : registry.Row → Bool
  thread : BitVec 64
  currentIsolate : BitVec 64
  canonicalNull : BitVec 64
  registers : RegisterEvidence := {}
  modules : List ModuleImage
  engineAnchor : Address
  reading : registry.Row → ThreadReading

/-- `ResolveEngineIncarnationForAnchor`. -/
def resolveEngineIncarnationForAnchor (modules : List ModuleImage) (anchor : Address) :
    Option ArtifactIncarnation :=
  match modules.filter fun module =>
      module.name == "libflutter.so" && module.containsExecutable anchor 4 with
  | [module] => if module.buildId = "" then none else some module.incarnation
  | _ => none

/-- The engines of the artifacts: the anchored one, or all of them. -/
def resolveEngines (modules : List ModuleImage) (anchor : Address) : List ArtifactIncarnation :=
  if anchor ≠ nullptr then (resolveEngineIncarnationForAnchor modules anchor).toList
  else (modules.filter fun module => module.name == "libflutter.so" && module.buildId != "").map
    ModuleImage.incarnation

/-- A `ResolverResult` that passed. -/
structure Resolution (registry : ProfileRegistry) where
  binding : VerifiedBinding registry
  representative : registry.Row
  coreProbe : ResolverProbe

namespace ResolverInput
variable {registry : ProfileRegistry} (input : ResolverInput registry)

def probe (row : registry.Row) : ResolverProbe :=
  probeCandidate
    ⟨input.thread, input.currentIsolate, input.canonicalNull, input.currentIsolate != 0,
      input.canonicalNull != 0, true, input.registers⟩ input.modules (input.reading row)

/-- `result.candidates`. -/
def diagnostics : List (CandidateDiagnostic registry.Row) :=
  input.candidates.map fun row =>
    ⟨some row, input.snapshotHashMatch row, (input.probe row).passed⟩

variable (rows : CandidateRows registry)

/-- The rows that pass with the core ABI of the selected one. -/
def keptRows (selected : registry.Row) : List registry.Row :=
  input.candidates.filter fun row =>
    (input.probe row).passed && rows.coreId row == rows.coreId selected

/-- On which of the kept rows a capability is available. -/
def compatible (kept : List registry.Row) (artifacts : ArtifactSet) (capability : VmCapability) :
    List Bool :=
  kept.map fun row => ((input.probe row).candidate (rows.fields row) input.registers
    artifacts).candidateCapabilities &&& capability != 0

/-- The capabilities that are bound. -/
def boundMask (candidates : AbiCandidateSet registry.Row) (compatible : VmCapability → List Bool) :
    BitVec 64 :=
  capabilityRegistry.foldl
    (fun mask capability =>
      if capability = kCapabilityArtifactLifecycle ∨
          capability = kCapabilityDeferredLoadingUnitLayout then mask
      else mask ||| offer capability (selectCapabilityAbiSet registry.rowAbiKey candidates
        capability (compatible capability)).passed) kCapabilityNone

/-- The binding around the selected row. -/
def bindingFor (selected : registry.Row) (artifacts : ArtifactSet) : VerifiedBinding registry :=
  let candidates : AbiCandidateSet registry.Row := ⟨input.keptRows rows selected, some selected⟩
  let compatible := input.compatible rows candidates.profiles artifacts
  { candidates
    capabilityBindings := resolveBindings registry candidates compatible
    capabilityMask := boundMask candidates compatible |||
      offer kCapabilityArtifactLifecycle (artifacts.app.path != "" && !artifacts.engines.isEmpty)
    artifacts }

/-- `ResolveVerifiedBinding`. -/
def resolveVerifiedBinding : Option (Resolution registry) :=
  if input.thread = 0 then none
  else
    match (selectUniquePassingCandidate rows.keys input.diagnostics .core).selected with
    | some ⟨some selected, _, _⟩ =>
      match (input.probe selected).codeModule with
      | none => none
      | some module =>
        let artifacts : ArtifactSet :=
          ⟨module.incarnation, resolveEngines input.modules input.engineAnchor⟩
        if module.buildId = "" ∨ artifacts.engines = [] then none
        else some ⟨input.bindingFor rows selected artifacts, selected, input.probe selected⟩
    | _ => none

end ResolverInput

/-! ## Creation and revalidation -/

/-- What creation is given and reads of the process; it has no registers. -/
structure AdapterEnvironment (registry : ProfileRegistry) where
  candidates : List registry.Row
  snapshotHashMatch : registry.Row → Bool
  thread : BitVec 64
  currentIsolate : BitVec 64
  canonicalNull : BitVec 64
  isolateGeneration : BitVec 64
  modules : List ModuleImage
  engineAnchor : Address
  reading : registry.Row → ThreadReading
  /-- The row of the startup observation. -/
  observed : registry.Row
  address : { address : Address // address ≠ nullptr }

namespace AdapterEnvironment
variable {registry : ProfileRegistry} (environment : AdapterEnvironment registry)

def resolverInput : ResolverInput registry where
  candidates := environment.candidates
  snapshotHashMatch := environment.snapshotHashMatch
  thread := environment.thread
  currentIsolate := environment.currentIsolate
  canonicalNull := environment.canonicalNull
  modules := environment.modules
  engineAnchor := environment.engineAnchor
  reading := environment.reading

variable (rows : CandidateRows registry)

/-- Membership among the rows is decided. -/
local instance : LawfulBEq registry.Row := inferInstance

/-- The stubs of the rows that passed. -/
def safepoints (resolution : Resolution registry) : SafepointState registry.Row where
  enterSafepoint := resolution.coreProbe.enterEntry
  exitSafepoint := resolution.coreProbe.exitEntry
  safepointBindings := (environment.candidates.filter fun row =>
      (environment.resolverInput.probe row).passed &&
        decide (row ∈ resolution.binding.candidates.profiles)).map fun row =>
    ⟨row, (environment.resolverInput.probe row).enterEntry,
      (environment.resolverInput.probe row).exitEntry⟩

/-- `dartplant_flutter_vm_adapter_create`; `none` is a failure. -/
def createAdapter : Option (FlutterVmInstance registry) :=
  if environment.isolateGeneration = 0 then none
  else
    match environment.resolverInput.resolveVerifiedBinding rows with
    | none => none
    | some resolution =>
      let bindings := resolution.binding.capabilityBindings
      if ¬ (bindings.findBinding kCapabilityGeneratedTransitionLayout).any
            (fun binding => binding.contains environment.observed) ∨
          resolution.binding.capabilityMask &&& kCapabilityArtifactLifecycle = 0 ∨
          resolution.coreProbe.roots.threadNull ≠ environment.canonicalNull then none
      else
        flutterVmInstanceCreate resolution.binding
          ⟨environment.currentIsolate, resolution.coreProbe.roots.isolateGroup,
            environment.isolateGeneration⟩
          environment.thread environment.modules (environment.safepoints resolution)
          environment.address

/-- The probes of `ReproveCoreBinding` for an adapter, when the process is as it was at its
creation. -/
def reprobe (adapter : FlutterVmState registry) (row : registry.Row) : CandidateProbe :=
  (probeCandidate
    ⟨adapter.thread, adapter.identity.isolate, environment.canonicalNull, true, true, true, {}⟩
    environment.modules (environment.reading row)).candidate (rows.fields row) {} adapter.artifacts

end AdapterEnvironment

end DartPlant
