import DartPlant.Vm.AbiResolver

/-! # The Flutter backend of the VM adapter

The backend proves capabilities of the running VM for the core adapter, and keeps its own record of
them: a mask of verified and failed capabilities, one proof record each, and the binding of each
capability to the source rows that passed.

What the memory of the process says about a row is an argument: `EvidenceReading` for one proof, a
probe for each row for a revalidation.  Rows are pointers into the registry of generated profiles,
of which the model keeps the versions and the ABI keys.  Logging is left out, and so is what only
the generated transition uses (safepoint stubs, roots and leases).
-/

namespace DartPlant

/-- The generated profiles, with `BuildCapabilityAbiKey`. -/
structure ProfileRegistry where
  rows : List RuntimeProfileRecord
  versions : (rows.map fun row => row.profileVersion).Nodup
  abiKey : RuntimeProfileRecord → VmCapability → String

/-- A pointer into the registry. -/
abbrev ProfileRegistry.Row (registry : ProfileRegistry) :=
  { row : RuntimeProfileRecord // row ∈ registry.rows }

/-- `BuildCapabilityAbiKey` of a row. -/
def ProfileRegistry.rowAbiKey (registry : ProfileRegistry) (row : registry.Row)
    (capability : VmCapability) : String := registry.abiKey row.1 capability

/-- `kEagerRuntimeProofMask`. -/
def kEagerRuntimeProofMask : BitVec 64 :=
  profileAbiSelectableCapabilityMask verifiedAfterCreateCapabilityMask

inductive ProofState where
  | unavailable
  | unverified
  | verified
  | failedForIncarnation
  | ambiguous
  deriving DecidableEq, Repr

structure CapabilityProofRecord where
  capability : VmCapability := kCapabilityNone
  state : ProofState := .unavailable
  abiDomainKey : String := ""
  abiDomains : AbiDomainMask := 0
  artifactGeneration : BitVec 64 := 0
  isolateGeneration : BitVec 64 := 0
  isolateGroup : BitVec 64 := 0
  engineLoadBias : Address := nullptr
  deriving DecidableEq, Repr

/-! ## Artifacts -/

structure ArtifactIncarnation where
  name : String
  path : String
  buildId : String
  loadBias : Address
  executableRanges : List ExecutableRange
  deriving DecidableEq, Repr

structure ArtifactSet where
  app : ArtifactIncarnation
  engines : List ArtifactIncarnation
  deriving DecidableEq, Repr

/-- `ArtifactIncarnationMatches`. -/
def ArtifactIncarnation.matchesModule (expected : ArtifactIncarnation) (current : ModuleImage) :
    Bool :=
  expected.name == current.name && expected.path == current.path &&
    expected.loadBias == current.loadBias &&
    !(expected.buildId == "") && !(current.buildId == "") && expected.buildId == current.buildId &&
    expected.executableRanges == current.executableRanges

/-- The engines of the set, each on a module of its own. -/
def enginesMapped : List ArtifactIncarnation → List ModuleImage → Bool
  | [], _ => true
  | engine :: engines, modules =>
    match modules.findIdx? fun module => engine.matchesModule module with
    | none => false
    | some index => enginesMapped engines (modules.eraseIdx index)

/-- `ValidateArtifactSet`. -/
def validateArtifactSet (expected : ArtifactSet) (modules : List ModuleImage) : Bool :=
  modules.any (fun module => expected.app.matchesModule module) &&
    enginesMapped expected.engines modules

/-- The target lies in an executable range of the artifact. -/
def ArtifactIncarnation.ownsTarget (artifact : ArtifactIncarnation) (target : Address) : Bool :=
  artifact.executableRanges.any fun range =>
    decide (range.end_ ≥ range.start + 4) && decide (target ≥ range.start) &&
      decide (target ≤ range.end_ - 4)

/-! ## The state -/

structure FlutterVmState (registry : ProfileRegistry) where
  identity : DartPlantIsolateIdentity
  thread : BitVec 64
  abiCandidates : AbiCandidateSet registry.Row
  rootCompatibleCandidates : List Bool
  capabilityBindings : CapabilityBindingSet registry.Row
  artifacts : ArtifactSet
  capabilities : BitVec 64
  verifiedCapabilities : BitVec 64 := kCapabilityNone
  failedCapabilities : BitVec 64 := kCapabilityNone
  artifactValid : Bool := false
  artifactQuiescing : Bool := false
  artifactGeneration : BitVec 64 := 1
  proofRecords : VmCapability → CapabilityProofRecord := fun _ => {}

structure DartPlantVmCapabilityEvidence where
  kind : DartPlantVmCapabilityEvidenceKind
  observationReceipt : Bool := false
  semanticReceipt : Bool := false
  function : BitVec 64 := 0
  code : BitVec 64 := 0
  expectedEntry : Address := nullptr
  descriptor : BitVec 64 := 0
  deriving DecidableEq, Repr

/-- What one proof reads of the process: whether the artifact mutex is held elsewhere, whether the
thread is in the isolate of the adapter, what the predicate of the evidence says of a row, the
`JumpToFrame` target a row leads to (null when it cannot be read), and the mapped modules. -/
structure EvidenceReading (Row : Type) where
  contended : Bool
  ownerCurrent : Bool
  passes : Row → Bool
  target : Row → Address := fun _ => nullptr
  modules : List ModuleImage := []

/-- A probe of one row, with the capabilities `CandidateCapabilities` reads off it. -/
structure CandidateProbe where
  passed : Bool
  enterEntry : Address
  exitEntry : Address
  available : BitVec 64
  deriving DecidableEq, Repr

def CandidateProbe.candidateCapabilities (probe : CandidateProbe) : BitVec 64 :=
  if probe.passed then probe.available else kCapabilityNone

namespace FlutterVmState
variable {registry : ProfileRegistry} (state : FlutterVmState registry)

def boundEngineLoadBias : Address :=
  match state.artifacts.engines with
  | [engine] => engine.loadBias
  | _ => nullptr

def hasCapability (capability : VmCapability) : Bool :=
  state.capabilities &&& capability == capability

/-- The proof record is of this capability, and of the current artifact and isolate. -/
def recordVerified (bit : VmCapability) : Bool :=
  let record := state.proofRecords bit
  record.capability == bit && record.state == .verified &&
    record.artifactGeneration == state.artifactGeneration &&
    record.isolateGeneration == state.identity.generation &&
    record.isolateGroup == state.identity.isolateGroup &&
    record.engineLoadBias == state.boundEngineLoadBias

def hasVerifiedCapability (capability : VmCapability) : Bool :=
  state.verifiedCapabilities &&& capability == capability &&
    (maskBits capability).all state.recordVerified

def hasFailedCapability (capability : VmCapability) : Bool :=
  state.failedCapabilities &&& capability != 0

/-- The stamp of the current incarnation on a record. -/
def stampRecord (bit : VmCapability) (proof : ProofState) : CapabilityProofRecord :=
  { state.proofRecords bit with
    capability := bit
    state := proof
    artifactGeneration := state.artifactGeneration
    isolateGeneration := state.identity.generation
    isolateGroup := state.identity.isolateGroup
    engineLoadBias := state.boundEngineLoadBias }

def markCapabilityVerified (capability : BitVec 64) : FlutterVmState registry :=
  { state with
    failedCapabilities := state.failedCapabilities &&& ~~~capability
    verifiedCapabilities := state.verifiedCapabilities ||| capability
    proofRecords := fun bit => if bit ∈ maskBits capability then state.stampRecord bit .verified
      else state.proofRecords bit }

/-- `MarkCapabilityFailed`, and `MarkCapabilityAmbiguous` with the other proof state. -/
def markCapabilityFailed (capability : BitVec 64) (proof : ProofState := .failedForIncarnation) :
    FlutterVmState registry :=
  { state with
    verifiedCapabilities := state.verifiedCapabilities &&& ~~~capability
    failedCapabilities := state.failedCapabilities ||| capability
    capabilityBindings := (maskBits capability).foldl CapabilityBindingSet.clear
      state.capabilityBindings
    proofRecords := fun bit => if bit ∈ maskBits capability then state.stampRecord bit proof
      else state.proofRecords bit }

def markCapabilityAmbiguous (capability : BitVec 64) : FlutterVmState registry :=
  state.markCapabilityFailed capability .ambiguous

def resetCapabilityProof (capability : BitVec 64) : FlutterVmState registry :=
  { state with
    verifiedCapabilities := state.verifiedCapabilities &&& ~~~capability
    failedCapabilities := state.failedCapabilities &&& ~~~capability
    capabilityBindings := (maskBits capability).foldl CapabilityBindingSet.clear
      state.capabilityBindings
    proofRecords := fun bit =>
      if bit ∈ maskBits capability then
        { capability := bit
          state := if state.hasCapability bit then .unverified else .unavailable }
      else state.proofRecords bit }

/-- `SetProofRecordDomains`; an empty key is built from the row. -/
def setProofRecordDomains (capability : VmCapability) (profile : registry.Row)
    (domainKey : String := "") : FlutterVmState registry :=
  { state with proofRecords := fun bit =>
      if bit = capability then
        { state.proofRecords bit with
          abiDomains := capabilityDomains capability
          abiDomainKey := if domainKey = "" then registry.abiKey profile capability
            else domainKey }
      else state.proofRecords bit }

/-! ### Proofs of evidence -/

def capabilityDependenciesVerified (capability : VmCapability) : Bool :=
  if capability = kCapabilityAotEntryLayout then
    state.hasVerifiedCapability kCapabilityFunctionCodeLayout
  else if capability = kCapabilityClosureCallLayout then
    state.hasVerifiedCapability kCapabilityInvocationCallAbi &&
      state.hasVerifiedCapability kCapabilityArgumentsDescriptorLayout &&
      state.hasVerifiedCapability kCapabilityFunctionTypeLayout
  else true

def proofDomainsMatch (capability : VmCapability) (profile : registry.Row) : Bool :=
  (state.proofRecords capability).abiDomains == capabilityDomains capability &&
    (state.proofRecords capability).abiDomainKey == registry.abiKey profile capability

/-- `ClosureDependencyDomainsMatch`. -/
def closureDependencyDomainsMatch (profile : registry.Row) : Bool :=
  state.proofDomainsMatch kCapabilityInvocationCallAbi profile &&
    state.proofDomainsMatch kCapabilityFunctionTypeLayout profile &&
    state.proofDomainsMatch kCapabilityArgumentsDescriptorLayout profile

/-- The candidates that passed the root proof and this one. -/
def compatibleCandidates (passes : registry.Row → Bool) : List Bool :=
  state.abiCandidates.profiles.zipIdx.map fun (candidate, index) =>
    state.rootCompatibleCandidates[index]?.getD false && passes candidate

/-- What a proof of a capability selects among the candidates. -/
def selectCandidates (capability : VmCapability) (passes : registry.Row → Bool) :
    DomainSetSelection registry.Row :=
  selectCapabilityAbiSet registry.rowAbiKey state.abiCandidates capability
    (state.compatibleCandidates passes)

/-- The common part of the proofs: select one ABI among the rows that pass, bind it, and mark the
capability verified when the row agrees with the capabilities it depends on.  Anything else
withdraws the capability. -/
def proveRows (capability : VmCapability) (passes : registry.Row → Bool)
    (agrees : FlutterVmState registry → registry.Row → Bool) :
    FlutterVmState registry × Option registry.Row :=
  let selection := state.selectCandidates capability passes
  if selection.passed = false then
    (if selection.ambiguous then state.markCapabilityAmbiguous capability
      else state.markCapabilityFailed capability, none)
  else
    match selection.representative,
        state.capabilityBindings.bindSelection capability selection with
    | some selected, some bindings =>
      let bound := { state with capabilityBindings := bindings }
      if agrees bound selected = false then (bound.markCapabilityFailed capability, none)
      else
        ((bound.setProofRecordDomains capability selected
          selection.abiDomainKey).markCapabilityVerified capability, some selected)
    | _, _ => (state.markCapabilityFailed capability, none)

/-- A FunctionCode, AotEntry or InvocationCallAbi proof. -/
def proveCodeEntry (capability : VmCapability) (passes : registry.Row → Bool) :
    FlutterVmState registry × Option registry.Row :=
  if state.capabilityDependenciesVerified capability = false then
    (state.markCapabilityFailed capability, none)
  else state.proveRows capability passes fun bound selected =>
    capability != kCapabilityAotEntryLayout ||
      bound.proofDomainsMatch kCapabilityFunctionCodeLayout selected

/-- The `JumpToFrame` target has exactly one owner among the artifacts. -/
def targetOwned (target : Address) : Bool :=
  target != nullptr &&
    (state.artifacts.app :: state.artifacts.engines).countP (fun artifact =>
      artifact.ownsTarget target) == 1

def proveExceptionBridge (target : registry.Row → Address) :
    FlutterVmState registry × Option registry.Row :=
  if state.hasCapability kCapabilityExceptionBridgeLayout = false ∨
      state.hasFailedCapability kCapabilityExceptionBridgeLayout = true ∨
      state.artifacts.engines = [] then
    (state.markCapabilityFailed kCapabilityExceptionBridgeLayout, none)
  else state.proveRows kCapabilityExceptionBridgeLayout
    (fun row => state.targetOwned (target row)) fun _ _ => true

def proveArgumentsDescriptor (passes : registry.Row → Bool) :
    FlutterVmState registry × Option registry.Row :=
  if state.capabilityDependenciesVerified kCapabilityArgumentsDescriptorLayout = false then
    (state.markCapabilityFailed kCapabilityArgumentsDescriptorLayout, none)
  else state.proveRows kCapabilityArgumentsDescriptorLayout passes fun _ _ => true

/-- A FunctionType proof looks at no other capability. -/
def proveFunctionType (passes : registry.Row → Bool) :
    FlutterVmState registry × Option registry.Row :=
  state.proveRows kCapabilityFunctionTypeLayout passes fun _ _ => true

def proveClosureCall (passes : registry.Row → Bool) :
    FlutterVmState registry × Option registry.Row :=
  if state.capabilityDependenciesVerified kCapabilityClosureCallLayout = false then
    (state.markCapabilityFailed kCapabilityClosureCallLayout, none)
  else state.proveRows kCapabilityClosureCallLayout passes fun bound selected =>
    bound.closureDependencyDomainsMatch selected

/-- What is wrong with a receipt. -/
def receiptRejected (evidence : DartPlantVmCapabilityEvidence) : Bool :=
  let capability := evidence.kind.capability
  let observationKind := evidence.kind == .functionCode || evidence.kind == .aotEntry ||
    evidence.kind == .invocationCallAbi || evidence.kind == .functionType
  let semanticKind := evidence.kind == .invocationCallAbi || evidence.kind == .functionType ||
    evidence.kind == .closureCall
  evidence.observationReceipt == evidence.semanticReceipt ||
    (evidence.observationReceipt && !observationKind) ||
    (evidence.semanticReceipt && !semanticKind) ||
    evidence.function != 0 || evidence.code != 0 || evidence.expectedEntry == nullptr ||
    !state.hasCapability capability || state.hasFailedCapability capability ||
    !state.capabilityDependenciesVerified capability ||
    (evidence.semanticReceipt && evidence.kind == .closureCall && evidence.descriptor == 0)

/-- A receipt verifies the capability again on the rows already bound, and withdraws nothing. -/
def proveReceipt (evidence : DartPlantVmCapabilityEvidence) (modules : List ModuleImage) :
    FlutterVmState registry × Option registry.Row :=
  let capability := evidence.kind.capability
  if state.receiptRejected evidence then (state, none)
  else if modules.countP (fun module => module.containsExecutable evidence.expectedEntry 4) ≠ 1 then
    (state, none)
  else
    match state.capabilityBindings.findBinding capability with
    | none => (state, none)
    | some binding =>
      ((state.setProofRecordDomains capability binding.representative
        binding.abiDomainKey).markCapabilityVerified capability, some binding.representative)

/-- The branches of `ProveCapability`. -/
def proveEvidence (evidence : DartPlantVmCapabilityEvidence)
    (reading : EvidenceReading registry.Row) : FlutterVmState registry × Option registry.Row :=
  if evidence.observationReceipt || evidence.semanticReceipt then
    state.proveReceipt evidence reading.modules
  else
    match evidence.kind with
    | .functionCode => state.proveCodeEntry kCapabilityFunctionCodeLayout reading.passes
    | .aotEntry => state.proveCodeEntry kCapabilityAotEntryLayout reading.passes
    | .invocationCallAbi => state.proveCodeEntry kCapabilityInvocationCallAbi reading.passes
    | .exceptionBridge => state.proveExceptionBridge reading.target
    | .argumentsDescriptor => state.proveArgumentsDescriptor reading.passes
    | .functionType => state.proveFunctionType reading.passes
    | .closureCall => state.proveClosureCall reading.passes

/-- `ValidateCurrentOwner` succeeds. -/
def validateCurrentOwner (ownerCurrent : Bool) : Bool :=
  (state.capabilityBindings.findBinding kCapabilityOwnerIdentity).isSome && state.thread != 0 &&
    ownerCurrent

/-- `ProveCapability`; an error is its status. -/
def proveCapability (isolate : DartPlantIsolateIdentity)
    (evidence : DartPlantVmCapabilityEvidence) (reading : EvidenceReading registry.Row) :
    FlutterVmState registry × Except DartPlantStatus DartPlantVmCapabilityProof :=
  if isolate.isolate ≠ state.identity.isolate ∨
      isolate.isolateGroup ≠ state.identity.isolateGroup ∨
      isolate.generation ≠ state.identity.generation then (state, .error .invalidArgument)
  else if reading.contended ∨ state.artifactQuiescing then (state, .error .vmAdapterBusy)
  else if state.artifactValid = false then (state, .error .profileMismatch)
  else if state.validateCurrentOwner reading.ownerCurrent = false then
    (state, .error .vmBridgeUnavailable)
  else
    match state.proveEvidence evidence reading with
    | (state', none) => (state', .error .profileMismatch)
    | (state', some selected) => (state', .ok
        { capability := evidence.kind.capability
          profileVersion := selected.1.profileVersion
          artifactGeneration := state.artifactGeneration
          isolateGeneration := state.identity.generation
          resolvedTarget := if evidence.kind = .exceptionBridge ∧
              ¬(evidence.observationReceipt ∨ evidence.semanticReceipt) then
            reading.target selected else nullptr })

/-! ### The life of the artifacts -/

/-- `ValidateArtifactLifecycle`. -/
def validateArtifactLifecycle (modules : List ModuleImage) : FlutterVmState registry :=
  { state with artifactValid := state.hasCapability kCapabilityArtifactLifecycle &&
      validateArtifactSet state.artifacts modules }

/-- `InvalidateArtifactBindingLocked`. -/
def invalidateArtifactBinding : FlutterVmState registry :=
  let reset := { state with artifactValid := false }.resetCapabilityProof state.capabilities
  { reset with artifactGeneration := state.artifactGeneration + 1 }

/-- The eager proofs of these capabilities, on the compatible rows or on what is bound already. -/
def establishEager (compatible : Option (List Bool)) :
    List VmCapability → FlutterVmState registry → FlutterVmState registry × Bool
  | [], state => (state, true)
  | bit :: bits, state =>
    match compatible with
    | none =>
      match state.capabilityBindings.findBinding bit with
      | none => (state, false)
      | some existing => establishEager none bits
          (state.setProofRecordDomains bit existing.representative existing.abiDomainKey)
    | some rows =>
      let selection := selectCapabilityAbiSet registry.rowAbiKey state.abiCandidates
        bit rows
      if selection.passed = false then
        (if selection.ambiguous then state.markCapabilityAmbiguous bit
          else state.markCapabilityFailed bit, false)
      else
        match selection.representative, state.capabilityBindings.bindSelection bit selection with
        | some selected, some bindings => establishEager (some rows) bits
            ({ state with capabilityBindings := bindings }.setProofRecordDomains bit selected
              selection.abiDomainKey)
        | _, _ => (state, false)

/-- `EstablishEagerCapabilityProofs`. -/
def establishEagerCapabilityProofs (compatible : Option (List Bool)) :
    FlutterVmState registry × Bool :=
  let rows := compatible.getD (state.abiCandidates.profiles.map fun _ => true)
  if rows.length ≠ state.abiCandidates.profiles.length then (state, false)
  else establishEager compatible (maskBits (kEagerRuntimeProofMask &&& state.capabilities))
    { state with rootCompatibleCandidates := rows }

/-- The capability has a structural binding to rebuild. -/
def rebuilds (capability : VmCapability) : Bool :=
  state.capabilities &&& capability != 0 && capability != kCapabilityArtifactLifecycle &&
    capability != kCapabilityDeferredLoadingUnitLayout

/-- What a capability selects among the rows whose probe offers it. -/
def selectProbed (probe : registry.Row → CandidateProbe) (capability : VmCapability) :
    DomainSetSelection registry.Row :=
  selectCapabilityAbiSet registry.rowAbiKey state.abiCandidates capability
    (state.abiCandidates.profiles.map fun row =>
      (probe row).candidateCapabilities &&& capability != 0)

/-- Rebind the capabilities, up to the first that selects no single ABI. -/
def rebind (probe : registry.Row → CandidateProbe) :
    List VmCapability → CapabilityBindingSet registry.Row →
      CapabilityBindingSet registry.Row × Bool
  | [], bindings => (bindings, true)
  | capability :: capabilities, bindings =>
    if state.rebuilds capability = false then rebind probe capabilities bindings
    else
      match bindings.bindSelection capability (state.selectProbed probe capability) with
      | none => (bindings, false)
      | some bindings => rebind probe capabilities bindings

/-- What the RuntimeRoots capability selects among the rows whose probe passed. -/
def selectRoots (probe : registry.Row → CandidateProbe) : DomainSetSelection registry.Row :=
  selectCapabilityAbiSet registry.rowAbiKey state.abiCandidates
    kCapabilityRuntimeRoots (state.abiCandidates.profiles.map fun row => (probe row).passed)

/-- The candidates after their probes: the row chosen for the roots is the preferred one. -/
def rooted (probe : registry.Row → CandidateProbe) (selected : registry.Row) :
    FlutterVmState registry :=
  { state with
    abiCandidates := { state.abiCandidates with representative := some selected }
    rootCompatibleCandidates := state.abiCandidates.profiles.map fun row => (probe row).passed }

/-- `ReproveCoreBinding`. -/
def reproveCoreBinding (probe : registry.Row → CandidateProbe) : FlutterVmState registry × Bool :=
  let cleared := { state with
    rootCompatibleCandidates := state.abiCandidates.profiles.map fun _ => false }
  let selection := state.selectRoots probe
  match selection.representative with
  | none => (cleared, false)
  | some selected =>
    if selection.passed = false ∨ (probe selected).passed = false ∨
        (probe selected).enterEntry = nullptr ∨ (probe selected).exitEntry = nullptr then
      (cleared, false)
    else
      let rooted := state.rooted probe selected
      let rebound := rooted.rebind probe capabilityRegistry rooted.capabilityBindings
      let rebuilt := { rooted with capabilityBindings := rebound.1 }
      if rebound.2 = false then (rebuilt, false)
      else rebuilt.establishEagerCapabilityProofs (some rooted.rootCompatibleCandidates)

/-- The first record of every capability. -/
def recordUnverified : FlutterVmState registry :=
  { state with proofRecords := fun bit =>
      if bit ∈ maskBits state.capabilities then state.stampRecord bit .unverified
      else state.proofRecords bit }

/-- The marks of a new adapter and of a revalidated one. -/
def markEager : FlutterVmState registry :=
  let eager := state.markCapabilityVerified (state.capabilities &&& kEagerRuntimeProofMask)
  eager.markCapabilityVerified kCapabilityArtifactLifecycle

end FlutterVmState

end DartPlant
