import DartPlant.Vm.CapabilityVouching

/-! # Operations of a Flutter adapter

Everything the core adapter asks of the Flutter backend about capabilities: the proofs, the
generated transitions, the live heap observations and the two reads that prove a layout as they go.
The core refuses a request before the backend sees it, or passes the backend's status on; so one
operation is the core's operation with the status the backend answers with.

What an operation reads of the process is its reading.  Of the words of the VM thread a transition
rewrites, only what it checks of them is there.  The artifact mutex makes one operation one step.
-/

namespace DartPlant
open FlutterVmState DartPlantVmAdapter

/-! ## The state -/

/-- The safepoint stubs of one row. -/
structure SafepointBinding (Row : Type) where
  profile : Row
  enter : Address
  exit : Address

/-- The part of the backend's state that only transitions and observations use. -/
structure SafepointState (Row : Type) where
  enterSafepoint : Address
  exitSafepoint : Address
  safepointBindings : List (SafepointBinding Row)
  liveHeapObservationActive : Bool := false

/-- A Flutter adapter with the whole of its backend.  The lease of an observation is the address of
the backend's state. -/
structure FlutterVmInstance (registry : ProfileRegistry) where
  vm : FlutterVm registry
  safepoints : SafepointState registry.Row
  address : { address : Address // address ≠ nullptr }

/-! ## Readings -/

/-- What a transition reads: the thread and the flag of its frame, the file and the base `dladdr`
finds for an address, and for each row whether the thread is in generated state, looked at once for
the selection and once for the row it chose, whether its words allow the transition, and whether
they are what was written after the safepoint stub returns. -/
structure TransitionReading (Row : Type) where
  frameThread : BitVec 64
  syntheticExitFrame : Bool := true
  moduleOf : Address → Option (String × Address)
  passes : Row → Bool := fun _ => false
  confirms : Row → Bool := fun _ => false
  admits : Row → Bool
  settled : Row → Bool

/-- What the begin of an observation reads; `admits` is `BeginLiveHeapObservationForProfile`. -/
structure ObservationReading (Row : Type) where
  moduleOf : Address → Option (String × Address)
  currentIsolate : BitVec 64
  admits : Row → Bool

/-- What a read that proves its layout reads: the answer of the owner check after the binding is
found, which rows pass, whether the element of the chosen row is addressable, and whether it can be
read. -/
structure LayoutReading (Row : Type) where
  owner : DartPlantStatus := .ok
  passes : Row → Bool
  addressable : Row → Bool := fun _ => true
  readable : Row → Bool

namespace FlutterVmState
variable {registry : ProfileRegistry} (state : FlutterVmState registry)

/-- The identity of a request is the one of the backend. -/
def sameIdentity (isolate : DartPlantIsolateIdentity) : Bool :=
  isolate.isolate == state.identity.isolate &&
    isolate.isolateGroup == state.identity.isolateGroup &&
    isolate.generation == state.identity.generation

/-- `ProfileForCapability`. -/
def profileForCapability (capability : VmCapability) : Option registry.Row :=
  (state.capabilityBindings.findBinding capability).map fun binding => binding.representative

/-- The key and the domains of a record. -/
def setProofRecordKey (capability : VmCapability) (key : String) : FlutterVmState registry :=
  { state with proofRecords := fun bit =>
      if bit = capability then
        { state.proofRecords bit with
          abiDomains := capabilityDomains capability
          abiDomainKey := key }
      else state.proofRecords bit }

/-- `ResolveCapabilityProfile`. -/
def resolveCapabilityProfile (capability : VmCapability) (passes : registry.Row → Bool) :
    FlutterVmState registry × Option registry.Row :=
  let selection := state.selectCandidates capability passes
  if selection.passed = false then
    (if selection.ambiguous then state.markCapabilityAmbiguous capability
      else state.markCapabilityFailed capability, none)
  else
    match state.capabilityBindings.bindSelection capability selection with
    | none => (state.markCapabilityFailed capability, none)
    | some bindings =>
      ({ state with capabilityBindings := bindings }.setProofRecordKey capability
        selection.abiDomainKey, selection.representative)

/-! ### Transitions -/

/-- `ValidateHotArtifactBinding`. -/
def validateHotArtifactBinding (safepoints : SafepointState registry.Row)
    (moduleOf : Address → Option (String × Address)) : Bool :=
  state.artifactValid && !(state.artifacts.app.path == "") &&
    !(state.artifacts.app.loadBias == nullptr) && !(safepoints.enterSafepoint == nullptr) &&
    !(safepoints.exitSafepoint == nullptr) &&
    [safepoints.enterSafepoint, safepoints.exitSafepoint].all fun entry =>
      moduleOf entry == some (state.artifacts.app.path, state.artifacts.app.loadBias)

/-- `ProveTransitionCapability`. -/
def proveTransitionCapability (safepoints : SafepointState registry.Row)
    (passes confirms : registry.Row → Bool) :
    FlutterVmState registry × SafepointState registry.Row × Bool :=
  let capability := kCapabilityGeneratedTransitionLayout
  if state.hasCapability capability = false ∨ state.abiCandidates.profiles = [] then
    (state, safepoints, false)
  else
    match state.resolveCapabilityProfile capability passes with
    | (resolved, none) => (resolved, safepoints, false)
    | (resolved, some profile) =>
      match safepoints.safepointBindings.find? fun binding =>
          decide (binding.profile = profile) && binding.enter != nullptr &&
            binding.exit != nullptr with
      | none => (resolved.markCapabilityFailed capability, safepoints, false)
      | some safepoint =>
        let bound := { safepoints with
          enterSafepoint := safepoint.enter
          exitSafepoint := safepoint.exit }
        if confirms profile = false then (resolved.markCapabilityFailed capability, bound, false)
        else (resolved.markCapabilityVerified capability, bound, true)

/-- The capabilities a transition stands on. -/
def transitionCapabilities : BitVec 64 :=
  kCapabilityGeneratedTransitionLayout ||| kCapabilitySafepointStubs |||
    kCapabilityArtifactLifecycle

/-- The words of the thread before and after a transition; a mismatch withdraws the capability. -/
def crossTransition (reading : TransitionReading registry.Row) :
    FlutterVmState registry × DartPlantStatus :=
  let capability := kCapabilityGeneratedTransitionLayout
  match state.profileForCapability capability with
  | none => (state, .vmBridgeUnavailable)
  | some profile =>
    if reading.admits profile = false ∨ reading.settled profile = false then
      (state.markCapabilityFailed capability, .vmBridgeUnavailable)
    else (state, .ok)

/-- `EnterGeneratedToNative`. -/
def enterGeneratedToNative (safepoints : SafepointState registry.Row)
    (isolate : DartPlantIsolateIdentity) (reading : TransitionReading registry.Row) :
    FlutterVmState registry × SafepointState registry.Row × DartPlantStatus :=
  let capability := kCapabilityGeneratedTransitionLayout
  if reading.frameThread ≠ state.thread ∨ state.sameIdentity isolate = false ∨
      reading.syntheticExitFrame = false ∨
      state.hasCapability transitionCapabilities = false ∨
      state.hasFailedCapability capability = true ∨
      state.hasVerifiedCapability (kCapabilitySafepointStubs ||| kCapabilityArtifactLifecycle) =
        false ∨
      state.validateHotArtifactBinding safepoints reading.moduleOf = false then
    (state, safepoints, .vmBridgeUnavailable)
  else if state.hasVerifiedCapability capability = true then
    let crossed := state.crossTransition reading
    (crossed.1, safepoints, crossed.2)
  else
    match state.proveTransitionCapability safepoints reading.passes reading.confirms with
    | (proved, bound, false) => (proved, bound, .vmBridgeUnavailable)
    | (proved, bound, true) =>
      let crossed := proved.crossTransition reading
      (crossed.1, bound, crossed.2)

/-- `LeaveNativeToGenerated`. -/
def leaveNativeToGenerated (safepoints : SafepointState registry.Row)
    (isolate : DartPlantIsolateIdentity) (reading : TransitionReading registry.Row) :
    FlutterVmState registry × DartPlantStatus :=
  if reading.frameThread ≠ state.thread ∨ state.sameIdentity isolate = false ∨
      state.hasCapability transitionCapabilities = false ∨
      state.hasVerifiedCapability transitionCapabilities = false ∨
      state.hasFailedCapability kCapabilityGeneratedTransitionLayout = true ∨
      state.validateHotArtifactBinding safepoints reading.moduleOf = false then
    (state, .vmBridgeUnavailable)
  else state.crossTransition reading

/-! ### Observations -/

/-- `ResolveCapabilityConsumerProfile`. -/
def resolveCapabilityConsumerProfile (first other : VmCapability) : Option registry.Row :=
  (state.capabilityBindings.findBinding first).bind fun binding =>
    binding.selectedRows.find? fun row =>
      (state.capabilityBindings.findBinding other).any fun binding =>
        decide (row ∈ binding.selectedRows)

/-- `BeginLiveHeapObservation`. -/
def beginLiveHeapObservation (safepoints : SafepointState registry.Row)
    (isolate : DartPlantIsolateIdentity) (thread : BitVec 64)
    (reading : ObservationReading registry.Row) : SafepointState registry.Row × DartPlantStatus :=
  if thread = 0 ∨ state.sameIdentity isolate = false ∨
      safepoints.liveHeapObservationActive = true then (safepoints, .invalidArgument)
  else if canonicalObservationThread thread ≠ canonicalObservationThread state.thread then
    (safepoints, .vmThreadMismatch)
  else if state.validateHotArtifactBinding safepoints reading.moduleOf = false ∨
      state.artifacts.app.executableRanges = [] then (safepoints, .vmBridgeUnavailable)
  else if reading.currentIsolate ≠ state.identity.isolate then (safepoints, .vmIsolateMismatch)
  else if (state.resolveCapabilityConsumerProfile kCapabilitySafepointStubs
      kCapabilityGeneratedTransitionLayout).any reading.admits = false then
    (safepoints, .vmBridgeUnavailable)
  else ({ safepoints with liveHeapObservationActive := true }, .ok)

/-- `EndLiveHeapObservation`. -/
def endLiveHeapObservation (safepoints : SafepointState registry.Row) (address : Address)
    (isolate : DartPlantIsolateIdentity) (lease : Address) :
    SafepointState registry.Row × DartPlantStatus :=
  if lease ≠ address ∨ safepoints.liveHeapObservationActive = false ∨
      state.sameIdentity isolate = false then (safepoints, .invalidArgument)
  else ({ safepoints with liveHeapObservationActive := false }, .ok)

/-! ### Reads -/

/-- `ValidateCurrentOwner`, with the answer of the isolate check. -/
def currentOwnerStatus (owner : DartPlantStatus) : DartPlantStatus :=
  if (state.capabilityBindings.findBinding kCapabilityOwnerIdentity).isNone ∨ state.thread = 0 then
    .vmBridgeUnavailable
  else owner

/-- The common part of the reads: select one ABI among the rows that pass, bind it, and mark the
capability verified when its own read succeeds with this status. -/
def proveRead (capability : VmCapability) (passes : registry.Row → Bool)
    (read : registry.Row → DartPlantStatus) : FlutterVmState registry × DartPlantStatus :=
  let selection := state.selectCandidates capability passes
  if selection.passed = false then
    if selection.ambiguous then (state.markCapabilityAmbiguous capability, .profileMismatch)
    else (state.markCapabilityFailed capability, .objectHandleInvalid)
  else
    match selection.representative,
        state.capabilityBindings.bindSelection capability selection with
    | some selected, some bindings =>
      let bound := { state with capabilityBindings := bindings }.setProofRecordDomains capability
        selected selection.abiDomainKey
      if read selected ≠ .ok then (bound.markCapabilityFailed capability, read selected)
      else (bound.markCapabilityVerified capability, .ok)
    | _, _ => (state.markCapabilityFailed capability, .profileMismatch)

/-- `ReadActiveException` and `ReadActiveStacktrace`. -/
def readActiveException (isolate : DartPlantIsolateIdentity)
    (reading : LayoutReading registry.Row) : FlutterVmState registry × DartPlantStatus :=
  let capability := kCapabilityExceptionLayout
  if state.sameIdentity isolate = false then (state, .invalidArgument)
  else if state.hasCapability capability = false ∨ state.hasFailedCapability capability = true then
    (state, .vmBridgeUnavailable)
  else if state.currentOwnerStatus reading.owner ≠ .ok then
    (state, state.currentOwnerStatus reading.owner)
  else state.proveRead capability reading.passes fun row =>
    if reading.readable row then .ok else .objectHandleInvalid

/-- `ReadTypeArgumentsElement`, which asks for no owner. -/
def readTypeArgumentsElement (isolate : DartPlantIsolateIdentity)
    (reading : LayoutReading registry.Row) : FlutterVmState registry × DartPlantStatus :=
  let capability := kCapabilityTypeArgumentsLayout
  if state.sameIdentity isolate = false then (state, .invalidArgument)
  else if state.hasCapability capability = false ∨ state.hasFailedCapability capability = true then
    (state, .vmBridgeUnavailable)
  else state.proveRead capability reading.passes fun row =>
    if reading.addressable row = false then .profileMismatch
    else if reading.readable row then .ok else .objectHandleInvalid

/-! ### Revalidation -/

/-- The safepoint stubs after `ReproveCoreBinding`, which replaces them as soon as the roots
passed. -/
def reproveSafepoints (safepoints : SafepointState registry.Row)
    (probe : registry.Row → CandidateProbe) : SafepointState registry.Row :=
  let selection := state.selectRoots probe
  match selection.representative with
  | none => safepoints
  | some selected =>
    if selection.passed = false ∨ (probe selected).passed = false ∨
        (probe selected).enterEntry = nullptr ∨ (probe selected).exitEntry = nullptr then safepoints
    else { safepoints with
      enterSafepoint := (probe selected).enterEntry
      exitSafepoint := (probe selected).exitEntry
      safepointBindings := (state.abiCandidates.profiles.filter fun row =>
        (probe row).passed).map fun row => ⟨row, (probe row).enterEntry, (probe row).exitEntry⟩ }

end FlutterVmState

/-! ## Calls on the adapter -/

namespace FlutterVm
variable {registry : ProfileRegistry} (vm : FlutterVm registry)

/-- What `VmAdapterProveCapability` returns. -/
def proveStatus (contended : Bool) (thread : ThreadId)
    (evidence : DartPlantVmCapabilityEvidence) (reading : EvidenceReading registry.Row) :
    DartPlantStatus :=
  match vm.adapter.beginProof contended thread with
  | (_, .ok _) =>
    match vm.state.proveCapability vm.adapter.isolate evidence reading with
    | (_, .ok proof) =>
      (vm.adapter.proveCapability registry.rows contended thread evidence.kind .ok proof).2.status
    | (_, .error status) =>
      (vm.adapter.proveCapability registry.rows contended thread evidence.kind status {}).2.status
  | (_, outcome) => outcome.status

/-- What `dartplant_flutter_vm_adapter_revalidate_artifacts` returns. -/
def revalidateStatus (modules : List ModuleImage) (probe : registry.Row → CandidateProbe) :
    DartPlantStatus :=
  if vm.state.abiCandidates.profiles = [] then .vmBridgeUnavailable
  else if vm.state.artifactQuiescing = true ∧ vm.state.artifactValid = true then .vmAdapterBusy
  else if (vm.state.validateArtifactLifecycle modules).artifactValid = false then
    .vmBridgeUnavailable
  else if ((vm.state.validateArtifactLifecycle modules).reproveCoreBinding probe).2 = false then
    .profileMismatch
  else .ok

/-- What a call returns. -/
def callStatus : FlutterVmCall registry → DartPlantStatus
  | .proveCapability contended thread evidence reading =>
    vm.proveStatus contended thread evidence reading
  | .invalidateArtifacts => .ok
  | .quiesceArtifacts drained hookRefs => (vm.quiesceArtifacts drained hookRefs).2.status
  | .retireArtifacts drained hookRefs => (vm.quiesceArtifacts drained hookRefs).2.status
  | .revalidateArtifacts modules probe => vm.revalidateStatus modules probe

end FlutterVm

/-- What clients do with the core adapter between these calls, with the answers of the VM. -/
inductive AdapterUse where
  | enterIsolate (status : DartPlantStatus)
  | leaveIsolate (status : DartPlantStatus)
  | enterScope (status : DartPlantStatus)
  | leaveScope (status : DartPlantStatus)
  | pinGeneratedRoots (contended : Bool) (rawValues : Address) (valueCount : BitVec 32)
      (status : DartPlantStatus) (lease : Address)
  | unpinGeneratedRoots (contended : Bool) (rootLease outRawValues : Address)
      (valueCount : BitVec 32) (status : DartPlantStatus)
  | retainObject (retained : DartPlantStatus) (backendHandle : Address)
      (classified : DartPlantStatus)
  | releaseObject (handle : DartPlantObjectHandle) (status : DartPlantStatus)
  | retainHook
  | releaseHook
  deriving DecidableEq, Repr

/-- The adapter after a use, and its status. -/
def AdapterUse.perform (adapter : DartPlantVmAdapter) (thread : ThreadId) :
    AdapterUse → DartPlantVmAdapter × DartPlantStatus
  | .enterIsolate status =>
    ((adapter.enterIsolate thread status).1, (adapter.enterIsolate thread status).2.status)
  | .leaveIsolate status =>
    ((adapter.leaveIsolate thread status).1, (adapter.leaveIsolate thread status).2.status)
  | .enterScope status =>
    ((adapter.enterScope thread status).1, (adapter.enterScope thread status).2.status)
  | .leaveScope status =>
    ((adapter.leaveScope thread status).1, (adapter.leaveScope thread status).2.status)
  | .pinGeneratedRoots contended rawValues valueCount status lease =>
    let pinned := adapter.pinGeneratedRoots contended thread rawValues valueCount status lease
    (pinned.1, pinned.2.status)
  | .unpinGeneratedRoots contended rootLease outRawValues valueCount status =>
    let unpinned := adapter.unpinGeneratedRoots contended thread rootLease outRawValues valueCount
      status
    (unpinned.1, unpinned.2.status)
  | .retainObject retained backendHandle classified =>
    let kept := adapter.retainObject thread retained backendHandle classified
    (kept.1, kept.2.status)
  | .releaseObject handle status =>
    ((adapter.releaseObject handle status).1, (adapter.releaseObject handle status).2.status)
  | .retainHook => (adapter.retainHook, .ok)
  | .releaseHook => (adapter.releaseHook, .ok)

/-- An operation on the instance, with what it reads of the process. -/
inductive FlutterVmOperation (registry : ProfileRegistry) where
  | call (call : FlutterVmCall registry)
  | use (thread : ThreadId) (use : AdapterUse)
  | enterGeneratedToNative (contended : Bool) (thread : ThreadId)
      (frame : Option GeneratedTransitionFrame) (rootLease : Address)
      (reading : TransitionReading registry.Row)
  | leaveNativeToGenerated (thread : ThreadId)
      (frame : Option GeneratedTransitionFrame) (rootLease : Address)
      (reading : TransitionReading registry.Row)
  | beginLiveHeapObservation (thread : ThreadId) (vmThread : BitVec 64)
      (reading : ObservationReading registry.Row)
  | endLiveHeapObservation (thread : ThreadId) (lease : Address)
  | readActiveObject (thread : ThreadId) (reading : LayoutReading registry.Row) (raw : BitVec 64)
  | readTypeArgumentsElement (contended : Bool) (thread : ThreadId)
      (reading : LayoutReading registry.Row) (raw : BitVec 64)

namespace FlutterVmInstance
variable {registry : ProfileRegistry} (vmInstance : FlutterVmInstance registry)

/-- The safepoint stubs after a call. -/
def callSafepoints : FlutterVmCall registry → SafepointState registry.Row
  | .revalidateArtifacts modules probe =>
    let state := vmInstance.vm.state
    let validated := state.validateArtifactLifecycle modules
    if state.abiCandidates.profiles = [] ∨
        (state.artifactQuiescing = true ∧ state.artifactValid = true) ∨
        validated.artifactValid = false then vmInstance.safepoints
    else validated.reproveSafepoints vmInstance.safepoints probe
  | _ => vmInstance.safepoints

/-- A request to the core: refused, or answered by the backend, whose state and status are settled
with it. -/
def ask {α : Type} (request : DartPlantStatus → Step α)
    (answer : FlutterVmState registry × SafepointState registry.Row × DartPlantStatus) :
    FlutterVmInstance registry × DartPlantStatus :=
  match (request .vmAdapterBusy).2 with
  | .backend _ =>
    ({ vmInstance with
        vm := ⟨(request answer.2.2).1, answer.1⟩
        safepoints := answer.2.1 }, (request answer.2.2).2.status)
  | outcome =>
    ({ vmInstance with vm := { vmInstance.vm with adapter := (request .vmAdapterBusy).1 } },
      outcome.status)

/-- One operation, and the status it returns. -/
def perform : FlutterVmOperation registry → FlutterVmInstance registry × DartPlantStatus
  | .call call =>
    ({ vmInstance with
        vm := flutterVmStep vmInstance.vm call
        safepoints := vmInstance.callSafepoints call }, vmInstance.vm.callStatus call)
  | .use thread use =>
    let used := use.perform vmInstance.vm.adapter thread
    ({ vmInstance with vm := { vmInstance.vm with adapter := used.1 } }, used.2)
  | .enterGeneratedToNative contended thread frame rootLease reading =>
    let adapter := vmInstance.vm.adapter
    vmInstance.ask
      (fun status => adapter.enterGeneratedToNative contended thread frame rootLease status)
      (vmInstance.vm.state.enterGeneratedToNative vmInstance.safepoints adapter.isolate reading)
  | .leaveNativeToGenerated thread frame rootLease reading =>
    let adapter := vmInstance.vm.adapter
    let left := vmInstance.vm.state.leaveNativeToGenerated vmInstance.safepoints adapter.isolate
      reading
    vmInstance.ask (fun status => adapter.leaveNativeToGenerated thread frame rootLease status)
      (left.1, vmInstance.safepoints, left.2)
  | .beginLiveHeapObservation thread vmThread reading =>
    let adapter := vmInstance.vm.adapter
    vmInstance.ask
      (fun status => adapter.beginLiveHeapObservation thread vmThread status vmInstance.address)
      (vmInstance.vm.state, vmInstance.vm.state.beginLiveHeapObservation vmInstance.safepoints
        adapter.isolate vmThread reading)
  | .endLiveHeapObservation thread lease =>
    let adapter := vmInstance.vm.adapter
    vmInstance.ask (fun status => adapter.endLiveHeapObservation thread lease status)
      (vmInstance.vm.state, vmInstance.vm.state.endLiveHeapObservation vmInstance.safepoints
        vmInstance.address adapter.isolate lease)
  | .readActiveObject thread reading raw =>
    let adapter := vmInstance.vm.adapter
    let read := vmInstance.vm.state.readActiveException adapter.isolate reading
    vmInstance.ask (fun status => adapter.readActiveObject thread status raw)
      (read.1, vmInstance.safepoints, read.2)
  | .readTypeArgumentsElement contended thread reading raw =>
    let adapter := vmInstance.vm.adapter
    let read := vmInstance.vm.state.readTypeArgumentsElement adapter.isolate reading
    vmInstance.ask (fun status => adapter.readTypeArgumentsElement contended thread status raw)
      (read.1, vmInstance.safepoints, read.2)

end FlutterVmInstance

/-- One step of a run. -/
def flutterVmInstanceStep {registry : ProfileRegistry} (vmInstance : FlutterVmInstance registry)
    (operation : FlutterVmOperation registry) : FlutterVmInstance registry :=
  (vmInstance.perform operation).1

/-- The instance `dartplant_flutter_vm_adapter_create` returns, with the stubs the resolver
found. -/
def flutterVmInstanceCreate {registry : ProfileRegistry} (binding : VerifiedBinding registry)
    (identity : DartPlantIsolateIdentity) (thread : BitVec 64) (modules : List ModuleImage)
    (safepoints : SafepointState registry.Row)
    (address : { address : Address // address ≠ nullptr }) : Option (FlutterVmInstance registry) :=
  (flutterVmAdapterCreate binding identity thread modules).map fun vm =>
    { vm, safepoints := { safepoints with liveHeapObservationActive := false }, address }

/-! ## What an operation leaves alone -/

section Backend
variable {registry : ProfileRegistry} {state : FlutterVmState registry}
  {capability : VmCapability} {safepoints : SafepointState registry.Row}
  {isolate : DartPlantIsolateIdentity}

theorem setProofRecordKey_same {key : String} :
    SameIncarnation state (state.setProofRecordKey capability key) :=
  ⟨rfl, rfl, rfl, rfl, rfl, rfl, rfl, rfl⟩

theorem bind_same {bindings : CapabilityBindingSet registry.Row} :
    SameIncarnation state { state with capabilityBindings := bindings } :=
  ⟨rfl, rfl, rfl, rfl, rfl, rfl, rfl, rfl⟩

theorem resolveCapabilityProfile_same {passes : registry.Row → Bool} :
    SameIncarnation state (state.resolveCapabilityProfile capability passes).1 := by
  unfold resolveCapabilityProfile
  dsimp only
  split
  · split
    · exact markCapabilityFailed_same
    · exact markCapabilityFailed_same
  split
  · exact markCapabilityFailed_same
  · exact bind_same.trans setProofRecordKey_same

theorem proveTransitionCapability_same {passes confirms : registry.Row → Bool} :
    SameIncarnation state (state.proveTransitionCapability safepoints passes confirms).1 := by
  have hresolved : SameIncarnation state (state.resolveCapabilityProfile
      kCapabilityGeneratedTransitionLayout passes).1 := resolveCapabilityProfile_same
  unfold proveTransitionCapability
  dsimp only
  split
  · exact .refl state
  split
  next resolved heq =>
    rw [heq] at hresolved
    exact hresolved
  next resolved profile heq =>
    rw [heq] at hresolved
    split
    · exact hresolved.trans markCapabilityFailed_same
    split
    · exact hresolved.trans markCapabilityFailed_same
    · exact hresolved.trans markCapabilityVerified_same

theorem crossTransition_same {reading : TransitionReading registry.Row} :
    SameIncarnation state (state.crossTransition reading).1 := by
  unfold crossTransition
  dsimp only
  split
  · exact .refl state
  split
  · exact markCapabilityFailed_same
  · exact .refl state

theorem enterGeneratedToNative_same {reading : TransitionReading registry.Row} :
    SameIncarnation state (state.enterGeneratedToNative safepoints isolate reading).1 := by
  unfold FlutterVmState.enterGeneratedToNative
  dsimp only
  split
  · exact .refl state
  split
  · exact crossTransition_same
  have hproved : SameIncarnation state (state.proveTransitionCapability safepoints reading.passes
      reading.confirms).1 := proveTransitionCapability_same
  split
  next proved bound heq =>
    rw [heq] at hproved
    exact hproved
  next proved bound heq =>
    rw [heq] at hproved
    exact hproved.trans crossTransition_same

theorem leaveNativeToGenerated_same {reading : TransitionReading registry.Row} :
    SameIncarnation state (state.leaveNativeToGenerated safepoints isolate reading).1 := by
  unfold FlutterVmState.leaveNativeToGenerated
  split
  · exact .refl state
  · exact crossTransition_same

theorem proveRead_same {passes : registry.Row → Bool} {read : registry.Row → DartPlantStatus} :
    SameIncarnation state (state.proveRead capability passes read).1 := by
  unfold proveRead
  dsimp only
  split
  · split
    · exact markCapabilityFailed_same
    · exact markCapabilityFailed_same
  split
  · have hbound : ∀ bindings row key, SameIncarnation state
        ({ state with capabilityBindings := bindings }.setProofRecordDomains capability row key) :=
      fun _ _ _ => bind_same.trans setProofRecordDomains_same
    split
    · exact (hbound _ _ _).trans markCapabilityFailed_same
    · exact (hbound _ _ _).trans markCapabilityVerified_same
  · exact markCapabilityFailed_same

theorem readActiveException_same {reading : LayoutReading registry.Row} :
    SameIncarnation state (state.readActiveException isolate reading).1 := by
  unfold readActiveException
  dsimp only
  split
  · exact .refl state
  split
  · exact .refl state
  split
  · exact .refl state
  · exact proveRead_same

theorem readTypeArgumentsElement_same {reading : LayoutReading registry.Row} :
    SameIncarnation state (state.readTypeArgumentsElement isolate reading).1 := by
  unfold FlutterVmState.readTypeArgumentsElement
  dsimp only
  split
  · exact .refl state
  split
  · exact .refl state
  · exact proveRead_same

/-- A transition or an observation that succeeds was asked for while the artifacts were valid. -/
theorem validateHotArtifactBinding_valid {moduleOf : Address → Option (String × Address)}
    (h : state.validateHotArtifactBinding safepoints moduleOf = true) :
    state.artifactValid = true := by
  simp only [validateHotArtifactBinding, Bool.and_eq_true] at h
  exact h.1.1.1.1.1

theorem enterGeneratedToNative_valid {reading : TransitionReading registry.Row}
    (h : (state.enterGeneratedToNative safepoints isolate reading).2.2 = .ok) :
    state.artifactValid = true := by
  unfold FlutterVmState.enterGeneratedToNative at h
  dsimp only at h
  split at h
  · cases h
  next hadmitted =>
    simp only [not_or, Bool.not_eq_false] at hadmitted
    exact validateHotArtifactBinding_valid hadmitted.2.2.2.2.2.2

theorem leaveNativeToGenerated_valid {reading : TransitionReading registry.Row}
    (h : (state.leaveNativeToGenerated safepoints isolate reading).2 = .ok) :
    state.artifactValid = true := by
  unfold FlutterVmState.leaveNativeToGenerated at h
  split at h
  · cases h
  next hadmitted =>
    simp only [not_or, Bool.not_eq_false] at hadmitted
    exact validateHotArtifactBinding_valid hadmitted.2.2.2.2.2

theorem beginLiveHeapObservation_valid {thread : BitVec 64}
    {reading : ObservationReading registry.Row}
    (h : (state.beginLiveHeapObservation safepoints isolate thread reading).2 = .ok) :
    state.artifactValid = true := by
  unfold FlutterVmState.beginLiveHeapObservation at h
  split at h
  · cases h
  split at h
  · cases h
  split at h
  · cases h
  next hadmitted =>
    simp only [not_or, Bool.not_eq_false] at hadmitted
    exact validateHotArtifactBinding_valid hadmitted.1

end Backend

section Core
variable {α : Type} {adapter : DartPlantVmAdapter} {thread : ThreadId}
  {frame : Option GeneratedTransitionFrame} {rootLease : Address}

/-- A request that succeeds only when the backend does, and leaves the binding record alone. -/
structure PassesOn (adapter : DartPlantVmAdapter)
    (request : DartPlantStatus → Step α) : Prop where
  same : ∀ status, SameAbi adapter (request status).1
  status : ∀ status, (request status).2.status = .ok → status = .ok

namespace PassesOn
variable {request other : DartPlantStatus → Step α}

theorem refuse {refusal : DartPlantStatus} {message : String} (hrefusal : refusal ≠ .ok) :
    PassesOn adapter fun _ => (adapter.refuse refusal message : Step α) :=
  ⟨fun _ => .refl adapter, fun _ h => absurd h hrefusal⟩

theorem choose {c : Prop} [Decidable c] (h : PassesOn adapter request)
    (h' : PassesOn adapter other) :
    PassesOn adapter fun status => if c then request status else other status := by
  by_cases hc : c
  · simp only [if_pos hc]
    exact h
  · simp only [if_neg hc]
    exact h'

/-- The backend's status decides whether there is anything more to do. -/
theorem settle {failed : DartPlantVmAdapter} {step : Step α}
    (hfailed : SameAbi adapter failed) (hstep : SameAbi adapter step.1) :
    PassesOn adapter fun status =>
      if status ≠ .ok then (failed, .backend status) else step := by
  refine ⟨fun status => ?_, fun status h => ?_⟩
  · split
    · exact hfailed
    · exact hstep
  · split at h
    next hne => exact absurd h hne
    next hok => exact not_not.mp hok

/-- The owner check comes first. -/
theorem owned {next : DartPlantVmAdapter → DartPlantStatus → Step α}
    (hnext : ∀ owned, PassesOn owned (next owned)) :
    PassesOn adapter fun status => andThen (adapter.checkAttachedOwner thread)
      fun owned => next owned status := by
  have hrefused : ∀ refusal message, refusal ≠ .ok →
      PassesOn adapter fun status => andThen
        (adapter.refuse refusal message : Step Unit) fun owned =>
          next owned status :=
    fun refusal message hrefusal => ⟨fun _ => .refl adapter, fun _ h => absurd h hrefusal⟩
  unfold checkAttachedOwner
  split
  · exact hrefused _ _ DartPlantStatus.noConfusion
  split
  · exact hrefused _ _ DartPlantStatus.noConfusion
  · have htaken := hnext { adapter with ownerThread := some thread }
    have hsame : SameAbi adapter { adapter with ownerThread := some thread } :=
      ⟨rfl, rfl, rfl, rfl⟩
    exact ⟨fun status => hsame.trans (htaken.same status), htaken.status⟩

end PassesOn

theorem enterGeneratedToNative_passes (contended : Bool) :
    PassesOn adapter fun status =>
      adapter.enterGeneratedToNative contended thread frame rootLease status := by
  unfold DartPlantVmAdapter.enterGeneratedToNative
  refine .choose (.refuse nofun) (.choose (.refuse nofun) (.choose (.refuse nofun) ?_))
  refine .owned fun owned => .choose (.refuse nofun) (.settle (.refl _) ?_)
  exact ⟨rfl, rfl, rfl, rfl⟩

theorem leaveNativeToGenerated_passes :
    PassesOn adapter fun status =>
      adapter.leaveNativeToGenerated thread frame rootLease status := by
  unfold DartPlantVmAdapter.leaveNativeToGenerated
  refine .choose (.refuse nofun) (.choose (.refuse nofun) (.choose (.refuse nofun) ?_))
  refine .choose (.refuse nofun) (.choose (.refuse nofun) (.settle (.refl _) ?_))
  exact ⟨rfl, rfl, rfl, rfl⟩

theorem readActiveObject_passes {raw : BitVec 64} :
    PassesOn adapter fun status => adapter.readActiveObject thread status raw := by
  unfold readActiveObject
  refine .choose (.refuse nofun) (.choose (.refuse nofun) (.choose (.refuse nofun) ?_))
  exact .choose (.refuse nofun) (.settle (.refl _) (.refl _))

theorem readTypeArgumentsElement_passes (contended : Bool) {raw : BitVec 64} :
    PassesOn adapter fun status =>
      adapter.readTypeArgumentsElement contended thread status raw := by
  unfold DartPlantVmAdapter.readTypeArgumentsElement
  refine .choose (.refuse nofun) (.choose (.refuse nofun) (.owned fun owned => ?_))
  exact .choose (.refuse nofun) (.settle (.refl _) (.refl _))

theorem releaseTransientOwner_same {transientOwner : Bool} {after : DartPlantVmAdapter}
    (hsame : SameAbi adapter after) :
    SameAbi adapter (after.releaseTransientOwner transientOwner) :=
  hsame.trans (releaseTransientOwner_sameAbi transientOwner)

theorem endLiveHeapObservation_passes {lease : Address} :
    PassesOn adapter fun status => adapter.endLiveHeapObservation thread lease status := by
  unfold DartPlantVmAdapter.endLiveHeapObservation
  refine .choose (.refuse nofun) (.choose (.refuse nofun) (.settle (.refl _) ?_))
  exact releaseTransientOwner_same ⟨rfl, rfl, rfl, rfl⟩

theorem beginLiveHeapObservation_passes {vmThread : BitVec 64} {lease : Address} :
    PassesOn adapter fun status =>
      adapter.beginLiveHeapObservation thread vmThread status lease := by
  unfold DartPlantVmAdapter.beginLiveHeapObservation
  refine .choose (.refuse nofun) (.choose (.refuse nofun) (.choose (.refuse nofun) ?_))
  refine .choose (.refuse nofun) (.choose (.refuse nofun) (.settle (.refl _) ?_))
  split
  · exact .refl adapter
  · exact ⟨rfl, rfl, rfl, rfl⟩

/-- An observation begins only while admission is open. -/
theorem beginLiveHeapObservation_open {vmThread : BitVec 64} {lease : Address}
    {status : DartPlantStatus}
    (h : (adapter.beginLiveHeapObservation thread vmThread status lease).2.status = .ok) :
    adapter.admissionOpen = true := by
  unfold DartPlantVmAdapter.beginLiveHeapObservation at h
  split at h
  · cases h
  split at h
  · cases h
  next hopen => exact Bool.eq_true_of_not_eq_false (not_or.mp hopen).2

theorem enterIsolate_passes :
    PassesOn adapter fun status => adapter.enterIsolate thread status := by
  unfold enterIsolate
  refine .choose (.refuse nofun) (.choose (.refuse nofun) (.choose (.refuse nofun) ?_))
  refine .choose (.refuse nofun) (.settle ⟨rfl, rfl, rfl, rfl⟩ ?_)
  exact ⟨rfl, rfl, rfl, rfl⟩

theorem leaveIsolate_sameAbi {status : DartPlantStatus} :
    SameAbi adapter (adapter.leaveIsolate thread status).1 := by
  unfold leaveIsolate
  split
  · exact .refl adapter
  split
  · exact .refl adapter
  · exact ⟨rfl, rfl, rfl, rfl⟩

theorem enterScope_sameAbi {status : DartPlantStatus} :
    SameAbi adapter (adapter.enterScope thread status).1 := by
  have howned : SameAbi adapter
      (if adapter.entered = 0 then { adapter with ownerThread := some thread } else adapter) := by
    split
    · exact ⟨rfl, rfl, rfl, rfl⟩
    · exact .refl adapter
  unfold enterScope
  split
  · exact .refl adapter
  split
  · exact .refl adapter
  split
  · exact .refl adapter
  split
  · exact .refl adapter
  dsimp only
  split
  · exact howned
  · exact howned.trans ⟨rfl, rfl, rfl, rfl⟩

theorem leaveScope_sameAbi {status : DartPlantStatus} :
    SameAbi adapter (adapter.leaveScope thread status).1 := by
  unfold leaveScope
  split
  · exact .refl adapter
  split
  · exact .refl adapter
  · exact releaseTransientOwner_same ⟨rfl, rfl, rfl, rfl⟩

theorem pinGeneratedRoots_passes {contended : Bool} {rawValues lease : Address}
    {valueCount : BitVec 32} :
    PassesOn adapter fun status =>
      adapter.pinGeneratedRoots contended thread rawValues valueCount status lease := by
  unfold pinGeneratedRoots
  refine .choose (.refuse nofun) (.choose (.refuse nofun) (.choose (.refuse nofun) ?_))
  refine .owned fun owned => .choose (.refuse nofun) (.settle (.refl _) ?_)
  split
  · exact .refl owned
  · exact ⟨rfl, rfl, rfl, rfl⟩

theorem unpinGeneratedRoots_passes {contended : Bool} {outRawValues : Address}
    {valueCount : BitVec 32} :
    PassesOn adapter fun status =>
      adapter.unpinGeneratedRoots contended thread rootLease outRawValues valueCount status := by
  unfold unpinGeneratedRoots
  refine .choose (.refuse nofun) (.choose (.refuse nofun) (.choose (.refuse nofun) ?_))
  refine .owned fun owned => .choose (.refuse nofun) (.settle (.refl _) ?_)
  dsimp only
  split
  · exact ⟨rfl, rfl, rfl, rfl⟩
  · exact ⟨rfl, rfl, rfl, rfl⟩

theorem retainObject_sameAbi {retained classified : DartPlantStatus} {backendHandle : Address} :
    SameAbi adapter (adapter.retainObject thread retained backendHandle classified).1 := by
  unfold retainObject
  split
  · exact .refl adapter
  split
  · exact .refl adapter
  split
  · exact .refl adapter
  split
  · exact .refl adapter
  split
  · exact .refl adapter
  · exact ⟨rfl, rfl, rfl, rfl⟩

theorem releaseObject_sameAbi {handle : DartPlantObjectHandle} {status : DartPlantStatus} :
    SameAbi adapter (adapter.releaseObject handle status).1 := by
  unfold releaseObject
  split
  · exact .refl adapter
  split
  · exact .refl adapter
  split
  · exact .refl adapter
  dsimp only
  split
  · exact ⟨rfl, rfl, rfl, rfl⟩
  · exact .refl adapter

/-- No use touches the binding record or the admission. -/
theorem use_sameAbi (use : AdapterUse) : SameAbi adapter (use.perform adapter thread).1 := by
  cases use with
  | enterIsolate status => exact enterIsolate_passes.same status
  | leaveIsolate status => exact leaveIsolate_sameAbi
  | enterScope status => exact enterScope_sameAbi
  | leaveScope status => exact leaveScope_sameAbi
  | pinGeneratedRoots contended rawValues valueCount status lease =>
    exact pinGeneratedRoots_passes.same status
  | unpinGeneratedRoots contended rootLease outRawValues valueCount status =>
    exact unpinGeneratedRoots_passes.same status
  | retainObject retained backendHandle classified => exact retainObject_sameAbi
  | releaseObject handle status => exact releaseObject_sameAbi
  | retainHook => exact ⟨rfl, rfl, rfl, rfl⟩
  | releaseHook =>
    show SameAbi adapter adapter.releaseHook
    unfold releaseHook
    split
    · exact ⟨rfl, rfl, rfl, rfl⟩
    · exact .refl adapter

end Core

/-! ## Requests -/

section Requests
variable {registry : ProfileRegistry} {vmInstance : FlutterVmInstance registry} {α : Type}
  {request : DartPlantStatus → Step α}
  {answer : FlutterVmState registry × SafepointState registry.Row × DartPlantStatus}

/-- The binding record of the core stays, and the backend's state does or is what it answered. -/
theorem ask_spec
    (answer : FlutterVmState registry × SafepointState registry.Row × DartPlantStatus)
    (h : PassesOn vmInstance.vm.adapter request) :
    SameAbi vmInstance.vm.adapter (vmInstance.ask request answer).1.vm.adapter ∧
      ((vmInstance.ask request answer).1.vm.state = vmInstance.vm.state ∨
        (vmInstance.ask request answer).1.vm.state = answer.1) := by
  unfold FlutterVmInstance.ask
  split
  · exact ⟨h.same _, Or.inr rfl⟩
  · exact ⟨h.same _, Or.inl rfl⟩

/-- A request that succeeds was answered so by the backend. -/
theorem ask_granted (h : PassesOn vmInstance.vm.adapter request)
    (hgranted : (vmInstance.ask request answer).2 = .ok) :
    answer.2.2 = .ok ∧ (request .ok).2.status = .ok := by
  unfold FlutterVmInstance.ask at hgranted
  split at hgranted
  · have hanswer := h.status _ hgranted
    exact ⟨hanswer, hanswer ▸ hgranted⟩
  · cases h.status _ hgranted

end Requests

end DartPlant
