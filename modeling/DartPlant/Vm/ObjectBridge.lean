import DartPlant.Abi.CallLayout

/-! # The core VM adapter

`DartPlantVmAdapter` stands between DartPlant and the callbacks of one exact VM.  Every operation
takes the adapter's mutex, checks its own preconditions, asks the backend, and moves the counters
and flags that say what is outstanding.

The backend is whatever it answers: the status of the callback, and the handle, lease or proof it
wrote, are arguments of the operation.  A thread is an identifier, the default `std::thread::id` is
`none`, and the five operations that only try the mutex are told whether it was `contended`.  The
adapter and the out parameters of a call are there; the checks that they are not null are left out.
-/

namespace DartPlant

abbrev ThreadId := Nat

structure DartPlantIsolateIdentity where
  isolate : BitVec 64 := 0
  isolateGroup : BitVec 64 := 0
  generation : BitVec 64 := 0
  deriving DecidableEq, Repr

/-- The callback table: its size, its version, and which callbacks are there. -/
structure DartPlantVmAdapterCallbacks where
  structSize : BitVec 32
  adapterVersion : BitVec 32
  enterIsolate : Bool
  leaveIsolate : Bool
  enterScope : Bool
  leaveScope : Bool
  retainObject : Bool
  releaseObject : Bool
  objectKind : Bool
  objectToRaw : Bool
  objectIsAlive : Bool
  pinGeneratedRoots : Bool := false
  generatedRootGet : Bool := false
  generatedRootSet : Bool := false
  unpinGeneratedRoots : Bool := false
  enterGeneratedToNative : Bool := false
  leaveNativeToGenerated : Bool := false
  readActiveException : Bool := false
  readActiveStacktrace : Bool := false
  readTypeArgumentsElement : Bool := false
  proveCapability : Bool := false
  beginLiveHeapObservation : Bool := false
  endLiveHeapObservation : Bool := false
  deriving DecidableEq, Repr

/-- `offsetof(DartPlantVmAdapterCallbacks, pin_generated_roots)`. -/
def kVmAdapterCallbacksV1Size : BitVec 32 := 80

/-- `offsetof(DartPlantVmAdapterCallbacks, enter_generated_to_native)`. -/
def kVmAdapterCallbacksV2Size : BitVec 32 := 112

/-- A backend with every callback, as `kCallbacks` of the Flutter adapter. -/
def completeCallbacks : DartPlantVmAdapterCallbacks where
  structSize := 176
  adapterVersion := 5
  enterIsolate := true
  leaveIsolate := true
  enterScope := true
  leaveScope := true
  retainObject := true
  releaseObject := true
  objectKind := true
  objectToRaw := true
  objectIsAlive := true
  pinGeneratedRoots := true
  generatedRootGet := true
  generatedRootSet := true
  unpinGeneratedRoots := true
  enterGeneratedToNative := true
  leaveNativeToGenerated := true
  readActiveException := true
  readActiveStacktrace := true
  readTypeArgumentsElement := true
  proveCapability := true
  beginLiveHeapObservation := true
  endLiveHeapObservation := true

namespace DartPlantVmAdapterCallbacks
variable (callbacks : DartPlantVmAdapterCallbacks)

/-- `ValidAdapterCallbacks`. -/
def valid : Bool :=
  callbacks.structSize ≥ kVmAdapterCallbacksV1Size && callbacks.adapterVersion != 0 &&
    callbacks.enterIsolate && callbacks.leaveIsolate && callbacks.enterScope &&
    callbacks.leaveScope && callbacks.retainObject && callbacks.releaseObject &&
    callbacks.objectKind && callbacks.objectToRaw && callbacks.objectIsAlive

def generatedRootsAvailable : Bool :=
  callbacks.structSize ≥ kVmAdapterCallbacksV2Size && callbacks.pinGeneratedRoots &&
    callbacks.generatedRootGet && callbacks.generatedRootSet && callbacks.unpinGeneratedRoots

/-- Two more pointers than the second version. -/
def generatedTransitionAvailable : Bool :=
  callbacks.structSize ≥ kVmAdapterCallbacksV2Size + 16 && callbacks.enterGeneratedToNative &&
    callbacks.leaveNativeToGenerated

def activeObjectAvailable : Bool :=
  callbacks.structSize ≥ kVmAdapterCallbacksV2Size + 32 && callbacks.readActiveException &&
    callbacks.readActiveStacktrace

def typeArgumentsElementAvailable : Bool :=
  callbacks.structSize ≥ kVmAdapterCallbacksV2Size + 40 && callbacks.readTypeArgumentsElement

def capabilityProofAvailable : Bool :=
  callbacks.structSize ≥ kVmAdapterCallbacksV2Size + 48 && callbacks.proveCapability

def liveHeapObservationAvailable : Bool :=
  callbacks.structSize ≥ kVmAdapterCallbacksV2Size + 64 && callbacks.beginLiveHeapObservation &&
    callbacks.endLiveHeapObservation

end DartPlantVmAdapterCallbacks

/-! ## Capabilities -/

inductive DartPlantVmCapabilityEvidenceKind where
  | functionCode
  | aotEntry
  | argumentsDescriptor
  | functionType
  | closureCall
  | invocationCallAbi
  | exceptionBridge
  deriving DecidableEq, Repr

/-- One bit of the capability mask. -/
abbrev VmCapability := BitVec 64

abbrev kCapabilityNone : VmCapability := 0

/-- `CapabilityForEvidence`. -/
def DartPlantVmCapabilityEvidenceKind.capability : DartPlantVmCapabilityEvidenceKind → VmCapability
  | .functionCode => 1 <<< 12
  | .aotEntry => 1 <<< 13
  | .argumentsDescriptor => 1 <<< 10
  | .functionType => 1 <<< 14
  | .closureCall => 1 <<< 15
  | .invocationCallAbi => 1 <<< 11
  | .exceptionBridge => 1 <<< 16

/-- `CapabilityRegistrySize()`. -/
def capabilityRegistrySize : Nat := 19

/-- `CapabilityIndex`: the index of a mask of one bit. -/
def capabilityIndex (capability : VmCapability) : Option Nat :=
  (List.range 64).find? fun index => capability == 1 <<< index

structure DartPlantVmCapabilityProof where
  capability : VmCapability := kCapabilityNone
  profileVersion : BitVec 32 := 0
  artifactGeneration : BitVec 64 := 0
  isolateGeneration : BitVec 64 := 0
  resolvedTarget : Address := nullptr
  deriving DecidableEq, Repr

structure VmAbiCapabilityBinding where
  proof : DartPlantVmCapabilityProof := {}
  profile : Option RuntimeProfileRecord := none
  deriving DecidableEq, Repr

structure VmAbiBindingState where
  capabilities : List VmAbiCapabilityBinding := List.replicate capabilityRegistrySize {}
  artifactGeneration : BitVec 64 := 0
  isolateGeneration : BitVec 64 := 0
  deriving DecidableEq, Repr

/-! ## The adapter -/

/-- `DartPlantVmAdapter`. -/
structure DartPlantVmAdapter where
  callbacks : DartPlantVmAdapterCallbacks
  isolate : DartPlantIsolateIdentity := {}
  ownerThread : Option ThreadId := none
  entered : BitVec 32 := 0
  liveHandles : BitVec 64 := 0
  hookRefs : BitVec 64 := 0
  generatedRootLeases : BitVec 64 := 0
  generatedNativeTransitions : BitVec 32 := 0
  liveHeapObservations : BitVec 32 := 0
  liveHeapObservationThread : Option ThreadId := none
  liveHeapObservationVmThread : BitVec 64 := 0
  liveHeapObservationLease : Address := nullptr
  admissionOpen : Bool := true
  abiBinding : VmAbiBindingState := {}
  attached : Bool := false
  isolateEntered : Bool := false
  deriving DecidableEq, Repr

/-- `DartPlantObjectHandle`; its adapter is the one of the model. -/
structure DartPlantObjectHandle where
  adapterVersion : BitVec 32
  isolate : DartPlantIsolateIdentity
  backendHandle : Address
  released : Bool := false
  deriving DecidableEq, Repr

/-- How an operation ends: with a value, refused by the adapter, or with the error status of the
backend's callback. -/
inductive VmOutcome (α : Type) where
  | ok (value : α)
  | refused (failure : Failure)
  | backend (status : DartPlantStatus)
  deriving DecidableEq, Repr

/-- The status the caller sees. -/
def VmOutcome.status {α : Type} : VmOutcome α → DartPlantStatus
  | .ok _ => .ok
  | .refused failure => failure.status
  | .backend status => status

/-- `CanonicalObservationThread` on AArch64. -/
def canonicalObservationThread (thread : BitVec 64) : BitVec 64 := thread &&& 0x00ffffffffffffff

/-- `dartplant_vm_adapter_create`. -/
def vmAdapterCreate (callbacks : DartPlantVmAdapterCallbacks) : VmOutcome DartPlantVmAdapter :=
  if callbacks.valid = false ∨
      (callbacks.adapterVersion ≥ 4 ∧ callbacks.capabilityProofAvailable = false) ∨
      (callbacks.adapterVersion ≥ 5 ∧ callbacks.liveHeapObservationAvailable = false) then
    .refused ⟨.invalidArgument, "VM adapter callbacks are invalid"⟩
  else .ok { callbacks }

namespace DartPlantVmAdapter

/-- What every operation returns: the adapter after it, and how it ended. -/
abbrev Step (α : Type) := DartPlantVmAdapter × VmOutcome α

variable (adapter : DartPlantVmAdapter)

def refuse {α : Type} (status : DartPlantStatus) (message : String) : Step α :=
  (adapter, .refused ⟨status, message⟩)

/-- Go on from a check that succeeded. -/
def andThen {α β : Type} (checked : Step α) (next : DartPlantVmAdapter → Step β) : Step β :=
  match checked with
  | (adapter, .ok _) => next adapter
  | (adapter, .refused failure) => (adapter, .refused failure)
  | (adapter, .backend status) => (adapter, .backend status)

theorem andThen_assoc {α β γ : Type} (checked : Step α) (next : DartPlantVmAdapter → Step β)
    (last : DartPlantVmAdapter → Step γ) :
    andThen (andThen checked next) last = andThen checked fun adapter =>
      andThen (next adapter) last := by
  obtain ⟨adapter, outcome⟩ := checked
  cases outcome with
  | ok value => rfl
  | refused failure => rfl
  | backend status => rfl

/-- The mutator is in generated state and nothing else is going on. -/
def generatedState : Bool :=
  adapter.generatedNativeTransitions == 0 && adapter.entered == 0 &&
    adapter.liveHeapObservations == 0

/-- `ResetAbiBindingLocked`. -/
def resetAbiBinding : DartPlantVmAdapter :=
  { adapter with abiBinding :=
      { capabilities := adapter.abiBinding.capabilities.map fun _ => {} } }

/-- `CheckAttachedOwnerLocked`: an adapter without an owner is taken over. -/
def checkAttachedOwner (thread : ThreadId) : Step Unit :=
  if adapter.attached = false then
    adapter.refuse .vmBridgeUnavailable "VM adapter has no attached isolate"
  else if adapter.ownerThread ≠ none ∧ adapter.ownerThread ≠ some thread then
    adapter.refuse .vmThreadMismatch "VM adapter is owned by another thread"
  else ({ adapter with ownerThread := some thread }, .ok ())

/-- `CheckEnteredLocked`. -/
def checkEntered (thread : ThreadId) : Option Failure :=
  if adapter.attached = false then
    some ⟨.vmBridgeUnavailable, "VM adapter has no attached isolate"⟩
  else if adapter.entered = 0 then
    some ⟨.vmScopeRequired, "VM adapter scope is not entered"⟩
  else if adapter.ownerThread ≠ some thread then
    some ⟨.vmThreadMismatch, "VM adapter is owned by another thread"⟩
  else none

/-- `VmAdapterCheckQuiescent`. -/
def checkQuiescent : VmOutcome Unit :=
  if adapter.hookRefs ≠ 0 ∨ adapter.generatedRootLeases ≠ 0 ∨
      adapter.generatedNativeTransitions ≠ 0 ∨ adapter.entered ≠ 0 ∨
      adapter.isolateEntered = true ∨ adapter.liveHandles ≠ 0 ∨
      adapter.liveHeapObservations ≠ 0 then
    .refused ⟨.vmAdapterBusy,
      "VM adapter still has active hooks, callbacks, scopes, or object handles"⟩
  else .ok ()

def closeAdmission : DartPlantVmAdapter := { adapter with admissionOpen := false }

def openAdmission : DartPlantVmAdapter := { adapter with admissionOpen := true }

def invalidateAbiBinding : DartPlantVmAdapter := adapter.resetAbiBinding

def retainHook : DartPlantVmAdapter := { adapter with hookRefs := adapter.hookRefs + 1 }

def releaseHook : DartPlantVmAdapter :=
  if adapter.hookRefs ≠ 0 then { adapter with hookRefs := adapter.hookRefs - 1 } else adapter

/-! ### Capability proofs -/

/-- `VmAdapterProveCapability` before it asks the backend: the owner is checked, and taken over when
there is none. -/
def beginProof (contended : Bool) (thread : ThreadId) : Step Unit :=
  if contended = true then
    adapter.refuse .vmAdapterBusy "VM adapter capability proof state is busy"
  else if adapter.callbacks.capabilityProofAvailable = false then
    adapter.refuse .vmBridgeUnavailable "VM adapter has no capability proof bridge"
  else if adapter.admissionOpen = false then
    adapter.refuse .vmAdapterBusy "VM adapter is quiescing and rejects capability proof"
  else
    andThen (adapter.checkAttachedOwner thread) fun owned =>
      if owned.liveHeapObservations ≠ 0 then
        owned.refuse .vmAdapterBusy "VM adapter has an active live heap observation"
      else (owned, .ok ())

/-- A transient owner gives the adapter back when it holds nothing. -/
def releaseTransientOwner (transientOwner : Bool) : DartPlantVmAdapter :=
  if transientOwner = true ∧ adapter.isolateEntered = false ∧ adapter.entered = 0 ∧
      adapter.generatedRootLeases = 0 ∧ adapter.generatedNativeTransitions = 0 then
    { adapter with ownerThread := none }
  else adapter

/-- What `VmAdapterProveCapability` does with a proof the backend returned. -/
def recordProof (profiles : List RuntimeProfileRecord) (kind : DartPlantVmCapabilityEvidenceKind)
    (proof : DartPlantVmCapabilityProof) : Step DartPlantVmCapabilityProof :=
  if kind = .exceptionBridge ∧ proof.resolvedTarget = nullptr then
    adapter.refuse .profileMismatch "VM exception bridge proof did not resolve a JumpToFrame target"
  else
    match capabilityIndex kind.capability with
    | none => adapter.refuse .profileMismatch
        "VM capability proof returned an invalid binding record"
    | some index =>
      if index ≥ adapter.abiBinding.capabilities.length ∨ proof.capability ≠ kind.capability ∨
          proof.profileVersion = 0 ∨ proof.artifactGeneration = 0 ∨
          proof.isolateGeneration ≠ adapter.isolate.generation then
        adapter.refuse .profileMismatch "VM capability proof returned an invalid binding record"
      else
        match profiles.find? fun profile => profile.profileVersion == proof.profileVersion with
        | none => adapter.refuse .profileMismatch
            "VM capability proof selected an unknown runtime profile"
        | some profile =>
          let adapter := if adapter.abiBinding.artifactGeneration ≠ 0 ∧
              (adapter.abiBinding.artifactGeneration ≠ proof.artifactGeneration ∨
                adapter.abiBinding.isolateGeneration ≠ proof.isolateGeneration) then
            adapter.resetAbiBinding else adapter
          let established := (adapter.abiBinding.capabilities[index]?).getD {}
          let stamped := { adapter.abiBinding with
            artifactGeneration := proof.artifactGeneration
            isolateGeneration := proof.isolateGeneration }
          if established.proof.capability = kind.capability ∧
              established.proof.profileVersion ≠ proof.profileVersion then
            refuse { adapter with abiBinding := stamped } .profileMismatch
              "VM capability proof changed profile within one generation"
          else
            ({ adapter with abiBinding := { stamped with
                capabilities := stamped.capabilities.set index ⟨proof, some profile⟩ } }, .ok proof)

/-- `VmAdapterProveCapability`. -/
def proveCapability (profiles : List RuntimeProfileRecord) (contended : Bool) (thread : ThreadId)
    (kind : DartPlantVmCapabilityEvidenceKind) (status : DartPlantStatus)
    (proof : DartPlantVmCapabilityProof) : Step DartPlantVmCapabilityProof :=
  andThen (adapter.beginProof contended thread) fun begun =>
    let settled := begun.releaseTransientOwner adapter.ownerThread.isNone
    if status ≠ .ok then (settled, .backend status) else settled.recordProof profiles kind proof

/-- `VmAdapterGetCapabilityBinding`. -/
def getCapabilityBinding (capability : VmCapability) :
    VmOutcome (DartPlantVmCapabilityProof × RuntimeProfileRecord) :=
  if adapter.attached = false ∨ adapter.admissionOpen = false then
    .refused ⟨.vmAdapterBusy, "VM capability binding is unavailable"⟩
  else
    match (capabilityIndex capability).bind fun index => adapter.abiBinding.capabilities[index]? with
    | none => .refused ⟨.invalidArgument, "VM capability binding is invalid"⟩
    | some binding =>
      if binding.proof.capability ≠ capability ∨ binding.proof.profileVersion = 0 ∨
          binding.proof.artifactGeneration ≠ adapter.abiBinding.artifactGeneration ∨
          binding.proof.isolateGeneration ≠ adapter.abiBinding.isolateGeneration ∨
          binding.proof.isolateGeneration ≠ adapter.isolate.generation then
        .refused ⟨.profileMismatch,
          "VM capability has not been verified for the current generation"⟩
      else
        match binding.profile with
        | none => .refused ⟨.profileMismatch,
            "VM capability has not been verified for the current generation"⟩
        | some profile => .ok (binding.proof, profile)

/-! ### Live heap observations -/

/-- The two states in which an observation may begin: inside a generated callback, or in standalone
native code. -/
def observable : Bool :=
  (adapter.generatedNativeTransitions == 1 && adapter.generatedRootLeases != 0 &&
      adapter.entered != 0 && !adapter.isolateEntered) ||
    (adapter.generatedNativeTransitions == 0 && adapter.entered == 0 && !adapter.isolateEntered)

/-- `VmAdapterBeginLiveHeapObservation`; the value is the lease. -/
def beginLiveHeapObservation (thread : ThreadId) (vmThread : BitVec 64) (status : DartPlantStatus)
    (lease : Address) : Step Address :=
  if vmThread = 0 then
    adapter.refuse .invalidArgument "live heap observation arguments are invalid"
  else if adapter.attached = false ∨ adapter.admissionOpen = false then
    adapter.refuse .vmAdapterBusy "VM adapter is unavailable for live heap observation"
  else if adapter.callbacks.liveHeapObservationAvailable = false then
    adapter.refuse .vmBridgeUnavailable "VM adapter has no moving-GC observation bridge"
  else if adapter.observable = false ∨ adapter.liveHeapObservations ≠ 0 then
    adapter.refuse .vmAdapterBusy "VM adapter state is busy for live heap observation"
  else if adapter.ownerThread ≠ none ∧ adapter.ownerThread ≠ some thread then
    adapter.refuse .vmThreadMismatch "VM adapter is owned by another thread"
  -- A failed begin leaves the owner as it was, `none` or this thread.
  else if status ≠ .ok then (adapter, .backend status)
  else if lease = nullptr then
    adapter.refuse .vmBridgeUnavailable "VM adapter returned a null live heap observation lease"
  else ({ adapter with
      ownerThread := some thread
      liveHeapObservations := 1
      liveHeapObservationThread := some thread
      liveHeapObservationVmThread := canonicalObservationThread vmThread
      liveHeapObservationLease := lease }, .ok lease)

/-- `VmAdapterEndLiveHeapObservation`. -/
def endLiveHeapObservation (thread : ThreadId) (lease : Address) (status : DartPlantStatus) :
    Step Unit :=
  if lease = nullptr then
    adapter.refuse .invalidArgument "live heap observation release arguments are invalid"
  else if adapter.liveHeapObservations ≠ 1 ∨ adapter.liveHeapObservationThread ≠ some thread ∨
      adapter.liveHeapObservationLease ≠ lease ∨
      adapter.callbacks.liveHeapObservationAvailable = false then
    adapter.refuse .vmAdapterBusy "live heap observation is unavailable on this thread"
  else if status ≠ .ok then (adapter, .backend status)
  else
    let ended := { adapter with
      liveHeapObservations := 0
      liveHeapObservationThread := none
      liveHeapObservationVmThread := 0
      liveHeapObservationLease := nullptr }
    (ended.releaseTransientOwner true, .ok ())

/-! ### Generated roots and transitions -/

/-- `VmAdapterPinGeneratedRoots`; the value is the root lease. -/
def pinGeneratedRoots (contended : Bool) (thread : ThreadId) (rawValues : Address)
    (valueCount : BitVec 32) (status : DartPlantStatus) (lease : Address) : Step Address :=
  if rawValues = nullptr ∨ valueCount = 0 then
    adapter.refuse .invalidArgument "generated root pin arguments are invalid"
  else if contended = true then
    adapter.refuse .vmAdapterBusy "VM adapter generated-root state is busy"
  else if adapter.callbacks.generatedRootsAvailable = false then
    adapter.refuse .vmBridgeUnavailable "VM adapter has no generated-root bridge"
  else
    andThen (adapter.checkAttachedOwner thread) fun owned =>
      if owned.generatedState = false then
        owned.refuse .vmAdapterBusy
          "generated roots must be pinned while the mutator is in generated state"
      else if status ≠ .ok then (owned, .backend status)
      else if lease = nullptr then
        owned.refuse .vmBridgeUnavailable "VM adapter returned a null generated-root lease"
      else ({ owned with generatedRootLeases := owned.generatedRootLeases + 1 }, .ok lease)

/-- `VmAdapterGeneratedRootGet`; the value is the raw word. -/
def generatedRootGet (thread : ThreadId) (rootLease : Address) (status : DartPlantStatus)
    (raw : BitVec 64) : Step (BitVec 64) :=
  if rootLease = nullptr then
    adapter.refuse .invalidArgument "generated root read arguments are invalid"
  else if adapter.callbacks.generatedRootsAvailable = false ∨ adapter.generatedRootLeases = 0 then
    adapter.refuse .vmBridgeUnavailable "generated root lease is unavailable"
  else
    match adapter.checkEntered thread with
    | some failure => (adapter, .refused failure)
    | none => if status ≠ .ok then (adapter, .backend status) else (adapter, .ok raw)

/-- `VmAdapterGeneratedRootSet`. -/
def generatedRootSet (thread : ThreadId) (rootLease : Address) (status : DartPlantStatus) :
    Step Unit :=
  if rootLease = nullptr then
    adapter.refuse .invalidArgument "generated root write arguments are invalid"
  else if adapter.callbacks.generatedRootsAvailable = false ∨ adapter.generatedRootLeases = 0 then
    adapter.refuse .vmBridgeUnavailable "generated root lease is unavailable"
  else
    match adapter.checkEntered thread with
    | some failure => (adapter, .refused failure)
    | none => if status ≠ .ok then (adapter, .backend status) else (adapter, .ok ())

/-- `VmAdapterUnpinGeneratedRoots`. -/
def unpinGeneratedRoots (contended : Bool) (thread : ThreadId) (rootLease outRawValues : Address)
    (valueCount : BitVec 32) (status : DartPlantStatus) : Step Unit :=
  if rootLease = nullptr ∨ outRawValues = nullptr ∨ valueCount = 0 then
    adapter.refuse .invalidArgument "generated root unpin arguments are invalid"
  else if contended = true then
    adapter.refuse .vmAdapterBusy "VM adapter generated/native transition state is busy"
  else if adapter.callbacks.generatedRootsAvailable = false ∨ adapter.generatedRootLeases = 0 then
    adapter.refuse .vmBridgeUnavailable "generated root lease is unavailable"
  else
    andThen (adapter.checkAttachedOwner thread) fun owned =>
      if owned.generatedState = false then
        owned.refuse .vmAdapterBusy
          "generated roots can only be unpinned after returning to generated state"
      else if status ≠ .ok then (owned, .backend status)
      else
        let unpinned := { owned with generatedRootLeases := owned.generatedRootLeases - 1 }
        (if unpinned.generatedRootLeases = 0 ∧ unpinned.isolateEntered = false then
          { unpinned with ownerThread := none } else unpinned, .ok ())

/-- The frame of a transition, as far as the adapter looks at it. -/
structure GeneratedTransitionFrame where
  structSize : BitVec 32
  deriving DecidableEq, Repr

/-- `sizeof(DartPlantGeneratedTransitionFrame)`. -/
def kGeneratedTransitionFrameSize : BitVec 32 := 48

/-- `VmAdapterEnterGeneratedToNative`. -/
def enterGeneratedToNative (contended : Bool) (thread : ThreadId)
    (frame : Option GeneratedTransitionFrame) (rootLease : Address) (status : DartPlantStatus) :
    Step Unit :=
  if frame.all (fun frame => frame.structSize < kGeneratedTransitionFrameSize) = true ∨
      rootLease = nullptr then
    adapter.refuse .invalidArgument "generated-to-native transition arguments are invalid"
  else if contended = true then
    adapter.refuse .vmAdapterBusy "VM adapter generated/native transition state is busy"
  else if adapter.callbacks.generatedTransitionAvailable = false ∨
      adapter.generatedRootLeases = 0 then
    adapter.refuse .vmBridgeUnavailable "VM adapter has no complete generated callback bridge"
  else
    andThen (adapter.checkAttachedOwner thread) fun owned =>
      if owned.generatedState = false then
        owned.refuse .vmAdapterBusy
          "VM adapter already has a generated/native transition or scope"
      else if status ≠ .ok then (owned, .backend status)
      else ({ owned with
        generatedNativeTransitions := owned.generatedNativeTransitions + 1 }, .ok ())

/-- `VmAdapterLeaveNativeToGenerated`. -/
def leaveNativeToGenerated (thread : ThreadId) (frame : Option GeneratedTransitionFrame)
    (rootLease : Address) (status : DartPlantStatus) : Step Unit :=
  if frame.all (fun frame => frame.structSize < kGeneratedTransitionFrameSize) = true ∨
      rootLease = nullptr then
    adapter.refuse .invalidArgument "native-to-generated transition arguments are invalid"
  else if adapter.callbacks.generatedTransitionAvailable = false ∨
      adapter.generatedNativeTransitions = 0 ∨ adapter.generatedRootLeases = 0 then
    adapter.refuse .vmBridgeUnavailable "VM adapter generated/native transition is not active"
  else if adapter.liveHeapObservations ≠ 0 then
    adapter.refuse .vmAdapterBusy
      "generated/native transition cannot leave while live heap observation is active"
  else if adapter.ownerThread ≠ some thread then
    adapter.refuse .vmThreadMismatch "VM adapter is owned by another thread"
  else if adapter.entered ≠ 0 then
    adapter.refuse .vmScopeRequired
      "VM adapter scope must be left before returning to generated state"
  else if status ≠ .ok then (adapter, .backend status)
  else ({ adapter with
    generatedNativeTransitions := adapter.generatedNativeTransitions - 1 }, .ok ())

/-- `ReadActiveObject`, for the exception and for the stack trace. -/
def readActiveObject (thread : ThreadId) (status : DartPlantStatus) (raw : BitVec 64) :
    Step (BitVec 64) :=
  if adapter.callbacks.activeObjectAvailable = false then
    adapter.refuse .vmBridgeUnavailable "VM adapter has no active exception object bridge"
  else if adapter.attached = false then
    adapter.refuse .vmBridgeUnavailable "VM adapter has no attached isolate"
  else if adapter.ownerThread ≠ some thread then
    adapter.refuse .vmThreadMismatch "VM adapter is owned by another thread"
  else if adapter.generatedNativeTransitions ≠ 0 ∨ adapter.liveHeapObservations ≠ 0 ∨
      (adapter.callbacks.generatedTransitionAvailable = true ∧ adapter.entered ≠ 0) then
    adapter.refuse .vmAdapterBusy "active exception objects can only be read in generated state"
  else if status ≠ .ok then (adapter, .backend status)
  else (adapter, .ok raw)

/-- `VmAdapterReadTypeArgumentsElementGenerated`. -/
def readTypeArgumentsElement (contended : Bool) (thread : ThreadId) (status : DartPlantStatus)
    (raw : BitVec 64) : Step (BitVec 64) :=
  if contended = true then
    adapter.refuse .vmAdapterBusy "VM adapter TypeArguments state is busy"
  else if adapter.callbacks.typeArgumentsElementAvailable = false then
    adapter.refuse .vmBridgeUnavailable "VM adapter has no TypeArguments element bridge"
  else
    andThen (adapter.checkAttachedOwner thread) fun owned =>
      if owned.generatedState = false then
        owned.refuse .vmAdapterBusy
          "TypeArguments elements must be captured while Dart is still generated"
      else if status ≠ .ok then (owned, .backend status)
      else (owned, .ok raw)

/-! ### Object handles -/

/-- `VmAdapterRetainObject`; a handle that cannot be classified is given back to the backend. -/
def retainObject (thread : ThreadId) (retained : DartPlantStatus) (backendHandle : Address)
    (classified : DartPlantStatus) : Step DartPlantObjectHandle :=
  if adapter.admissionOpen = false ∧ adapter.generatedNativeTransitions = 0 then
    adapter.refuse .vmAdapterBusy "VM adapter is quiescing and rejects new object retention"
  else
    match adapter.checkEntered thread with
    | some failure => (adapter, .refused failure)
    | none =>
      if retained ≠ .ok then (adapter, .backend retained)
      else if backendHandle = nullptr then
        adapter.refuse .objectHandleInvalid "VM adapter returned a null object handle"
      else if classified ≠ .ok then (adapter, .backend classified)
      else ({ adapter with liveHandles := adapter.liveHandles + 1 }, .ok
        { adapterVersion := adapter.callbacks.adapterVersion, isolate := adapter.isolate
          backendHandle })

/-- `dartplant_object_release`, with the handle after it. -/
def releaseObject (handle : DartPlantObjectHandle) (status : DartPlantStatus) :
    Step DartPlantObjectHandle :=
  if handle.released = true then adapter.refuse .objectHandleInvalid "object handle is invalid"
  else if adapter.attached = false ∨ adapter.isolate ≠ handle.isolate then
    adapter.refuse .vmIsolateMismatch "object handle belongs to another isolate generation"
  else if status ≠ .ok then (adapter, .backend status)
  else (if adapter.liveHandles ≠ 0 then { adapter with liveHandles := adapter.liveHandles - 1 }
      else adapter,
    .ok { handle with released := true, backendHandle := nullptr })

/-- `VmAdapterSetRaw` and `dartplant_object_is_alive`; the value is what the backend wrote. -/
def readObject (thread : ThreadId) (handle : DartPlantObjectHandle) (status : DartPlantStatus)
    (raw : BitVec 64) : Step (BitVec 64) :=
  if handle.released = true then adapter.refuse .objectHandleInvalid "object handle is invalid"
  else
    match adapter.checkEntered thread with
    | some failure => (adapter, .refused failure)
    | none =>
      if adapter.isolate ≠ handle.isolate then
        adapter.refuse .vmIsolateMismatch "object handle belongs to another isolate generation"
      else if status ≠ .ok then (adapter, .backend status)
      else (adapter, .ok raw)

/-! ### Isolates and scopes -/

/-- The test of `dartplant_vm_adapter_destroy`. -/
def destroy : VmOutcome Unit :=
  if adapter.attached = true ∨ adapter.entered ≠ 0 ∨ adapter.isolateEntered = true ∨
      adapter.liveHandles ≠ 0 ∨ adapter.hookRefs ≠ 0 ∨ adapter.generatedRootLeases ≠ 0 ∨
      adapter.generatedNativeTransitions ≠ 0 ∨ adapter.liveHeapObservations ≠ 0 then
    .refused ⟨.vmAdapterBusy, "VM adapter still owns an isolate, scope, or object handle"⟩
  else .ok ()

/-- `dartplant_vm_adapter_attach_isolate`. -/
def attachIsolate (isolate : DartPlantIsolateIdentity) : Step Unit :=
  if adapter.admissionOpen = false then
    adapter.refuse .vmAdapterBusy "VM adapter is quiescing and rejects new isolate attachment"
  else if adapter.attached = true ∨ adapter.entered ≠ 0 then
    adapter.refuse .vmAdapterBusy "VM adapter already has an isolate"
  else ({ adapter.resetAbiBinding with isolate, attached := true }, .ok ())

/-- `dartplant_vm_adapter_detach_isolate`. -/
def detachIsolate (isolate : DartPlantIsolateIdentity) : Step Unit :=
  if adapter.attached = false ∨ adapter.isolate ≠ isolate then
    adapter.refuse .vmIsolateMismatch "VM adapter isolate does not match"
  else if adapter.entered ≠ 0 ∨ adapter.isolateEntered = true ∨ adapter.liveHandles ≠ 0 ∨
      adapter.hookRefs ≠ 0 ∨ adapter.generatedRootLeases ≠ 0 ∨
      adapter.generatedNativeTransitions ≠ 0 ∨ adapter.liveHeapObservations ≠ 0 then
    adapter.refuse .vmAdapterBusy "VM adapter isolate still has active scopes, handles, or hooks"
  else ({ adapter.resetAbiBinding with attached := false, isolate := {}, ownerThread := none },
    .ok ())

/-- `dartplant_vm_enter_isolate`; the owner is set before the backend is asked. -/
def enterIsolate (thread : ThreadId) (status : DartPlantStatus) : Step Unit :=
  if adapter.admissionOpen = false then
    adapter.refuse .vmAdapterBusy "VM adapter is quiescing and rejects new isolate entry"
  else if adapter.attached = false then
    adapter.refuse .vmBridgeUnavailable "VM adapter has no attached isolate"
  else if adapter.entered ≠ 0 ∨ adapter.isolateEntered = true ∨
      adapter.liveHeapObservations ≠ 0 then
    adapter.refuse .vmAdapterBusy "VM adapter already has an entered isolate or scope"
  else if adapter.ownerThread ≠ none ∧ adapter.ownerThread ≠ some thread then
    adapter.refuse .vmThreadMismatch "VM adapter is owned by another thread"
  else
    let owned := { adapter with ownerThread := some thread }
    if status ≠ .ok then (owned, .backend status)
    else ({ owned with isolateEntered := true }, .ok ())

/-- `dartplant_vm_leave_isolate`; the owner is reset whatever else is outstanding. -/
def leaveIsolate (thread : ThreadId) (status : DartPlantStatus) : Step Unit :=
  if adapter.isolateEntered = false ∨ adapter.entered ≠ 0 ∨ adapter.ownerThread ≠ some thread then
    adapter.refuse (if adapter.entered ≠ 0 then .vmScopeRequired else .vmThreadMismatch)
      "VM isolate cannot be left while scopes are active"
  else if status ≠ .ok then (adapter, .backend status)
  else ({ adapter with isolateEntered := false, ownerThread := none }, .ok ())

/-- `dartplant_vm_enter_scope`; the owner is looked at only inside another scope. -/
def enterScope (thread : ThreadId) (status : DartPlantStatus) : Step Unit :=
  if adapter.admissionOpen = false ∧ adapter.generatedNativeTransitions = 0 then
    adapter.refuse .vmAdapterBusy "VM adapter is quiescing and rejects new scope entry"
  else if adapter.attached = false then
    adapter.refuse .vmBridgeUnavailable "VM adapter has no attached isolate"
  else if adapter.liveHeapObservations ≠ 0 then
    adapter.refuse .vmAdapterBusy "VM adapter has an active live heap observation"
  else if adapter.entered ≠ 0 ∧ adapter.ownerThread ≠ some thread then
    adapter.refuse .vmThreadMismatch "VM adapter is owned by another thread"
  else
    let owned := if adapter.entered = 0 then { adapter with ownerThread := some thread }
      else adapter
    if status ≠ .ok then (owned, .backend status)
    else ({ owned with entered := owned.entered + 1 }, .ok ())

/-- `dartplant_vm_leave_scope`. -/
def leaveScope (thread : ThreadId) (status : DartPlantStatus) : Step Unit :=
  match adapter.checkEntered thread with
  | some failure => (adapter, .refused failure)
  | none =>
    if status ≠ .ok then (adapter, .backend status)
    else
      let left := { adapter with entered := adapter.entered - 1 }
      (left.releaseTransientOwner true, .ok ())

end DartPlantVmAdapter

end DartPlant
