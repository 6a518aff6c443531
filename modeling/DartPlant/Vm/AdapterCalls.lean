import DartPlant.Lib.Holdings
import DartPlant.Lib.Runs
import DartPlant.Vm.ObjectBridge

/-! # Calls of the VM adapter

Any thread may make any call at any time; the mutex makes one call one step.  What the adapter hands
out is logged as deeds, and what a call can do to the fields that say who holds what is one
relation, `VmEffect`: `perform_effect` is where the operations are taken apart, and nothing after it
looks at them again.
-/

namespace DartPlant
open Holdings DartPlantVmAdapter

/-- What the adapter hands out. -/
inductive VmResource where
  | isolate
  | scope
  | rootLease
  | transition
  | observation
  | handle
  deriving DecidableEq, Repr

abbrev VmDeed := Deed ThreadId VmResource

/-- An API call, with the answers of the backend's callbacks. -/
inductive VmCall where
  | attachIsolate (isolate : DartPlantIsolateIdentity)
  | detachIsolate (isolate : DartPlantIsolateIdentity)
  | enterIsolate (status : DartPlantStatus)
  | leaveIsolate (status : DartPlantStatus)
  | enterScope (status : DartPlantStatus)
  | leaveScope (status : DartPlantStatus)
  | pinGeneratedRoots (contended : Bool) (rawValues : Address) (valueCount : BitVec 32)
      (status : DartPlantStatus) (lease : Address)
  | generatedRootGet (rootLease : Address) (status : DartPlantStatus) (raw : BitVec 64)
  | generatedRootSet (rootLease : Address) (status : DartPlantStatus)
  | unpinGeneratedRoots (contended : Bool) (rootLease outRawValues : Address)
      (valueCount : BitVec 32) (status : DartPlantStatus)
  | enterGeneratedToNative (contended : Bool)
      (frame : Option GeneratedTransitionFrame) (rootLease : Address)
      (status : DartPlantStatus)
  | leaveNativeToGenerated (frame : Option GeneratedTransitionFrame)
      (rootLease : Address) (status : DartPlantStatus)
  | beginLiveHeapObservation (vmThread : BitVec 64) (status : DartPlantStatus) (lease : Address)
  | endLiveHeapObservation (lease : Address) (status : DartPlantStatus)
  | proveCapability (contended : Bool) (kind : DartPlantVmCapabilityEvidenceKind)
      (status : DartPlantStatus) (proof : DartPlantVmCapabilityProof)
  | getCapabilityBinding (capability : VmCapability)
  | invalidateAbiBinding
  | readActiveObject (status : DartPlantStatus) (raw : BitVec 64)
  | readTypeArgumentsElement (contended : Bool) (status : DartPlantStatus) (raw : BitVec 64)
  | retainObject (retained : DartPlantStatus) (backendHandle : Address)
      (classified : DartPlantStatus)
  | releaseObject (handle : Nat) (status : DartPlantStatus)
  | readObject (handle : Nat) (status : DartPlantStatus) (raw : BitVec 64)
  | retainHook
  | releaseHook
  | closeAdmission
  | openAdmission
  | checkQuiescent
  | destroy
  deriving DecidableEq, Repr

/-- What a call grants or takes back when it succeeds. -/
def VmCall.deed (thread : ThreadId) : VmCall → Option VmDeed
  | .enterIsolate _ => some (.acquire thread .isolate)
  | .leaveIsolate _ => some (.release thread .isolate)
  | .enterScope _ => some (.acquire thread .scope)
  | .leaveScope _ => some (.release thread .scope)
  | .pinGeneratedRoots .. => some (.acquire thread .rootLease)
  | .unpinGeneratedRoots .. => some (.release thread .rootLease)
  | .enterGeneratedToNative .. => some (.acquire thread .transition)
  | .leaveNativeToGenerated .. => some (.release thread .transition)
  | .beginLiveHeapObservation .. => some (.acquire thread .observation)
  | .endLiveHeapObservation .. => some (.release thread .observation)
  | .retainObject .. => some (.acquire thread .handle)
  | .releaseObject .. => some (.release thread .handle)
  | _ => none

/-- The adapter, every handle it returned, and what it granted and took back, newest first. -/
structure VmWorld where
  adapter : DartPlantVmAdapter
  handles : List DartPlantObjectHandle := []
  log : List VmDeed := []
  deriving DecidableEq, Repr

namespace VmWorld

/-- The world after an operation, with its deed when it succeeded. -/
def settle {α : Type} (world : VmWorld) (deed : Option VmDeed) (step : Step α) :
    VmWorld × VmOutcome Unit :=
  match step with
  | (adapter, .ok _) => ({ world with adapter, log := deed.toList ++ world.log }, .ok ())
  | (adapter, .refused failure) => ({ world with adapter }, .refused failure)
  | (adapter, .backend status) => ({ world with adapter }, .backend status)

/-- `VmAdapterRetainObject`; the new handle is the last one. -/
def retainObject (world : VmWorld) (thread : ThreadId) (retained : DartPlantStatus)
    (backendHandle : Address) (classified : DartPlantStatus) : VmWorld × VmOutcome Unit :=
  match world.adapter.retainObject thread retained backendHandle classified with
  | (adapter, .ok handle) =>
    (⟨adapter, world.handles ++ [handle], .acquire thread .handle :: world.log⟩, .ok ())
  | (adapter, .refused failure) => ({ world with adapter }, .refused failure)
  | (adapter, .backend status) => ({ world with adapter }, .backend status)

/-- `dartplant_object_release` of the handle with this index. -/
def releaseObject (world : VmWorld) (thread : ThreadId) (index : Nat) (status : DartPlantStatus) :
    VmWorld × VmOutcome Unit :=
  match world.handles[index]? with
  | none => (world, .refused ⟨.objectHandleInvalid, "object handle is invalid"⟩)
  | some handle =>
    match world.adapter.releaseObject handle status with
    | (adapter, .ok released) =>
      (⟨adapter, world.handles.set index released, .release thread .handle :: world.log⟩, .ok ())
    | (adapter, .refused failure) => ({ world with adapter }, .refused failure)
    | (adapter, .backend status) => ({ world with adapter }, .backend status)

/-- One call of a thread. -/
def perform (profiles : List RuntimeProfileRecord) (world : VmWorld) (thread : ThreadId)
    (call : VmCall) : VmWorld × VmOutcome Unit :=
  let adapter := world.adapter
  let deed := call.deed thread
  match call with
  | .attachIsolate isolate => world.settle deed (adapter.attachIsolate isolate)
  | .detachIsolate isolate => world.settle deed (adapter.detachIsolate isolate)
  | .enterIsolate status => world.settle deed (adapter.enterIsolate thread status)
  | .leaveIsolate status => world.settle deed (adapter.leaveIsolate thread status)
  | .enterScope status => world.settle deed (adapter.enterScope thread status)
  | .leaveScope status => world.settle deed (adapter.leaveScope thread status)
  | .pinGeneratedRoots contended rawValues valueCount status lease =>
    world.settle deed
      (adapter.pinGeneratedRoots contended thread rawValues valueCount status lease)
  | .generatedRootGet rootLease status raw =>
    world.settle deed (adapter.generatedRootGet thread rootLease status raw)
  | .generatedRootSet rootLease status =>
    world.settle deed (adapter.generatedRootSet thread rootLease status)
  | .unpinGeneratedRoots contended rootLease outRawValues valueCount status =>
    world.settle deed
      (adapter.unpinGeneratedRoots contended thread rootLease outRawValues valueCount status)
  | .enterGeneratedToNative contended frame rootLease status =>
    world.settle deed (adapter.enterGeneratedToNative contended thread frame rootLease status)
  | .leaveNativeToGenerated frame rootLease status =>
    world.settle deed (adapter.leaveNativeToGenerated thread frame rootLease status)
  | .beginLiveHeapObservation vmThread status lease =>
    world.settle deed (adapter.beginLiveHeapObservation thread vmThread status lease)
  | .endLiveHeapObservation lease status =>
    world.settle deed (adapter.endLiveHeapObservation thread lease status)
  | .proveCapability contended kind status proof =>
    world.settle deed (adapter.proveCapability profiles contended thread kind status proof)
  | .getCapabilityBinding capability =>
    world.settle deed (adapter, adapter.getCapabilityBinding capability)
  | .invalidateAbiBinding => world.settle deed (adapter.invalidateAbiBinding, VmOutcome.ok ())
  | .readActiveObject status raw => world.settle deed (adapter.readActiveObject thread status raw)
  | .readTypeArgumentsElement contended status raw =>
    world.settle deed (adapter.readTypeArgumentsElement contended thread status raw)
  | .retainObject retained backendHandle classified =>
    world.retainObject thread retained backendHandle classified
  | .releaseObject handle status => world.releaseObject thread handle status
  | .readObject index status raw =>
    match world.handles[index]? with
    | none => (world, .refused ⟨.objectHandleInvalid, "object handle is invalid"⟩)
    | some handle => world.settle deed (adapter.readObject thread handle status raw)
  | .retainHook => world.settle deed (adapter.retainHook, VmOutcome.ok ())
  | .releaseHook => world.settle deed (adapter.releaseHook, VmOutcome.ok ())
  | .closeAdmission => world.settle deed (adapter.closeAdmission, VmOutcome.ok ())
  | .openAdmission => world.settle deed (adapter.openAdmission, VmOutcome.ok ())
  | .checkQuiescent => world.settle deed (adapter, adapter.checkQuiescent)
  | .destroy => world.settle deed (adapter, adapter.destroy)

end VmWorld

/-- One step of a run: a thread and its call. -/
def vmStep (profiles : List RuntimeProfileRecord) (world : VmWorld) (step : ThreadId × VmCall) :
    VmWorld := (world.perform profiles step.1 step.2).1

/-! ## Effects -/

/-- The fields that say who holds what. -/
structure VmHeld where
  attached : Bool
  owner : Option ThreadId
  isolateEntered : Bool
  entered : BitVec 32
  leases : BitVec 64
  transitions : BitVec 32
  observations : BitVec 32
  observer : Option ThreadId
  handles : BitVec 64
  hookRefs : BitVec 64
  deriving DecidableEq, Repr

def DartPlantVmAdapter.held (adapter : DartPlantVmAdapter) : VmHeld where
  attached := adapter.attached
  owner := adapter.ownerThread
  isolateEntered := adapter.isolateEntered
  entered := adapter.entered
  leases := adapter.generatedRootLeases
  transitions := adapter.generatedNativeTransitions
  observations := adapter.liveHeapObservations
  observer := adapter.liveHeapObservationThread
  handles := adapter.liveHandles
  hookRefs := adapter.hookRefs

namespace VmHeld
variable (held : VmHeld)

/-- Nobody else owns the adapter. -/
def openTo (thread : ThreadId) : Prop := held.owner = none ∨ held.owner = some thread

/-- Nothing that is checked when the owner is reset is held. -/
def ownerIdle : Bool :=
  !held.isolateEntered && held.entered == 0 && held.leases == 0 && held.transitions == 0

/-- The owner is reset when it is idle. -/
def dropIdleOwner : VmHeld := if held.ownerIdle then { held with owner := none } else held

/-- Nothing at all is outstanding. -/
def quiescent : Prop :=
  held.isolateEntered = false ∧ held.entered = 0 ∧ held.leases = 0 ∧ held.transitions = 0 ∧
    held.observations = 0 ∧ held.handles = 0 ∧ held.hookRefs = 0

end VmHeld

/-- `dartplant_vm_enter_scope` gets as far as the owner. -/
def DartPlantVmAdapter.admitsScope (adapter : DartPlantVmAdapter) : Prop :=
  ¬(adapter.admissionOpen = false ∧ adapter.generatedNativeTransitions = 0) ∧
    adapter.attached = true ∧ adapter.liveHeapObservations = 0

/-- The call may take the adapter over for a first scope. -/
def VmCall.seizes (adapter : DartPlantVmAdapter) : VmCall → Prop
  | .enterScope _ => adapter.admitsScope
  | _ => False

/-- Everything a call of a thread can do to these fields, with its deed.  `seizes` is when it may
take the adapter over for a first scope. -/
inductive VmEffect (thread : ThreadId) (seizes : Prop) : VmHeld → VmHeld → Option VmDeed → Prop
  | idle (held : VmHeld) : VmEffect thread seizes held held none
  | hooks (held : VmHeld) (hookRefs : BitVec 64) :
      VmEffect thread seizes held { held with hookRefs } none
  | claimed (held : VmHeld) (hopen : held.openTo thread) (hattached : held.attached = true) :
      VmEffect thread seizes held { held with owner := some thread } none
  -- `enter_scope` sets the owner without a look at it, and keeps it when the backend fails.
  | seized (held : VmHeld) (hseizes : seizes) (hattached : held.attached = true)
      (hentered : held.entered = 0) (hobservations : held.observations = 0) :
      VmEffect thread seizes held { held with owner := some thread } none
  | attach (held : VmHeld) (hattached : held.attached = false) (hentered : held.entered = 0) :
      VmEffect thread seizes held { held with attached := true } none
  | detach (held : VmHeld) (hattached : held.attached = true) (hquiescent : held.quiescent) :
      VmEffect thread seizes held { held with attached := false, owner := none } none
  | enterIsolate (held : VmHeld) (hattached : held.attached = true) (hopen : held.openTo thread)
      (hentered : held.entered = 0) (hisolate : held.isolateEntered = false)
      (hobservations : held.observations = 0) :
      VmEffect thread seizes held { held with owner := some thread, isolateEntered := true }
        (some (.acquire thread .isolate))
  | leaveIsolate (held : VmHeld) (hisolate : held.isolateEntered = true)
      (hentered : held.entered = 0) (howner : held.owner = some thread) :
      VmEffect thread seizes held { held with owner := none, isolateEntered := false }
        (some (.release thread .isolate))
  | enterScope (held : VmHeld) (hseizes : seizes) (hattached : held.attached = true)
      (hobservations : held.observations = 0)
      (howner : held.entered ≠ 0 → held.owner = some thread) :
      VmEffect thread seizes held { held with owner := some thread, entered := held.entered + 1 }
        (some (.acquire thread .scope))
  | leaveScope (held : VmHeld) (hattached : held.attached = true) (hentered : held.entered ≠ 0)
      (howner : held.owner = some thread) :
      VmEffect thread seizes held { held with entered := held.entered - 1 }.dropIdleOwner
        (some (.release thread .scope))
  | pin (held : VmHeld) (hattached : held.attached = true) (hopen : held.openTo thread)
      (htransitions : held.transitions = 0) (hentered : held.entered = 0)
      (hobservations : held.observations = 0) :
      VmEffect thread seizes held { held with owner := some thread, leases := held.leases + 1 }
        (some (.acquire thread .rootLease))
  | unpin (held : VmHeld) (hattached : held.attached = true) (hopen : held.openTo thread)
      (hleases : held.leases ≠ 0) (htransitions : held.transitions = 0)
      (hentered : held.entered = 0) (hobservations : held.observations = 0) :
      VmEffect thread seizes held
        { held with
          owner := if held.leases - 1 = 0 ∧ held.isolateEntered = false then none else some thread
          leases := held.leases - 1 }
        (some (.release thread .rootLease))
  | enterNative (held : VmHeld) (hattached : held.attached = true) (hopen : held.openTo thread)
      (hleases : held.leases ≠ 0) (htransitions : held.transitions = 0)
      (hentered : held.entered = 0) (hobservations : held.observations = 0) :
      VmEffect thread seizes held
        { held with owner := some thread, transitions := held.transitions + 1 }
        (some (.acquire thread .transition))
  | leaveNative (held : VmHeld) (howner : held.owner = some thread) (hleases : held.leases ≠ 0)
      (htransitions : held.transitions ≠ 0) (hentered : held.entered = 0)
      (hobservations : held.observations = 0) :
      VmEffect thread seizes held { held with transitions := held.transitions - 1 }
        (some (.release thread .transition))
  | observe (held : VmHeld) (hattached : held.attached = true) (hopen : held.openTo thread)
      (hisolate : held.isolateEntered = false)
      (hstate : (held.transitions = 1 ∧ held.leases ≠ 0 ∧ held.entered ≠ 0) ∨
        (held.transitions = 0 ∧ held.entered = 0)) (hobservations : held.observations = 0) :
      VmEffect thread seizes held
        { held with owner := some thread, observations := 1, observer := some thread }
        (some (.acquire thread .observation))
  | unobserve (held : VmHeld) (hobservations : held.observations = 1)
      (hobserver : held.observer = some thread) :
      VmEffect thread seizes held { held with observations := 0, observer := none }.dropIdleOwner
        (some (.release thread .observation))
  | retain (held : VmHeld) (hattached : held.attached = true) (hentered : held.entered ≠ 0)
      (howner : held.owner = some thread) :
      VmEffect thread seizes held { held with handles := held.handles + 1 }
        (some (.acquire thread .handle))
  | release (held : VmHeld) (hattached : held.attached = true) :
      VmEffect thread seizes held
        (if held.handles ≠ 0 then { held with handles := held.handles - 1 } else held)
        (some (.release thread .handle))

/-- The operation has this deed when it succeeds, and no deed otherwise. -/
def Performs {α : Type} (thread : ThreadId) (seizes : Prop) (adapter : DartPlantVmAdapter)
    (deed : Option VmDeed) (step : Step α) : Prop :=
  match step.2 with
  | .ok _ => VmEffect thread seizes adapter.held step.1.held deed
  | _ => VmEffect thread seizes adapter.held step.1.held none

section Operations
variable {adapter : DartPlantVmAdapter} {thread : ThreadId} {seizes : Prop}
  {status : DartPlantStatus}

theorem performs_refuse {α : Type} {deed : Option VmDeed} {refusal : DartPlantStatus}
    {message : String} :
    Performs thread seizes adapter deed
      (adapter.refuse refusal message : Step α) :=
  .idle _

theorem performs_backend {α : Type} {deed : Option VmDeed} :
    Performs (α := α) thread seizes adapter deed (adapter, .backend status) := .idle _

theorem openTo_of_unopposed
    (h : ¬(adapter.ownerThread ≠ none ∧ adapter.ownerThread ≠ some thread)) :
    adapter.held.openTo thread := by
  by_cases hnone : adapter.ownerThread = none
  · exact Or.inl hnone
  · exact Or.inr (by_contra fun hne => h ⟨hnone, hne⟩)

/-- An operation that begins with the owner check goes on with the adapter owned by its thread. -/
theorem performs_owned {α : Type} {deed : Option VmDeed}
    {next : DartPlantVmAdapter → Step α}
    (h : adapter.attached = true → adapter.held.openTo thread →
      Performs thread seizes adapter deed (next { adapter with ownerThread := some thread })) :
    Performs thread seizes adapter deed
      (andThen (adapter.checkAttachedOwner thread) next) := by
  unfold checkAttachedOwner
  split
  · exact .idle _
  next hattached =>
    split
    · exact .idle _
    next hopen =>
      exact h (Bool.eq_true_of_not_eq_false hattached) (openTo_of_unopposed hopen)

theorem checkEntered_none (h : adapter.checkEntered thread = none) :
    adapter.attached = true ∧ adapter.entered ≠ 0 ∧ adapter.ownerThread = some thread := by
  unfold checkEntered at h
  split at h
  · cases h
  split at h
  · cases h
  split at h
  · cases h
  next hattached hentered howner =>
    exact ⟨Bool.eq_true_of_not_eq_false hattached, hentered, not_not.mp howner⟩

theorem generatedState_of_not_false (h : ¬ adapter.generatedState = false) :
    adapter.generatedNativeTransitions = 0 ∧ adapter.entered = 0 ∧
      adapter.liveHeapObservations = 0 := by
  simp only [generatedState, Bool.not_eq_false, Bool.and_eq_true,
    beq_iff_eq] at h
  exact ⟨h.1.1, h.1.2, h.2⟩

theorem releaseTransientOwner_held :
    (adapter.releaseTransientOwner true).held = adapter.held.dropIdleOwner := by
  have hiff : (true = true ∧ adapter.isolateEntered = false ∧ adapter.entered = 0 ∧
      adapter.generatedRootLeases = 0 ∧ adapter.generatedNativeTransitions = 0) ↔
      adapter.held.ownerIdle = true := by
    simp only [true_and, VmHeld.ownerIdle, held, Bool.and_eq_true, beq_iff_eq,
      Bool.not_eq_true', and_assoc]
  unfold releaseTransientOwner VmHeld.dropIdleOwner
  by_cases hidle : adapter.held.ownerIdle = true
  · rw [if_pos (hiff.mpr hidle), if_pos hidle]
    rfl
  · rw [if_neg fun h => hidle (hiff.mp h), if_neg hidle]

theorem enterIsolate_performs : Performs thread seizes adapter (some (.acquire thread .isolate))
    (adapter.enterIsolate thread status) := by
  unfold enterIsolate
  split
  · exact performs_refuse
  split
  · exact performs_refuse
  next hattached =>
    split
    · exact performs_refuse
    next hfree =>
      split
      · exact performs_refuse
      next howner =>
        have hattached := Bool.eq_true_of_not_eq_false hattached
        obtain ⟨hentered, hisolate, hobservations⟩ := not_or.mp hfree |>.imp_right not_or.mp
        have hopen := openTo_of_unopposed howner
        dsimp only
        split
        · exact .claimed _ hopen hattached
        · exact .enterIsolate _ hattached hopen (not_not.mp hentered)
            (Bool.eq_false_of_not_eq_true hisolate) (not_not.mp hobservations)

theorem leaveIsolate_performs : Performs thread seizes adapter (some (.release thread .isolate))
    (adapter.leaveIsolate thread status) := by
  unfold leaveIsolate
  split
  · exact performs_refuse
  next hfree =>
    split
    · exact performs_backend
    · obtain ⟨hisolate, hentered, howner⟩ := not_or.mp hfree |>.imp_right not_or.mp
      exact .leaveIsolate _ (Bool.eq_true_of_not_eq_false hisolate)
        (not_not.mp hentered) (not_not.mp howner)

theorem enterScope_performs (hseizes : adapter.admitsScope → seizes) :
    Performs thread seizes adapter (some (.acquire thread .scope))
      (adapter.enterScope thread status) := by
  unfold enterScope
  split
  · exact performs_refuse
  next hadmitted =>
    split
    · exact performs_refuse
    next hattached =>
      split
      · exact performs_refuse
      next hobservations =>
        split
        · exact performs_refuse
        next howner =>
          have hattached := Bool.eq_true_of_not_eq_false hattached
          have hobservations := not_not.mp hobservations
          have hseizes := hseizes ⟨hadmitted, hattached, hobservations⟩
          have howned : adapter.entered ≠ 0 → adapter.ownerThread = some thread := fun hne =>
            by_contra fun hother => howner ⟨hne, hother⟩
          -- Inside another scope the owner is this thread already.
          have heq : (if adapter.entered = 0 then { adapter with ownerThread := some thread }
              else adapter) = { adapter with ownerThread := some thread } := by
            split
            · rfl
            next hne => rw [← howned hne]
          rw [heq]
          dsimp only
          split
          · by_cases hentered : adapter.entered = 0
            · exact .seized _ hseizes hattached hentered hobservations
            · exact .claimed _ (Or.inr (howned hentered)) hattached
          · exact .enterScope _ hseizes hattached hobservations howned

theorem leaveScope_performs : Performs thread seizes adapter (some (.release thread .scope))
    (adapter.leaveScope thread status) := by
  unfold leaveScope
  split
  · exact .idle _
  next hchecked =>
    obtain ⟨hattached, hentered, howner⟩ := checkEntered_none hchecked
    split
    · exact performs_backend
    · show VmEffect thread seizes adapter.held
        (releaseTransientOwner _ true).held _
      rw [releaseTransientOwner_held]
      exact .leaveScope _ hattached hentered howner

theorem pinGeneratedRoots_performs {contended : Bool} {rawValues lease : Address}
    {valueCount : BitVec 32} : Performs thread seizes adapter (some (.acquire thread .rootLease))
      (adapter.pinGeneratedRoots contended thread rawValues valueCount status lease) := by
  unfold pinGeneratedRoots
  split
  · exact performs_refuse
  split
  · exact performs_refuse
  split
  · exact performs_refuse
  refine performs_owned fun hattached hopen => ?_
  split
  · exact .claimed _ hopen hattached
  next hstate =>
    obtain ⟨htransitions, hentered, hobservations⟩ := generatedState_of_not_false hstate
    split
    · exact .claimed _ hopen hattached
    split
    · exact .claimed _ hopen hattached
    · exact .pin _ hattached hopen htransitions hentered hobservations

theorem generatedRootGet_performs {rootLease : Address} {raw : BitVec 64} :
    Performs thread seizes adapter none (adapter.generatedRootGet thread rootLease status raw) := by
  unfold DartPlantVmAdapter.generatedRootGet
  split
  · exact performs_refuse
  split
  · exact performs_refuse
  split
  · exact .idle _
  · split
    · exact performs_backend
    · exact .idle _

theorem generatedRootSet_performs {rootLease : Address} :
    Performs thread seizes adapter none (adapter.generatedRootSet thread rootLease status) := by
  unfold DartPlantVmAdapter.generatedRootSet
  split
  · exact performs_refuse
  split
  · exact performs_refuse
  split
  · exact .idle _
  · split
    · exact performs_backend
    · exact .idle _

theorem unpinGeneratedRoots_performs {contended : Bool} {rootLease outRawValues : Address}
    {valueCount : BitVec 32} : Performs thread seizes adapter (some (.release thread .rootLease))
      (adapter.unpinGeneratedRoots contended thread rootLease outRawValues valueCount status) := by
  unfold unpinGeneratedRoots
  split
  · exact performs_refuse
  split
  · exact performs_refuse
  split
  · exact performs_refuse
  next hlease =>
    have hleases : adapter.generatedRootLeases ≠ 0 := (not_or.mp hlease).2
    refine performs_owned fun hattached hopen => ?_
    split
    · exact .claimed _ hopen hattached
    next hstate =>
      obtain ⟨htransitions, hentered, hobservations⟩ := generatedState_of_not_false hstate
      split
      · exact .claimed _ hopen hattached
      · have heffect : VmEffect thread seizes _ _ _ :=
          .unpin adapter.held hattached hopen hleases htransitions hentered hobservations
        dsimp only [Performs]
        split
        next hnone =>
          have hcond : adapter.held.leases - 1 = 0 ∧ adapter.held.isolateEntered = false := hnone
          rw [if_pos hcond] at heffect
          exact heffect
        next hkept =>
          have hcond : ¬(adapter.held.leases - 1 = 0 ∧ adapter.held.isolateEntered = false) :=
            hkept
          rw [if_neg hcond] at heffect
          exact heffect

theorem enterGeneratedToNative_performs {contended : Bool}
    {frame : Option GeneratedTransitionFrame} {rootLease : Address} :
    Performs thread seizes adapter (some (.acquire thread .transition))
      (adapter.enterGeneratedToNative contended thread frame rootLease status) := by
  unfold enterGeneratedToNative
  split
  · exact performs_refuse
  split
  · exact performs_refuse
  split
  · exact performs_refuse
  next hlease =>
    have hleases : adapter.generatedRootLeases ≠ 0 := (not_or.mp hlease).2
    refine performs_owned fun hattached hopen => ?_
    split
    · exact .claimed _ hopen hattached
    next hstate =>
      obtain ⟨htransitions, hentered, hobservations⟩ := generatedState_of_not_false hstate
      split
      · exact .claimed _ hopen hattached
      · exact .enterNative _ hattached hopen hleases htransitions hentered hobservations

theorem leaveNativeToGenerated_performs
    {frame : Option GeneratedTransitionFrame} {rootLease : Address} :
    Performs thread seizes adapter (some (.release thread .transition))
      (adapter.leaveNativeToGenerated thread frame rootLease status) := by
  unfold leaveNativeToGenerated
  split
  · exact performs_refuse
  split
  · exact performs_refuse
  next hactive =>
    obtain ⟨-, htransitions, hleases⟩ := not_or.mp hactive |>.imp_right not_or.mp
    split
    · exact performs_refuse
    next hobservations =>
      split
      · exact performs_refuse
      next howner =>
        split
        · exact performs_refuse
        next hentered =>
          split
          · exact performs_backend
          · exact .leaveNative _ (not_not.mp howner) hleases htransitions (not_not.mp hentered)
              (not_not.mp hobservations)

theorem beginLiveHeapObservation_performs {vmThread : BitVec 64} {lease : Address} :
    Performs thread seizes adapter (some (.acquire thread .observation))
      (adapter.beginLiveHeapObservation thread vmThread status lease) := by
  unfold beginLiveHeapObservation
  split
  · exact performs_refuse
  split
  · exact performs_refuse
  next havailable =>
    split
    · exact performs_refuse
    split
    · exact performs_refuse
    next hbusy =>
      split
      · exact performs_refuse
      next howner =>
        split
        · exact performs_backend
        split
        · exact performs_refuse
        · have hattached := Bool.eq_true_of_not_eq_false (not_or.mp havailable).1
          obtain ⟨hobservable, hobservations⟩ := not_or.mp hbusy
          have hopen := openTo_of_unopposed howner
          simp only [observable, Bool.not_eq_false, Bool.or_eq_true,
            Bool.and_eq_true, beq_iff_eq, bne_iff_ne, Bool.not_eq_true'] at hobservable
          refine .observe _ hattached hopen ?_ ?_ (not_not.mp hobservations)
          · exact hobservable.elim (fun h => h.2) fun h => h.2
          · exact hobservable.imp (fun h => ⟨h.1.1.1, h.1.1.2, h.1.2⟩) fun h => h.1

theorem endLiveHeapObservation_performs {lease : Address} :
    Performs thread seizes adapter (some (.release thread .observation))
      (adapter.endLiveHeapObservation thread lease status) := by
  unfold endLiveHeapObservation
  split
  · exact performs_refuse
  split
  · exact performs_refuse
  next hactive =>
    split
    · exact performs_backend
    · obtain ⟨hobservations, hobserver, -⟩ := not_or.mp hactive |>.imp_right not_or.mp
      show VmEffect thread seizes adapter.held
        (releaseTransientOwner _ true).held _
      rw [releaseTransientOwner_held]
      exact .unobserve _ (not_not.mp hobservations) (not_not.mp hobserver)

theorem readActiveObject_performs {raw : BitVec 64} :
    Performs thread seizes adapter none (adapter.readActiveObject thread status raw) := by
  unfold readActiveObject
  split
  · exact performs_refuse
  split
  · exact performs_refuse
  split
  · exact performs_refuse
  split
  · exact performs_refuse
  split
  · exact performs_backend
  · exact .idle _

theorem readTypeArgumentsElement_performs {contended : Bool} {raw : BitVec 64} :
    Performs thread seizes adapter none
      (adapter.readTypeArgumentsElement contended thread status raw) := by
  unfold readTypeArgumentsElement
  split
  · exact performs_refuse
  split
  · exact performs_refuse
  refine performs_owned fun hattached hopen => ?_
  split
  · exact .claimed _ hopen hattached
  split
  · exact .claimed _ hopen hattached
  · exact .claimed _ hopen hattached

theorem readObject_performs {handle : DartPlantObjectHandle} {raw : BitVec 64} :
    Performs thread seizes adapter none (adapter.readObject thread handle status raw) := by
  unfold readObject
  split
  · exact performs_refuse
  split
  · exact .idle _
  split
  · exact performs_refuse
  split
  · exact performs_backend
  · exact .idle _

theorem attachIsolate_performs {isolate : DartPlantIsolateIdentity} :
    Performs thread seizes adapter none (adapter.attachIsolate isolate) := by
  unfold attachIsolate
  split
  · exact performs_refuse
  split
  · exact performs_refuse
  next hfree =>
    obtain ⟨hattached, hentered⟩ := not_or.mp hfree
    exact .attach _ (Bool.eq_false_of_not_eq_true hattached) (not_not.mp hentered)

theorem detachIsolate_performs {isolate : DartPlantIsolateIdentity} :
    Performs thread seizes adapter none (adapter.detachIsolate isolate) := by
  unfold detachIsolate
  split
  · exact performs_refuse
  next hmatch =>
    split
    · exact performs_refuse
    next hidle =>
      simp only [not_or, not_not, ne_eq, Bool.not_eq_true] at hidle
      obtain ⟨hentered, hisolate, hhandles, hhooks, hleases, htransitions, hobservations⟩ := hidle
      exact .detach _ (Bool.eq_true_of_not_eq_false (not_or.mp hmatch).1)
        ⟨hisolate, hentered, hleases, htransitions, hobservations, hhandles, hhooks⟩

/-- A proof moves the binding only. -/
theorem recordProof_held {profiles : List RuntimeProfileRecord}
    {kind : DartPlantVmCapabilityEvidenceKind} {proof : DartPlantVmCapabilityProof} :
    (adapter.recordProof profiles kind proof).1.held = adapter.held := by
  unfold recordProof
  split
  · rfl
  split
  · rfl
  split
  · rfl
  split
  · rfl
  dsimp only
  split
  · split
    · rfl
    · rfl
  · split
    · rfl
    · rfl

/-- Without a deed it does not matter how the operation ends. -/
theorem performs_none {α : Type} {step : Step α}
    (h : VmEffect thread seizes adapter.held step.1.held none) :
    Performs thread seizes adapter none step := by
  unfold Performs
  split
  · exact h
  · exact h

/-- What is left of the owner after a proof: a transient one is gone when it holds nothing. -/
theorem releaseTransientOwner_effect (hopen : adapter.held.openTo thread)
    (hattached : adapter.attached = true) :
    VmEffect thread seizes adapter.held ({ adapter with
      ownerThread := some thread }.releaseTransientOwner adapter.ownerThread.isNone).held none := by
  unfold releaseTransientOwner
  split
  next hidle =>
    have hnone : adapter.ownerThread = none := Option.isNone_iff_eq_none.mp hidle.1
    have hsame : { adapter.held with owner := none } = adapter.held := by
      rw [← show adapter.held.owner = none from hnone]
    show VmEffect thread seizes adapter.held { adapter.held with owner := none } none
    rw [hsame]
    exact .idle _
  · exact .claimed _ hopen hattached

theorem proveCapability_performs {profiles : List RuntimeProfileRecord} {contended : Bool}
    {kind : DartPlantVmCapabilityEvidenceKind} {proof : DartPlantVmCapabilityProof} :
    Performs thread seizes adapter none
      (adapter.proveCapability profiles contended thread kind status proof) := by
  unfold proveCapability beginProof
  split
  · exact .idle _
  split
  · exact .idle _
  split
  · exact .idle _
  rw [andThen_assoc]
  refine performs_owned fun hattached hopen => performs_none ?_
  split
  · exact .claimed _ hopen hattached
  · dsimp only [andThen]
    split
    · exact releaseTransientOwner_effect hopen hattached
    · rw [recordProof_held]
      exact releaseTransientOwner_effect hopen hattached

theorem retainObject_performs {retained classified : DartPlantStatus} {backendHandle : Address} :
    Performs thread seizes adapter (some (.acquire thread .handle))
      (adapter.retainObject thread retained backendHandle classified) := by
  unfold retainObject
  split
  · exact performs_refuse
  split
  · exact .idle _
  next hchecked =>
    obtain ⟨hattached, hentered, howner⟩ := checkEntered_none hchecked
    split
    · exact performs_backend
    split
    · exact performs_refuse
    split
    · exact performs_backend
    · exact .retain _ hattached hentered howner

/-- A new handle is not released. -/
theorem retainObject_fresh {retained classified : DartPlantStatus} {backendHandle : Address}
    {after : DartPlantVmAdapter} {handle : DartPlantObjectHandle}
    (h : adapter.retainObject thread retained backendHandle classified = (after, .ok handle)) :
    handle.released = false := by
  unfold retainObject at h
  split at h
  · cases h
  split at h
  · cases h
  split at h
  · cases h
  split at h
  · cases h
  split at h
  · cases h
  · cases h
    rfl

/-- A handle is released once. -/
theorem releaseObject_once {handle released : DartPlantObjectHandle} {after : DartPlantVmAdapter}
    (h : adapter.releaseObject handle status = (after, .ok released)) :
    handle.released = false ∧ released.released = true := by
  unfold releaseObject at h
  split at h
  · cases h
  next hlive =>
    split at h
    · cases h
    split at h
    · cases h
    · cases h
      exact ⟨Bool.eq_false_of_not_eq_true hlive, rfl⟩

theorem releaseObject_performs {handle : DartPlantObjectHandle} :
    Performs thread seizes adapter (some (.release thread .handle))
      (adapter.releaseObject handle status) := by
  unfold releaseObject
  split
  · exact performs_refuse
  split
  · exact performs_refuse
  next hmatch =>
    split
    · exact performs_backend
    · have heffect := (VmEffect.release adapter.held
        (Bool.eq_true_of_not_eq_false (not_or.mp hmatch).1) : VmEffect thread seizes _ _ _)
      dsimp only [Performs]
      split
      next hne =>
        have hcond : adapter.held.handles ≠ 0 := hne
        rw [if_pos hcond] at heffect
        exact heffect
      next hzero =>
        have hcond : ¬ adapter.held.handles ≠ 0 := hzero
        rw [if_neg hcond] at heffect
        exact heffect

end Operations

/-! ## One call -/

/-- The handles that have not been released. -/
def unreleased (handles : List DartPlantObjectHandle) : ℕ :=
  handles.countP fun handle => !handle.released

/-- What a deed does to the handles. -/
def HandlesMove (deed : Option VmDeed) (before after : List DartPlantObjectHandle) : Prop :=
  match deed with
  | some (.acquire _ .handle) => unreleased after = unreleased before + 1
  | some (.release _ .handle) => unreleased before = unreleased after + 1
  | _ => after = before

/-- The fields, the log and the handles move together. -/
structure VmMoves (thread : ThreadId) (seizes : Prop) (deed : Option VmDeed)
    (before after : VmWorld) : Prop where
  effect : VmEffect thread seizes before.adapter.held after.adapter.held deed
  log : after.log = deed.toList ++ before.log
  handles : HandlesMove deed before.handles after.handles

section World
variable {world : VmWorld} {thread : ThreadId} {seizes : Prop}

theorem settle_moves {α : Type} {deed : Option VmDeed} {step : Step α}
    (h : Performs thread seizes world.adapter deed step)
    (hdeed : HandlesMove deed world.handles world.handles) :
    ∃ done, VmMoves thread seizes done world (world.settle deed step).1 ∧
      (done = none ∨ done = deed) := by
  obtain ⟨adapter, outcome⟩ := step
  cases outcome with
  | ok value => exact ⟨deed, ⟨h, rfl, hdeed⟩, Or.inr rfl⟩
  | refused failure => exact ⟨none, ⟨h, rfl, rfl⟩, Or.inl rfl⟩
  | backend status => exact ⟨none, ⟨h, rfl, rfl⟩, Or.inl rfl⟩

theorem unreleased_append (handles : List DartPlantObjectHandle) {handle : DartPlantObjectHandle}
    (h : handle.released = false) : unreleased (handles ++ [handle]) = unreleased handles + 1 := by
  simp only [unreleased, List.countP_append, List.countP_singleton, h, Bool.not_false, if_true]

theorem unreleased_set {handles : List DartPlantObjectHandle} {index : Nat}
    {handle released : DartPlantObjectHandle} (hget : handles[index]? = some handle)
    (hhandle : handle.released = false) (hreleased : released.released = true) :
    unreleased handles = unreleased (handles.set index released) + 1 := by
  induction handles generalizing index with
  | nil => cases hget
  | cons head tail ih =>
    cases index with
    | zero =>
      obtain rfl := Option.some.inj hget
      simp only [unreleased, List.set_cons_zero, List.countP_cons, hhandle, hreleased,
        Bool.not_false, Bool.not_true, if_true, Bool.false_eq_true, if_false, Nat.add_zero]
    | succ index =>
      have htail := ih hget
      simp only [unreleased, List.set_cons_succ, List.countP_cons] at htail ⊢
      omega

theorem retainObject_moves {retained classified : DartPlantStatus} {backendHandle : Address} :
    ∃ done, VmMoves thread seizes done world
      (world.retainObject thread retained backendHandle classified).1 ∧
        (done = none ∨ done = some (.acquire thread .handle)) := by
  have hperforms : Performs thread seizes world.adapter (some (.acquire thread .handle))
      (world.adapter.retainObject thread retained backendHandle classified) := retainObject_performs
  unfold VmWorld.retainObject
  split
  next adapter handle heq =>
    rw [heq] at hperforms
    exact ⟨_, ⟨hperforms, rfl, unreleased_append _ (retainObject_fresh heq)⟩, Or.inr rfl⟩
  next adapter failure heq =>
    rw [heq] at hperforms
    exact ⟨none, ⟨hperforms, rfl, rfl⟩, Or.inl rfl⟩
  next adapter status heq =>
    rw [heq] at hperforms
    exact ⟨none, ⟨hperforms, rfl, rfl⟩, Or.inl rfl⟩

theorem releaseObject_moves {index : Nat} {status : DartPlantStatus} :
    ∃ done, VmMoves thread seizes done world (world.releaseObject thread index status).1 ∧
      (done = none ∨ done = some (.release thread .handle)) := by
  unfold VmWorld.releaseObject
  split
  · exact ⟨none, ⟨.idle _, rfl, rfl⟩, Or.inl rfl⟩
  next handle hget =>
    have hperforms : Performs thread seizes world.adapter (some (.release thread .handle))
        (world.adapter.releaseObject handle status) := releaseObject_performs
    split
    next adapter released heq =>
      rw [heq] at hperforms
      obtain ⟨hhandle, hreleased⟩ := releaseObject_once heq
      exact ⟨_, ⟨hperforms, rfl, unreleased_set hget hhandle hreleased⟩, Or.inr rfl⟩
    next adapter failure heq =>
      rw [heq] at hperforms
      exact ⟨none, ⟨hperforms, rfl, rfl⟩, Or.inl rfl⟩
    next adapter status heq =>
      rw [heq] at hperforms
      exact ⟨none, ⟨hperforms, rfl, rfl⟩, Or.inl rfl⟩

/-- Whatever a thread calls is one of the effects. -/
theorem perform_moves (profiles : List RuntimeProfileRecord) (world : VmWorld) (thread : ThreadId)
    (call : VmCall) : ∃ done, VmMoves thread (call.seizes world.adapter) done world
      (world.perform profiles thread call).1 ∧ (done = none ∨ done = call.deed thread) := by
  cases call with
  | attachIsolate isolate => exact settle_moves attachIsolate_performs rfl
  | detachIsolate isolate => exact settle_moves detachIsolate_performs rfl
  | enterIsolate status => exact settle_moves enterIsolate_performs rfl
  | leaveIsolate status => exact settle_moves leaveIsolate_performs rfl
  | enterScope status => exact settle_moves (enterScope_performs id) rfl
  | leaveScope status => exact settle_moves leaveScope_performs rfl
  | pinGeneratedRoots contended rawValues valueCount status lease =>
    exact settle_moves pinGeneratedRoots_performs rfl
  | generatedRootGet rootLease status raw => exact settle_moves generatedRootGet_performs rfl
  | generatedRootSet rootLease status => exact settle_moves generatedRootSet_performs rfl
  | unpinGeneratedRoots contended rootLease outRawValues valueCount status =>
    exact settle_moves unpinGeneratedRoots_performs rfl
  | enterGeneratedToNative contended frame rootLease status =>
    exact settle_moves enterGeneratedToNative_performs rfl
  | leaveNativeToGenerated frame rootLease status =>
    exact settle_moves leaveNativeToGenerated_performs rfl
  | beginLiveHeapObservation vmThread status lease =>
    exact settle_moves beginLiveHeapObservation_performs rfl
  | endLiveHeapObservation lease status => exact settle_moves endLiveHeapObservation_performs rfl
  | proveCapability contended kind status proof => exact settle_moves proveCapability_performs rfl
  | getCapabilityBinding capability => exact settle_moves (performs_none (.idle _)) rfl
  | invalidateAbiBinding => exact settle_moves (performs_none (.idle _)) rfl
  | readActiveObject status raw => exact settle_moves readActiveObject_performs rfl
  | readTypeArgumentsElement contended status raw =>
    exact settle_moves readTypeArgumentsElement_performs rfl
  | retainObject retained backendHandle classified => exact retainObject_moves
  | releaseObject handle status => exact releaseObject_moves
  | readObject index status raw =>
    unfold VmWorld.perform
    dsimp only
    split
    · exact ⟨none, ⟨.idle _, rfl, rfl⟩, Or.inl rfl⟩
    · exact settle_moves readObject_performs rfl
  | retainHook => exact settle_moves (performs_none (.hooks _ _)) rfl
  | releaseHook =>
    refine settle_moves (performs_none ?_) rfl
    dsimp only [releaseHook]
    split
    · exact .hooks _ _
    · exact .idle _
  | closeAdmission => exact settle_moves (performs_none (.idle _)) rfl
  | openAdmission => exact settle_moves (performs_none (.idle _)) rfl
  | checkQuiescent => exact settle_moves (performs_none (.idle _)) rfl
  | destroy => exact settle_moves (performs_none (.idle _)) rfl

end World

end DartPlant
