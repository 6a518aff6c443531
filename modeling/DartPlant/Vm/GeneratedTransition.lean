import DartPlant.Vm.ProofSlots

/-! # The words of a generated transition

A transition rewrites four words of the VM thread around a call of a safepoint stub of the app.  A
stub may leave anything in the four words; the enter stub takes the thread to the safepoint, and the
exit stub from it.
-/

namespace DartPlant
open FlutterVmState CapabilityBindingSet List

/-! ## The thread -/

/-- The constants of `VmTransitionLayout`, but the one of an observation. -/
structure VmTransitionLayout where
  vmTagDart : BitVec 64
  executionGenerated : BitVec 64
  executionNative : BitVec 64
  exitNone : BitVec 64
  exitThroughFfi : BitVec 64
  exitThroughRuntimeCall : BitVec 64
  deriving DecidableEq, Repr

/-- Where the thread of a profile has its four words. -/
structure ThreadBridge where
  executionStateOffset : Nat
  topExitFrameOffset : Nat
  exitThroughFfiOffset : Nat
  vmTagOffset : Nat
  transition : VmTransitionLayout
  distinct : [executionStateOffset, topExitFrameOffset, exitThroughFfiOffset, vmTagOffset].Nodup

structure BridgeWords where
  executionState : BitVec 64
  topExitFrame : BitVec 64
  exitThroughFfi : BitVec 64
  vmTag : BitVec 64
  deriving DecidableEq, Repr

/-- The words of the thread by their offsets, and whether it is at the safepoint. -/
@[ext] structure VmThread where
  word : Nat → BitVec 64
  atSafepoint : Bool

namespace VmThread

def words (thread : VmThread) (bridge : ThreadBridge) : BridgeWords where
  executionState := thread.word bridge.executionStateOffset
  topExitFrame := thread.word bridge.topExitFrameOffset
  exitThroughFfi := thread.word bridge.exitThroughFfiOffset
  vmTag := thread.word bridge.vmTagOffset

def setWords (thread : VmThread) (bridge : ThreadBridge) (words : BridgeWords) : VmThread :=
  { thread with word := fun offset =>
      if offset = bridge.executionStateOffset then words.executionState
      else if offset = bridge.topExitFrameOffset then words.topExitFrame
      else if offset = bridge.exitThroughFfiOffset then words.exitThroughFfi
      else if offset = bridge.vmTagOffset then words.vmTag
      else thread.word offset }

section Words
variable {thread : VmThread} {bridge : ThreadBridge} {words : BridgeWords}

@[simp] theorem words_setWords : (thread.setWords bridge words).words bridge = words := by
  have hdistinct := bridge.distinct
  simp only [nodup_cons, mem_cons, not_mem_nil, or_false, not_or,
    nodup_nil, and_true] at hdistinct
  obtain ⟨⟨hexit, hmarker, htag⟩, ⟨hmarker', htag'⟩, htag'', -⟩ := hdistinct
  unfold setWords VmThread.words
  simp only [if_true, if_neg (Ne.symm hexit), if_neg (Ne.symm hmarker), if_neg (Ne.symm hmarker'),
    if_neg (Ne.symm htag), if_neg (Ne.symm htag'), if_neg (Ne.symm htag'')]

/-- What was in the four words is put back. -/
theorem setWords_restore {between : VmThread}
    (hothers : ∀ offset, offset ≠ bridge.executionStateOffset → offset ≠ bridge.topExitFrameOffset →
      offset ≠ bridge.exitThroughFfiOffset → offset ≠ bridge.vmTagOffset →
        between.word offset = thread.word offset) :
    (between.setWords bridge (thread.words bridge)).word = thread.word := by
  funext offset
  unfold setWords VmThread.words
  dsimp only
  split
  next heq => rw [heq]
  next hexecution =>
    split
    next heq => rw [heq]
    next hexit =>
      split
      next heq => rw [heq]
      next hmarker =>
        split
        next heq => rw [heq]
        next htag => exact hothers offset hexecution hexit hmarker htag

end Words

end VmThread

/-! ## The two transitions -/

structure GeneratedTransitionFrame where
  thread : BitVec 64
  exitFrame : BitVec 64
  syntheticExitFrame : Bool
  deriving DecidableEq, Repr

/-- What the transitions find in the process: the rows, the words that can be read, what `dladdr`
knows of an address, the address of `EnterGeneratedToNative`, and what a stub leaves in the four
words. -/
structure TransitionHost (Row : Type) where
  bridge : Row → ThreadBridge
  readable : Nat → Bool
  moduleOf : Address → Option (String × Address)
  enterTag : BitVec 64
  enterStub : Address → VmThread → BridgeWords
  exitStub : Address → VmThread → BridgeWords

open TransitionHost

structure Crossing (registry : ProfileRegistry) where
  state : FlutterVmState registry
  safepoints : SafepointState registry.Row
  thread : VmThread
  status : DartPlantStatus

namespace TransitionHost
variable {registry : ProfileRegistry} (host : TransitionHost registry.Row)

/-- `ProveGeneratedTransitionState`. -/
def generatedState (address : BitVec 64) (thread : VmThread) (row : registry.Row) : Bool :=
  let bridge := host.bridge row
  let transition := bridge.transition
  let words := thread.words bridge
  address != 0 && bridge.topExitFrameOffset != 0 && bridge.vmTagOffset != 0 &&
    bridge.executionStateOffset != 0 && bridge.exitThroughFfiOffset != 0 &&
    transition.vmTagDart != 0 &&
    [bridge.executionStateOffset, bridge.topExitFrameOffset, bridge.vmTagOffset,
      bridge.exitThroughFfiOffset].all host.readable &&
    words.executionState == transition.executionGenerated &&
    words.topExitFrame == transition.exitNone && words.vmTag == transition.vmTagDart &&
    (words.exitThroughFfi == transition.exitNone ||
      words.exitThroughFfi == transition.exitThroughRuntimeCall)

/-- The words let a generated thread become native; a marker that a runtime call has left behind is
let through. -/
def admitsEnter (thread : VmThread) (row : registry.Row) : Bool :=
  let transition := (host.bridge row).transition
  let words := thread.words (host.bridge row)
  words.executionState == transition.executionGenerated &&
    words.topExitFrame == transition.exitNone && words.vmTag == transition.vmTagDart &&
    (words.exitThroughFfi == transition.exitThroughRuntimeCall ||
      words.exitThroughFfi == transition.exitNone)

/-- The words a native thread has. -/
def nativeWords (frame : GeneratedTransitionFrame) (row : registry.Row) : BridgeWords where
  executionState := (host.bridge row).transition.executionNative
  topExitFrame := frame.exitFrame
  exitThroughFfi := (host.bridge row).transition.exitThroughFfi
  vmTag := host.enterTag

/-- The words a thread in generated code has. -/
def generatedWords (row : registry.Row) : BridgeWords where
  executionState := (host.bridge row).transition.executionGenerated
  topExitFrame := (host.bridge row).transition.exitNone
  exitThroughFfi := (host.bridge row).transition.exitNone
  vmTag := (host.bridge row).transition.vmTagDart

/-- The thread after the enter stub. -/
def callEnter (entry : Address) (row : registry.Row) (thread : VmThread) : VmThread :=
  { thread.setWords (host.bridge row) (host.enterStub entry thread) with atSafepoint := true }

/-- The thread after the exit stub. -/
def callExit (entry : Address) (row : registry.Row) (thread : VmThread) : VmThread :=
  { thread.setWords (host.bridge row) (host.exitStub entry thread) with atSafepoint := false }

/-- The row of the transition, if its words admit one. -/
def crossingRow (state : FlutterVmState registry) (admits : registry.Row → Bool) :
    FlutterVmState registry × Option registry.Row :=
  match state.profileForCapability kCapabilityGeneratedTransitionLayout with
  | none => (state, none)
  | some row =>
    if admits row = false then
      (state.markCapabilityFailed kCapabilityGeneratedTransitionLayout, none)
    else (state, some row)

/-- `EnterGeneratedToNative` up to its first write. -/
def readyToEnter (state : FlutterVmState registry) (safepoints : SafepointState registry.Row)
    (isolate : DartPlantIsolateIdentity) (frame : GeneratedTransitionFrame) (thread : VmThread) :
    FlutterVmState registry × SafepointState registry.Row × Option registry.Row :=
  let capability := kCapabilityGeneratedTransitionLayout
  if frame.thread ≠ state.thread ∨ state.sameIdentity isolate = false ∨
      frame.syntheticExitFrame = false ∨
      state.hasCapability transitionCapabilities = false ∨
      state.hasFailedCapability capability = true ∨
      state.hasVerifiedCapability (kCapabilitySafepointStubs ||| kCapabilityArtifactLifecycle) =
        false ∨
      state.validateHotArtifactBinding safepoints host.moduleOf = false then
    (state, safepoints, none)
  else if state.hasVerifiedCapability capability = true then
    let ready := crossingRow state (host.admitsEnter thread)
    (ready.1, safepoints, ready.2)
  else
    match state.proveTransitionCapability safepoints (host.generatedState state.thread thread)
        (host.generatedState state.thread thread) with
    | (proved, bound, false) => (proved, bound, none)
    | (proved, bound, true) =>
      let ready := crossingRow proved (host.admitsEnter thread)
      (ready.1, bound, ready.2)

/-- The thread after the four words are written and the enter stub is called. -/
def entered (safepoints : SafepointState registry.Row) (frame : GeneratedTransitionFrame)
    (row : registry.Row) (thread : VmThread) : VmThread :=
  host.callEnter safepoints.enterSafepoint row
    (thread.setWords (host.bridge row) (host.nativeWords frame row))

/-- `EnterGeneratedToNative`. -/
def enterGeneratedToNative (state : FlutterVmState registry)
    (safepoints : SafepointState registry.Row) (isolate : DartPlantIsolateIdentity)
    (frame : GeneratedTransitionFrame) (thread : VmThread) : Crossing registry :=
  match host.readyToEnter state safepoints isolate frame thread with
  | (ready, bound, none) => ⟨ready, bound, thread, .vmBridgeUnavailable⟩
  | (ready, bound, some row) =>
    let entered := host.entered bound frame row thread
    if entered.words (host.bridge row) ≠ host.nativeWords frame row then
      -- The words are put back; the safepoint is not left.
      ⟨ready.markCapabilityFailed kCapabilityGeneratedTransitionLayout, bound,
        entered.setWords (host.bridge row) (thread.words (host.bridge row)),
        .vmBridgeUnavailable⟩
    else ⟨ready, bound, entered, .ok⟩

/-- The words let a native thread return; its tag is not looked at. -/
def admitsLeave (frame : GeneratedTransitionFrame) (thread : VmThread) (row : registry.Row) :
    Bool :=
  let transition := (host.bridge row).transition
  let words := thread.words (host.bridge row)
  words.executionState == transition.executionNative && words.topExitFrame == frame.exitFrame &&
    words.exitThroughFfi == transition.exitThroughFfi

/-- `LeaveNativeToGenerated`. -/
def leaveNativeToGenerated (state : FlutterVmState registry)
    (safepoints : SafepointState registry.Row) (isolate : DartPlantIsolateIdentity)
    (frame : GeneratedTransitionFrame) (thread : VmThread) : Crossing registry :=
  if frame.thread ≠ state.thread ∨ state.sameIdentity isolate = false ∨
      state.hasCapability transitionCapabilities = false ∨
      state.hasVerifiedCapability transitionCapabilities = false ∨
      state.hasFailedCapability kCapabilityGeneratedTransitionLayout = true ∨
      state.validateHotArtifactBinding safepoints host.moduleOf = false then
    ⟨state, safepoints, thread, .vmBridgeUnavailable⟩
  else
    match crossingRow state (host.admitsLeave frame thread) with
    | (ready, none) => ⟨ready, safepoints, thread, .vmBridgeUnavailable⟩
    | (ready, some row) =>
      let left := (host.callExit safepoints.exitSafepoint row thread).setWords (host.bridge row)
        (host.generatedWords row)
      if left.words (host.bridge row) ≠ host.generatedWords row then
        ⟨ready.markCapabilityFailed kCapabilityGeneratedTransitionLayout, safepoints,
          left.setWords (host.bridge row) (thread.words (host.bridge row)), .vmBridgeUnavailable⟩
      else ⟨ready, safepoints, left, .ok⟩

end TransitionHost

/-! ## What a transition stands on -/

section Standing
variable {registry : ProfileRegistry} {state after : FlutterVmState registry}
  {capability other : VmCapability}

theorem and_or_eq_iff {held first second : BitVec 64} :
    held &&& (first ||| second) = first ||| second ↔
      held &&& first = first ∧ held &&& second = second := by
  constructor
  · intro h
    have hbit : ∀ index, (held.getLsbD index && (first.getLsbD index || second.getLsbD index)) =
        (first.getLsbD index || second.getLsbD index) := by
      intro index
      rw [← BitVec.getLsbD_or, ← BitVec.getLsbD_and, h]
    constructor
    · apply BitVec.eq_of_getLsbD_eq
      intro index _
      have hindex := hbit index
      rw [BitVec.getLsbD_and]
      revert hindex
      cases held.getLsbD index <;> cases first.getLsbD index <;> simp
    · apply BitVec.eq_of_getLsbD_eq
      intro index _
      have hindex := hbit index
      rw [BitVec.getLsbD_and]
      revert hindex
      cases held.getLsbD index <;> cases second.getLsbD index <;> simp
  · rintro ⟨hfirst, hsecond⟩
    rw [BitVec.and_or_distrib_left, hfirst, hsecond]

theorem and_or_eq_zero_iff {first second bit : BitVec 64} :
    (first ||| second) &&& bit = 0 ↔ first &&& bit = 0 ∧ second &&& bit = 0 := by
  rw [BitVec.and_comm, BitVec.and_or_distrib_left, BitVec.and_comm, BitVec.and_comm bit second]
  exact BitVec.or_eq_zero_iff

/-- Two sets of capabilities are verified together when each of them is. -/
theorem hasVerified_or {first second : BitVec 64} :
    state.hasVerifiedCapability (first ||| second) =
      (state.hasVerifiedCapability first && state.hasVerifiedCapability second) := by
  rw [Bool.eq_iff_iff]
  simp only [hasVerifiedCapability, Bool.and_eq_true, beq_iff_eq, and_or_eq_iff, all_eq_true,
    maskBits, mem_filter, bne_iff_ne, ne_eq, and_or_eq_zero_iff]
  constructor
  · rintro ⟨⟨hfirst, hsecond⟩, hrecords⟩
    refine ⟨⟨hfirst, fun bit hbit => ?_⟩, hsecond, fun bit hbit => ?_⟩
    · exact hrecords bit ⟨hbit.1, fun hzero => hbit.2 hzero.1⟩
    · exact hrecords bit ⟨hbit.1, fun hzero => hbit.2 hzero.2⟩
  · rintro ⟨⟨hfirst, hrecords⟩, hsecond, hrecords'⟩
    refine ⟨⟨hfirst, hsecond⟩, fun bit hbit => ?_⟩
    by_cases hzero : first &&& bit = 0
    · exact hrecords' bit ⟨hbit.1, fun hzero' => hbit.2 ⟨hzero, hzero'⟩⟩
    · exact hrecords bit ⟨hbit.1, hzero⟩

/-- Only this capability may change. -/
structure Apart (capability : VmCapability) (state after : FlutterVmState registry) : Prop where
  same : SameIncarnation state after
  keeps : ∀ other, SingleBit other → capability &&& other = 0 → KeepsAt other state after
  failed : ∀ other, capability &&& other = 0 →
    after.hasFailedCapability other = state.hasFailedCapability other

theorem Apart.refl (capability : VmCapability) (state : FlutterVmState registry) :
    Apart capability state state :=
  ⟨.refl state, fun other _ _ => .refl other state, fun _ _ => rfl⟩

theorem Apart.trans {last : FlutterVmState registry} (h : Apart capability state after)
    (h' : Apart capability after last) : Apart capability state last where
  same := h.same.trans h'.same
  keeps other hother hdisjoint :=
    (h.keeps other hother hdisjoint).trans (h'.keeps other hother hdisjoint)
  failed other hdisjoint := (h'.failed other hdisjoint).trans (h.failed other hdisjoint)

theorem apart_markFailed {proof : ProofState} :
    Apart capability state (state.markCapabilityFailed capability proof) where
  same := markCapabilityFailed_same
  keeps _ hother hdisjoint := markCapabilityFailed_keeps hother hdisjoint
  failed other hdisjoint := by
    show ((state.failedCapabilities ||| capability) &&& other != 0) = _
    rw [or_and_of_disjoint hdisjoint]
    rfl

theorem apart_markVerified : Apart capability state (state.markCapabilityVerified capability) where
  same := markCapabilityVerified_same
  keeps _ hother hdisjoint := markCapabilityVerified_keeps hother hdisjoint
  failed other hdisjoint := by
    show (state.failedCapabilities &&& ~~~capability &&& other != 0) = _
    rw [and_not_and_of_disjoint hdisjoint]
    rfl

theorem apart_setDomains {row : registry.Row} {key : String} :
    Apart capability state (state.setProofRecordDomains capability row key) where
  same := setProofRecordDomains_same
  keeps _ hother _ := setProofRecordDomains_keeps hother
  failed _ _ := rfl

theorem apart_bind {bindings : CapabilityBindingSet registry.Row}
    {selection : DomainSetSelection registry.Row}
    (hbound : state.capabilityBindings.bindSelection capability selection = some bindings) :
    Apart capability state { state with capabilityBindings := bindings } where
  same := bind_same
  keeps other hother hdisjoint :=
    bind_keeps ((bindSelection_spec hbound).2.2 other (ne_of_disjoint hother hdisjoint))
  failed _ _ := rfl

theorem proveRows_apart {passes : registry.Row → Bool}
    {agrees : FlutterVmState registry → registry.Row → Bool} :
    Apart capability state (state.proveRows capability passes agrees).1 := by
  unfold proveRows
  dsimp only
  split
  · split
    · exact apart_markFailed
    · exact apart_markFailed
  split
  next selected bindings hselected hbound =>
    split
    · exact (apart_bind hbound).trans apart_markFailed
    · exact (apart_bind hbound).trans (apart_setDomains.trans apart_markVerified)
  · exact apart_markFailed

theorem proveRead_apart {passes : registry.Row → Bool} {read : registry.Row → DartPlantStatus} :
    Apart capability state (state.proveRead capability passes read).1 := by
  unfold proveRead
  dsimp only
  split
  · split
    · exact apart_markFailed
    · exact apart_markFailed
  split
  next selected bindings hselected hbound =>
    split
    · exact (apart_bind hbound).trans (apart_setDomains.trans apart_markFailed)
    · exact (apart_bind hbound).trans (apart_setDomains.trans apart_markVerified)
  · exact apart_markFailed

theorem proveEvidence_apart (evidence : DartPlantVmCapabilityEvidence)
    (reading : EvidenceReading registry.Row) :
    Apart evidence.kind.capability state (state.proveEvidence evidence reading).1 := by
  cases hreceipt : evidence.observationReceipt || evidence.semanticReceipt with
  | true =>
    rw [proveEvidence, if_pos hreceipt]
    unfold proveReceipt
    dsimp only
    split
    · exact .refl ..
    split
    · exact .refl ..
    split
    · exact .refl ..
    · exact apart_setDomains.trans apart_markVerified
  | false =>
    rw [proveEvidence_rows state evidence reading hreceipt]
    split
    · exact apart_markFailed
    · exact proveRows_apart

/-! ### Calls of a native thread -/

/-- What a native thread may ask of the backend before it returns, without the life of the
artifacts. -/
inductive NativeCall (registry : ProfileRegistry) where
  | proveCapability (isolate : DartPlantIsolateIdentity) (evidence : DartPlantVmCapabilityEvidence)
      (reading : EvidenceReading registry.Row)
  | readActiveException (isolate : DartPlantIsolateIdentity) (reading : LayoutReading registry.Row)
  | readTypeArgumentsElement (isolate : DartPlantIsolateIdentity)
      (reading : LayoutReading registry.Row)
  | beginLiveHeapObservation (isolate : DartPlantIsolateIdentity) (thread : BitVec 64)
      (reading : ObservationReading registry.Row)
  | endLiveHeapObservation (address : Address) (isolate : DartPlantIsolateIdentity)
      (lease : Address)

/-- The state and the stubs after the call. -/
def NativeCall.perform (backend : FlutterVmState registry × SafepointState registry.Row) :
    NativeCall registry → FlutterVmState registry × SafepointState registry.Row
  | .proveCapability isolate evidence reading =>
    ((backend.1.proveCapability isolate evidence reading).1, backend.2)
  | .readActiveException isolate reading =>
    ((backend.1.readActiveException isolate reading).1, backend.2)
  | .readTypeArgumentsElement isolate reading =>
    ((backend.1.readTypeArgumentsElement isolate reading).1, backend.2)
  | .beginLiveHeapObservation isolate thread reading =>
    (backend.1, (backend.1.beginLiveHeapObservation backend.2 isolate thread reading).1)
  | .endLiveHeapObservation address isolate lease =>
    (backend.1, (backend.1.endLiveHeapObservation backend.2 address isolate lease).1)

/-- What a transition stands on is the same: the incarnation, its three capabilities, the row it is
bound to, and the two stubs. -/
structure StandsAs (backend resumed : FlutterVmState registry × SafepointState registry.Row) :
    Prop where
  same : SameIncarnation backend.1 resumed.1
  keeps : ∀ capability ∈ [kCapabilityGeneratedTransitionLayout, kCapabilitySafepointStubs,
    kCapabilityArtifactLifecycle], KeepsAt capability backend.1 resumed.1
  healthy : resumed.1.hasFailedCapability kCapabilityGeneratedTransitionLayout =
    backend.1.hasFailedCapability kCapabilityGeneratedTransitionLayout
  enter : resumed.2.enterSafepoint = backend.2.enterSafepoint
  exit : resumed.2.exitSafepoint = backend.2.exitSafepoint

theorem StandsAs.refl (backend : FlutterVmState registry × SafepointState registry.Row) :
    StandsAs backend backend :=
  ⟨.refl _, fun capability _ => .refl capability _, rfl, rfl, rfl⟩

theorem StandsAs.trans {backend resumed last : FlutterVmState registry ×
    SafepointState registry.Row} (h : StandsAs backend resumed) (h' : StandsAs resumed last) :
    StandsAs backend last where
  same := h.same.trans h'.same
  keeps capability hmem := (h.keeps capability hmem).trans (h'.keeps capability hmem)
  healthy := h'.healthy.trans h.healthy
  enter := h'.enter.trans h.enter
  exit := h'.exit.trans h.exit

/-- A proof of another capability leaves what a transition stands on. -/
theorem StandsAs.of_apart {safepoints : SafepointState registry.Row}
    (hdisjoint : ∀ other ∈ [kCapabilityGeneratedTransitionLayout, kCapabilitySafepointStubs,
      kCapabilityArtifactLifecycle], capability &&& other = 0)
    (h : Apart capability state after) : StandsAs (state, safepoints) (after, safepoints) where
  same := h.same
  keeps other hmem := by
    have hsingle : SingleBit other := by
      simp only [mem_cons, not_mem_nil, or_false] at hmem
      obtain rfl | rfl | rfl := hmem
      · exact singleBit_transition
      · exact ⟨by decide, by decide⟩
      · exact ⟨by decide, by decide⟩
    exact h.keeps other hsingle (hdisjoint other hmem)
  healthy := h.failed _ (hdisjoint _ mem_cons_self)
  enter := rfl
  exit := rfl

theorem NativeCall.perform_stands (call : NativeCall registry)
    (backend : FlutterVmState registry × SafepointState registry.Row) :
    StandsAs backend (NativeCall.perform backend call) := by
  obtain ⟨state, safepoints⟩ := backend
  cases call with
  | proveCapability isolate evidence reading =>
    have hevidence : StandsAs (state, safepoints)
        ((state.proveEvidence evidence reading).1, safepoints) := by
      refine .of_apart ?_ (proveEvidence_apart evidence reading)
      intro other hmem
      simp only [mem_cons, not_mem_nil, or_false] at hmem
      obtain rfl | rfl | rfl := hmem <;> cases evidence.kind <;> decide
    unfold NativeCall.perform FlutterVmState.proveCapability
    dsimp only
    split
    · exact .refl _
    split
    · exact .refl _
    split
    · exact .refl _
    split
    · exact .refl _
    split
    next heq =>
      rw [heq] at hevidence
      exact hevidence
    next heq =>
      rw [heq] at hevidence
      exact hevidence
  | readActiveException isolate reading =>
    have hdisjoint : ∀ other ∈ [kCapabilityGeneratedTransitionLayout, kCapabilitySafepointStubs,
        kCapabilityArtifactLifecycle], kCapabilityExceptionLayout &&& other = 0 := by
      simp only [forall_mem_cons, not_mem_nil, false_imp_iff, implies_true, and_true]
      decide
    unfold NativeCall.perform FlutterVmState.readActiveException
    dsimp only
    split
    · exact .refl _
    split
    · exact .refl _
    split
    · exact .refl _
    · exact .of_apart hdisjoint proveRead_apart
  | readTypeArgumentsElement isolate reading =>
    have hdisjoint : ∀ other ∈ [kCapabilityGeneratedTransitionLayout, kCapabilitySafepointStubs,
        kCapabilityArtifactLifecycle], kCapabilityTypeArgumentsLayout &&& other = 0 := by
      simp only [forall_mem_cons, not_mem_nil, false_imp_iff, implies_true, and_true]
      decide
    unfold NativeCall.perform FlutterVmState.readTypeArgumentsElement
    dsimp only
    split
    · exact .refl _
    split
    · exact .refl _
    · exact .of_apart hdisjoint proveRead_apart
  | beginLiveHeapObservation isolate thread reading =>
    unfold NativeCall.perform FlutterVmState.beginLiveHeapObservation
    dsimp only
    repeat' split
    all_goals exact ⟨.refl _, fun capability _ => .refl capability _, rfl, rfl, rfl⟩
  | endLiveHeapObservation address isolate lease =>
    unfold NativeCall.perform FlutterVmState.endLiveHeapObservation
    dsimp only
    split
    · exact .refl _
    · exact ⟨.refl _, fun capability _ => .refl capability _, rfl, rfl, rfl⟩

/-- And so do any number of them. -/
theorem NativeCall.run_stands (calls : List (NativeCall registry))
    (backend : FlutterVmState registry × SafepointState registry.Row) :
    StandsAs backend (calls.foldl NativeCall.perform backend) := by
  induction calls generalizing backend with
  | nil => exact .refl backend
  | cons call calls ih => exact (call.perform_stands backend).trans (ih _)

end Standing

/-! ## Ready to cross -/

section Crossings
variable {registry : ProfileRegistry} {host : TransitionHost registry.Row}
  {state ready : FlutterVmState registry} {safepoints bound : SafepointState registry.Row}
  {isolate : DartPlantIsolateIdentity} {frame : GeneratedTransitionFrame} {thread : VmThread}
  {row : registry.Row}

/-- The frame and the identity are those of the backend, and the capabilities of a transition are
held and verified, with this row. -/
structure Ready (ready : FlutterVmState registry) (isolate : DartPlantIsolateIdentity)
    (frame : GeneratedTransitionFrame) (row : registry.Row) : Prop where
  thread : frame.thread = ready.thread
  identity : ready.sameIdentity isolate = true
  held : ready.hasCapability transitionCapabilities = true
  verified : ready.hasVerifiedCapability transitionCapabilities = true
  healthy : ready.hasFailedCapability kCapabilityGeneratedTransitionLayout = false
  row : ready.profileForCapability kCapabilityGeneratedTransitionLayout = some row

theorem crossingRow_eq_some {admits : registry.Row → Bool}
    (h : crossingRow state admits = (ready, some row)) :
    ready = state ∧ state.profileForCapability kCapabilityGeneratedTransitionLayout = some row ∧
      admits row = true := by
  unfold crossingRow at h
  split at h
  · cases h
  next found hfound =>
    split at h
    · cases h
    next hadmits =>
      obtain ⟨rfl, hrow⟩ := Prod.mk.inj h
      obtain rfl := Option.some.inj hrow
      exact ⟨rfl, hfound, Bool.eq_true_of_not_eq_false hadmits⟩

/-- A transition that is proven is verified, and no longer failed. -/
theorem proveTransitionCapability_proved {passes confirms : registry.Row → Bool}
    (h : state.proveTransitionCapability safepoints passes confirms = (ready, bound, true)) :
    SameIncarnation state ready ∧
      ready.hasVerifiedCapability kCapabilityGeneratedTransitionLayout = true ∧
      ready.hasFailedCapability kCapabilityGeneratedTransitionLayout = false ∧
      ready.hasVerifiedCapability (kCapabilitySafepointStubs ||| kCapabilityArtifactLifecycle) =
        state.hasVerifiedCapability
          (kCapabilitySafepointStubs ||| kCapabilityArtifactLifecycle) := by
  have hslots := (proveTransitionCapability_slots state safepoints passes confirms).1
  rw [h] at hslots
  have hother : ∀ other, SingleBit other → other ≠ kCapabilityGeneratedTransitionLayout →
      ready.hasVerifiedCapability other = state.hasVerifiedCapability other :=
    fun other hsingle hne => hasVerified_of_slot hsingle hslots.same.stamp
      (hslots.others other hsingle hne)
  have hmarked : ∃ resolved : FlutterVmState registry,
      ready = resolved.markCapabilityVerified kCapabilityGeneratedTransitionLayout := by
    unfold proveTransitionCapability at h
    dsimp only at h
    split at h
    · cases h
    split at h
    · cases h
    next resolved profile hresolved =>
      split at h
      · cases h
      · split at h
        · cases h
        · exact ⟨resolved, (Prod.mk.inj h).1.symm⟩
  obtain ⟨resolved, rfl⟩ := hmarked
  refine ⟨hslots.same, markCapabilityVerified_self singleBit_transition, ?_, ?_⟩
  · show (resolved.failedCapabilities &&& ~~~kCapabilityGeneratedTransitionLayout &&&
      kCapabilityGeneratedTransitionLayout != 0) = false
    rw [and_not_and_self]
    rfl
  · rw [hasVerified_or, hasVerified_or, hother _ ⟨by decide, by decide⟩ (by decide),
      hother _ ⟨by decide, by decide⟩ (by decide)]

theorem sameIdentity_congr (h : ready.identity = state.identity) :
    ready.sameIdentity isolate = state.sameIdentity isolate := by
  unfold sameIdentity
  rw [h]

theorem hasCapability_congr {capability : VmCapability}
    (h : ready.capabilities = state.capabilities) :
    ready.hasCapability capability = state.hasCapability capability := by
  unfold hasCapability
  rw [h]

/-- Before its first write an enter is ready, and the words of its thread admit it. -/
theorem readyToEnter_ready
    (h : host.readyToEnter state safepoints isolate frame thread = (ready, bound, some row)) :
    Ready ready isolate frame row ∧ frame.syntheticExitFrame = true ∧
      host.admitsEnter thread row = true := by
  unfold readyToEnter at h
  dsimp only at h
  split at h
  · cases h
  next hguard =>
    simp only [not_or, not_not, Bool.not_eq_false, Bool.not_eq_true] at hguard
    obtain ⟨hthread, hidentity, hframe, hheld, hhealthy, hstubs, -⟩ := hguard
    split at h
    next hverified =>
      obtain ⟨hready, hrest⟩ := Prod.mk.inj h
      obtain ⟨-, hfound⟩ := Prod.mk.inj hrest
      obtain ⟨rfl, hrow, hadmits⟩ := crossingRow_eq_some (Prod.ext hready hfound)
      refine ⟨⟨hthread, hidentity, hheld, ?_, hhealthy, hrow⟩, hframe, hadmits⟩
      rw [transitionCapabilities, BitVec.or_assoc, hasVerified_or, hverified, hstubs, Bool.and_self]
    next =>
      split at h
      · cases h
      next proved bound' hproved =>
        obtain ⟨hready, hrest⟩ := Prod.mk.inj h
        obtain ⟨-, hfound⟩ := Prod.mk.inj hrest
        obtain ⟨rfl, hrow, hadmits⟩ := crossingRow_eq_some (Prod.ext hready hfound)
        obtain ⟨hsame, hverified, hhealthy', hothers⟩ := proveTransitionCapability_proved hproved
        constructor
        · constructor
          case thread => exact hthread.trans hsame.thread.symm
          case identity => exact (sameIdentity_congr hsame.identity).trans hidentity
          case held => exact (hasCapability_congr hsame.capabilities).trans hheld
          case verified =>
            rw [transitionCapabilities, BitVec.or_assoc, hasVerified_or, hverified, hothers, hstubs,
              Bool.and_self]
          case healthy => exact hhealthy'
          case row => exact hrow
        · exact ⟨hframe, hadmits⟩

/-- A backend that stands as a ready one is ready. -/
theorem Ready.resumed {resumed : FlutterVmState registry × SafepointState registry.Row}
    (h : Ready ready isolate frame row) (hstands : StandsAs (ready, bound) resumed) :
    Ready resumed.1 isolate frame row where
  thread := h.thread.trans hstands.same.thread.symm
  identity := (sameIdentity_congr hstands.same.identity).trans h.identity
  held := (hasCapability_congr hstands.same.capabilities).trans h.held
  verified := by
    have hverified := h.verified
    rw [transitionCapabilities, hasVerified_or, hasVerified_or] at hverified ⊢
    rw [(hstands.keeps _ mem_cons_self).verified,
      (hstands.keeps kCapabilitySafepointStubs (by simp)).verified,
      (hstands.keeps kCapabilityArtifactLifecycle (by simp)).verified]
    exact hverified
  healthy := hstands.healthy.trans h.healthy
  row := by
    unfold profileForCapability
    rw [(hstands.keeps _ mem_cons_self).binding]
    exact h.row

theorem StandsAs.hotArtifactBinding
    {backend resumed : FlutterVmState registry × SafepointState registry.Row}
    (h : StandsAs backend resumed) (moduleOf : Address → Option (String × Address)) :
    resumed.1.validateHotArtifactBinding resumed.2 moduleOf =
      backend.1.validateHotArtifactBinding backend.2 moduleOf := by
  unfold validateHotArtifactBinding
  rw [h.same.valid, h.same.artifacts, h.enter, h.exit]

/-! ## Back and forth -/

/-- The enter stub leaves the four words as they were written. -/
def StubKeeps (host : TransitionHost registry.Row) (bound : SafepointState registry.Row)
    (frame : GeneratedTransitionFrame) (row : registry.Row) (thread : VmThread) : Prop :=
  host.enterStub bound.enterSafepoint (thread.setWords (host.bridge row)
    (host.nativeWords frame row)) = host.nativeWords frame row

theorem entered_words :
    (host.entered bound frame row thread).words (host.bridge row) =
      host.enterStub bound.enterSafepoint (thread.setWords (host.bridge row)
        (host.nativeWords frame row)) := VmThread.words_setWords

/-- An enter whose stub keeps the words succeeds. -/
theorem enter_of_keeps
    (hready : host.readyToEnter state safepoints isolate frame thread = (ready, bound, some row))
    (hkeeps : StubKeeps host bound frame row thread) :
    host.enterGeneratedToNative state safepoints isolate frame thread =
      ⟨ready, bound, host.entered bound frame row thread, .ok⟩ := by
  unfold TransitionHost.enterGeneratedToNative
  rw [hready]
  dsimp only
  rw [entered_words]
  exact if_neg (not_not.mpr hkeeps)

/-- An enter whose stub does not keep them puts them back, and fails. -/
theorem enter_of_not_keeps
    (hready : host.readyToEnter state safepoints isolate frame thread = (ready, bound, some row))
    (hkeeps : ¬ StubKeeps host bound frame row thread) :
    host.enterGeneratedToNative state safepoints isolate frame thread =
      ⟨ready.markCapabilityFailed kCapabilityGeneratedTransitionLayout, bound,
        ⟨thread.word, true⟩, .vmBridgeUnavailable⟩ := by
  unfold TransitionHost.enterGeneratedToNative
  rw [hready]
  dsimp only
  rw [entered_words]
  refine (if_pos hkeeps).trans ?_
  congr
  apply VmThread.ext
  · refine VmThread.setWords_restore fun offset hexecution hexit hmarker htag => ?_
    simp only [entered, callEnter, VmThread.setWords,
      if_neg hexecution, if_neg hexit, if_neg hmarker, if_neg htag]
  · rfl

/-- An enter that is not ready writes nothing. -/
theorem enter_of_not_ready
    (hready : host.readyToEnter state safepoints isolate frame thread = (ready, bound, none)) :
    host.enterGeneratedToNative state safepoints isolate frame thread =
      ⟨ready, bound, thread, .vmBridgeUnavailable⟩ := by
  unfold TransitionHost.enterGeneratedToNative
  rw [hready]

/-- A native thread of a ready backend, with the stubs of the app, returns to generated code. -/
theorem leave_of_ready (h : Ready ready isolate frame row)
    (hhot : ready.validateHotArtifactBinding bound host.moduleOf = true)
    (hwords : thread.words (host.bridge row) = host.nativeWords frame row) :
    host.leaveNativeToGenerated ready bound isolate frame thread =
      ⟨ready, bound, (host.callExit bound.exitSafepoint row thread).setWords (host.bridge row)
        (host.generatedWords row), .ok⟩ := by
  have hadmits : host.admitsLeave frame thread row = true := by
    unfold admitsLeave
    rw [hwords]
    simp only [nativeWords, BEq.rfl, Bool.and_self]
  have hcrossing : crossingRow ready (host.admitsLeave frame thread) =
      (ready, some row) := by
    unfold crossingRow
    rw [h.row]
    dsimp only
    rw [hadmits]
    rfl
  unfold TransitionHost.leaveNativeToGenerated
  rw [if_neg, hcrossing]
  · dsimp only
    rw [VmThread.words_setWords, if_neg (not_not.mpr rfl)]
  · rw [h.identity, h.held, h.verified, h.healthy, hhot]
    simp only [ne_eq, h.thread, not_true_eq_false, Bool.true_eq_false, Bool.false_eq_true, or_self,
      not_false_eq_true]

/-- A thread in generated code of a ready backend, with the stubs of the app, can become native. -/
theorem reenter_of_ready (h : Ready ready isolate frame row)
    (hframe : frame.syntheticExitFrame = true)
    (hhot : ready.validateHotArtifactBinding bound host.moduleOf = true)
    (hwords : thread.words (host.bridge row) = host.generatedWords row) :
    ∃ stub, (TransitionHost.enterGeneratedToNative { host with enterStub := stub } ready bound
      isolate frame thread).status = .ok := by
  have hverified := h.verified
  rw [transitionCapabilities, BitVec.or_assoc, hasVerified_or, Bool.and_eq_true] at hverified
  have hadmits : host.admitsEnter thread row = true := by
    unfold admitsEnter
    rw [hwords]
    simp only [generatedWords, BEq.rfl, Bool.and_self, Bool.or_true]
  let willing : TransitionHost registry.Row :=
    { host with enterStub := fun _ _ => host.nativeWords frame row }
  have hready : willing.readyToEnter ready bound isolate frame thread =
      (ready, bound, some row) := by
    have hcrossing : crossingRow ready (willing.admitsEnter thread) =
        (ready, some row) := by
      unfold crossingRow
      rw [h.row]
      dsimp only
      rw [show willing.admitsEnter thread row = true from hadmits]
      rfl
    unfold readyToEnter
    dsimp only
    rw [if_neg, if_pos hverified.1, hcrossing]
    rw [h.identity, h.held, h.healthy, hverified.2, hframe,
      show ready.validateHotArtifactBinding bound willing.moduleOf = true from hhot]
    simp only [ne_eq, h.thread, not_true_eq_false, Bool.true_eq_false, Bool.false_eq_true, or_self,
      not_false_eq_true]
  exact ⟨willing.enterStub, congrArg Crossing.status (enter_of_keeps hready rfl)⟩

/-- An enter that fails leaves the four words as they were, and does not leave the thread at the
safepoint; after one that succeeds, the same frame returns to generated code, from where the thread
can become native again. -/
structure CrossesBack (host : TransitionHost registry.Row) (state : FlutterVmState registry)
    (safepoints : SafepointState registry.Row) (isolate : DartPlantIsolateIdentity)
    (frame : GeneratedTransitionFrame) (thread : VmThread) : Prop where
  undone : let entered := host.enterGeneratedToNative state safepoints isolate frame thread
    entered.status ≠ .ok → entered.thread.word = thread.word ∧
      (thread.atSafepoint = false → entered.thread.atSafepoint = false)
  returns : let entered := host.enterGeneratedToNative state safepoints isolate frame thread
    entered.status = .ok → ∃ row,
      entered.state.profileForCapability kCapabilityGeneratedTransitionLayout = some row ∧
      ∀ (calls : List (NativeCall registry)) (native : VmThread),
        native.words (host.bridge row) = entered.thread.words (host.bridge row) →
        let resumed := calls.foldl NativeCall.perform (entered.state, entered.safepoints)
        let left := host.leaveNativeToGenerated resumed.1 resumed.2 isolate frame native
        left.status = .ok ∧ left.thread.words (host.bridge row) = host.generatedWords row ∧
          left.thread.atSafepoint = false ∧
            ∃ stub, (TransitionHost.enterGeneratedToNative { host with enterStub := stub }
              left.state left.safepoints isolate frame left.thread).status = .ok

/-- An enter that gets to its stub finds the stubs of the app in the row it has proven, if the stub
keeps the four words; and if it does not, the thread was at the safepoint before. -/
def CrossesSafely (host : TransitionHost registry.Row) (state : FlutterVmState registry)
    (safepoints : SafepointState registry.Row) (isolate : DartPlantIsolateIdentity)
    (frame : GeneratedTransitionFrame) (thread : VmThread) : Prop :=
  ∀ ready bound row,
    host.readyToEnter state safepoints isolate frame thread = (ready, bound, some row) →
      (StubKeeps host bound frame row thread →
        ready.validateHotArtifactBinding bound host.moduleOf = true) ∧
      (¬ StubKeeps host bound frame row thread → thread.atSafepoint = true)

/-- A failed enter is undone, and a successful one can be returned from, if and only if the stub
keeps the four words or the thread was at the safepoint before, and the stubs are those of the
app. -/
theorem crosses_back_iff (host : TransitionHost registry.Row) (state : FlutterVmState registry)
    (safepoints : SafepointState registry.Row) (isolate : DartPlantIsolateIdentity)
    (frame : GeneratedTransitionFrame) (thread : VmThread) :
    CrossesBack host state safepoints isolate frame thread ↔
      CrossesSafely host state safepoints isolate frame thread := by
  constructor
  · intro h ready bound row hready
    constructor
    · intro hkeeps
      have henter := enter_of_keeps hready hkeeps
      have hreturns := h.returns
      dsimp only at hreturns
      rw [henter] at hreturns
      obtain ⟨row', -, hcalls⟩ := hreturns rfl
      obtain ⟨hleft, -⟩ := hcalls [] _ rfl
      dsimp only [foldl_nil] at hleft
      by_contra hhot
      unfold TransitionHost.leaveNativeToGenerated at hleft
      rw [if_pos] at hleft
      · cases hleft
      · exact Or.inr (Or.inr (Or.inr (Or.inr (Or.inr (Bool.eq_false_of_not_eq_true hhot)))))
    · intro hkeeps
      have hundone := h.undone
      dsimp only at hundone
      rw [enter_of_not_keeps hready hkeeps] at hundone
      by_contra hoff
      cases (hundone nofun).2 (Bool.eq_false_of_not_eq_true hoff)
  · intro h
    obtain ⟨⟨ready, bound, found⟩, hready⟩ : ∃ answer,
      host.readyToEnter state safepoints isolate frame thread = answer := ⟨_, rfl⟩
    cases found with
    | none =>
      have henter := enter_of_not_ready hready
      constructor
      case undone =>
        dsimp only
        rw [henter]
        exact fun _ => ⟨rfl, id⟩
      case returns =>
        dsimp only
        rw [henter]
        nofun
    | some row =>
      obtain ⟨hhot, hat⟩ := h ready bound row hready
      by_cases hkeeps : StubKeeps host bound frame row thread
      · have henter := enter_of_keeps hready hkeeps
        constructor
        case undone =>
          dsimp only
          rw [henter]
          exact fun hfailed => absurd rfl hfailed
        case returns =>
          dsimp only
          rw [henter]
          intro _
          obtain ⟨hstands, hframe, -⟩ := readyToEnter_ready hready
          refine ⟨row, hstands.row, fun calls native hwords => ?_⟩
          have hresumed := NativeCall.run_stands calls (ready, bound)
          have hnative : native.words (host.bridge row) = host.nativeWords frame row :=
            hwords.trans (entered_words.trans hkeeps)
          have hhot' := (hresumed.hotArtifactBinding host.moduleOf).trans (hhot hkeeps)
          have hagain := hstands.resumed hresumed
          rw [leave_of_ready hagain hhot' hnative]
          exact ⟨rfl, VmThread.words_setWords, rfl,
            reenter_of_ready hagain hframe hhot' VmThread.words_setWords⟩
      · have henter := enter_of_not_keeps hready hkeeps
        constructor
        case undone =>
          dsimp only
          rw [henter]
          exact fun _ => ⟨rfl, fun hoff => absurd (hat hkeeps) (Bool.eq_false_iff.mp hoff)⟩
        case returns =>
          dsimp only
          rw [henter]
          nofun

/-- The stubs of the sole row are those of the app, and its enter stub clears the four words. -/
def clearingHost : TransitionHost soleRegistry.Row where
  bridge := fun _ => ⟨8, 16, 24, 32, ⟨7, 1, 2, 0, 3, 4⟩, by decide⟩
  readable := fun _ => true
  moduleOf := fun _ => some ("/data/app/lib/libapp.so", 0x10000)
  enterTag := 0x5000
  enterStub := fun _ _ => ⟨0, 0, 0, 0⟩
  exitStub := fun _ _ => ⟨0, 0, 0, 0⟩

def clearingSafepoints : SafepointState soleRegistry.Row where
  enterSafepoint := 0x11000
  exitSafepoint := 0x12000
  safepointBindings := [⟨soleRow, 0x11000, 0x12000⟩]

/-- A thread in generated code. -/
def generatedThread : VmThread where
  word := fun offset => if offset = 8 then 1 else if offset = 32 then 7 else 0
  atSafepoint := false

/-- The enter fails, and leaves the thread at the safepoint. -/
theorem crosses_not_back :
    let entered := clearingHost.enterGeneratedToNative soleVm.state clearingSafepoints soleIsolate
      ⟨0x9000, 0x7ff0, true⟩ generatedThread
    entered.status = .vmBridgeUnavailable ∧ entered.thread.atSafepoint = true ∧
      ¬ CrossesBack clearingHost soleVm.state clearingSafepoints soleIsolate ⟨0x9000, 0x7ff0, true⟩
        generatedThread := by
  intro entered
  have hstatus : entered.status = .vmBridgeUnavailable := by decide +kernel
  have hat : entered.thread.atSafepoint = true := by decide +kernel
  refine ⟨hstatus, hat, fun h => ?_⟩
  have hoff := (h.undone (by rw [show _ = _ from hstatus]; nofun)).2 rfl
  cases hat.symm.trans hoff

end Crossings

end DartPlant
