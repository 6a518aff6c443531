import DartPlant.Vm.AdapterCalls

/-! # Failed calls of the VM adapter

A call that fails hands nothing out and takes nothing back.  What it can still change is the owner.
The operations that need one take over an adapter that has none before they ask the backend; a live
heap observation that fails, and a proof by a thread that holds nothing, give the adapter back, and
the others keep it: no other thread can use the adapter until somebody resets the owner.

`LeavesOwner` says exactly when a call fails with the adapter taken over.
-/

namespace DartPlant
open DartPlantVmAdapter

/-- Who owns the adapter and what it has handed out are the same. -/
structure SameHoldings (before after : DartPlantVmAdapter) : Prop where
  owner : after.ownerThread = before.ownerThread
  isolateEntered : after.isolateEntered = before.isolateEntered
  entered : after.entered = before.entered
  liveHandles : after.liveHandles = before.liveHandles
  generatedRootLeases : after.generatedRootLeases = before.generatedRootLeases
  generatedNativeTransitions :
    after.generatedNativeTransitions = before.generatedNativeTransitions
  liveHeapObservations : after.liveHeapObservations = before.liveHeapObservations

/-- The call leaves the holdings of the adapter as they were if it fails. -/
def FailsCleanly (profiles : List RuntimeProfileRecord) (world : VmWorld) (thread : ThreadId)
    (call : VmCall) : Prop :=
  (world.perform profiles thread call).2 ≠ .ok () →
    SameHoldings world.adapter (world.perform profiles thread call).1.adapter

/-! ## When a call leaves an owner behind -/

namespace DartPlantVmAdapter
variable (adapter : DartPlantVmAdapter)

/-- The owner check of an attached adapter takes it over. -/
def unowned : Prop := adapter.attached = true ∧ adapter.ownerThread = none

/-- The proof is of another generation than the binding. -/
def changesGeneration (proof : DartPlantVmCapabilityProof) : Prop :=
  adapter.abiBinding.artifactGeneration ≠ 0 ∧
    (adapter.abiBinding.artifactGeneration ≠ proof.artifactGeneration ∨
      adapter.abiBinding.isolateGeneration ≠ proof.isolateGeneration)

/-- The adapter has a proof of the capability with another profile. -/
def contradicts (index : Nat) (kind : DartPlantVmCapabilityEvidenceKind)
    (proof : DartPlantVmCapabilityProof) : Prop :=
  let established := (adapter.abiBinding.capabilities[index]?).getD {}
  established.proof.capability = kind.capability ∧
    established.proof.profileVersion ≠ proof.profileVersion

/-- A proof of the capability, for the isolate that is attached and with a profile that is known,
unless the adapter has another profile for it in the same generation. -/
structure AcceptsProof (profiles : List RuntimeProfileRecord)
    (kind : DartPlantVmCapabilityEvidenceKind) (proof : DartPlantVmCapabilityProof) : Prop where
  target : ¬ (kind = .exceptionBridge ∧ proof.resolvedTarget = nullptr)
  record : ∃ index, capabilityIndex kind.capability = some index ∧
    index < adapter.abiBinding.capabilities.length ∧
    (adapter.changesGeneration proof ∨ ¬ adapter.contradicts index kind proof)
  capability : proof.capability = kind.capability
  version : proof.profileVersion ≠ 0
  artifact : proof.artifactGeneration ≠ 0
  isolate : proof.isolateGeneration = adapter.isolate.generation
  known : ∃ profile ∈ profiles, profile.profileVersion = proof.profileVersion

/-- A transient owner would keep the adapter: something is held that needs an owner. -/
def heldByOwner : Prop :=
  adapter.isolateEntered = true ∨ adapter.entered ≠ 0 ∨ adapter.generatedRootLeases ≠ 0 ∨
    adapter.generatedNativeTransitions ≠ 0

end DartPlantVmAdapter

/-- The call takes the adapter over, fails, and does not give it back. -/
def LeavesOwner (profiles : List RuntimeProfileRecord) (adapter : DartPlantVmAdapter)
    (thread : ThreadId) : VmCall → Prop
  | .enterIsolate status =>
    adapter.unowned ∧ adapter.admissionOpen = true ∧ adapter.entered = 0 ∧
      adapter.isolateEntered = false ∧ adapter.liveHeapObservations = 0 ∧ status ≠ .ok
  -- The first scope takes the adapter from another thread as well.
  | .enterScope status =>
    adapter.ownerThread ≠ some thread ∧ adapter.admitsScope ∧ adapter.entered = 0 ∧ status ≠ .ok
  | .pinGeneratedRoots contended rawValues valueCount status lease =>
    adapter.unowned ∧ ¬ (rawValues = nullptr ∨ valueCount = 0) ∧ contended = false ∧
      adapter.callbacks.generatedRootsAvailable = true ∧
      (adapter.generatedState = false ∨ status ≠ .ok ∨ lease = nullptr)
  | .unpinGeneratedRoots contended rootLease outRawValues valueCount status =>
    adapter.unowned ∧ ¬ (rootLease = nullptr ∨ outRawValues = nullptr ∨ valueCount = 0) ∧
      contended = false ∧ adapter.callbacks.generatedRootsAvailable = true ∧
      adapter.generatedRootLeases ≠ 0 ∧ (adapter.generatedState = false ∨ status ≠ .ok)
  | .enterGeneratedToNative contended frame rootLease status =>
    adapter.unowned ∧
      ¬ (frame.all (fun frame => frame.structSize < kGeneratedTransitionFrameSize) = true ∨
        rootLease = nullptr) ∧
      contended = false ∧ adapter.callbacks.generatedTransitionAvailable = true ∧
      adapter.generatedRootLeases ≠ 0 ∧ (adapter.generatedState = false ∨ status ≠ .ok)
  | .readTypeArgumentsElement contended status _ =>
    adapter.unowned ∧ contended = false ∧
      adapter.callbacks.typeArgumentsElementAvailable = true ∧
      (adapter.generatedState = false ∨ status ≠ .ok)
  | .proveCapability contended kind status proof =>
    adapter.unowned ∧ contended = false ∧ adapter.callbacks.capabilityProofAvailable = true ∧
      adapter.admissionOpen = true ∧
      (adapter.liveHeapObservations ≠ 0 ∨
        (adapter.heldByOwner ∧ (status ≠ .ok ∨ ¬ adapter.AcceptsProof profiles kind proof)))
  | _ => False

/-! ## Steps that fail -/

section Steps
variable {α β : Type} {adapter owned : DartPlantVmAdapter} {thread : ThreadId}
  {status refusal : DartPlantStatus} {message : String}

/-- The operation does not succeed. -/
def Fails (step : Step α) : Prop := ∀ value, step.2 ≠ .ok value

/-- The operation leaves the holdings as they were if it fails. -/
def Clean (adapter : DartPlantVmAdapter) (step : Step α) : Prop :=
  Fails step → SameHoldings adapter step.1

@[simp] theorem fails_refuse : Fails (adapter.refuse refusal message : Step α) := fun _ => nofun

@[simp] theorem fails_backend : Fails ((adapter, .backend status) : Step α) := fun _ => nofun

@[simp] theorem not_fails_ok {value : α} : ¬ Fails ((adapter, .ok value) : Step α) :=
  fun h => h value rfl

theorem fails_guard {c : Prop} [Decidable c] {failed next : Step α} (h : Fails failed) :
    Fails (if c then failed else next) ↔ c ∨ Fails next := by
  by_cases hc : c
  · rw [if_pos hc]
    exact ⟨fun _ => .inl hc, fun _ => h⟩
  · rw [if_neg hc]
    exact ⟨.inr, fun hor => hor.resolve_left hc⟩

theorem SameHoldings.refl (adapter : DartPlantVmAdapter) : SameHoldings adapter adapter :=
  ⟨rfl, rfl, rfl, rfl, rfl, rfl, rfl⟩

theorem SameHoldings.of_held (h : owned.held = adapter.held) : SameHoldings adapter owned :=
  ⟨congrArg VmHeld.owner h, congrArg VmHeld.isolateEntered h, congrArg VmHeld.entered h,
    congrArg VmHeld.handles h, congrArg VmHeld.leases h, congrArg VmHeld.transitions h,
    congrArg VmHeld.observations h⟩

/-- An operation that fails without touching the adapter. -/
theorem clean_same {outcome : VmOutcome α} : Clean adapter ((adapter, outcome) : Step α) :=
  fun _ => .refl adapter

theorem clean_ok {value : α} : Clean adapter ((owned, .ok value) : Step α) :=
  fun h => absurd h not_fails_ok

theorem clean_guard_iff {c : Prop} [Decidable c] {next : Step α} :
    Clean adapter (if c then adapter.refuse refusal message else next) ↔
      c ∨ Clean adapter next := by
  by_cases hc : c
  · rw [if_pos hc]
    exact ⟨fun _ => .inl hc, fun _ => clean_same⟩
  · rw [if_neg hc]
    exact ⟨.inr, fun hor => hor.resolve_left hc⟩

/-- An operation that goes on with an owner, and fails without touching anything else, fails cleanly
unless it took the adapter over. -/
theorem clean_owned_iff {next : DartPlantVmAdapter → Step α}
    (hnext : Fails (next { adapter with ownerThread := some thread }) →
      (next { adapter with ownerThread := some thread }).1 =
        { adapter with ownerThread := some thread }) :
    Clean adapter (andThen (adapter.checkAttachedOwner thread) next) ↔
      ¬ (adapter.unowned ∧ Fails (next { adapter with ownerThread := some thread })) := by
  unfold checkAttachedOwner
  split
  next hattached =>
    refine ⟨fun _ ⟨⟨hunattached, _⟩, _⟩ => ?_, fun _ => clean_same⟩
    rw [hattached] at hunattached
    cases hunattached
  next hattached =>
    split
    next hother => exact ⟨fun _ ⟨⟨_, hnone⟩, _⟩ => hother.1 hnone, fun _ => clean_same⟩
    next howner =>
      dsimp only [andThen]
      constructor
      · intro hclean ⟨⟨_, hnone⟩, hfails⟩
        have hkept := (hclean hfails).owner
        rw [hnext hfails, hnone] at hkept
        cases hkept
      · intro hnot hfails
        have hnone : adapter.ownerThread ≠ none := fun hnone =>
          hnot ⟨⟨Bool.eq_true_of_not_eq_false hattached, hnone⟩, hfails⟩
        have hself : adapter.ownerThread = some thread :=
          by_contra fun hne => howner ⟨hnone, hne⟩
        rw [hnext hfails]
        exact ⟨hself.symm, rfl, rfl, rfl, rfl, rfl, rfl⟩

end Steps

/-! ## The operations that fail cleanly -/

section Clean
variable {adapter : DartPlantVmAdapter} {thread : ThreadId} {status : DartPlantStatus}

theorem attachIsolate_clean {isolate : DartPlantIsolateIdentity} :
    Clean adapter (adapter.attachIsolate isolate) := by
  unfold attachIsolate
  exact clean_guard_iff.mpr (.inr (clean_guard_iff.mpr (.inr clean_ok)))

theorem detachIsolate_clean {isolate : DartPlantIsolateIdentity} :
    Clean adapter (adapter.detachIsolate isolate) := by
  unfold detachIsolate
  exact clean_guard_iff.mpr (.inr (clean_guard_iff.mpr (.inr clean_ok)))

theorem leaveIsolate_clean : Clean adapter (adapter.leaveIsolate thread status) := by
  unfold leaveIsolate
  split
  · exact clean_same
  split
  · exact clean_same
  · exact clean_ok

theorem leaveScope_clean : Clean adapter (adapter.leaveScope thread status) := by
  unfold leaveScope
  split
  · exact clean_same
  split
  · exact clean_same
  · exact clean_ok

theorem generatedRootGet_clean {rootLease : Address} {raw : BitVec 64} :
    Clean adapter (adapter.generatedRootGet thread rootLease status raw) := by
  unfold DartPlantVmAdapter.generatedRootGet
  split
  · exact clean_same
  split
  · exact clean_same
  split
  · exact clean_same
  split
  · exact clean_same
  · exact clean_ok

theorem generatedRootSet_clean {rootLease : Address} :
    Clean adapter (adapter.generatedRootSet thread rootLease status) := by
  unfold DartPlantVmAdapter.generatedRootSet
  split
  · exact clean_same
  split
  · exact clean_same
  split
  · exact clean_same
  split
  · exact clean_same
  · exact clean_ok

theorem leaveNativeToGenerated_clean {frame : Option GeneratedTransitionFrame}
    {rootLease : Address} :
    Clean adapter (adapter.leaveNativeToGenerated thread frame rootLease status) := by
  unfold leaveNativeToGenerated
  split
  · exact clean_same
  split
  · exact clean_same
  split
  · exact clean_same
  split
  · exact clean_same
  split
  · exact clean_same
  split
  · exact clean_same
  · exact clean_ok

/-- A begin that fails gives the adapter back. -/
theorem beginLiveHeapObservation_clean {vmThread : BitVec 64} {lease : Address} :
    Clean adapter (adapter.beginLiveHeapObservation thread vmThread status lease) := by
  unfold beginLiveHeapObservation
  split
  · exact clean_same
  split
  · exact clean_same
  split
  · exact clean_same
  split
  · exact clean_same
  split
  · exact clean_same
  split
  · exact clean_same
  split
  · exact clean_same
  · exact clean_ok

theorem endLiveHeapObservation_clean {lease : Address} :
    Clean adapter (adapter.endLiveHeapObservation thread lease status) := by
  unfold endLiveHeapObservation
  split
  · exact clean_same
  split
  · exact clean_same
  split
  · exact clean_same
  · exact clean_ok

theorem readActiveObject_clean {raw : BitVec 64} :
    Clean adapter (adapter.readActiveObject thread status raw) := by
  unfold readActiveObject
  split
  · exact clean_same
  split
  · exact clean_same
  split
  · exact clean_same
  split
  · exact clean_same
  split
  · exact clean_same
  · exact clean_ok

theorem retainObject_clean {retained classified : DartPlantStatus} {backendHandle : Address} :
    Clean adapter (adapter.retainObject thread retained backendHandle classified) := by
  unfold retainObject
  split
  · exact clean_same
  split
  · exact clean_same
  split
  · exact clean_same
  split
  · exact clean_same
  split
  · exact clean_same
  · exact clean_ok

theorem releaseObject_clean {handle : DartPlantObjectHandle} :
    Clean adapter (adapter.releaseObject handle status) := by
  unfold releaseObject
  split
  · exact clean_same
  split
  · exact clean_same
  split
  · exact clean_same
  · exact clean_ok

theorem readObject_clean {handle : DartPlantObjectHandle} {raw : BitVec 64} :
    Clean adapter (adapter.readObject thread handle status raw) := by
  unfold readObject
  split
  · exact clean_same
  split
  · exact clean_same
  split
  · exact clean_same
  split
  · exact clean_same
  · exact clean_ok

end Clean

/-! ## The operations that take the adapter over -/

section Owned
variable {adapter : DartPlantVmAdapter} {thread : ThreadId} {status : DartPlantStatus}
  {contended : Bool}

theorem enterIsolate_clean_iff : Clean adapter (adapter.enterIsolate thread status) ↔
    ¬ (adapter.unowned ∧ adapter.admissionOpen = true ∧ adapter.entered = 0 ∧
      adapter.isolateEntered = false ∧ adapter.liveHeapObservations = 0 ∧ status ≠ .ok) := by
  unfold enterIsolate
  rw [clean_guard_iff, clean_guard_iff, clean_guard_iff, clean_guard_iff]
  have htaken : Clean adapter (if status ≠ .ok then
        ({ adapter with ownerThread := some thread }, VmOutcome.backend status)
      else ({ adapter with ownerThread := some thread, isolateEntered := true }, .ok ())) ↔
      status = .ok ∨ adapter.ownerThread = some thread := by
    by_cases hstatus : status = .ok
    · rw [if_neg (not_not.mpr hstatus)]
      exact ⟨fun _ => .inl hstatus, fun _ => clean_ok⟩
    · rw [if_pos hstatus]
      constructor
      · intro h
        exact .inr (h fun _ => nofun).owner.symm
      · intro h _
        exact ⟨(h.resolve_left hstatus).symm, rfl, rfl, rfl, rfl, rfl, rfl⟩
  rw [htaken, unowned]
  grind

/-- `dartplant_vm_enter_scope` takes the adapter over whoever owns it. -/
theorem enterScope_clean_iff : Clean adapter (adapter.enterScope thread status) ↔
    ¬ (adapter.ownerThread ≠ some thread ∧ adapter.admitsScope ∧ adapter.entered = 0 ∧
      status ≠ .ok) := by
  unfold enterScope
  rw [clean_guard_iff, clean_guard_iff, clean_guard_iff, clean_guard_iff]
  by_cases hentered : adapter.entered = 0
  · rw [if_pos hentered]
    by_cases hstatus : status = .ok
    · rw [if_neg (not_not.mpr hstatus)]
      have hclean : Clean adapter (({ adapter with
          ownerThread := some thread, entered := adapter.entered + 1 }, .ok ()) : Step Unit) :=
        clean_ok
      simp only [hclean, hstatus, or_true, ne_eq, not_true_eq_false, and_false, not_false_eq_true]
    · rw [if_pos hstatus]
      have htaken : Clean adapter
            (({ adapter with ownerThread := some thread }, .backend status) : Step Unit) ↔
          adapter.ownerThread = some thread := by
        constructor
        · intro h
          exact (h fun _ => nofun).owner.symm
        · intro h _
          exact ⟨h.symm, rfl, rfl, rfl, rfl, rfl, rfl⟩
      rw [htaken, admitsScope]
      grind
  · rw [if_neg hentered]
    have hclean : Clean adapter (if status ≠ .ok then (adapter, VmOutcome.backend status)
        else ({ adapter with entered := adapter.entered + 1 }, .ok ())) := by
      split
      · exact clean_same
      · exact clean_ok
    simp only [hclean, hentered, or_true, false_and, and_false, not_false_eq_true]

/-- Generated state is not a matter of the owner. -/
theorem generatedState_owned :
    generatedState { adapter with ownerThread := some thread } = adapter.generatedState := rfl

theorem pinGeneratedRoots_clean_iff {rawValues lease : Address} {valueCount : BitVec 32} :
    Clean adapter
        (adapter.pinGeneratedRoots contended thread rawValues valueCount status lease) ↔
      ¬ (adapter.unowned ∧ ¬ (rawValues = nullptr ∨ valueCount = 0) ∧ contended = false ∧
        adapter.callbacks.generatedRootsAvailable = true ∧
        (adapter.generatedState = false ∨ status ≠ .ok ∨ lease = nullptr)) := by
  unfold pinGeneratedRoots
  rw [clean_guard_iff, clean_guard_iff, clean_guard_iff, clean_owned_iff]
  · rw [fails_guard fails_refuse, fails_guard fails_backend, fails_guard fails_refuse,
      generatedState_owned]
    simp only [not_fails_ok, or_false]
    grind
  · dsimp only
    split
    · exact fun _ => rfl
    split
    · exact fun _ => rfl
    split
    · exact fun _ => rfl
    · exact fun h => absurd h not_fails_ok

theorem unpinGeneratedRoots_clean_iff {rootLease outRawValues : Address}
    {valueCount : BitVec 32} :
    Clean adapter
        (adapter.unpinGeneratedRoots contended thread rootLease outRawValues valueCount status) ↔
      ¬ (adapter.unowned ∧ ¬ (rootLease = nullptr ∨ outRawValues = nullptr ∨ valueCount = 0) ∧
        contended = false ∧ adapter.callbacks.generatedRootsAvailable = true ∧
        adapter.generatedRootLeases ≠ 0 ∧ (adapter.generatedState = false ∨ status ≠ .ok)) := by
  unfold unpinGeneratedRoots
  rw [clean_guard_iff, clean_guard_iff, clean_guard_iff, clean_owned_iff]
  · rw [fails_guard fails_refuse, fails_guard fails_backend, generatedState_owned]
    simp only [not_fails_ok, or_false]
    grind
  · dsimp only
    split
    · exact fun _ => rfl
    split
    · exact fun _ => rfl
    · exact fun h => absurd h not_fails_ok

theorem enterGeneratedToNative_clean_iff {frame : Option GeneratedTransitionFrame}
    {rootLease : Address} :
    Clean adapter (adapter.enterGeneratedToNative contended thread frame rootLease status) ↔
      ¬ (adapter.unowned ∧
        ¬ (frame.all (fun frame => frame.structSize < kGeneratedTransitionFrameSize) = true ∨
          rootLease = nullptr) ∧
        contended = false ∧ adapter.callbacks.generatedTransitionAvailable = true ∧
        adapter.generatedRootLeases ≠ 0 ∧ (adapter.generatedState = false ∨ status ≠ .ok)) := by
  unfold enterGeneratedToNative
  rw [clean_guard_iff, clean_guard_iff, clean_guard_iff, clean_owned_iff]
  · rw [fails_guard fails_refuse, fails_guard fails_backend, generatedState_owned]
    simp only [not_fails_ok, or_false]
    grind
  · dsimp only
    split
    · exact fun _ => rfl
    split
    · exact fun _ => rfl
    · exact fun h => absurd h not_fails_ok

theorem readTypeArgumentsElement_clean_iff {raw : BitVec 64} :
    Clean adapter (adapter.readTypeArgumentsElement contended thread status raw) ↔
      ¬ (adapter.unowned ∧ contended = false ∧
        adapter.callbacks.typeArgumentsElementAvailable = true ∧
        (adapter.generatedState = false ∨ status ≠ .ok)) := by
  unfold readTypeArgumentsElement
  rw [clean_guard_iff, clean_guard_iff, clean_owned_iff]
  · rw [fails_guard fails_refuse, fails_guard fails_backend, generatedState_owned]
    simp only [not_fails_ok, or_false]
    grind
  · split
    · exact fun _ => rfl
    split
    · exact fun _ => rfl
    · exact fun h => absurd h not_fails_ok

end Owned

/-! ## Capability proofs -/

section Proofs
variable {adapter : DartPlantVmAdapter} {thread : ThreadId} {status : DartPlantStatus}
  {contended : Bool} {profiles : List RuntimeProfileRecord}
  {kind : DartPlantVmCapabilityEvidenceKind} {proof : DartPlantVmCapabilityProof}

theorem capability_ne_none : kind.capability ≠ kCapabilityNone := by
  cases kind <;> decide

/-- A binding that is reset contradicts nothing. -/
theorem not_contradicts_reset (index : Nat) :
    ¬ adapter.resetAbiBinding.contradicts index kind proof := by
  intro ⟨hcapability, _⟩
  have hreset : (adapter.resetAbiBinding.abiBinding.capabilities[index]?).getD {} =
      ({} : VmAbiCapabilityBinding) := by
    simp only [resetAbiBinding, List.getElem?_map]
    cases adapter.abiBinding.capabilities[index]? with
    | none => rfl
    | some entry => rfl
  rw [hreset] at hcapability
  exact capability_ne_none hcapability.symm

theorem recordProof_fails_iff :
    Fails (adapter.recordProof profiles kind proof) ↔
      ¬ adapter.AcceptsProof profiles kind proof := by
  unfold recordProof
  split
  next htarget => exact ⟨fun _ h => h.target htarget, fun _ => fails_refuse⟩
  next htarget =>
    split
    next hnone =>
      refine ⟨fun _ h => ?_, fun _ => fails_refuse⟩
      obtain ⟨index, hindex, -⟩ := h.record
      rw [hnone] at hindex
      cases hindex
    next index hindex =>
      split
      next hinvalid =>
        refine ⟨fun _ h => ?_, fun _ => fails_refuse⟩
        obtain ⟨index', hindex', hlength, -⟩ := h.record
        obtain rfl : index = index' := Option.some.inj (hindex.symm.trans hindex')
        rcases hinvalid with h' | h' | h' | h' | h'
        · exact absurd hlength (Nat.not_lt.mpr h')
        · exact h' h.capability
        · exact h.version h'
        · exact h.artifact h'
        · exact h' h.isolate
      next hvalid =>
        simp only [not_or, ge_iff_le, Nat.not_le, ne_eq, not_not] at hvalid
        obtain ⟨hlength, hcapability, hversion, hartifact, hisolate⟩ := hvalid
        split
        next hunknown =>
          refine ⟨fun _ h => ?_, fun _ => fails_refuse⟩
          obtain ⟨profile, hprofile, hsame⟩ := h.known
          rw [List.find?_eq_none] at hunknown
          exact hunknown profile hprofile (beq_iff_eq.mpr hsame)
        next profile hknown =>
          have hsame := List.find?_some hknown
          have hfound : ∃ profile ∈ profiles, profile.profileVersion = proof.profileVersion :=
            ⟨profile, List.mem_of_find?_eq_some hknown, beq_iff_eq.mp hsame⟩
          have haccepts (hrecord : adapter.changesGeneration proof ∨
              ¬ adapter.contradicts index kind proof) :
              adapter.AcceptsProof profiles kind proof :=
            ⟨htarget, ⟨index, hindex, hlength, hrecord⟩, hcapability, hversion, hartifact,
              hisolate, hfound⟩
          -- The binding the proof is recorded in, reset or not.
          have hrecords (binding : DartPlantVmAdapter) (bound refused : VmAbiBindingState) :
              Fails (if ((binding.abiBinding.capabilities[index]?).getD {}).proof.capability =
                    kind.capability ∧
                  ((binding.abiBinding.capabilities[index]?).getD {}).proof.profileVersion ≠
                    proof.profileVersion then
                DartPlantVmAdapter.refuse { binding with abiBinding := refused } .profileMismatch
                  "VM capability proof changed profile within one generation"
                else ({ binding with abiBinding := bound }, .ok proof)) ↔
              binding.contradicts index kind proof := by
            rw [fails_guard fails_refuse]
            simp only [not_fails_ok, or_false, contradicts]
          have haccepts_iff : adapter.AcceptsProof profiles kind proof ↔
              adapter.changesGeneration proof ∨ ¬ adapter.contradicts index kind proof := by
            refine ⟨fun h => ?_, haccepts⟩
            obtain ⟨index', hindex', -, hrecord⟩ := h.record
            obtain rfl : index = index' := Option.some.inj (hindex.symm.trans hindex')
            exact hrecord
          rw [haccepts_iff, not_or, not_not]
          by_cases hchanges : adapter.changesGeneration proof
          · have hreset := hchanges
            rw [changesGeneration] at hreset
            simp only [if_pos hreset, hchanges, not_true_eq_false, false_and, iff_false]
            exact fun h => not_contradicts_reset index ((hrecords _ _ _).mp h)
          · have hkept := hchanges
            rw [changesGeneration] at hkept
            simp only [if_neg hkept, hchanges, not_false_eq_true, true_and]
            exact hrecords _ _ _

/-- Who owns the adapter does not matter for a proof. -/
theorem acceptsProof_owned (owner : Option ThreadId) :
    AcceptsProof { adapter with ownerThread := owner } profiles kind proof ↔
      adapter.AcceptsProof profiles kind proof :=
  ⟨fun h => ⟨h.target, h.record, h.capability, h.version, h.artifact, h.isolate, h.known⟩,
    fun h => ⟨h.target, h.record, h.capability, h.version, h.artifact, h.isolate, h.known⟩⟩

/-- The backend's answer moves the binding only, so it fails cleanly when the owner is who it was. -/
theorem answer_clean_iff (owner : Option ThreadId) :
    Clean adapter (if status ≠ .ok then ({ adapter with ownerThread := owner }, .backend status)
      else recordProof { adapter with ownerThread := owner } profiles kind proof) ↔
    adapter.ownerThread = owner ∨
      ¬ (status ≠ .ok ∨ ¬ adapter.AcceptsProof profiles kind proof) := by
  have hheld : (if status ≠ .ok then ({ adapter with ownerThread := owner }, .backend status)
      else recordProof { adapter with ownerThread := owner } profiles kind proof).1.held =
        held { adapter with ownerThread := owner } := by
    split
    · rfl
    · exact recordProof_held
  have hfails : Fails (if status ≠ .ok then
        ({ adapter with ownerThread := owner }, .backend status)
      else recordProof { adapter with ownerThread := owner } profiles kind proof) ↔
        status ≠ .ok ∨ ¬ adapter.AcceptsProof profiles kind proof := by
    rw [fails_guard fails_backend, recordProof_fails_iff, acceptsProof_owned]
  rw [Clean, hfails]
  constructor
  · intro hclean
    by_cases hfailed : status ≠ .ok ∨ ¬ adapter.AcceptsProof profiles kind proof
    · exact .inl ((hclean hfailed).owner.symm.trans (congrArg VmHeld.owner hheld))
    · exact .inr hfailed
  · intro hkept hfailed
    have howner := hkept.resolve_right (not_not.mpr hfailed)
    refine .of_held (hheld.trans ?_)
    rw [← howner]

theorem releaseTransientOwner_of_held (owner : Option ThreadId) (hheld : adapter.heldByOwner) :
    releaseTransientOwner { adapter with ownerThread := owner } true =
      { adapter with ownerThread := owner } := by
  refine if_neg fun ⟨_, hisolate, hentered, hleases, htransitions⟩ => ?_
  rcases hheld with h | h | h | h
  · exact Bool.noConfusion (h.symm.trans hisolate)
  · exact h hentered
  · exact h hleases
  · exact h htransitions

theorem releaseTransientOwner_of_not_held (owner : Option ThreadId)
    (hheld : ¬ adapter.heldByOwner) :
    releaseTransientOwner { adapter with ownerThread := owner } true =
      { adapter with ownerThread := none } := by
  simp only [heldByOwner, not_or, Bool.not_eq_true, ne_eq, not_not] at hheld
  obtain ⟨hisolate, hentered, hleases, htransitions⟩ := hheld
  exact if_pos ⟨rfl, hisolate, hentered, hleases, htransitions⟩

theorem proveCapability_clean_iff :
    Clean adapter (adapter.proveCapability profiles contended thread kind status proof) ↔
      ¬ (adapter.unowned ∧ contended = false ∧
        adapter.callbacks.capabilityProofAvailable = true ∧ adapter.admissionOpen = true ∧
        (adapter.liveHeapObservations ≠ 0 ∨
          (adapter.heldByOwner ∧
            (status ≠ .ok ∨ ¬ adapter.AcceptsProof profiles kind proof)))) := by
  unfold proveCapability beginProof
  split
  next hcontended =>
    refine ⟨fun _ ⟨_, hfree, _⟩ => ?_, fun _ => clean_same⟩
    exact Bool.noConfusion (hcontended.symm.trans hfree)
  next hcontended =>
  split
  next hunavailable =>
    refine ⟨fun _ ⟨_, _, havailable, _⟩ => ?_, fun _ => clean_same⟩
    exact Bool.noConfusion (hunavailable.symm.trans havailable)
  next havailable =>
  split
  next hclosed =>
    refine ⟨fun _ ⟨_, _, _, hopen, _⟩ => ?_, fun _ => clean_same⟩
    exact Bool.noConfusion (hclosed.symm.trans hopen)
  next hopen =>
  rw [andThen_assoc]
  unfold checkAttachedOwner
  split
  next hattached =>
    refine ⟨fun _ ⟨⟨hunattached, _⟩, _⟩ => ?_, fun _ => clean_same⟩
    exact Bool.noConfusion (hattached.symm.trans hunattached)
  next hattached =>
  split
  next hother => exact ⟨fun _ ⟨⟨_, hnone⟩, _⟩ => hother.1 hnone, fun _ => clean_same⟩
  next howner =>
  dsimp only [andThen]
  by_cases hnone : adapter.ownerThread = none
  · have hguards (reason : Prop) : (adapter.unowned ∧ contended = false ∧
        adapter.callbacks.capabilityProofAvailable = true ∧ adapter.admissionOpen = true ∧
        reason) ↔ reason :=
      ⟨fun h => h.2.2.2.2, fun h => ⟨⟨Bool.eq_true_of_not_eq_false hattached, hnone⟩,
        Bool.eq_false_of_not_eq_true hcontended, Bool.eq_true_of_not_eq_false havailable,
        Bool.eq_true_of_not_eq_false hopen, h⟩⟩
    have htransient : adapter.ownerThread.isNone = true := Option.isNone_iff_eq_none.mpr hnone
    rw [hguards]
    by_cases hobserved : adapter.liveHeapObservations = 0
    · rw [if_neg (not_not.mpr hobserved)]
      dsimp only
      rw [htransient]
      by_cases hheld : adapter.heldByOwner
      · rw [releaseTransientOwner_of_held _ hheld, answer_clean_iff, hnone]
        simp only [hobserved, hheld, reduceCtorEq, false_or, ne_eq, not_true_eq_false, true_and]
      · rw [releaseTransientOwner_of_not_held _ hheld, answer_clean_iff]
        simp only [hobserved, hheld, hnone, true_or, ne_eq, not_true_eq_false, false_and, or_self,
          not_false_eq_true]
    · -- The adapter is taken over before the observation is seen.
      rw [if_pos hobserved]
      refine ⟨fun hclean => ?_, fun h => absurd (.inl hobserved) h⟩
      have hkept := (hclean fun _ => nofun).owner
      rw [hnone] at hkept
      cases hkept
  · have hself : adapter.ownerThread = some thread := by_contra fun hne => howner ⟨hnone, hne⟩
    have howned : { adapter with ownerThread := some thread } = adapter := by
      rw [← hself]
    refine ⟨fun _ ⟨⟨_, h⟩, _⟩ => hnone h, fun _ => ?_⟩
    by_cases hobserved : adapter.liveHeapObservations = 0
    · rw [if_neg (not_not.mpr hobserved)]
      dsimp only
      have hstays : releaseTransientOwner { adapter with ownerThread := some thread }
          adapter.ownerThread.isNone = { adapter with ownerThread := some thread } := by
        rw [hself]
        exact if_neg fun h => Bool.noConfusion h.1
      rw [hstays, answer_clean_iff]
      exact .inl hself
    · rw [if_pos hobserved, howned]
      exact clean_same

end Proofs

/-! ## Calls -/

section Calls
variable {profiles : List RuntimeProfileRecord} {world : VmWorld} {thread : ThreadId}

theorem settle_clean_iff {α : Type} (deed : Option VmDeed) (step : Step α) :
    ((world.settle deed step).2 ≠ .ok () →
        SameHoldings world.adapter (world.settle deed step).1.adapter) ↔
      Clean world.adapter step := by
  obtain ⟨adapter, outcome⟩ := step
  cases outcome with
  | ok value => exact ⟨fun _ => clean_ok, fun _ hfailed => absurd rfl hfailed⟩
  | refused failure => exact ⟨fun h _ => h nofun, fun h _ => h fun _ => nofun⟩
  | backend status => exact ⟨fun h _ => h nofun, fun h _ => h fun _ => nofun⟩

theorem retainObject_failsCleanly {retained classified : DartPlantStatus}
    {backendHandle : Address} :
    FailsCleanly profiles world thread (.retainObject retained backendHandle classified) := by
  have hclean : Clean world.adapter
      (world.adapter.retainObject thread retained backendHandle classified) := retainObject_clean
  unfold FailsCleanly VmWorld.perform VmWorld.retainObject
  dsimp only
  generalize world.adapter.retainObject thread retained backendHandle classified = step
    at hclean ⊢
  obtain ⟨adapter, outcome⟩ := step
  cases outcome with
  | ok handle => exact fun hfailed => absurd rfl hfailed
  | refused failure => exact fun _ => hclean fun _ => nofun
  | backend status => exact fun _ => hclean fun _ => nofun

theorem releaseObject_failsCleanly {index : Nat} {status : DartPlantStatus} :
    FailsCleanly profiles world thread (.releaseObject index status) := by
  unfold FailsCleanly VmWorld.perform VmWorld.releaseObject
  dsimp only
  cases world.handles[index]? with
  | none => exact fun _ => .refl _
  | some handle =>
    dsimp only
    have hclean : Clean world.adapter (world.adapter.releaseObject handle status) :=
      releaseObject_clean
    generalize world.adapter.releaseObject handle status = step at hclean ⊢
    obtain ⟨adapter, outcome⟩ := step
    cases outcome with
    | ok released => exact fun hfailed => absurd rfl hfailed
    | refused failure => exact fun _ => hclean fun _ => nofun
    | backend status => exact fun _ => hclean fun _ => nofun

theorem readObject_failsCleanly {index : Nat} {status : DartPlantStatus} {raw : BitVec 64} :
    FailsCleanly profiles world thread (.readObject index status raw) := by
  unfold FailsCleanly VmWorld.perform
  dsimp only
  cases world.handles[index]? with
  | none => exact fun _ => .refl _
  | some handle => exact (settle_clean_iff _ _).mpr readObject_clean

/-- A call that fails leaves the holdings as they were, unless it leaves an owner behind. -/
theorem failed_call_clean_iff (profiles : List RuntimeProfileRecord) (world : VmWorld)
    (thread : ThreadId) (call : VmCall) :
    FailsCleanly profiles world thread call ↔
      ¬ LeavesOwner profiles world.adapter thread call := by
  cases call with
  | enterIsolate status => exact (settle_clean_iff _ _).trans enterIsolate_clean_iff
  | enterScope status => exact (settle_clean_iff _ _).trans enterScope_clean_iff
  | pinGeneratedRoots contended rawValues valueCount status lease =>
    exact (settle_clean_iff _ _).trans pinGeneratedRoots_clean_iff
  | unpinGeneratedRoots contended rootLease outRawValues valueCount status =>
    exact (settle_clean_iff _ _).trans unpinGeneratedRoots_clean_iff
  | enterGeneratedToNative contended frame rootLease status =>
    exact (settle_clean_iff _ _).trans enterGeneratedToNative_clean_iff
  | readTypeArgumentsElement contended status raw =>
    exact (settle_clean_iff _ _).trans readTypeArgumentsElement_clean_iff
  | proveCapability contended kind status proof =>
    exact (settle_clean_iff _ _).trans proveCapability_clean_iff
  -- The other calls never touch the owner when they fail.
  | attachIsolate isolate =>
    exact iff_of_true ((settle_clean_iff _ _).mpr attachIsolate_clean) not_false
  | detachIsolate isolate =>
    exact iff_of_true ((settle_clean_iff _ _).mpr detachIsolate_clean) not_false
  | leaveIsolate status =>
    exact iff_of_true ((settle_clean_iff _ _).mpr leaveIsolate_clean) not_false
  | leaveScope status =>
    exact iff_of_true ((settle_clean_iff _ _).mpr leaveScope_clean) not_false
  | generatedRootGet rootLease status raw =>
    exact iff_of_true ((settle_clean_iff _ _).mpr generatedRootGet_clean) not_false
  | generatedRootSet rootLease status =>
    exact iff_of_true ((settle_clean_iff _ _).mpr generatedRootSet_clean) not_false
  | leaveNativeToGenerated frame rootLease status =>
    exact iff_of_true ((settle_clean_iff _ _).mpr leaveNativeToGenerated_clean) not_false
  | beginLiveHeapObservation vmThread status lease =>
    exact iff_of_true ((settle_clean_iff _ _).mpr beginLiveHeapObservation_clean) not_false
  | endLiveHeapObservation lease status =>
    exact iff_of_true ((settle_clean_iff _ _).mpr endLiveHeapObservation_clean) not_false
  | readActiveObject status raw =>
    exact iff_of_true ((settle_clean_iff _ _).mpr readActiveObject_clean) not_false
  | retainObject retained backendHandle classified =>
    exact iff_of_true retainObject_failsCleanly not_false
  | releaseObject handle status => exact iff_of_true releaseObject_failsCleanly not_false
  | readObject handle status raw => exact iff_of_true readObject_failsCleanly not_false
  | getCapabilityBinding capability =>
    exact iff_of_true ((settle_clean_iff _ _).mpr clean_same) not_false
  | checkQuiescent => exact iff_of_true ((settle_clean_iff _ _).mpr clean_same) not_false
  | destroy => exact iff_of_true ((settle_clean_iff _ _).mpr clean_same) not_false
  | invalidateAbiBinding => exact iff_of_true ((settle_clean_iff _ _).mpr clean_ok) not_false
  | retainHook => exact iff_of_true ((settle_clean_iff _ _).mpr clean_ok) not_false
  | releaseHook => exact iff_of_true ((settle_clean_iff _ _).mpr clean_ok) not_false
  | closeAdmission => exact iff_of_true ((settle_clean_iff _ _).mpr clean_ok) not_false
  | openAdmission => exact iff_of_true ((settle_clean_iff _ _).mpr clean_ok) not_false

/-- An attached adapter that nobody owns. -/
def attachedWorld : VmWorld where
  adapter := { callbacks := completeCallbacks, isolate := ⟨0x10, 0x20, 1⟩, attached := true }

/-- Thread 7 fails to enter the isolate and owns the adapter from then on: thread 8 is refused. -/
theorem failed_entry_locks_out :
    (attachedWorld.perform [] 7 (.enterIsolate .vmBridgeUnavailable)).2 =
        .backend .vmBridgeUnavailable ∧
      ¬ FailsCleanly [] attachedWorld 7 (.enterIsolate .vmBridgeUnavailable) ∧
      ((attachedWorld.perform [] 7 (.enterIsolate .vmBridgeUnavailable)).1.perform [] 8
        (.enterIsolate .ok)).2.status = .vmThreadMismatch := by
  refine ⟨rfl, fun hclean => ?_, rfl⟩
  have hkept := (hclean nofun).owner
  cases hkept

end Calls

end DartPlant
