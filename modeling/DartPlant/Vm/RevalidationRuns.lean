import DartPlant.Vm.Revalidation

/-! # Revalidation along a run

Whatever an adapter does, it stays the adapter of its creation: the same identity, thread, artifacts,
mask and rows.  Only a revalidation can let another of its rows stand for them.

So a revalidation in the process of the creation makes of the adapter what creation made, when the
rows that pass agree on the roots, the row of the creation still stands for them and has both stubs,
and nothing is marked failed that a revalidation does not mark verified.  A withdrawal resets what is
in the mask, so what remains then is a proof that failed outside of it.
-/

namespace DartPlant
open Runs FlutterVmState CapabilityBindingSet List

/-! ## What an operation leaves of an adapter -/

section Adapter
variable {registry : ProfileRegistry} {state after : FlutterVmState registry}
  {capability : VmCapability} {safepoints : SafepointState registry.Row}
  {isolate : DartPlantIsolateIdentity}

/-- The two states are of one adapter, whose rows are stood for by one of them. -/
structure SameAdapter (state after : FlutterVmState registry) : Prop where
  identity : after.identity = state.identity
  thread : after.thread = state.thread
  artifacts : after.artifacts = state.artifacts
  capabilities : after.capabilities = state.capabilities
  profiles : after.abiCandidates.profiles = state.abiCandidates.profiles
  stands : after.abiCandidates = state.abiCandidates ∨
    ∃ row ∈ state.abiCandidates.profiles, after.abiCandidates.representative = some row

theorem SameAdapter.refl (state : FlutterVmState registry) : SameAdapter state state :=
  ⟨rfl, rfl, rfl, rfl, rfl, .inl rfl⟩

theorem SameAdapter.trans {last : FlutterVmState registry} (h : SameAdapter state after)
    (h' : SameAdapter after last) : SameAdapter state last where
  identity := h'.identity.trans h.identity
  thread := h'.thread.trans h.thread
  artifacts := h'.artifacts.trans h.artifacts
  capabilities := h'.capabilities.trans h.capabilities
  profiles := h'.profiles.trans h.profiles
  stands := by
    rcases h'.stands with hkept | ⟨row, hrow, hstands⟩
    · rw [hkept]
      exact h.stands
    · exact .inr ⟨row, h.profiles ▸ hrow, hstands⟩

theorem SameAdapter.of_same (h : SameIncarnation state after)
    (hcandidates : after.abiCandidates = state.abiCandidates) : SameAdapter state after :=
  ⟨h.identity, h.thread, h.artifacts, h.capabilities, h.profiles, .inl hcandidates⟩

theorem proveRows_candidates {passes : registry.Row → Bool}
    {agrees : FlutterVmState registry → registry.Row → Bool} :
    (state.proveRows capability passes agrees).1.abiCandidates = state.abiCandidates := by
  unfold proveRows
  dsimp only
  split
  · split
    · rfl
    · rfl
  split
  · split
    · rfl
    · rfl
  · rfl

theorem proveEvidence_candidates {evidence : DartPlantVmCapabilityEvidence}
    {reading : EvidenceReading registry.Row} :
    (state.proveEvidence evidence reading).1.abiCandidates = state.abiCandidates := by
  cases hreceipt : evidence.observationReceipt || evidence.semanticReceipt with
  | false =>
    rw [proveEvidence_rows state evidence reading hreceipt]
    split
    · rfl
    · exact proveRows_candidates
  | true =>
    unfold proveEvidence
    rw [if_pos hreceipt]
    unfold proveReceipt
    dsimp only
    split
    · rfl
    split
    · rfl
    split
    · rfl
    · rfl

theorem resolveCapabilityProfile_candidates {passes : registry.Row → Bool} :
    (state.resolveCapabilityProfile capability passes).1.abiCandidates = state.abiCandidates := by
  unfold resolveCapabilityProfile
  dsimp only
  split
  · split
    · rfl
    · rfl
  split
  · rfl
  · rfl

theorem proveTransitionCapability_candidates {passes confirms : registry.Row → Bool} :
    (state.proveTransitionCapability safepoints passes confirms).1.abiCandidates =
      state.abiCandidates := by
  have hresolved : (state.resolveCapabilityProfile kCapabilityGeneratedTransitionLayout
      passes).1.abiCandidates = state.abiCandidates := resolveCapabilityProfile_candidates
  unfold proveTransitionCapability
  dsimp only
  split
  · rfl
  split
  next resolved heq =>
    rw [heq] at hresolved
    exact hresolved
  next resolved profile heq =>
    rw [heq] at hresolved
    split
    · exact hresolved
    split
    · exact hresolved
    · exact hresolved

theorem crossTransition_candidates {reading : TransitionReading registry.Row} :
    (state.crossTransition reading).1.abiCandidates = state.abiCandidates := by
  unfold crossTransition
  dsimp only
  split
  · rfl
  split
  · rfl
  · rfl

theorem enterGeneratedToNative_candidates {reading : TransitionReading registry.Row} :
    (state.enterGeneratedToNative safepoints isolate reading).1.abiCandidates =
      state.abiCandidates := by
  unfold FlutterVmState.enterGeneratedToNative
  dsimp only
  split
  · rfl
  split
  · exact crossTransition_candidates
  have hproved : (state.proveTransitionCapability safepoints reading.passes
      reading.confirms).1.abiCandidates = state.abiCandidates :=
    proveTransitionCapability_candidates
  split
  next proved bound heq =>
    rw [heq] at hproved
    exact hproved
  next proved bound heq =>
    rw [heq] at hproved
    exact crossTransition_candidates.trans hproved

theorem leaveNativeToGenerated_candidates {reading : TransitionReading registry.Row} :
    (state.leaveNativeToGenerated safepoints isolate reading).1.abiCandidates =
      state.abiCandidates := by
  unfold FlutterVmState.leaveNativeToGenerated
  split
  · rfl
  · exact crossTransition_candidates

theorem proveRead_candidates {passes : registry.Row → Bool}
    {read : registry.Row → DartPlantStatus} :
    (state.proveRead capability passes read).1.abiCandidates = state.abiCandidates := by
  unfold proveRead
  dsimp only
  split
  · split
    · rfl
    · rfl
  split
  · split
    · rfl
    · rfl
  · rfl

theorem readActiveException_candidates {reading : LayoutReading registry.Row} :
    (state.readActiveException isolate reading).1.abiCandidates = state.abiCandidates := by
  unfold readActiveException
  dsimp only
  split
  · rfl
  split
  · rfl
  split
  · rfl
  · exact proveRead_candidates

theorem readTypeArgumentsElement_candidates {reading : LayoutReading registry.Row} :
    (state.readTypeArgumentsElement isolate reading).1.abiCandidates = state.abiCandidates := by
  unfold FlutterVmState.readTypeArgumentsElement
  dsimp only
  split
  · rfl
  split
  · rfl
  · exact proveRead_candidates

theorem establishEagerCapabilityProofs_candidates {compatible : Option (List Bool)} :
    (state.establishEagerCapabilityProofs compatible).1.abiCandidates = state.abiCandidates := by
  unfold establishEagerCapabilityProofs
  dsimp only
  split
  · rfl
  · exact establishEager_candidates

theorem establishEagerCapabilityProofs_bindings :
    (state.establishEagerCapabilityProofs none).1.capabilityBindings =
      state.capabilityBindings := by
  unfold establishEagerCapabilityProofs
  dsimp only
  split
  · rfl
  · exact establishEager_bindings

/-- The row that a selection chooses is one of its candidates. -/
theorem select_mem {Row : Type} [DecidableEq Row] {abiKey : Row → VmCapability → String}
    {candidates : AbiCandidateSet Row} {compatible : List Bool} {row : Row}
    (h : (selectCapabilityAbiSet abiKey candidates capability compatible).representative =
      some row) : row ∈ candidates.profiles := by
  have hselected := (selectCapabilityAbiSet abiKey candidates capability compatible).selected row h
  unfold selectCapabilityAbiSet at hselected
  split at hselected
  · exact absurd hselected not_mem_nil
  dsimp only at hselected
  split at hselected
  · have hpassing := (mem_filter.mp (mem_filter.mp hselected).1).1
    obtain ⟨pair, hpair, rfl⟩ := mem_map.mp hpassing
    exact (of_mem_zip (mem_filter.mp hpair).1).1
  · exact absurd hselected not_mem_nil

theorem reproveCoreBinding_adapter (state : FlutterVmState registry)
    (probe : registry.Row → CandidateProbe) :
    SameAdapter state (state.reproveCoreBinding probe).1 := by
  have hsame := reproveCoreBinding_same state probe
  refine ⟨hsame.identity, hsame.thread, hsame.artifacts, hsame.capabilities, hsame.profiles, ?_⟩
  unfold reproveCoreBinding
  dsimp only
  split
  · exact .inl rfl
  next selected hselected =>
    split
    · exact .inl rfl
    · refine .inr ⟨selected, select_mem hselected, ?_⟩
      split
      · rfl
      · rw [establishEagerCapabilityProofs_candidates]
        rfl

end Adapter

/-! ## Every operation -/

section Operations
variable {registry : ProfileRegistry} {vmInstance : FlutterVmInstance registry}

theorem proveCapability_adapter (vm : FlutterVm registry) (contended : Bool) (thread : ThreadId)
    (evidence : DartPlantVmCapabilityEvidence) (reading : EvidenceReading registry.Row) :
    SameAdapter vm.state (vm.proveCapability contended thread evidence reading).state := by
  have hsame := proveCapability_same vm contended thread evidence reading
  have hproof : (vm.state.proveCapability vm.adapter.isolate evidence reading).1.abiCandidates =
      vm.state.abiCandidates := by
    rcases proveCapability_state vm.state vm.adapter.isolate evidence reading with
      hkept | ⟨-, -, -, -, hproved⟩
    · rw [hkept]
    · rw [hproved]
      exact proveEvidence_candidates
  refine .of_same hsame ?_
  unfold FlutterVm.proveCapability
  split
  · split
    next heq =>
      rw [heq] at hproof
      exact hproof
    next heq =>
      rw [heq] at hproof
      exact hproof
  · rfl

theorem retireArtifacts_adapter (vm : FlutterVm registry) (drained : DartPlantStatus)
    (hookRefs : BitVec 64) : SameAdapter vm.state (vm.retireArtifacts drained hookRefs).state := by
  have hquiesced : SameAdapter vm.state (vm.quiesceArtifacts drained hookRefs).1.state :=
    ⟨rfl, rfl, rfl, rfl, rfl, .inl rfl⟩
  unfold FlutterVm.retireArtifacts
  split
  next quiesced _ heq =>
    rw [heq] at hquiesced
    split
    · exact hquiesced
    · exact hquiesced.trans ⟨rfl, rfl, rfl, rfl, rfl, .inl rfl⟩
  next quiesced _ _ heq =>
    rw [heq] at hquiesced
    exact hquiesced

theorem revalidateArtifacts_adapter (vm : FlutterVm registry) (modules : List ModuleImage)
    (probe : registry.Row → CandidateProbe) :
    SameAdapter vm.state (vm.revalidateArtifacts modules probe).state := by
  have hvalidated : SameAdapter vm.state (vm.state.validateArtifactLifecycle modules) :=
    ⟨rfl, rfl, rfl, rfl, rfl, .inl rfl⟩
  have hreproved := hvalidated.trans
    (reproveCoreBinding_adapter (vm.state.validateArtifactLifecycle modules) probe)
  unfold FlutterVm.revalidateArtifacts
  split
  · exact ⟨rfl, rfl, rfl, rfl, rfl, .inl rfl⟩
  split
  · exact .refl _
  dsimp only
  split
  · exact hvalidated
  split
  · exact hreproved.trans ⟨rfl, rfl, rfl, rfl, rfl, .inl rfl⟩
  · exact hreproved.trans ⟨rfl, rfl, rfl, rfl, rfl, .inl rfl⟩

/-- What a request leaves of the adapter. -/
theorem ask_adapter {α : Type} {request : DartPlantStatus → DartPlantVmAdapter.Step α}
    {answer : FlutterVmState registry × SafepointState registry.Row × DartPlantStatus}
    (h : PassesOn vmInstance.vm.adapter request)
    (hsame : SameIncarnation vmInstance.vm.state answer.1)
    (hcandidates : answer.1.abiCandidates = vmInstance.vm.state.abiCandidates) :
    SameAdapter vmInstance.vm.state (vmInstance.ask request answer).1.vm.state := by
  obtain ⟨-, hstate | hstate⟩ := ask_spec answer h
  · rw [hstate]
    exact .refl _
  · rw [hstate]
    exact .of_same hsame hcandidates

theorem perform_adapter (vmInstance : FlutterVmInstance registry)
    (operation : FlutterVmOperation registry) :
    SameAdapter vmInstance.vm.state (flutterVmInstanceStep vmInstance operation).vm.state := by
  cases operation with
  | call call =>
    cases call with
    | proveCapability contended thread evidence reading =>
      exact proveCapability_adapter _ contended thread evidence reading
    | invalidateArtifacts => exact ⟨rfl, rfl, rfl, rfl, rfl, .inl rfl⟩
    | quiesceArtifacts drained hookRefs => exact ⟨rfl, rfl, rfl, rfl, rfl, .inl rfl⟩
    | retireArtifacts drained hookRefs => exact retireArtifacts_adapter _ drained hookRefs
    | revalidateArtifacts modules probe => exact revalidateArtifacts_adapter _ modules probe
  | use thread use => exact .refl _
  | enterGeneratedToNative contended thread frame rootLease reading =>
    exact ask_adapter (enterGeneratedToNative_passes contended) enterGeneratedToNative_same
      enterGeneratedToNative_candidates
  | leaveNativeToGenerated thread frame rootLease reading =>
    exact ask_adapter leaveNativeToGenerated_passes leaveNativeToGenerated_same
      leaveNativeToGenerated_candidates
  | beginLiveHeapObservation thread vmThread reading =>
    exact ask_adapter beginLiveHeapObservation_passes (.refl _) rfl
  | endLiveHeapObservation thread lease =>
    exact ask_adapter endLiveHeapObservation_passes (.refl _) rfl
  | readActiveObject thread reading raw =>
    exact ask_adapter readActiveObject_passes readActiveException_same
      readActiveException_candidates
  | readTypeArgumentsElement contended thread reading raw =>
    exact ask_adapter (readTypeArgumentsElement_passes contended) readTypeArgumentsElement_same
      readTypeArgumentsElement_candidates

theorem run_adapter {operations : List (FlutterVmOperation registry)} :
    SameAdapter vmInstance.vm.state
      (operations.foldl flutterVmInstanceStep vmInstance).vm.state := by
  induction operations generalizing vmInstance with
  | nil => exact .refl _
  | cons operation operations ih => exact (perform_adapter vmInstance operation).trans ih

end Operations

/-! ## Creation -/

section Creation
variable {registry : ProfileRegistry} {environment : AdapterEnvironment registry}
  {rows : CandidateRows registry} {selected : registry.Row}
  {created : FlutterVmInstance registry}

open AdapterEnvironment

/-- The candidate that the resolver selects passes with the core ABI of every row that passes. -/
theorem selected_of_unique {snapshotHashMatch passed : Bool}
    (h : (selectUniquePassingCandidate rows.keys environment.resolverInput.diagnostics
      .core).selected = some ⟨some selected, snapshotHashMatch, passed⟩) :
    environment.Selected rows selected := by
  have hpassing : ∀ candidate,
      candidate ∈ environment.resolverInput.diagnostics.filter (fun candidate =>
        candidate.passed) ↔ ∃ row, environment.Passes row ∧ candidate =
          ⟨some row, environment.snapshotHashMatch row, true⟩ := by
    intro candidate
    rw [mem_filter]
    constructor
    · rintro ⟨hmem, hpassed⟩
      obtain ⟨row, hrow, rfl⟩ := mem_map.mp hmem
      have hpassed : (environment.resolverInput.probe row).passed = true := hpassed
      exact ⟨row, ⟨hrow, hpassed⟩, congrArg (CandidateDiagnostic.mk _ _) hpassed⟩
    · rintro ⟨row, hpasses, rfl⟩
      refine ⟨mem_map.mpr ⟨row, hpasses.1, ?_⟩, rfl⟩
      exact congrArg (CandidateDiagnostic.mk _ _) hpasses.2
  have hselects := @selectUniquePassingCandidate_selects _ rows.keys
    environment.resolverInput.diagnostics .core
  dsimp only at hselects
  rw [h] at hselects
  obtain ⟨candidate, hmem, hstands, hnamed, -, -⟩ := hselects.stands rfl
  obtain rfl := Option.some.inj hstands
  obtain ⟨row, hpasses, heq⟩ := (hpassing _).mp hmem
  obtain rfl : selected = row := Option.some.inj (congrArg CandidateDiagnostic.profile heq)
  obtain ⟨abi, -, hsole⟩ := hselects.passes_iff.mp rfl
  refine ⟨hpasses, hnamed, fun other hother hother' => ?_⟩
  exact (hsole _ ⟨_, (hpassing _).mpr ⟨other, hother, rfl⟩, hother', rfl⟩).trans
    (hsole _ ⟨_, hmem, hnamed, rfl⟩).symm

/-- What creation makes of its environment, around the row it selected. -/
structure CreatedAround (environment : AdapterEnvironment registry) (rows : CandidateRows registry)
    (selected : registry.Row) (created : FlutterVmInstance registry) : Prop where
  chosen : environment.Selected rows selected
  keeps : KeepsRows environment rows selected selected created.vm.state
  thread : created.vm.state.thread = environment.thread
  isolate : created.vm.state.identity.isolate = environment.currentIsolate
  bindings : created.vm.state.capabilityBindings =
    resolveBindings registry ⟨environment.kept rows selected, some selected⟩
      (environment.available rows selected created.vm.state.artifacts)
  mapped : (created.vm.state.validateArtifactLifecycle environment.modules).artifactValid = true
  enter : created.safepoints.enterSafepoint =
    (environment.resolverInput.probe selected).enterEntry
  exit : created.safepoints.exitSafepoint = (environment.resolverInput.probe selected).exitEntry
  stubs : created.safepoints.safepointBindings =
    (environment.kept rows selected).map fun row =>
      ⟨row, (environment.resolverInput.probe row).enterEntry,
        (environment.resolverInput.probe row).exitEntry⟩

/-- The backend of a new adapter is the binding, marked and recorded. -/
theorem flutterVmAdapterCreate_binding {vm : FlutterVm registry}
    {binding : VerifiedBinding registry} {identity : DartPlantIsolateIdentity} {thread : BitVec 64}
    {modules : List ModuleImage}
    (hcreated : flutterVmAdapterCreate binding identity thread modules = some vm) :
    vm.state.identity = identity ∧ vm.state.thread = thread ∧
      vm.state.abiCandidates = binding.candidates ∧
      vm.state.capabilityBindings = binding.capabilityBindings ∧
      vm.state.artifacts = binding.artifacts ∧ vm.state.capabilities = binding.capabilityMask ∧
      (vm.state.validateArtifactLifecycle modules).artifactValid = true := by
  unfold flutterVmAdapterCreate at hcreated
  dsimp only at hcreated
  split at hcreated
  · cases hcreated
  next hbinding =>
    simp only [not_or, Bool.not_eq_false] at hbinding
    split at hcreated
    · cases hcreated
    next established hestablished =>
      have hsame := congrArg Prod.fst hestablished ▸ establishEagerCapabilityProofs_same
      have hcandidates := congrArg Prod.fst hestablished ▸
        establishEagerCapabilityProofs_candidates
      have hbindings := congrArg Prod.fst hestablished ▸
        establishEagerCapabilityProofs_bindings
      split at hcreated
      next adapter hadapter =>
        split at hcreated
        next attached hattached =>
          obtain rfl := Option.some.inj hcreated
          refine ⟨hsame.identity, hsame.thread, hcandidates, hbindings, hsame.artifacts,
            hsame.capabilities, ?_⟩
          refine Eq.trans ?_ hbinding.2.2
          unfold validateArtifactLifecycle hasCapability
          dsimp only
          rw [show established.markEager.capabilities = binding.capabilityMask from
            hsame.capabilities, show established.markEager.artifacts = binding.artifacts from
            hsame.artifacts]
        · cases hcreated
      · cases hcreated

/-- Of the rows that pass, the ones that are kept. -/
theorem filter_member {row : registry.Row} (hrow : row ∈ environment.candidates) :
    ((environment.resolverInput.probe row).passed &&
        decide (row ∈ environment.resolverInput.keptRows rows selected)) =
      ((environment.resolverInput.probe row).passed &&
        rows.coreId row == rows.coreId selected) := by
  have hkept : row ∈ environment.resolverInput.keptRows rows selected ↔
      ((environment.resolverInput.probe row).passed &&
        rows.coreId row == rows.coreId selected) = true :=
    mem_filter.trans (and_iff_right hrow)
  rw [Bool.eq_iff_iff.mpr (decide_eq_true_iff.trans hkept), ← Bool.and_assoc, Bool.and_self]

/-- Creation takes its binding around one row that passes. -/
theorem createAdapter_around (h : environment.createAdapter rows = some created) :
    ∃ selected, CreatedAround environment rows selected created := by
  unfold createAdapter at h
  split at h
  · cases h
  split at h
  · cases h
  next resolution hresolution =>
    dsimp only at h
    split at h
    · cases h
    unfold ResolverInput.resolveVerifiedBinding at hresolution
    split at hresolution
    · cases hresolution
    split at hresolution
    next selected snapshotHashMatch passed hunique =>
      have hchosen := selected_of_unique hunique
      split at hresolution
      · cases hresolution
      dsimp only at hresolution
      split at hresolution
      · cases hresolution
      obtain rfl := Option.some.inj hresolution
      obtain ⟨vm, hvm, rfl⟩ := Option.map_eq_some_iff.mp h
      obtain ⟨hidentity, hthread, hcandidates, hbindings, hartifacts, hcapabilities, hmapped⟩ :=
        flutterVmAdapterCreate_binding hvm
      refine ⟨selected, hchosen, ⟨hcandidates, ?_, ?_⟩, hthread, ?_, ?_, hmapped, rfl, rfl, ?_⟩
      · exact (mem_kept hchosen).mpr ⟨hchosen.passes, hchosen.named⟩
      · rw [hartifacts]
        exact hcapabilities
      · exact congrArg DartPlantIsolateIdentity.isolate hidentity
      · dsimp only
        rw [hartifacts]
        exact hbindings
      · refine congrArg (List.map _) (filter_congr fun row hrow => ?_)
        exact filter_member hrow
    · cases hresolution

end Creation

/-! ## Revalidation -/

section Revalidation
variable {registry : ProfileRegistry} {environment : AdapterEnvironment registry}
  {rows : CandidateRows registry} {selected row : registry.Row}
  {created before : FlutterVmInstance registry}

open AdapterEnvironment

/-- A revalidation in the process of the creation. -/
def AdapterEnvironment.revalidate (environment : AdapterEnvironment registry)
    (rows : CandidateRows registry) (vmInstance : FlutterVmInstance registry) :
    FlutterVmInstance registry × DartPlantStatus :=
  vmInstance.perform (.call (.revalidateArtifacts environment.modules
    (environment.reprobe rows vmInstance.vm.state)))

/-- The revalidated adapter is what creation made: every capability of the mask that has an ABI is
bound as it was, the eager ones are verified, the stubs are the same, and nothing is marked
failed. -/
structure RevalidatesAsCreated (created : FlutterVmInstance registry)
    (revalidated : FlutterVmInstance registry × DartPlantStatus) : Prop where
  reproved : revalidated.2 = .ok
  bindings : ∀ capability, Structural capability →
    created.vm.state.capabilities &&& capability ≠ 0 →
    revalidated.1.vm.state.capabilityBindings.findBinding capability =
      created.vm.state.capabilityBindings.findBinding capability
  eager : revalidated.1.vm.state.hasVerifiedCapability
    (created.vm.state.capabilities &&& kEagerRuntimeProofMask) = true
  enter : revalidated.1.safepoints.enterSafepoint = created.safepoints.enterSafepoint
  exit : revalidated.1.safepoints.exitSafepoint = created.safepoints.exitSafepoint
  stubs : revalidated.1.safepoints.safepointBindings = created.safepoints.safepointBindings
  healthy : revalidated.1.vm.state.failedCapabilities = kCapabilityNone

/-- The rows that pass agree on the roots, the row of the creation still stands for them and has
both stubs, and nothing is marked failed but what a revalidation marks verified. -/
structure Restorable (environment : AdapterEnvironment registry) (rows : CandidateRows registry)
    (created before : FlutterVmInstance registry) : Prop where
  agree : environment.RootsAgree rows
  stands : before.vm.state.abiCandidates.representative =
    created.vm.state.abiCandidates.representative
  stubs : created.safepoints.enterSafepoint ≠ nullptr ∧ created.safepoints.exitSafepoint ≠ nullptr
  healthy : before.vm.state.failedCapabilities &&&
    ~~~(created.vm.state.capabilities &&& kEagerRuntimeProofMask |||
      kCapabilityArtifactLifecycle) = 0

/-- What the marks of a revalidated adapter leave marked failed. -/
theorem markEager_failed {state : FlutterVmState registry} :
    state.markEager.failedCapabilities = state.failedCapabilities &&&
      ~~~(state.capabilities &&& kEagerRuntimeProofMask ||| kCapabilityArtifactLifecycle) := by
  rw [BitVec.not_or, ← BitVec.and_assoc]
  rfl

/-- They verify the eager capabilities. -/
theorem markEager_verified {state : FlutterVmState registry} :
    state.markEager.hasVerifiedCapability (state.capabilities &&& kEagerRuntimeProofMask) =
      true := by
  have hlifecycle : kCapabilityArtifactLifecycle &&&
      (state.capabilities &&& kEagerRuntimeProofMask) = 0 := by
    rw [BitVec.and_comm state.capabilities, ← BitVec.and_assoc,
      show kCapabilityArtifactLifecycle &&& kEagerRuntimeProofMask = 0 from by decide +kernel]
    exact BitVec.zero_and
  unfold hasVerifiedCapability
  rw [Bool.and_eq_true, beq_iff_eq, all_eq_true]
  refine ⟨?_, fun bit hbit => ?_⟩
  · change (state.verifiedCapabilities ||| _ ||| kCapabilityArtifactLifecycle) &&& _ = _
    rw [or_and_of_disjoint hlifecycle]
    exact or_and_self
  · have hsingle := mem_maskBits_single hbit
    have hapart : kCapabilityArtifactLifecycle &&& bit = 0 := by
      rw [← hsingle.and_eq (hsingle.mem_maskBits.mp hbit), ← BitVec.and_assoc, hlifecycle]
      exact BitVec.zero_and
    refine recordVerified_stamp ?_ markEager_same
    exact (if_neg (not_mem_maskBits hapart)).trans (if_pos hbit)

/-- What a revalidation in the process of the creation does to an adapter that was retired. -/
theorem revalidate_retired (h : KeepsRows environment rows selected row before.vm.state)
    (hthread : before.vm.state.thread = environment.thread)
    (hisolate : before.vm.state.identity.isolate = environment.currentIsolate)
    (hmapped : (before.vm.state.validateArtifactLifecycle environment.modules).artifactValid = true)
    (hretired : before.artifactValid = false) :
    let probe := environment.candidateProbe rows before.vm.state.artifacts
    let validated := before.vm.state.validateArtifactLifecycle environment.modules
    ((environment.revalidate rows before).2 = .ok ↔ validated.Reprovable probe) ∧
      (validated.Reprovable probe →
        (environment.revalidate rows before).1.vm.state =
            { (validated.reproveCoreBinding probe).1.markEager with artifactQuiescing := false } ∧
          (environment.revalidate rows before).1.safepoints =
            validated.reproveSafepoints before.safepoints probe) := by
  intro probe validated
  have hprobe : environment.reprobe rows before.vm.state = probe := reprobe_eq hthread hisolate
  have hprofiles : before.vm.state.abiCandidates.profiles ≠ [] := by
    rw [h.candidates]
    exact ne_nil_of_mem h.stands
  have hidle : ¬(before.vm.state.artifactQuiescing = true ∧
      before.vm.state.artifactValid = true) := by
    rw [show before.vm.state.artifactValid = false from hretired]
    exact fun hbusy => Bool.noConfusion hbusy.2
  have hstays : ¬ (validated.artifactValid = false) := by
    rw [hmapped]
    exact Bool.noConfusion
  have hstatus : (environment.revalidate rows before).2 =
      if (validated.reproveCoreBinding probe).2 = false then .profileMismatch else .ok := by
    change before.vm.revalidateStatus environment.modules
      (environment.reprobe rows before.vm.state) = _
    rw [hprobe]
    unfold FlutterVm.revalidateStatus
    rw [if_neg hprofiles, if_neg hidle, if_neg hstays]
  have hstubs : ¬(before.vm.state.abiCandidates.profiles = [] ∨
      (before.vm.state.artifactQuiescing = true ∧ before.vm.state.artifactValid = true) ∨
      validated.artifactValid = false) :=
    not_or.mpr ⟨hprofiles, not_or.mpr ⟨hidle, hstays⟩⟩
  refine ⟨?_, fun hreprovable => ⟨?_, ?_⟩⟩
  · rw [hstatus, ← reproveCoreBinding_iff]
    split
    next hfailed =>
      rw [hfailed]
      exact iff_of_false DartPlantStatus.noConfusion Bool.false_ne_true
    next hproved => exact iff_of_true rfl (Bool.eq_true_of_not_eq_false hproved)
  · have hproved := reproveCoreBinding_iff.mpr hreprovable
    change (before.vm.revalidateArtifacts environment.modules
      (environment.reprobe rows before.vm.state)).state = _
    rw [hprobe]
    unfold FlutterVm.revalidateArtifacts
    dsimp only
    rw [if_neg hprofiles, if_neg hidle, if_neg hstays, hproved,
      if_neg Bool.true_eq_false_eq_False]
  · change before.callSafepoints (.revalidateArtifacts environment.modules
      (environment.reprobe rows before.vm.state)) = _
    rw [hprobe]
    exact if_neg hstubs

/-- The stubs after the roots passed, which those of the row that stands are taken from. -/
theorem reproveSafepoints_kept {state : FlutterVmState registry}
    (safepoints : SafepointState registry.Row)
    (h : KeepsRows environment rows selected row state)
    (hchosen : environment.Selected rows selected)
    (hreprovable : state.Reprovable (environment.candidateProbe rows state.artifacts)) :
    let stubs := state.reproveSafepoints safepoints
      (environment.candidateProbe rows state.artifacts)
    stubs.enterSafepoint = (environment.resolverInput.probe row).enterEntry ∧
      stubs.exitSafepoint = (environment.resolverInput.probe row).exitEntry ∧
      stubs.safepointBindings = (environment.kept rows selected).map fun row =>
        ⟨row, (environment.resolverInput.probe row).enterEntry,
          (environment.resolverInput.probe row).exitEntry⟩ := by
  have hstands := (h.roots hchosen).2 hreprovable.roots
  obtain ⟨hpassed, henter, hexit⟩ := hreprovable.entries row hstands
  have hok : ¬((state.selectRoots (environment.candidateProbe rows state.artifacts)).passed =
      false ∨ (environment.candidateProbe rows state.artifacts row).passed = false ∨
      (environment.candidateProbe rows state.artifacts row).enterEntry = nullptr ∨
      (environment.candidateProbe rows state.artifacts row).exitEntry = nullptr) := by
    rw [hreprovable.roots, hpassed]
    simp only [Bool.true_eq_false, false_or, not_or]
    exact ⟨henter, hexit⟩
  have hall : (environment.kept rows selected).filter (fun row =>
      (environment.candidateProbe rows state.artifacts row).passed) =
        environment.kept rows selected :=
    filter_eq_self.mpr fun _ hrow => ((mem_kept hchosen).mp hrow).1.2
  unfold reproveSafepoints
  dsimp only
  rw [hstands]
  dsimp only
  rw [if_neg hok, h.candidates, hall]
  exact ⟨rfl, rfl, rfl⟩

/-- A binding that is made stands for the row that its selection chooses. -/
theorem BoundTo.representative {selection : DomainSetSelection registry.Row}
    {bindings : CapabilityBindingSet registry.Row} {capability : VmCapability}
    (h : BoundTo capability selection bindings) :
    (bindings.findBinding capability).map CapabilityBinding.representative =
      selection.representative := by
  obtain ⟨before, bound, hbound, hfind⟩ := h
  obtain ⟨-, ⟨binding, hbinding, hrepresentative, -⟩, -⟩ := bindSelection_spec hbound
  rw [hfind, hbinding, hrepresentative]
  rfl

/-- What a revalidation leaves of an adapter whose core binding is proved again. -/
structure Revalidated (environment : AdapterEnvironment registry) (rows : CandidateRows registry)
    (selected row : registry.Row) (before after : FlutterVmInstance registry) : Prop where
  bound : ∀ capability, Structural capability → before.vm.state.capabilities &&& capability ≠ 0 →
    BoundTo capability
      (resolverSelection ⟨environment.kept rows selected, some row⟩
        (environment.available rows selected before.vm.state.artifacts) capability)
      after.vm.state.capabilityBindings
  eager : after.vm.state.hasVerifiedCapability
    (before.vm.state.capabilities &&& kEagerRuntimeProofMask) = true
  enter : after.safepoints.enterSafepoint = (environment.resolverInput.probe row).enterEntry
  exit : after.safepoints.exitSafepoint = (environment.resolverInput.probe row).exitEntry
  stubs : after.safepoints.safepointBindings =
    (environment.kept rows selected).map fun row =>
      ⟨row, (environment.resolverInput.probe row).enterEntry,
        (environment.resolverInput.probe row).exitEntry⟩
  failed : after.vm.state.failedCapabilities = before.vm.state.failedCapabilities &&&
    ~~~(before.vm.state.capabilities &&& kEagerRuntimeProofMask ||| kCapabilityArtifactLifecycle)

/-- A retired adapter in the process of its creation is revalidated exactly when the rows that pass
agree on the roots and the row that stands for them has both stubs. -/
theorem revalidated_iff (h : KeepsRows environment rows selected row before.vm.state)
    (hchosen : environment.Selected rows selected)
    (hthread : before.vm.state.thread = environment.thread)
    (hisolate : before.vm.state.identity.isolate = environment.currentIsolate)
    (hmapped : (before.vm.state.validateArtifactLifecycle environment.modules).artifactValid = true)
    (hretired : before.artifactValid = false) :
    ((environment.revalidate rows before).2 = .ok ↔
        environment.RootsAgree rows ∧ (environment.resolverInput.probe row).enterEntry ≠ nullptr ∧
          (environment.resolverInput.probe row).exitEntry ≠ nullptr) ∧
      ((environment.revalidate rows before).2 = .ok →
        Revalidated environment rows selected row before
          (environment.revalidate rows before).1) := by
  have hvalidated : KeepsRows environment rows selected row
      (before.vm.state.validateArtifactLifecycle environment.modules) :=
    ⟨h.candidates, h.stands, h.capabilities⟩
  obtain ⟨hstatus, hafter⟩ := revalidate_retired h hthread hisolate hmapped hretired
  refine ⟨hstatus.trans (hvalidated.reprovable_iff hchosen), fun hok => ?_⟩
  have hreprovable := hstatus.mp hok
  obtain ⟨hstate, hsafepoints⟩ := hafter hreprovable
  have hproved := reproveCoreBinding_iff.mpr hreprovable
  have hsame := reproveCoreBinding_same
    (before.vm.state.validateArtifactLifecycle environment.modules)
    (environment.candidateProbe rows before.vm.state.artifacts)
  obtain ⟨henter, hexit, hstubs⟩ :=
    reproveSafepoints_kept before.safepoints hvalidated hchosen hreprovable
  have hcapabilities : ((before.vm.state.validateArtifactLifecycle
      environment.modules).reproveCoreBinding (environment.candidateProbe rows
        before.vm.state.artifacts)).1.capabilities = before.vm.state.capabilities :=
    hsame.capabilities
  refine ⟨fun capability hstructural hmeets => ?_, ?_, ?_, ?_, ?_, ?_⟩
  · rw [hstate]
    exact hvalidated.reproved hchosen hreprovable hstructural hmeets
  · rw [hstate, ← hcapabilities]
    exact markEager_verified
  · rw [hsafepoints]
    exact henter
  · rw [hsafepoints]
    exact hexit
  · rw [hsafepoints]
    exact hstubs
  · rw [hstate]
    refine markEager_failed.trans ?_
    rw [reproveCoreBinding_marks hproved, hcapabilities]
    rfl

/-- An adapter keeps its rows, whatever it does. -/
theorem CreatedAround.keepsRows (haround : CreatedAround environment rows selected created)
    (hsame : SameAdapter created.vm.state before.vm.state) :
    ∃ row, KeepsRows environment rows selected row before.vm.state := by
  have hcreated := haround.keeps
  have hcapabilities := hsame.capabilities.trans hcreated.capabilities
  rw [← hsame.artifacts] at hcapabilities
  rcases hsame.stands with hkept | ⟨row, hrow, hstands⟩
  · exact ⟨selected, hkept.trans hcreated.candidates, hcreated.stands, hcapabilities⟩
  · have hprofiles : before.vm.state.abiCandidates.profiles = environment.kept rows selected :=
      hsame.profiles.trans (congrArg AbiCandidateSet.profiles hcreated.candidates)
    refine ⟨row, congrArg₂ AbiCandidateSet.mk hprofiles hstands, ?_, hcapabilities⟩
    rw [← hprofiles, hsame.profiles]
    exact hrow

/-- The roots are in the mask where the rows agree on them, and are bound to the row that stands. -/
theorem KeepsRows.roots_bound {state : FlutterVmState registry}
    (h : KeepsRows environment rows selected row state)
    (hchosen : environment.Selected rows selected) (hagree : environment.RootsAgree rows) :
    state.capabilities &&& kCapabilityRuntimeRoots ≠ 0 ∧
      (resolverSelection ⟨environment.kept rows selected, some row⟩
        (environment.available rows selected state.artifacts)
        kCapabilityRuntimeRoots).representative = some row := by
  have hselects : state.selectRoots (environment.candidateProbe rows state.artifacts) =
      resolverSelection ⟨environment.kept rows selected, some row⟩
        (environment.available rows selected state.artifacts) kCapabilityRuntimeRoots := by
    unfold selectRoots
    rw [h.candidates, passing_kept hchosen, resolverSelection,
      available_eager hchosen (by decide +kernel)]
  obtain ⟨hpasses, hstands⟩ := h.roots hchosen
  rw [hselects] at hpasses hstands
  exact ⟨(h.meets_iff roots_structural).mpr (hpasses.mpr hagree), hstands (hpasses.mpr hagree)⟩

/-- Whatever ran since its creation, an adapter that is retired is revalidated to what creation made
exactly when it is restorable. -/
theorem revalidates_as_created_iff (hcreated : environment.createAdapter rows = some created)
    (operations : List (FlutterVmOperation registry))
    (hretired : (operations.foldl flutterVmInstanceStep created).artifactValid = false) :
    RevalidatesAsCreated created
        (environment.revalidate rows (operations.foldl flutterVmInstanceStep created)) ↔
      Restorable environment rows created (operations.foldl flutterVmInstanceStep created) := by
  obtain ⟨selected, haround⟩ := createAdapter_around hcreated
  have hsame : SameAdapter created.vm.state
      (operations.foldl flutterVmInstanceStep created).vm.state := run_adapter
  generalize operations.foldl flutterVmInstanceStep created = before at hretired hsame ⊢
  obtain ⟨row, hkeeps⟩ := haround.keepsRows hsame
  have hmapped : (before.vm.state.validateArtifactLifecycle environment.modules).artifactValid =
      true := by
    refine Eq.trans ?_ haround.mapped
    unfold validateArtifactLifecycle hasCapability
    dsimp only
    rw [hsame.capabilities, hsame.artifacts]
  have hisolate : before.vm.state.identity.isolate = environment.currentIsolate := by
    rw [hsame.identity]
    exact haround.isolate
  obtain ⟨hstatus, hrevalidated⟩ := revalidated_iff hkeeps haround.chosen
    (hsame.thread.trans haround.thread) hisolate hmapped hretired
  have hboundCreated : ∀ capability, Structural capability →
      created.vm.state.capabilities &&& capability ≠ 0 →
      BoundTo capability
        (resolverSelection ⟨environment.kept rows selected, some selected⟩
          (environment.available rows selected created.vm.state.artifacts) capability)
        created.vm.state.capabilityBindings := by
    intro capability hstructural hmeets
    rw [haround.bindings]
    exact resolveBindings_bound hstructural ((haround.keeps.meets_iff hstructural).mp hmeets)
  have hstandsBefore : before.vm.state.abiCandidates.representative = some row :=
    congrArg AbiCandidateSet.representative hkeeps.candidates
  have hstandsCreated : created.vm.state.abiCandidates.representative = some selected :=
    congrArg AbiCandidateSet.representative haround.keeps.candidates
  constructor
  · intro h
    obtain ⟨hagree, henter, hexit⟩ := hstatus.mp h.reproved
    have hafter := hrevalidated h.reproved
    -- The roots are bound to the row that stands, before as at creation.
    obtain ⟨hmeets, hrow⟩ := hkeeps.roots_bound haround.chosen hagree
    obtain ⟨hmeetsCreated, hselected⟩ := haround.keeps.roots_bound haround.chosen hagree
    have hnow := (hafter.bound _ roots_structural hmeets).representative
    have hthen := (hboundCreated _ roots_structural hmeetsCreated).representative
    rw [h.bindings _ roots_structural hmeetsCreated, hthen, hselected, hrow] at hnow
    obtain rfl := Option.some.inj hnow
    refine ⟨hagree, hstandsBefore.trans hstandsCreated.symm, ⟨?_, ?_⟩, ?_⟩
    · rw [haround.enter]
      exact henter
    · rw [haround.exit]
      exact hexit
    · rw [← hsame.capabilities, ← hafter.failed]
      exact h.healthy
  · intro h
    obtain rfl : row = selected :=
      Option.some.inj (hstandsBefore.symm.trans (h.stands.trans hstandsCreated))
    have hok : (environment.revalidate rows before).2 = .ok := by
      refine hstatus.mpr ⟨h.agree, ?_, ?_⟩
      · rw [← haround.enter]
        exact h.stubs.1
      · rw [← haround.exit]
        exact h.stubs.2
    have hafter := hrevalidated hok
    refine ⟨hok, fun capability hstructural hmeets => ?_, ?_, hafter.enter.trans haround.enter.symm,
      hafter.exit.trans haround.exit.symm, hafter.stubs.trans haround.stubs.symm, ?_⟩
    · have hbound := hafter.bound capability hstructural (by
        rw [hsame.capabilities]
        exact hmeets)
      rw [hsame.artifacts] at hbound
      exact hbound.unique (hboundCreated capability hstructural hmeets)
    · rw [← hsame.capabilities]
      exact hafter.eager
    · rw [hafter.failed, hsame.capabilities]
      exact h.healthy

end Revalidation

/-! ### Rows of one core and of two objects -/

/-- Two rows; what is of the object domain has a key of its own in each. -/
def twinRegistry : ProfileRegistry where
  rows := [⟨31, 4, "object-31"⟩, ⟨32, 4, "object-32"⟩]
  versions := by decide
  abiKey row capability :=
    if capability = kCapabilityNone then ""
    else if capabilityDomains capability &&& 4 = 0 then "core-3.11"
    else row.functionTypeAbiKey

def twinRow : twinRegistry.Row := ⟨⟨31, 4, "object-31"⟩, mem_cons_self⟩

def twinOther : twinRegistry.Row :=
  ⟨⟨32, 4, "object-32"⟩, mem_cons_of_mem _ mem_cons_self⟩

/-- A profile with every layout. -/
def fullFields : CapabilityFields :=
  ⟨8, 16, 24, 32, 3, 40, 48, 56, 18, 7, 8, 16, 24, 8, 16, 46, 8, 16, 12, 20, 24, 8, 15, 4, 1, 32, 48,
    40, 16, 20, 2, 1, 8, 16, 4, 12, 8, 12, 16, 20⟩

theorem twin_keyed (row : twinRegistry.Row) (capability : VmCapability)
    (hne : capability ≠ kCapabilityNone) : twinRegistry.rowAbiKey row capability ≠ "" := by
  have hkey : row.1.functionTypeAbiKey ≠ "" := by
    have hall : ∀ row ∈ twinRegistry.rows, row.functionTypeAbiKey ≠ "" := by decide
    exact hall row.1 row.2
  unfold ProfileRegistry.rowAbiKey twinRegistry
  dsimp only
  rw [if_neg hne]
  split
  · decide
  · exact hkey

def twinRows : CandidateRows twinRegistry where
  identity _ := ⟨some "core-3.11", some "call", some "object", some "transition", some "exception"⟩
  fields _ := fullFields
  noCapability _ := rfl
  keyed row capability hmem _ := twin_keyed row capability (registry_single capability hmem).2

/-- A process on whose thread every candidate passes. -/
def twinEnvironment (candidates : List twinRegistry.Row) : AdapterEnvironment twinRegistry where
  candidates
  snapshotHashMatch _ := false
  thread := 0x9000
  currentIsolate := 0x7000
  canonicalNull := 0x100
  isolateGeneration := 1
  modules := [libApp, libFlutter]
  engineAnchor := 0x40100
  reading _ :=
    ⟨some ⟨0x700000000000, 0x100, 0x201, 0x7000, 0x8000⟩, some 0x200, true, true, some 0x10200,
      some 0x10300⟩
  observed := twinRow
  address := ⟨0xa000, soleAddress_ne⟩

def loneInstance : FlutterVmInstance twinRegistry :=
  ((twinEnvironment [twinRow]).createAdapter twinRows).get rfl

theorem loneInstance_created :
    (twinEnvironment [twinRow]).createAdapter twinRows = some loneInstance :=
  (Option.some_get _).symm

/-- A FunctionCode proof that fails, and a retirement. -/
def failThenRetire : List (FlutterVmOperation twinRegistry) :=
  [.call (.proveCapability false 5 ⟨.functionCode, false, false, 0x7100, 0x7200, 0x10100, 0⟩
      ⟨false, true, fun _ => false, fun _ => nullptr, []⟩),
    .call (.retireArtifacts .ok 0)]

/-- The retirement resets what failed, and the revalidation brings back what creation made. -/
theorem revalidates_as_created_lone :
    RevalidatesAsCreated loneInstance ((twinEnvironment [twinRow]).revalidate twinRows
      (failThenRetire.foldl flutterVmInstanceStep loneInstance)) := by
  refine (revalidates_as_created_iff loneInstance_created failThenRetire (by decide)).mpr ?_
  refine ⟨fun row other hrow hother _ _ => ?_, by decide, by decide, by decide⟩
  have hmem : ∀ row : twinRegistry.Row, (twinEnvironment [twinRow]).Passes row → row = twinRow :=
    fun row hpasses => mem_singleton.mp hpasses.1
  rw [hmem row hrow, hmem other hother]

def twinInstance : FlutterVmInstance twinRegistry :=
  ((twinEnvironment [twinRow, twinOther]).createAdapter twinRows).get rfl

theorem twinInstance_created :
    (twinEnvironment [twinRow, twinOther]).createAdapter twinRows = some twinInstance :=
  (Option.some_get _).symm

/-- The adapter of both rows has no RuntimeRoots, and is never revalidated. -/
theorem twin_not_revalidated :
    (twinEnvironment [twinRow, twinOther]).createAdapter twinRows = some twinInstance ∧
      (flutterVmInstanceStep twinInstance (.call (.retireArtifacts .ok 0))).artifactValid = false ∧
      ¬ RevalidatesAsCreated twinInstance ((twinEnvironment [twinRow, twinOther]).revalidate
        twinRows (flutterVmInstanceStep twinInstance (.call (.retireArtifacts .ok 0)))) := by
  refine ⟨twinInstance_created, by decide, fun h => ?_⟩
  exact absurd h.reproved (by decide)

end DartPlant
