import DartPlant.Vm.FailedCalls
import DartPlant.Vm.FlutterVmOperations

/-! # Runs of the core's capability binding

Whatever the backend answers, the core's binding is a record of what it accepted since the record
was last dropped: by an attach, a detach or an invalidation, or by a proof of another generation.
The history keeps these proofs beside the adapter, and the binding is compared with it.
-/

namespace DartPlant
open Runs DartPlantVmAdapter

instance (adapter : DartPlantVmAdapter) (proof : DartPlantVmCapabilityProof) :
    Decidable (adapter.changesGeneration proof) :=
  inferInstanceAs (Decidable (_ ∧ (_ ∨ _)))

/-- A proof that was accepted, and the profile it bound its capability to. -/
abbrev AcceptedProof := DartPlantVmCapabilityProof × RuntimeProfileRecord

/-- The adapter, and the proofs accepted since the binding was last dropped, newest first. -/
structure BindingHistory where
  world : VmWorld
  accepted : List AcceptedProof := []

/-- The proofs accepted since the binding was last dropped, after a call with this outcome. -/
def BindingHistory.acceptedAfter (profiles : List RuntimeProfileRecord) (history : BindingHistory) :
    VmCall → VmOutcome Unit → List AcceptedProof
  | .attachIsolate _, .ok _ => []
  | .detachIsolate _, .ok _ => []
  | .invalidateAbiBinding, _ => []
  | .proveCapability _ _ _ proof, .ok _ =>
    match profiles.find? fun profile => profile.profileVersion == proof.profileVersion with
    | none => history.accepted
    | some profile =>
      (proof, profile) ::
        if history.world.adapter.changesGeneration proof then [] else history.accepted
  | _, _ => history.accepted

/-- One call, of any thread and with any answers of the backend. -/
def bindingStep (profiles : List RuntimeProfileRecord) (history : BindingHistory)
    (action : ThreadId × VmCall) : BindingHistory where
  world := (history.world.perform profiles action.1 action.2).1
  accepted := history.acceptedAfter profiles action.2
    (history.world.perform profiles action.1 action.2).2

/-- The capability records are of one generation, of one profile each, and handed out only as they
were accepted since the binding was last dropped. -/
structure BindingsCoherent (history : BindingHistory) : Prop where
  stamped : ∀ (index : Nat) entry,
    history.world.adapter.abiBinding.capabilities[index]? = some entry →
    entry.proof.capability ≠ kCapabilityNone →
    entry.proof.artifactGeneration = history.world.adapter.abiBinding.artifactGeneration ∧
      entry.proof.isolateGeneration = history.world.adapter.abiBinding.isolateGeneration
  bound : ∀ earlier ∈ history.accepted, ∀ later ∈ history.accepted,
    earlier.1.capability = later.1.capability → earlier.2 = later.2
  handedOut : ∀ capability proof profile,
    history.world.adapter.getCapabilityBinding capability = .ok (proof, profile) →
    (proof, profile) ∈ history.accepted ∧ proof.capability = capability ∧
      proof.artifactGeneration = history.world.adapter.abiBinding.artifactGeneration ∧
      proof.isolateGeneration = history.world.adapter.isolate.generation

/-- A proof that is rejected leaves the binding of every capability as it was. -/
def RejectedProofKeeps (profiles : List RuntimeProfileRecord) (history : BindingHistory)
    (action : ThreadId × VmCall) : Prop :=
  ∀ contended kind status proof, action.2 = .proveCapability contended kind status proof →
    (history.world.perform profiles action.1 action.2).2 ≠ .ok () →
    (bindingStep profiles history action).world.adapter.abiBinding =
      history.world.adapter.abiBinding

/-! ## What a proof does -/

/-- The binding with the generations of a proof. -/
def VmAbiBindingState.stamp (binding : VmAbiBindingState) (proof : DartPlantVmCapabilityProof) :
    VmAbiBindingState :=
  { binding with
    artifactGeneration := proof.artifactGeneration
    isolateGeneration := proof.isolateGeneration }

/-- What the adapter can do with a proof the backend returned. -/
inductive ProofOutcome (profiles : List RuntimeProfileRecord) (adapter : DartPlantVmAdapter)
    (kind : DartPlantVmCapabilityEvidenceKind) (proof : DartPlantVmCapabilityProof) :
    Step DartPlantVmCapabilityProof → Prop
  | refused (failure : Failure) :
      ProofOutcome profiles adapter kind proof (adapter, .refused failure)
  -- The generations are stamped before the profiles are compared.
  | contradicted (index : Nat) (failure : Failure) (hkept : ¬ adapter.changesGeneration proof)
      (hcontradicts : adapter.contradicts index kind proof) :
      ProofOutcome profiles adapter kind proof
        ({ adapter with abiBinding := adapter.abiBinding.stamp proof }, .refused failure)
  | accepted (index : Nat) (profile : RuntimeProfileRecord) (base : DartPlantVmAdapter)
      (hbase : base = if adapter.changesGeneration proof then adapter.resetAbiBinding else adapter)
      (hindex : capabilityIndex kind.capability = some index)
      (hlength : index < base.abiBinding.capabilities.length)
      (hcapability : proof.capability = kind.capability) (hartifact : proof.artifactGeneration ≠ 0)
      (hfound : profiles.find? (fun profile => profile.profileVersion == proof.profileVersion) =
        some profile)
      (hfree : ¬ base.contradicts index kind proof) :
      ProofOutcome profiles adapter kind proof
        ({ base with abiBinding :=
            { base.abiBinding.stamp proof with
              capabilities := base.abiBinding.capabilities.set index ⟨proof, some profile⟩ } },
          .ok proof)

section Proofs
variable {profiles : List RuntimeProfileRecord} {adapter : DartPlantVmAdapter} {thread : ThreadId}
  {contended : Bool} {kind : DartPlantVmCapabilityEvidenceKind} {status : DartPlantStatus}
  {proof : DartPlantVmCapabilityProof}

theorem recordProof_outcome :
    ProofOutcome profiles adapter kind proof (adapter.recordProof profiles kind proof) := by
  unfold recordProof
  split
  · exact .refused _
  split
  · exact .refused _
  next index hindex =>
  split
  · exact .refused _
  next hvalid =>
  simp only [not_or, ge_iff_le, Nat.not_le, ne_eq, not_not] at hvalid
  obtain ⟨hlength, hcapability, -, hartifact, -⟩ := hvalid
  split
  · exact .refused _
  next profile hfound =>
  have hbase : (if adapter.abiBinding.artifactGeneration ≠ 0 ∧
      (adapter.abiBinding.artifactGeneration ≠ proof.artifactGeneration ∨
        adapter.abiBinding.isolateGeneration ≠ proof.isolateGeneration) then
      adapter.resetAbiBinding else adapter) =
        if adapter.changesGeneration proof then adapter.resetAbiBinding else adapter := rfl
  dsimp only
  rw [hbase]
  generalize hchosen : (if adapter.changesGeneration proof then adapter.resetAbiBinding
    else adapter) = base
  split
  next hcontradicts =>
    have hcontradicts : base.contradicts index kind proof := hcontradicts
    by_cases hchanges : adapter.changesGeneration proof
    · rw [if_pos hchanges] at hchosen
      subst hchosen
      exact absurd hcontradicts (not_contradicts_reset index)
    · rw [if_neg hchanges] at hchosen
      subst hchosen
      exact .contradicted index _ hchanges hcontradicts
  next hfree =>
    refine .accepted index profile base hchosen.symm hindex ?_ hcapability hartifact hfound hfree
    rw [← hchosen]
    split
    · rwa [resetAbiBinding, List.length_map]
    · exact hlength

/-- A proof fails before the binding is looked at, or is settled in the binding as it is. -/
theorem proveCapability_settles :
    (Fails (adapter.proveCapability profiles contended thread kind status proof) ∧
        SameAbi adapter (adapter.proveCapability profiles contended thread kind status proof).1) ∨
      ∃ settled, SameAbi adapter settled ∧
        adapter.proveCapability profiles contended thread kind status proof =
          settled.recordProof profiles kind proof := by
  by_cases hbegun : (adapter.beginProof contended thread).2 = .ok ()
  · obtain ⟨settled, hsame, hstep⟩ := proveCapability_begun profiles kind status proof hbegun
    rw [hstep]
    by_cases hstatus : status = .ok
    · rw [if_neg (not_not.mpr hstatus)]
      exact .inr ⟨settled, hsame, rfl⟩
    · rw [if_pos hstatus]
      exact .inl ⟨fun _ => nofun, hsame⟩
  · have hsame := beginProof_sameAbi adapter contended thread
    unfold proveCapability
    generalize adapter.beginProof contended thread = checked at hbegun hsame ⊢
    obtain ⟨begun, outcome⟩ := checked
    cases outcome with
    | ok value => exact absurd rfl hbegun
    | refused failure => exact .inl ⟨fun _ => nofun, hsame⟩
    | backend status => exact .inl ⟨fun _ => nofun, hsame⟩

end Proofs

/-! ## The record and the history -/

/-- Every record is of an accepted proof, and every accepted proof is of the binding's generation
and has a record with its profile. -/
structure BindingInvariant (profiles : List RuntimeProfileRecord) (binding : VmAbiBindingState)
    (accepted : List AcceptedProof) : Prop where
  records : ∀ (index : Nat) entry, binding.capabilities[index]? = some entry →
    entry.proof.capability ≠ kCapabilityNone →
    ∃ profile, entry.profile = some profile ∧ (entry.proof, profile) ∈ accepted
  blank : ∀ (index : Nat) entry, binding.capabilities[index]? = some entry →
    entry.proof.capability = kCapabilityNone → entry = {}
  generation : ∀ proven ∈ accepted, proven.1.artifactGeneration = binding.artifactGeneration ∧
    proven.1.isolateGeneration = binding.isolateGeneration
  profile : ∀ proven ∈ accepted,
    profiles.find? (fun profile => profile.profileVersion == proven.1.profileVersion) =
      some proven.2
  recorded : ∀ proven ∈ accepted, ∃ index entry, capabilityIndex proven.1.capability = some index ∧
    binding.capabilities[index]? = some entry ∧
    entry.proof.capability = proven.1.capability ∧
    entry.proof.profileVersion = proven.1.profileVersion
  fresh : binding.artifactGeneration = 0 → accepted = []

section Invariant
variable {profiles : List RuntimeProfileRecord} {adapter : DartPlantVmAdapter}
  {binding : VmAbiBindingState} {accepted : List AcceptedProof}
  {kind : DartPlantVmCapabilityEvidenceKind} {proof : DartPlantVmCapabilityProof}

theorem capabilityIndex_some {capability : VmCapability} {index : Nat}
    (h : capabilityIndex capability = some index) : capability = 1 <<< index := by
  unfold capabilityIndex at h
  have hfound := List.find?_some h
  exact beq_iff_eq.mp hfound

theorem bindingInvariant_reset :
    BindingInvariant profiles adapter.resetAbiBinding.abiBinding [] where
  records := by
    intro index entry hentry hne
    have hblank : entry = {} := by
      rw [resetAbiBinding, List.getElem?_map, Option.map_eq_some_iff] at hentry
      obtain ⟨-, -, hentry⟩ := hentry
      exact hentry.symm
    rw [hblank] at hne
    exact absurd rfl hne
  blank := by
    intro index entry hentry _
    rw [resetAbiBinding, List.getElem?_map, Option.map_eq_some_iff] at hentry
    obtain ⟨-, -, hentry⟩ := hentry
    exact hentry.symm
  generation := fun _ h => absurd h List.not_mem_nil
  profile := fun _ h => absurd h List.not_mem_nil
  recorded := fun _ h => absurd h List.not_mem_nil
  fresh := fun _ => rfl

/-- A proof of the binding's own generation does not move the stamp once anything is accepted. -/
theorem BindingInvariant.stamp_eq (h : BindingInvariant profiles adapter.abiBinding accepted)
    (hkept : ¬ adapter.changesGeneration proof) (hne : accepted ≠ []) :
    adapter.abiBinding.stamp proof = adapter.abiBinding := by
  have hstarted : adapter.abiBinding.artifactGeneration ≠ 0 := fun hzero => hne (h.fresh hzero)
  rw [changesGeneration, not_and, not_or, not_not, not_not] at hkept
  obtain ⟨hartifact, hisolate⟩ := hkept hstarted
  rw [VmAbiBindingState.stamp, ← hartifact, ← hisolate]

/-- A contradiction is one with an accepted proof, so the stamp has not moved. -/
theorem BindingInvariant.contradicted (h : BindingInvariant profiles adapter.abiBinding accepted)
    {index : Nat} (hkept : ¬ adapter.changesGeneration proof)
    (hcontradicts : adapter.contradicts index kind proof) :
    adapter.abiBinding.stamp proof = adapter.abiBinding := by
  refine h.stamp_eq hkept fun hnil => ?_
  obtain ⟨hcapability, -⟩ := hcontradicts
  cases hentry : adapter.abiBinding.capabilities[index]? with
  | none =>
    rw [hentry] at hcapability
    exact capability_ne_none hcapability.symm
  | some entry =>
    rw [hentry, Option.getD_some] at hcapability
    obtain ⟨profile, -, hmem⟩ := h.records index entry hentry
      (hcapability ▸ capability_ne_none)
    rw [hnil] at hmem
    cases hmem

/-- Accepting a proof keeps the record and the history together. -/
theorem BindingInvariant.accept (h : BindingInvariant profiles adapter.abiBinding accepted)
    {index : Nat} {profile : RuntimeProfileRecord} (hkept : ¬ adapter.changesGeneration proof)
    (hindex : capabilityIndex kind.capability = some index)
    (hlength : index < adapter.abiBinding.capabilities.length)
    (hcapability : proof.capability = kind.capability) (hartifact : proof.artifactGeneration ≠ 0)
    (hfound : profiles.find? (fun profile => profile.profileVersion == proof.profileVersion) =
      some profile) (hfree : ¬ adapter.contradicts index kind proof) :
    BindingInvariant profiles
      { adapter.abiBinding.stamp proof with
        capabilities := adapter.abiBinding.capabilities.set index ⟨proof, some profile⟩ }
      ((proof, profile) :: accepted) := by
  have hstamp (proven : AcceptedProof) (hproven : proven ∈ accepted) :
      adapter.abiBinding.stamp proof = adapter.abiBinding :=
    h.stamp_eq hkept (List.ne_nil_of_mem hproven)
  have hset (place : Nat) (entry : VmAbiCapabilityBinding)
      (hentry : (adapter.abiBinding.capabilities.set index ⟨proof, some profile⟩)[place]? =
        some entry) :
      (place = index ∧ entry = ⟨proof, some profile⟩) ∨
        adapter.abiBinding.capabilities[place]? = some entry := by
    rw [List.getElem?_set] at hentry
    split at hentry
    next hplace =>
      exact .inl ⟨hplace.symm, (Option.some.inj hentry).symm⟩
    next => exact .inr hentry
  refine ⟨?_, ?_, ?_, ?_, ?_, fun hzero => absurd hzero hartifact⟩
  · intro place entry hentry hne
    rcases hset place entry hentry with ⟨-, rfl⟩ | hentry
    · exact ⟨profile, rfl, List.mem_cons_self⟩
    · obtain ⟨bound, hbound, hmem⟩ := h.records place entry hentry hne
      exact ⟨bound, hbound, List.mem_cons_of_mem _ hmem⟩
  · intro place entry hentry hnone
    rcases hset place entry hentry with ⟨-, rfl⟩ | hentry
    · exact absurd (hcapability.symm.trans hnone) capability_ne_none
    · exact h.blank place entry hentry hnone
  · intro proven hproven
    rcases List.mem_cons.mp hproven with rfl | hproven
    · exact ⟨rfl, rfl⟩
    · rw [hstamp proven hproven]
      exact h.generation proven hproven
  · intro proven hproven
    rcases List.mem_cons.mp hproven with rfl | hproven
    · exact hfound
    · exact h.profile proven hproven
  · intro proven hproven
    rcases List.mem_cons.mp hproven with rfl | hproven
    · have hself : (adapter.abiBinding.capabilities.set index ⟨proof, some profile⟩)[index]? =
          some ⟨proof, some profile⟩ := List.getElem?_set_self hlength
      exact ⟨index, _, hcapability ▸ hindex, hself, rfl, rfl⟩
    · obtain ⟨place, entry, hplace, hentry, hsame, hversion⟩ := h.recorded proven hproven
      by_cases hown : place = index
      · -- The capability has a record, and the proof did not contradict it.
        subst hown
        have hkind : proven.1.capability = kind.capability :=
          (capabilityIndex_some hplace).trans (capabilityIndex_some hindex).symm
        have hagrees : proof.profileVersion = entry.proof.profileVersion := by
          by_contra hdiffers
          refine hfree ⟨?_, ?_⟩
          · rw [hentry, Option.getD_some]
            exact hsame.trans hkind
          · rw [hentry, Option.getD_some]
            exact fun heq => hdiffers heq.symm
        have hself : (adapter.abiBinding.capabilities.set place ⟨proof, some profile⟩)[place]? =
            some ⟨proof, some profile⟩ := List.getElem?_set_self hlength
        exact ⟨place, _, hplace, hself, hcapability.trans hkind.symm, hagrees.trans hversion⟩
      · refine ⟨place, entry, hplace, ?_, hsame, hversion⟩
        exact (List.getElem?_set_ne (Ne.symm hown)).trans hentry

/-- What an accepted proof does to the record and to the history. -/
theorem BindingInvariant.outcome (h : BindingInvariant profiles adapter.abiBinding accepted)
    {step : Step DartPlantVmCapabilityProof}
    (hstep : ProofOutcome profiles adapter kind proof step) :
    (Fails step ∧ step.1.abiBinding = adapter.abiBinding) ∨
      ∃ profile, step.2 = .ok proof ∧
        profiles.find? (fun profile => profile.profileVersion == proof.profileVersion) =
          some profile ∧
        BindingInvariant profiles step.1.abiBinding
          ((proof, profile) :: if adapter.changesGeneration proof then [] else accepted) := by
  cases hstep with
  | refused failure => exact .inl ⟨fun _ => nofun, rfl⟩
  | contradicted index failure hkept hcontradicts =>
    exact .inl ⟨fun _ => nofun, h.contradicted hkept hcontradicts⟩
  | accepted index profile base hbase hindex hlength hcapability hartifact hfound hfree =>
    refine .inr ⟨profile, rfl, hfound, ?_⟩
    by_cases hchanges : adapter.changesGeneration proof
    · rw [if_pos hchanges] at hbase ⊢
      subst hbase
      have hreset : ¬ adapter.resetAbiBinding.changesGeneration proof := fun hagain => hagain.1 rfl
      exact bindingInvariant_reset.accept hreset hindex hlength hcapability hartifact hfound hfree
    · rw [if_neg hchanges] at hbase ⊢
      subst hbase
      exact h.accept hchanges hindex hlength hcapability hartifact hfound hfree

end Invariant

/-! ## Runs -/

section Runs
variable {profiles : List RuntimeProfileRecord} {history : BindingHistory} {thread : ThreadId}

/-- The record and the history of a state belong together. -/
def BindingHistory.Recorded (profiles : List RuntimeProfileRecord) (history : BindingHistory) :
    Prop :=
  BindingInvariant profiles history.world.adapter.abiBinding history.accepted

theorem settle_binding {α : Type} {world : VmWorld} {deed : Option VmDeed} {step : Step α}
    (h : step.1.abiBinding = world.adapter.abiBinding) :
    (world.settle deed step).1.adapter.abiBinding = world.adapter.abiBinding := by
  obtain ⟨adapter, outcome⟩ := step
  cases outcome with
  | ok value => exact h
  | refused failure => exact h
  | backend status => exact h

section Roots
variable {adapter : DartPlantVmAdapter} {rootLease : Address} {status : DartPlantStatus}

theorem generatedRootGet_same {raw : BitVec 64} :
    (adapter.generatedRootGet thread rootLease status raw).1 = adapter := by
  unfold DartPlantVmAdapter.generatedRootGet
  split
  · rfl
  split
  · rfl
  split
  · rfl
  split
  · rfl
  · rfl

theorem generatedRootSet_same :
    (adapter.generatedRootSet thread rootLease status).1 = adapter := by
  unfold DartPlantVmAdapter.generatedRootSet
  split
  · rfl
  split
  · rfl
  split
  · rfl
  split
  · rfl
  · rfl

theorem readObject_same {handle : DartPlantObjectHandle} {raw : BitVec 64} :
    (adapter.readObject thread handle status raw).1 = adapter := by
  unfold readObject
  split
  · rfl
  split
  · rfl
  split
  · rfl
  split
  · rfl
  · rfl

end Roots

/-- The calls that move the binding. -/
def VmCall.movesBinding : VmCall → Bool
  | .attachIsolate _ => true
  | .detachIsolate _ => true
  | .invalidateAbiBinding => true
  | .proveCapability .. => true
  | _ => false

/-- Every other call leaves the binding alone. -/
theorem perform_sameAbi {call : VmCall} (hcall : call.movesBinding = false) :
    (history.world.perform profiles thread call).1.adapter.abiBinding =
      history.world.adapter.abiBinding := by
  cases call with
  | attachIsolate isolate => cases hcall
  | detachIsolate isolate => cases hcall
  | invalidateAbiBinding => cases hcall
  | proveCapability contended kind status proof => cases hcall
  | enterIsolate status => exact settle_binding (enterIsolate_passes.same status).binding
  | leaveIsolate status => exact settle_binding leaveIsolate_sameAbi.binding
  | enterScope status => exact settle_binding enterScope_sameAbi.binding
  | leaveScope status => exact settle_binding leaveScope_sameAbi.binding
  | pinGeneratedRoots contended rawValues valueCount status lease =>
    exact settle_binding (pinGeneratedRoots_passes.same status).binding
  | generatedRootGet rootLease status raw =>
    exact settle_binding (congrArg abiBinding generatedRootGet_same)
  | generatedRootSet rootLease status =>
    exact settle_binding (congrArg abiBinding generatedRootSet_same)
  | unpinGeneratedRoots contended rootLease outRawValues valueCount status =>
    exact settle_binding (unpinGeneratedRoots_passes.same status).binding
  | enterGeneratedToNative contended frame rootLease status =>
    exact settle_binding ((enterGeneratedToNative_passes contended).same status).binding
  | leaveNativeToGenerated frame rootLease status =>
    exact settle_binding (leaveNativeToGenerated_passes.same status).binding
  | beginLiveHeapObservation vmThread status lease =>
    exact settle_binding (beginLiveHeapObservation_passes.same status).binding
  | endLiveHeapObservation lease status =>
    exact settle_binding (endLiveHeapObservation_passes.same status).binding
  | readActiveObject status raw =>
    exact settle_binding (readActiveObject_passes.same status).binding
  | readTypeArgumentsElement contended status raw =>
    exact settle_binding ((readTypeArgumentsElement_passes contended).same status).binding
  | retainObject retained backendHandle classified =>
    have hsame : SameAbi history.world.adapter
        (history.world.adapter.retainObject thread retained backendHandle classified).1 :=
      retainObject_sameAbi
    unfold VmWorld.perform VmWorld.retainObject
    dsimp only
    generalize history.world.adapter.retainObject thread retained backendHandle classified = step
      at hsame ⊢
    obtain ⟨adapter, outcome⟩ := step
    cases outcome with
    | ok handle => exact hsame.binding
    | refused failure => exact hsame.binding
    | backend status => exact hsame.binding
  | releaseObject index status =>
    unfold VmWorld.perform VmWorld.releaseObject
    dsimp only
    cases history.world.handles[index]? with
    | none => rfl
    | some handle =>
      dsimp only
      have hsame : SameAbi history.world.adapter
          (history.world.adapter.releaseObject handle status).1 := releaseObject_sameAbi
      generalize history.world.adapter.releaseObject handle status = step at hsame ⊢
      obtain ⟨adapter, outcome⟩ := step
      cases outcome with
      | ok released => exact hsame.binding
      | refused failure => exact hsame.binding
      | backend status => exact hsame.binding
  | readObject index status raw =>
    unfold VmWorld.perform
    dsimp only
    cases history.world.handles[index]? with
    | none => rfl
    | some handle => exact settle_binding (congrArg abiBinding readObject_same)
  | getCapabilityBinding capability => exact settle_binding rfl
  | retainHook => exact settle_binding rfl
  | releaseHook =>
    refine settle_binding ?_
    unfold releaseHook
    split
    · rfl
    · rfl
  | closeAdmission => exact settle_binding rfl
  | openAdmission => exact settle_binding rfl
  | checkQuiescent => exact settle_binding rfl
  | destroy => exact settle_binding rfl

/-- Nothing is added to the history by them. -/
theorem acceptedAfter_other {call : VmCall} (hcall : call.movesBinding = false)
    (outcome : VmOutcome Unit) :
    history.acceptedAfter profiles call outcome = history.accepted := by
  cases call with
  | attachIsolate isolate => cases hcall
  | detachIsolate isolate => cases hcall
  | invalidateAbiBinding => cases hcall
  | proveCapability contended kind status proof => cases hcall
  | _ => rfl

theorem attachIsolate_cases (adapter : DartPlantVmAdapter) (isolate : DartPlantIsolateIdentity) :
    (∃ failure, adapter.attachIsolate isolate = (adapter, .refused failure)) ∨
      adapter.attachIsolate isolate =
        ({ adapter.resetAbiBinding with isolate, attached := true }, .ok ()) := by
  unfold attachIsolate
  split
  · exact .inl ⟨_, rfl⟩
  split
  · exact .inl ⟨_, rfl⟩
  · exact .inr rfl

theorem detachIsolate_cases (adapter : DartPlantVmAdapter) (isolate : DartPlantIsolateIdentity) :
    (∃ failure, adapter.detachIsolate isolate = (adapter, .refused failure)) ∨
      adapter.detachIsolate isolate =
        ({ adapter.resetAbiBinding with attached := false, isolate := {}, ownerThread := none },
          .ok ()) := by
  unfold detachIsolate
  split
  · exact .inl ⟨_, rfl⟩
  split
  · exact .inl ⟨_, rfl⟩
  · exact .inr rfl

theorem changesGeneration_congr {adapter settled : DartPlantVmAdapter}
    (h : SameAbi adapter settled) (proof : DartPlantVmCapabilityProof) :
    settled.changesGeneration proof ↔ adapter.changesGeneration proof := by
  rw [changesGeneration, changesGeneration, h.binding]

/-- What a proof call does to the record and to the history. -/
theorem BindingHistory.Recorded.prove (h : history.Recorded profiles) (thread : ThreadId)
    (contended : Bool) (kind : DartPlantVmCapabilityEvidenceKind) (status : DartPlantStatus)
    (proof : DartPlantVmCapabilityProof) :
    let step := history.world.adapter.proveCapability profiles contended thread kind status proof
    (Fails step ∧ step.1.abiBinding = history.world.adapter.abiBinding) ∨
      ∃ profile, step.2 = .ok proof ∧
        profiles.find? (fun profile => profile.profileVersion == proof.profileVersion) =
          some profile ∧
        BindingInvariant profiles step.1.abiBinding ((proof, profile) ::
          if history.world.adapter.changesGeneration proof then [] else history.accepted) := by
  intro step
  have hsettles : (Fails step ∧ SameAbi history.world.adapter step.1) ∨
      ∃ settled, SameAbi history.world.adapter settled ∧
        step = settled.recordProof profiles kind proof := proveCapability_settles
  rcases hsettles with ⟨hfails, hsame⟩ | ⟨settled, hsame, hstep⟩
  · exact .inl ⟨hfails, hsame.binding⟩
  · have hsettled : BindingInvariant profiles settled.abiBinding history.accepted := by
      rw [hsame.binding]
      exact h
    have hproof : ProofOutcome profiles settled kind proof
        (settled.recordProof profiles kind proof) := recordProof_outcome
    have houtcome := hsettled.outcome hproof
    rw [hstep]
    simp only [changesGeneration_congr hsame] at houtcome
    rcases houtcome with ⟨hfails, hbinding⟩ | haccepted
    · exact .inl ⟨hfails, hbinding.trans hsame.binding⟩
    · exact .inr haccepted

theorem settle_failed {α : Type} {world : VmWorld} {deed : Option VmDeed} {step : Step α}
    (h : Fails step) : (world.settle deed step).2 ≠ .ok () := by
  obtain ⟨adapter, outcome⟩ := step
  cases outcome with
  | ok value => exact absurd rfl (h value)
  | refused failure => exact nofun
  | backend status => exact nofun

theorem settle_ok {α : Type} (world : VmWorld) (deed : Option VmDeed) {step : Step α} {value : α}
    (h : step.2 = .ok value) : (world.settle deed step).2 = .ok () ∧
      (world.settle deed step).1.adapter = step.1 := by
  obtain ⟨adapter, outcome⟩ := step
  obtain rfl : outcome = .ok value := h
  exact ⟨rfl, rfl⟩

theorem acceptedAfter_failed {contended : Bool} {kind : DartPlantVmCapabilityEvidenceKind}
    {status : DartPlantStatus} {proof : DartPlantVmCapabilityProof} {outcome : VmOutcome Unit}
    (h : outcome ≠ .ok ()) :
    history.acceptedAfter profiles (.proveCapability contended kind status proof) outcome =
      history.accepted := by
  cases outcome with
  | ok value => exact absurd rfl h
  | refused failure => rfl
  | backend status => rfl

theorem acceptedAfter_proved {contended : Bool} {kind : DartPlantVmCapabilityEvidenceKind}
    {status : DartPlantStatus} {proof : DartPlantVmCapabilityProof}
    {profile : RuntimeProfileRecord}
    (hfound : profiles.find? (fun profile => profile.profileVersion == proof.profileVersion) =
      some profile) :
    history.acceptedAfter profiles (.proveCapability contended kind status proof) (.ok ()) =
      (proof, profile) ::
        if history.world.adapter.changesGeneration proof then [] else history.accepted := by
  simp only [BindingHistory.acceptedAfter, hfound]

/-- A step keeps the record and the history together. -/
theorem BindingHistory.Recorded.step (h : history.Recorded profiles)
    (action : ThreadId × VmCall) : (bindingStep profiles history action).Recorded profiles := by
  obtain ⟨thread, call⟩ := action
  unfold BindingHistory.Recorded bindingStep
  by_cases hcall : call.movesBinding = false
  · rw [perform_sameAbi hcall, acceptedAfter_other hcall]
    exact h
  cases call with
  | attachIsolate isolate =>
    rcases attachIsolate_cases history.world.adapter isolate with ⟨failure, hstep⟩ | hstep
    · simp only [VmWorld.perform, hstep]
      exact h
    · simp only [VmWorld.perform, hstep]
      exact bindingInvariant_reset
  | detachIsolate isolate =>
    rcases detachIsolate_cases history.world.adapter isolate with ⟨failure, hstep⟩ | hstep
    · simp only [VmWorld.perform, hstep]
      exact h
    · simp only [VmWorld.perform, hstep]
      exact bindingInvariant_reset
  | invalidateAbiBinding => exact bindingInvariant_reset
  | proveCapability contended kind status proof =>
    have hproved := h.prove thread contended kind status proof
    show BindingInvariant profiles (history.world.settle none (history.world.adapter.proveCapability
        profiles contended thread kind status proof)).1.adapter.abiBinding
      (history.acceptedAfter profiles (.proveCapability contended kind status proof)
        (history.world.settle none (history.world.adapter.proveCapability profiles contended thread
          kind status proof)).2)
    generalize history.world.adapter.proveCapability profiles contended thread kind status proof =
      step at hproved ⊢
    rcases hproved with ⟨hfails, hbinding⟩ | ⟨profile, hok, hfound, hinvariant⟩
    · rw [acceptedAfter_failed (settle_failed hfails), settle_binding hbinding]
      exact h
    · obtain ⟨houtcome, hadapter⟩ := settle_ok history.world none hok
      rw [houtcome, hadapter, acceptedAfter_proved hfound]
      exact hinvariant
  | _ => exact absurd rfl hcall

/-- The calls keep the record and the history together, and a rejected proof keeps the record. -/
theorem BindingHistory.Recorded.rejected (h : history.Recorded profiles)
    (action : ThreadId × VmCall) : RejectedProofKeeps profiles history action := by
  obtain ⟨thread, call⟩ := action
  intro contended kind status proof hcall hrejected
  obtain rfl : call = .proveCapability contended kind status proof := hcall
  rcases h.prove thread contended kind status proof with ⟨-, hbinding⟩ | ⟨profile, hok, -, -⟩
  · exact settle_binding hbinding
  · exact absurd (settle_ok history.world none hok).1 hrejected

/-- The binding is coherent where the record and the history belong together. -/
theorem BindingHistory.Recorded.coherent (h : history.Recorded profiles) :
    BindingsCoherent history where
  stamped := by
    intro index entry hentry hne
    obtain ⟨profile, -, hmem⟩ := h.records index entry hentry hne
    exact h.generation _ hmem
  bound := by
    intro earlier hearlier later hlater hsame
    obtain ⟨index, entry, hindex, hentry, -, hversion⟩ := h.recorded earlier hearlier
    obtain ⟨index', entry', hindex', hentry', -, hversion'⟩ := h.recorded later hlater
    rw [hsame] at hindex
    obtain rfl : index = index' := Option.some.inj (hindex.symm.trans hindex')
    obtain rfl : entry = entry' := Option.some.inj (hentry.symm.trans hentry')
    have hprofile := h.profile earlier hearlier
    rw [← hversion, hversion', h.profile later hlater] at hprofile
    exact (Option.some.inj hprofile).symm
  handedOut := by
    intro capability proof profile hreturned
    unfold getCapabilityBinding at hreturned
    split at hreturned
    · cases hreturned
    split at hreturned
    · cases hreturned
    next entry hentry =>
    split at hreturned
    · cases hreturned
    next hvalid =>
    split at hreturned
    · cases hreturned
    next bound hbound =>
      simp only [not_or, ne_eq, not_not] at hvalid
      obtain ⟨hcapability, -, hartifact, -, hisolate⟩ := hvalid
      obtain ⟨rfl, rfl⟩ := Prod.mk.inj (VmOutcome.ok.inj hreturned)
      obtain ⟨index, hindex, hentry⟩ := Option.bind_eq_some_iff.mp hentry
      have hne : entry.proof.capability ≠ kCapabilityNone := by
        rw [hcapability]
        rintro rfl
        cases hindex
      obtain ⟨profile, hprofile, hmem⟩ := h.records index entry hentry hne
      rw [hbound] at hprofile
      obtain rfl := Option.some.inj hprofile
      exact ⟨hmem, hcapability, hartifact, hisolate⟩

theorem recorded_create {callbacks : DartPlantVmAdapterCallbacks} {adapter : DartPlantVmAdapter}
    (hcreated : vmAdapterCreate callbacks = .ok adapter) :
    BindingHistory.Recorded profiles ⟨{ adapter }, []⟩ := by
  unfold vmAdapterCreate at hcreated
  split at hcreated
  · cases hcreated
  · obtain rfl := VmOutcome.ok.inj hcreated
    have hblank : ({ callbacks } : DartPlantVmAdapter).resetAbiBinding.abiBinding =
        ({ callbacks } : DartPlantVmAdapter).abiBinding := by
      unfold resetAbiBinding
      rw [List.map_replicate]
    unfold BindingHistory.Recorded
    rw [← hblank]
    exact bindingInvariant_reset

/-- In every run of an adapter that was created, whatever the backend answers and whoever calls, the
binding is coherent in every state, and no rejected proof touches a capability. -/
theorem core_bindings_coherent (profiles : List RuntimeProfileRecord)
    {callbacks : DartPlantVmAdapterCallbacks} {adapter : DartPlantVmAdapter}
    (hcreated : vmAdapterCreate callbacks = .ok adapter) (actions : List (ThreadId × VmCall)) :
    Along (bindingStep profiles) BindingsCoherent ⟨{ adapter }, []⟩ actions ∧
      AlongSteps (bindingStep profiles) (RejectedProofKeeps profiles) ⟨{ adapter }, []⟩
        actions := by
  have hrecorded : Along (bindingStep profiles) (BindingHistory.Recorded profiles)
      ⟨{ adapter }, []⟩ actions :=
    along_of_invariant (fun _ action h (_ : True) => h.step action)
      (fun _ _ _ => trivial) (recorded_create hcreated)
  constructor
  · intro before hbefore
    exact (hrecorded before hbefore).coherent
  · intro before action hbefore
    exact (hrecorded before ((List.prefix_append before [action]).trans hbefore)).rejected action

/-- A capability is proven twice with one profile, and refused with another until it is dropped. -/
theorem core_bindings_coherent_reproven :
    let profile (version : BitVec 32) : RuntimeProfileRecord := ⟨version, 4, "v1"⟩
    let prove (version : BitVec 32) : ThreadId × VmCall :=
      (1, .proveCapability false .functionCode .ok
        { capability := DartPlantVmCapabilityEvidenceKind.functionCode.capability
          profileVersion := version
          artifactGeneration := 7
          isolateGeneration := 1 })
    let actions := [(1, .attachIsolate ⟨1, 1, 1⟩), prove 1, prove 1, prove 2,
      (1, .invalidateAbiBinding), prove 2]
    Along (bindingStep [profile 1, profile 2]) BindingsCoherent
        ⟨{ adapter := { callbacks := completeCallbacks } }, []⟩ actions ∧
      AlongSteps (bindingStep [profile 1, profile 2])
        (RejectedProofKeeps [profile 1, profile 2])
        ⟨{ adapter := { callbacks := completeCallbacks } }, []⟩ actions := by
  intro profile prove actions
  have hcreate : vmAdapterCreate completeCallbacks = .ok { callbacks := completeCallbacks } := rfl
  exact core_bindings_coherent [profile 1, profile 2] hcreate actions

end Runs

end DartPlant
