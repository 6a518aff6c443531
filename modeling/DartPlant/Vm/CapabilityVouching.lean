import DartPlant.Lib.Runs
import DartPlant.Vm.FlutterVmLaws

/-! # Who vouches for a capability

The core adapter records the proof of a capability with the row it selected, and hands both out
again until its binding is reset.  The Flutter backend keeps its own record and resets or withdraws
it by rules of its own.  `Vouched` is what the two should agree on whenever the core hands a proof
out.

They part in three ways, none of which the core is told about: another proof of the same capability
fails, or selects rows without the one the core holds; a revalidation fails; or a revalidation binds
the capability to rows without that one.  `core_vouches` is the agreement exactly for the runs
without such a step.
-/

namespace DartPlant
open Runs FlutterVmState DartPlantVmAdapter DartPlantStatus

/-- `FlutterVmAdapterImpl` and the core adapter it created. -/
structure FlutterVm (registry : ProfileRegistry) where
  adapter : DartPlantVmAdapter
  state : FlutterVmState registry

/-- What the resolver proved before the adapter is created. -/
structure VerifiedBinding (registry : ProfileRegistry) where
  candidates : AbiCandidateSet registry.Row
  capabilityBindings : CapabilityBindingSet registry.Row
  capabilityMask : BitVec 64
  artifacts : ArtifactSet

/-- `dartplant_flutter_vm_adapter_create`, from the binding the resolver returns; `none` is a
failure. -/
def flutterVmAdapterCreate {registry : ProfileRegistry} (binding : VerifiedBinding registry)
    (identity : DartPlantIsolateIdentity) (thread : BitVec 64) (modules : List ModuleImage) :
    Option (FlutterVm registry) :=
  let created : FlutterVmState registry :=
    { identity, thread
      abiCandidates := binding.candidates
      rootCompatibleCandidates := binding.candidates.profiles.map fun _ => true
      capabilityBindings := binding.capabilityBindings
      artifacts := binding.artifacts
      capabilities := binding.capabilityMask
      verifiedCapabilities := binding.capabilityMask &&& kEagerRuntimeProofMask }
  let validated := created.validateArtifactLifecycle modules
  if binding.candidates.profiles = [] ∨ binding.artifacts.engines.length ≠ 1 ∨
      validated.artifactValid = false then none
  else
    match validated.recordUnverified.establishEagerCapabilityProofs none with
    | (_, false) => none
    | (established, true) =>
      match vmAdapterCreate completeCallbacks with
      | .ok adapter =>
        match adapter.attachIsolate identity with
        | (attached, .ok ()) => some ⟨attached, established.markEager⟩
        | _ => none
      | _ => none

namespace FlutterVm
variable {registry : ProfileRegistry} (vm : FlutterVm registry)

/-- `VmAdapterProveCapability` with this backend. -/
def proveCapability (contended : Bool) (thread : ThreadId)
    (evidence : DartPlantVmCapabilityEvidence) (reading : EvidenceReading registry.Row) :
    FlutterVm registry :=
  match vm.adapter.beginProof contended thread with
  | (_, .ok _) =>
    match vm.state.proveCapability vm.adapter.isolate evidence reading with
    | (state, .ok proof) =>
      ⟨(vm.adapter.proveCapability registry.rows contended thread evidence.kind .ok proof).1, state⟩
    | (state, .error status) =>
      ⟨(vm.adapter.proveCapability registry.rows contended thread evidence.kind status {}).1, state⟩
  | (begun, _) => { vm with adapter := begun }

/-- `dartplant_flutter_vm_adapter_invalidate_artifacts`. -/
def invalidateArtifacts : FlutterVm registry where
  adapter := vm.adapter.closeAdmission.invalidateAbiBinding
  state := { vm.state with artifactQuiescing := true }.invalidateArtifactBinding

/-- `dartplant_flutter_vm_adapter_quiesce_artifacts`; the hooks of the adapter are drained with this
status and leave these references. -/
def quiesceArtifacts (drained : DartPlantStatus) (hookRefs : BitVec 64) :
    FlutterVm registry × VmOutcome Unit :=
  let adapter := { vm.adapter.closeAdmission with hookRefs }
  (⟨adapter, { vm.state with artifactQuiescing := true }⟩,
    if drained ≠ .ok then .backend drained else adapter.checkQuiescent)

/-- `dartplant_flutter_vm_adapter_retire_artifacts`. -/
def retireArtifacts (drained : DartPlantStatus) (hookRefs : BitVec 64) : FlutterVm registry :=
  match vm.quiesceArtifacts drained hookRefs with
  | (quiesced, .ok _) =>
    if quiesced.state.artifactValid = false then quiesced
    else ⟨quiesced.adapter.invalidateAbiBinding, quiesced.state.invalidateArtifactBinding⟩
  | (quiesced, _) => quiesced

/-- `dartplant_flutter_vm_adapter_revalidate_artifacts`. -/
def revalidateArtifacts (modules : List ModuleImage) (probe : registry.Row → CandidateProbe) :
    FlutterVm registry :=
  if vm.state.abiCandidates.profiles = [] then
    { vm with state := { vm.state with artifactValid := false } }
  else if vm.state.artifactQuiescing = true ∧ vm.state.artifactValid = true then vm
  else
    let validated := vm.state.validateArtifactLifecycle modules
    if validated.artifactValid = false then { vm with state := validated }
    else
      let reproved := validated.reproveCoreBinding probe
      if reproved.2 = false then { vm with state := { reproved.1 with artifactValid := false } }
      else ⟨vm.adapter.openAdmission, { reproved.1.markEager with artifactQuiescing := false }⟩

end FlutterVm

/-- A call on the adapter, with what it reads of the process. -/
inductive FlutterVmCall (registry : ProfileRegistry) where
  | proveCapability (contended : Bool) (thread : ThreadId)
      (evidence : DartPlantVmCapabilityEvidence) (reading : EvidenceReading registry.Row)
  | invalidateArtifacts
  | quiesceArtifacts (drained : DartPlantStatus) (hookRefs : BitVec 64)
  | retireArtifacts (drained : DartPlantStatus) (hookRefs : BitVec 64)
  | revalidateArtifacts (modules : List ModuleImage) (probe : registry.Row → CandidateProbe)

/-- One call. -/
def flutterVmStep {registry : ProfileRegistry} (vm : FlutterVm registry) :
    FlutterVmCall registry → FlutterVm registry
  | .proveCapability contended thread evidence reading =>
    vm.proveCapability contended thread evidence reading
  | .invalidateArtifacts => vm.invalidateArtifacts
  | .quiesceArtifacts drained hookRefs => (vm.quiesceArtifacts drained hookRefs).1
  | .retireArtifacts drained hookRefs => vm.retireArtifacts drained hookRefs
  | .revalidateArtifacts modules probe => vm.revalidateArtifacts modules probe

/-! ## Vouching -/

section Vouching
variable {registry : ProfileRegistry}

/-- The backend has currently proven what the core hands out. -/
structure Vouched (state : FlutterVmState registry) (capability : VmCapability)
    (proof : DartPlantVmCapabilityProof) (profile : RuntimeProfileRecord) : Prop where
  verified : state.hasVerifiedCapability capability = true
  artifact : proof.artifactGeneration = state.artifactGeneration
  isolate : proof.isolateGeneration = state.identity.generation
  valid : state.artifactValid = true
  row : ∃ binding, state.capabilityBindings.findBinding capability = some binding ∧
    ∃ row ∈ binding.selectedRows, row.1 = profile

/-- Whatever the core hands out is vouched for. -/
def CoreVouches (vm : FlutterVm registry) : Prop :=
  ∀ capability proof profile,
    vm.adapter.getCapabilityBinding capability = .ok (proof, profile) →
      Vouched vm.state capability proof profile

/-- The proof reaches the rows: nothing in the core or the backend refuses it before. -/
def ProofReached (vm : FlutterVm registry) (contended : Bool) (thread : ThreadId)
    (evidence : DartPlantVmCapabilityEvidence) (reading : EvidenceReading registry.Row) : Prop :=
  (vm.adapter.beginProof contended thread).2 = .ok () ∧ reading.contended = false ∧
    vm.state.validateCurrentOwner reading.ownerCurrent = true ∧
    (evidence.observationReceipt || evidence.semanticReceipt) = false

/-- A capability that the core hands out is proved again only by evidence that holds for its row,
and the artifacts are validated again, while the core hands anything out, only when they are mapped,
the core binding is reprovable, and the rows offered for the capability still include its row. -/
def KeepsVouching (vm : FlutterVm registry) : FlutterVmCall registry → Prop
  | .proveCapability contended thread evidence reading =>
    ProofReached vm contended thread evidence reading → ∀ proof profile,
      vm.adapter.getCapabilityBinding evidence.kind.capability = .ok (proof, profile) →
        vm.state.EvidenceHolds evidence.kind reading ∧
          ∃ row ∈ (vm.state.evidenceSelection evidence.kind reading).selectedRows, row.1 = profile
  | .revalidateArtifacts modules probe => ∀ capability proof profile,
    vm.adapter.getCapabilityBinding capability = .ok (proof, profile) →
      (vm.state.validateArtifactLifecycle modules).artifactValid = true ∧
        vm.state.Reprovable probe ∧
        (vm.state.rebuilds capability = true →
          ∃ row ∈ (vm.state.selectProbed probe capability).selectedRows, row.1 = profile)
  | _ => True

/-! ## The core's record -/

/-- What the core holds for a capability is vouched for, and of the current incarnation. -/
def RecordBacked (binding : VmAbiBindingState) (state : FlutterVmState registry) (index : Nat)
    (entry : VmAbiCapabilityBinding) : Prop :=
  ∃ (kind : DartPlantVmCapabilityEvidenceKind) (row : registry.Row),
    entry.profile = some row.1 ∧ entry.proof.capability = kind.capability ∧
      capabilityIndex kind.capability = some index ∧
      entry.proof.profileVersion = row.1.profileVersion ∧ entry.proof.profileVersion ≠ 0 ∧
      binding.artifactGeneration = state.artifactGeneration ∧
      binding.isolateGeneration = state.identity.generation ∧
      Vouched state kind.capability entry.proof row.1

/-- The core and the backend agree, whether or not the core hands anything out now. -/
structure VmRecords (vm : FlutterVm registry) : Prop where
  attached : vm.adapter.attached = true
  isolate : vm.adapter.isolate = vm.state.identity
  admission : vm.adapter.admissionOpen = !vm.state.artifactQuiescing
  candidates : vm.state.abiCandidates.profiles ≠ []
  recorded : ∀ (index : Nat) entry, vm.adapter.abiBinding.capabilities[index]? = some entry →
    entry.proof.capability ≠ kCapabilityNone →
    RecordBacked vm.adapter.abiBinding vm.state index entry

/-- The fields of the adapter that the binding of a capability depends on. -/
structure SameAbi (adapter after : DartPlantVmAdapter) : Prop where
  attached : after.attached = adapter.attached
  isolate : after.isolate = adapter.isolate
  admission : after.admissionOpen = adapter.admissionOpen
  binding : after.abiBinding = adapter.abiBinding

variable {vm : FlutterVm registry} {adapter after : DartPlantVmAdapter}
  {state next : FlutterVmState registry} {capability : VmCapability}
  {proof : DartPlantVmCapabilityProof} {profile : RuntimeProfileRecord}
  {kind : DartPlantVmCapabilityEvidenceKind}

theorem SameAbi.trans {last : DartPlantVmAdapter} (h : SameAbi adapter after)
    (h' : SameAbi after last) : SameAbi adapter last :=
  ⟨h'.attached.trans h.attached, h'.isolate.trans h.isolate, h'.admission.trans h.admission,
    h'.binding.trans h.binding⟩

theorem SameAbi.get (h : SameAbi adapter after) (capability : VmCapability) :
    after.getCapabilityBinding capability = adapter.getCapabilityBinding capability := by
  unfold getCapabilityBinding
  rw [h.attached, h.isolate, h.admission, h.binding]

theorem VmRecords.of_adapter (h : VmRecords ⟨adapter, state⟩) (hsame : SameAbi adapter after) :
    VmRecords ⟨after, state⟩ where
  attached := hsame.attached.trans h.attached
  isolate := hsame.isolate.trans h.isolate
  admission := hsame.admission.trans h.admission
  candidates := h.candidates
  recorded := by
    show ∀ (index : Nat) entry, after.abiBinding.capabilities[index]? = some entry → _ →
      RecordBacked after.abiBinding state index entry
    rw [hsame.binding]
    exact h.recorded

/-- What the core hands out is an entry of its record. -/
theorem get_ok (hget : adapter.getCapabilityBinding capability = .ok (proof, profile)) :
    adapter.admissionOpen = true ∧ capability ≠ kCapabilityNone ∧
      ∃ index entry, capabilityIndex capability = some index ∧
        adapter.abiBinding.capabilities[index]? = some entry ∧
        entry.proof.capability = capability ∧ entry.proof = proof ∧
        entry.profile = some profile := by
  unfold getCapabilityBinding at hget
  split at hget
  · cases hget
  next havailable =>
    split at hget
    · cases hget
    next entry hentry =>
      split at hget
      · cases hget
      next hcurrent =>
        split at hget
        · cases hget
        next row hrow =>
          obtain ⟨rfl, rfl⟩ := Prod.mk.inj (VmOutcome.ok.inj hget)
          obtain ⟨index, hindex, hentry⟩ := Option.bind_eq_some_iff.mp hentry
          have hcapability := not_not.mp (not_or.mp hcurrent).1
          refine ⟨Bool.eq_true_of_not_eq_false (not_or.mp havailable).2, ?_, index, entry, hindex,
            hentry, hcapability, rfl, hrow⟩
          rintro rfl
          have hnone : capabilityIndex kCapabilityNone = none := by decide
          rw [hnone] at hindex
          cases hindex

theorem VmRecords.coreVouches (h : VmRecords vm) : CoreVouches vm := by
  intro capability proof profile hget
  obtain ⟨-, hne, index, entry, hindex, hentry, hcapability, rfl, hprofile⟩ := get_ok hget
  obtain ⟨kind, row, hrow, hkind, -, -, -, -, -, hvouched⟩ := h.recorded index entry hentry
    (hcapability ▸ hne)
  rw [hprofile] at hrow
  obtain rfl := Option.some.inj hrow
  rw [← hcapability, hkind]
  exact hvouched

/-- While admission is open the core hands out every entry of its record. -/
theorem get_recorded (h : VmRecords vm) (hopen : vm.adapter.admissionOpen = true) {index : Nat}
    {entry : VmAbiCapabilityBinding} {row : registry.Row}
    (hentry : vm.adapter.abiBinding.capabilities[index]? = some entry)
    (hprofile : entry.profile = some row.1) (hkind : entry.proof.capability = kind.capability)
    (hindex : capabilityIndex kind.capability = some index)
    (hversion : entry.proof.profileVersion ≠ 0)
    (hartifact : vm.adapter.abiBinding.artifactGeneration = vm.state.artifactGeneration)
    (hisolate : vm.adapter.abiBinding.isolateGeneration = vm.state.identity.generation)
    (hvouched : Vouched vm.state kind.capability entry.proof row.1) :
    vm.adapter.getCapabilityBinding kind.capability = .ok (entry.proof, row.1) := by
  have havailable : ¬(vm.adapter.attached = false ∨ vm.adapter.admissionOpen = false) := by
    rw [h.attached, hopen]
    rintro (hno | hno)
    · cases hno
    · cases hno
  have hcurrent : ¬(entry.proof.capability ≠ kind.capability ∨ entry.proof.profileVersion = 0 ∨
      entry.proof.artifactGeneration ≠ vm.adapter.abiBinding.artifactGeneration ∨
      entry.proof.isolateGeneration ≠ vm.adapter.abiBinding.isolateGeneration ∨
      entry.proof.isolateGeneration ≠ vm.adapter.isolate.generation) := by
    rw [hkind, hartifact, hisolate, h.isolate, hvouched.artifact, hvouched.isolate]
    simp only [ne_eq, not_true_eq_false, hversion, or_self, not_false_eq_true]
  unfold getCapabilityBinding
  rw [if_neg havailable, hindex, Option.bind_some, hentry]
  dsimp only
  rw [if_neg hcurrent, hprofile]

/-- The record follows the backend where everything it holds stays vouched for. -/
theorem VmRecords.of_state (h : VmRecords ⟨adapter, state⟩)
    (hsame : SameIncarnation state next)
    (hkept : ∀ (kind : DartPlantVmCapabilityEvidenceKind) proof (row : registry.Row),
      Vouched state kind.capability proof row.1 →
      (adapter.admissionOpen = true →
        adapter.getCapabilityBinding kind.capability = .ok (proof, row.1)) →
      Vouched next kind.capability proof row.1) : VmRecords ⟨adapter, next⟩ where
  attached := h.attached
  isolate := h.isolate.trans hsame.identity.symm
  admission := by
    rw [hsame.quiescing]
    exact h.admission
  candidates := by
    rw [hsame.profiles]
    exact h.candidates
  recorded := by
    intro index entry hentry hne
    obtain ⟨kind, row, hprofile, hkind, hindex, hrow, hversion, hartifact, hisolate, hvouched⟩ :=
      h.recorded index entry hentry hne
    refine ⟨kind, row, hprofile, hkind, hindex, hrow, hversion,
      hartifact.trans hsame.generation.symm, ?_, ?_⟩
    · rw [hsame.identity]
      exact hisolate
    · exact hkept kind entry.proof row hvouched fun hopen =>
        get_recorded h hopen hentry hprofile hkind hindex hversion hartifact hisolate hvouched

/-- Without a record there is nothing to back. -/
theorem records_blank (hattached : adapter.attached = true)
    (hisolate : adapter.isolate = state.identity)
    (hadmission : adapter.admissionOpen = !state.artifactQuiescing)
    (hcandidates : state.abiCandidates.profiles ≠ [])
    (hblank : ∀ (index : Nat) entry, adapter.abiBinding.capabilities[index]? = some entry →
      entry.proof.capability = kCapabilityNone) : VmRecords ⟨adapter, state⟩ where
  attached := hattached
  isolate := hisolate
  admission := hadmission
  candidates := hcandidates
  recorded := fun index entry hentry hne => absurd (hblank index entry hentry) hne

theorem resetAbiBinding_blank (index : Nat) (entry : VmAbiCapabilityBinding)
    (hentry : adapter.resetAbiBinding.abiBinding.capabilities[index]? = some entry) :
    entry.proof.capability = kCapabilityNone := by
  obtain ⟨old, -, rfl⟩ := List.mem_map.mp (List.mem_of_getElem? hentry)
  rfl

/-! ## A proof in the core -/

theorem SameAbi.refl (adapter : DartPlantVmAdapter) : SameAbi adapter adapter :=
  ⟨rfl, rfl, rfl, rfl⟩

/-- `FindRuntimeProfileByVersion` finds a row by its version. -/
theorem registry_find (row : registry.Row) :
    registry.rows.find? (fun profile => profile.profileVersion == row.1.profileVersion) =
      some row.1 := by
  have hsome : (registry.rows.find? fun profile =>
      profile.profileVersion == row.1.profileVersion).isSome := by
    rw [List.find?_isSome]
    exact ⟨row.1, row.2, BEq.rfl⟩
  obtain ⟨found, hfound⟩ := Option.isSome_iff_exists.mp hsome
  have hversion := List.find?_some hfound
  have hsame : found = row.1 := List.inj_on_of_nodup_map registry.versions
    (List.mem_of_find?_eq_some hfound) row.2 (beq_iff_eq.mp hversion)
  rw [hfound, hsame]

theorem releaseTransientOwner_sameAbi (transientOwner : Bool) :
    SameAbi adapter (adapter.releaseTransientOwner transientOwner) := by
  unfold releaseTransientOwner
  split
  · exact ⟨rfl, rfl, rfl, rfl⟩
  · exact .refl adapter

theorem beginProof_sameAbi (adapter : DartPlantVmAdapter) (contended : Bool) (thread : ThreadId) :
    SameAbi adapter (adapter.beginProof contended thread).1 := by
  unfold beginProof checkAttachedOwner
  split
  · exact .refl adapter
  split
  · exact .refl adapter
  split
  · exact .refl adapter
  split
  · exact .refl adapter
  split
  · exact .refl adapter
  dsimp only [andThen]
  split
  · exact ⟨rfl, rfl, rfl, rfl⟩
  · exact ⟨rfl, rfl, rfl, rfl⟩

theorem beginProof_open {contended : Bool} {thread : ThreadId}
    (h : (adapter.beginProof contended thread).2 = .ok ()) : adapter.admissionOpen = true := by
  unfold beginProof at h
  split at h
  · cases h
  split at h
  · cases h
  split at h
  · cases h
  next hopen => exact Bool.eq_true_of_not_eq_false hopen

/-- A proof that begins goes on with the adapter settled. -/
theorem proveCapability_begun {contended : Bool} {thread : ThreadId}
    (profiles : List RuntimeProfileRecord) (kind : DartPlantVmCapabilityEvidenceKind)
    (status : DartPlantStatus) (proof : DartPlantVmCapabilityProof)
    (hbegun : (adapter.beginProof contended thread).2 = .ok ()) :
    ∃ settled, SameAbi adapter settled ∧
      adapter.proveCapability profiles contended thread kind status proof =
        if status ≠ .ok then (settled, .backend status)
        else settled.recordProof profiles kind proof := by
  have hsame := beginProof_sameAbi adapter contended thread
  unfold DartPlantVmAdapter.proveCapability
  generalize adapter.beginProof contended thread = checked at hbegun hsame ⊢
  obtain ⟨begun, outcome⟩ := checked
  obtain rfl : outcome = .ok () := hbegun
  exact ⟨_, hsame.trans (releaseTransientOwner_sameAbi _), rfl⟩

/-- A proof of the current incarnation, of a row that is vouched for, keeps the record. -/
theorem VmRecords.recordProof (h : VmRecords ⟨adapter, state⟩) (row : registry.Row)
    (hcapability : proof.capability = kind.capability)
    (hversion : proof.profileVersion = row.1.profileVersion)
    (hvouched : Vouched state kind.capability proof row.1) :
    VmRecords ⟨(adapter.recordProof registry.rows kind proof).1, state⟩ := by
  unfold DartPlantVmAdapter.recordProof
  split
  · exact h
  split
  · exact h
  next index hindex =>
    split
    · exact h
    next hvalid =>
      have hnonzero : proof.profileVersion ≠ 0 := (not_or.mp (not_or.mp (not_or.mp hvalid).2).2).1
      rw [hversion, registry_find]
      dsimp only
      -- The record of another incarnation is dropped; it is empty then anyway.
      have hcurrent : VmRecords ⟨if adapter.abiBinding.artifactGeneration ≠ 0 ∧
          (adapter.abiBinding.artifactGeneration ≠ proof.artifactGeneration ∨
            adapter.abiBinding.isolateGeneration ≠ proof.isolateGeneration) then
          adapter.resetAbiBinding else adapter, state⟩ := by
        split
        · exact records_blank h.attached h.isolate h.admission h.candidates resetAbiBinding_blank
        · exact h
      generalize (if adapter.abiBinding.artifactGeneration ≠ 0 ∧
          (adapter.abiBinding.artifactGeneration ≠ proof.artifactGeneration ∨
            adapter.abiBinding.isolateGeneration ≠ proof.isolateGeneration) then
          adapter.resetAbiBinding else adapter) = current at hcurrent ⊢
      -- The stamp is the one every entry has already.
      have hentries : ∀ (i : Nat) entry, current.abiBinding.capabilities[i]? = some entry →
          entry.proof.capability ≠ kCapabilityNone →
          RecordBacked { current.abiBinding with
            artifactGeneration := proof.artifactGeneration
            isolateGeneration := proof.isolateGeneration } state i entry := by
        intro i entry hentry hne
        obtain ⟨kind, row, hprofile, hkind, hindex, hrow, hversion, -, -, hbacked⟩ :=
          hcurrent.recorded i entry hentry hne
        exact ⟨kind, row, hprofile, hkind, hindex, hrow, hversion, hvouched.artifact,
          hvouched.isolate, hbacked⟩
      split
      · exact ⟨hcurrent.attached, hcurrent.isolate, hcurrent.admission, hcurrent.candidates,
          hentries⟩
      · refine ⟨hcurrent.attached, hcurrent.isolate, hcurrent.admission, hcurrent.candidates, ?_⟩
        intro i entry hentry hne
        dsimp only at hentry
        rw [List.getElem?_set] at hentry
        split at hentry
        next hi =>
          subst hi
          split at hentry
          · obtain rfl := Option.some.inj hentry
            exact ⟨kind, row, rfl, hcapability, hindex, hversion, hnonzero, hvouched.artifact,
              hvouched.isolate, hvouched⟩
          · cases hentry
        · exact hentries i entry hentry hne

/-- A proof with another row of the same incarnation is refused, and the record stays. -/
theorem recordProof_refuses (h : VmRecords ⟨adapter, state⟩)
    (proof : DartPlantVmCapabilityProof) {index : Nat}
    {entry : VmAbiCapabilityBinding} (hindex : capabilityIndex kind.capability = some index)
    (hentry : adapter.abiBinding.capabilities[index]? = some entry)
    (hkind : entry.proof.capability = kind.capability)
    (hversion : entry.proof.profileVersion ≠ proof.profileVersion)
    (hartifact : proof.artifactGeneration = state.artifactGeneration)
    (hisolate : proof.isolateGeneration = state.identity.generation) :
    SameAbi adapter (adapter.recordProof registry.rows kind proof).1 := by
  have hne : entry.proof.capability ≠ kCapabilityNone := by
    rw [hkind]
    exact (singleBit_kind kind).2
  obtain ⟨-, -, -, -, -, -, -, hbinding, hgeneration, -⟩ := h.recorded index entry hentry hne
  have hcurrent : ¬(adapter.abiBinding.artifactGeneration ≠ 0 ∧
      (adapter.abiBinding.artifactGeneration ≠ proof.artifactGeneration ∨
        adapter.abiBinding.isolateGeneration ≠ proof.isolateGeneration)) := by
    rintro ⟨-, hother | hother⟩
    · exact hother (hbinding.trans hartifact.symm)
    · exact hother (hgeneration.trans hisolate.symm)
  unfold DartPlantVmAdapter.recordProof
  split
  · exact .refl adapter
  rw [hindex]
  dsimp only
  split
  · exact .refl adapter
  split
  · exact .refl adapter
  rw [hentry, if_pos ⟨hkind, hversion⟩]
  refine ⟨rfl, rfl, rfl, ?_⟩
  show { adapter.abiBinding with
    artifactGeneration := proof.artifactGeneration
    isolateGeneration := proof.isolateGeneration } = adapter.abiBinding
  rw [hartifact, hisolate, ← show _ = state.artifactGeneration from hbinding,
    ← show _ = state.identity.generation from hgeneration]

/-! ## A proof in the backend -/

section Backend
variable {evidence : DartPlantVmCapabilityEvidence} {reading : EvidenceReading registry.Row}
  {rows : List registry.Row} {selected : registry.Row}

theorem Vouched.keeps (h : Vouched state capability proof profile)
    (hsame : SameIncarnation state next) (hkeeps : KeepsAt capability state next) :
    Vouched next capability proof profile where
  verified := hkeeps.verified.trans h.verified
  artifact := h.artifact.trans hsame.generation.symm
  isolate := by
    rw [hsame.identity]
    exact h.isolate
  valid := hsame.valid.trans h.valid
  row := by
    rw [hkeeps.binding]
    exact h.row

theorem Vouched.commits (h : Vouched state capability proof profile)
    (hcommits : Commits capability rows state next) (hrow : ∃ row ∈ rows, row.1 = profile) :
    Vouched next capability proof profile where
  verified := hcommits.verified
  artifact := h.artifact.trans hcommits.same.generation.symm
  isolate := by
    rw [hcommits.same.identity]
    exact h.isolate
  valid := hcommits.same.valid.trans h.valid
  row := by
    obtain ⟨binding, hfind, hrows⟩ := hcommits.binding
    rw [← hrows] at hrow
    exact ⟨binding, hfind, hrow⟩

/-- A proof that selects a row commits its capability, to the rows of its evidence or, for a
receipt, to the rows that were bound. -/
theorem proveEvidence_some (h : state.proveEvidence evidence reading = (next, some selected)) :
    ∃ rows, Commits evidence.kind.capability rows state next ∧ selected ∈ rows ∧
      (((evidence.observationReceipt || evidence.semanticReceipt) = true ∧ ∃ binding,
          state.capabilityBindings.findBinding evidence.kind.capability = some binding ∧
            binding.selectedRows = rows) ∨
        ((evidence.observationReceipt || evidence.semanticReceipt) = false ∧
          rows = (state.evidenceSelection evidence.kind reading).selectedRows)) := by
  cases hreceipt : evidence.observationReceipt || evidence.semanticReceipt with
  | true =>
    have hproved : state.proveReceipt evidence reading.modules = (next, some selected) := by
      rw [← h, proveEvidence, if_pos hreceipt]
    rcases proveReceipt_cases evidence reading.modules with
      hnone | ⟨binding, hfind, hsome, hcommits⟩
    · rw [hnone] at hproved
      cases hproved
    · rw [hproved] at hsome hcommits
      obtain rfl := Option.some.inj hsome
      exact ⟨_, hcommits, binding.selected, Or.inl ⟨rfl, binding, hfind, rfl⟩⟩
  | false =>
    rcases proveEvidence_cases evidence reading hreceipt with ⟨-, hnone, -⟩ |
      ⟨row, hholds, hrepresentative, hsome, hcommits⟩
    · rw [h] at hnone
      cases hnone
    · rw [h] at hsome hcommits
      obtain rfl := Option.some.inj hsome
      exact ⟨_, hcommits,
        (state.evidenceSelection evidence.kind reading).selected _ hrepresentative,
        Or.inr ⟨rfl, rfl⟩⟩

/-- A proof that selects no row withdraws its capability, unless it is a receipt. -/
theorem proveEvidence_none (h : state.proveEvidence evidence reading = (next, none)) :
    next = state ∨ ((evidence.observationReceipt || evidence.semanticReceipt) = false ∧
      ¬ state.EvidenceHolds evidence.kind reading ∧
      Withdraws evidence.kind.capability state next) := by
  cases hreceipt : evidence.observationReceipt || evidence.semanticReceipt with
  | true =>
    have hproved : state.proveReceipt evidence reading.modules = (next, none) := by
      rw [← h, proveEvidence, if_pos hreceipt]
    rcases proveReceipt_cases evidence reading.modules with hnone | ⟨binding, -, hsome, -⟩
    · rw [hnone] at hproved
      exact Or.inl (Prod.mk.inj hproved).1.symm
    · rw [hproved] at hsome
      cases hsome
  | false =>
    rcases proveEvidence_cases evidence reading hreceipt with ⟨hnot, -, hwithdraws⟩ |
      ⟨row, -, -, hsome, -⟩
    · rw [h] at hwithdraws
      exact Or.inr ⟨rfl, hnot, hwithdraws⟩
    · rw [h] at hsome
      cases hsome

/-- What `ProveCapability` returns is the proof of a row it selected. -/
theorem proveCapability_ok {isolate : DartPlantIsolateIdentity}
    (h : state.proveCapability isolate evidence reading = (next, .ok proof)) :
    reading.contended = false ∧ state.validateCurrentOwner reading.ownerCurrent = true ∧
      state.artifactValid = true ∧ ∃ selected,
        state.proveEvidence evidence reading = (next, some selected) ∧
        proof.capability = evidence.kind.capability ∧
        proof.profileVersion = selected.1.profileVersion ∧
        proof.artifactGeneration = state.artifactGeneration ∧
        proof.isolateGeneration = state.identity.generation := by
  unfold FlutterVmState.proveCapability at h
  split at h
  · cases h
  split at h
  · cases h
  next hfree =>
    split at h
    · cases h
    next hvalid =>
      split at h
      · cases h
      next howner =>
        split at h
        · cases h
        next after selected hproved =>
          cases h
          simp only [not_or, Bool.not_eq_true] at hfree
          exact ⟨hfree.1, Bool.eq_true_of_not_eq_false howner, Bool.eq_true_of_not_eq_false hvalid,
            selected, hproved, rfl, rfl, rfl, rfl⟩

theorem proveCapability_error {isolate : DartPlantIsolateIdentity} {status : DartPlantStatus}
    (h : state.proveCapability isolate evidence reading = (next, .error status)) :
    status ≠ .ok ∧ (next = state ∨ reading.contended = false ∧
      state.validateCurrentOwner reading.ownerCurrent = true ∧
      state.proveEvidence evidence reading = (next, none)) := by
  unfold FlutterVmState.proveCapability at h
  split at h
  · cases h
    exact ⟨noConfusion, Or.inl rfl⟩
  split at h
  · cases h
    exact ⟨noConfusion, Or.inl rfl⟩
  next hfree =>
    split at h
    · cases h
      exact ⟨noConfusion, Or.inl rfl⟩
    split at h
    · cases h
      exact ⟨noConfusion, Or.inl rfl⟩
    next howner =>
      split at h
      next after hproved =>
        cases h
        simp only [not_or, Bool.not_eq_true] at hfree
        exact ⟨noConfusion,
          Or.inr ⟨hfree.1, Bool.eq_true_of_not_eq_false howner, hproved⟩⟩
      · cases h

end Backend

/-! ## One call -/

section Calls
variable {evidence : DartPlantVmCapabilityEvidence} {reading : EvidenceReading registry.Row}
  {contended : Bool} {thread : ThreadId}

/-- What is vouched for another capability is untouched by a proof. -/
theorem vouched_of_commits {rows : List registry.Row} {other : DartPlantVmCapabilityEvidenceKind}
    (hcommits : Commits kind.capability rows state next)
    (hvouched : Vouched state other.capability proof profile)
    (hrow : other = kind → ∃ row ∈ rows, row.1 = profile) :
    Vouched next other.capability proof profile := by
  by_cases hsame : other = kind
  · subst hsame
    exact hvouched.commits hcommits (hrow rfl)
  · exact hvouched.keeps hcommits.same
      (hcommits.others _ (singleBit_kind other) (kind_disjoint (Ne.symm hsame)))

theorem VmRecords.proveCapability (h : VmRecords vm)
    (hkeeps : KeepsVouching vm (.proveCapability contended thread evidence reading)) :
    VmRecords (vm.proveCapability contended thread evidence reading) := by
  obtain ⟨adapter, state⟩ := vm
  unfold FlutterVm.proveCapability
  split
  next begun value hbegun =>
    have hbegun : (adapter.beginProof contended thread).2 = .ok () := by rw [hbegun]
    split
    next next proof hproved =>
      obtain ⟨hfree, howner, hvalid, selected, hselected, hcapability, hversion, hartifact,
        hisolate⟩ := proveCapability_ok hproved
      obtain ⟨rows, hcommits, hmem, hrows⟩ := proveEvidence_some hselected
      obtain ⟨settled, hsettled, hstep⟩ := proveCapability_begun registry.rows
        evidence.kind .ok proof hbegun
      have hnext : VmRecords ⟨adapter, next⟩ := by
        refine h.of_state hcommits.same ?_
        intro kind held row hvouched hget
        refine vouched_of_commits hcommits hvouched fun hkind => ?_
        subst hkind
        rcases hrows with ⟨-, binding, hfind, hbound⟩ | ⟨hreceipt, hevidence⟩
        · obtain ⟨bound, hbinding, hrow⟩ := hvouched.row
          rw [hfind] at hbinding
          obtain rfl := Option.some.inj hbinding
          rw [← hbound]
          exact hrow
        · rw [hevidence]
          exact (hkeeps ⟨hbegun, hfree, howner, hreceipt⟩ held row.1
            (hget (beginProof_open hbegun))).2
      have hvouched : Vouched next evidence.kind.capability proof selected.1 := by
        obtain ⟨binding, hfind, hbound⟩ := hcommits.binding
        refine ⟨hcommits.verified, hartifact.trans hcommits.same.generation.symm, ?_,
          hcommits.same.valid.trans hvalid, binding, hfind, selected, ?_, rfl⟩
        · rw [hcommits.same.identity]
          exact hisolate
        · rw [hbound]
          exact hmem
      rw [hstep, if_neg (not_not.mpr rfl)]
      exact (hnext.of_adapter hsettled).recordProof selected hcapability hversion hvouched
    next next status hproved =>
      obtain ⟨hfailed, hnext⟩ := proveCapability_error hproved
      obtain ⟨settled, hsettled, hstep⟩ := proveCapability_begun registry.rows
        evidence.kind status {} hbegun
      rw [hstep, if_pos hfailed]
      refine VmRecords.of_adapter ?_ hsettled
      rcases hnext with rfl | ⟨hfree, howner, hnone⟩
      · exact h
      rcases proveEvidence_none hnone with rfl | ⟨hreceipt, hnot, hwithdraws⟩
      · exact h
      refine h.of_state hwithdraws.same ?_
      intro kind held row hvouched hget
      by_cases hkind : kind = evidence.kind
      · subst hkind
        exact absurd (hkeeps ⟨hbegun, hfree, howner, hreceipt⟩ held row.1
          (hget (beginProof_open hbegun))).1 hnot
      · exact hvouched.keeps hwithdraws.same
          (hwithdraws.others _ (singleBit_kind kind) (kind_disjoint (Ne.symm hkind)))
  next begun outcome hnot hbegun =>
    have hsame := beginProof_sameAbi adapter contended thread
    rw [hbegun] at hsame
    exact h.of_adapter hsame

theorem VmRecords.invalidateArtifacts (h : VmRecords vm) : VmRecords vm.invalidateArtifacts :=
  records_blank h.attached h.isolate rfl h.candidates resetAbiBinding_blank

theorem VmRecords.quiesceArtifacts (h : VmRecords vm) (drained : DartPlantStatus)
    (hookRefs : BitVec 64) : VmRecords (vm.quiesceArtifacts drained hookRefs).1 where
  attached := h.attached
  isolate := h.isolate
  admission := rfl
  candidates := h.candidates
  recorded := by
    intro index entry hentry hne
    obtain ⟨kind, row, hprofile, hkind, hindex, hrow, hversion, hartifact, hisolate, hvouched⟩ :=
      h.recorded index entry hentry hne
    exact ⟨kind, row, hprofile, hkind, hindex, hrow, hversion, hartifact, hisolate,
      hvouched.verified, hvouched.artifact, hvouched.isolate, hvouched.valid, hvouched.row⟩

theorem VmRecords.retireArtifacts (h : VmRecords vm) (drained : DartPlantStatus)
    (hookRefs : BitVec 64) : VmRecords (vm.retireArtifacts drained hookRefs) := by
  have hquiesced := h.quiesceArtifacts drained hookRefs
  unfold FlutterVm.retireArtifacts
  split
  next quiesced value heq =>
    rw [heq] at hquiesced
    split
    · exact hquiesced
    · exact records_blank hquiesced.attached hquiesced.isolate hquiesced.admission
        hquiesced.candidates resetAbiBinding_blank
  next quiesced outcome hnot heq =>
    rw [heq] at hquiesced
    exact hquiesced

/-- Nothing is recorded when nothing can be handed out, unless the artifacts are valid and
quiescing. -/
theorem VmRecords.blank (h : VmRecords vm)
    (hnone : ∀ capability proof profile,
      vm.adapter.getCapabilityBinding capability ≠ .ok (proof, profile))
    (hvalid : ¬(vm.state.artifactQuiescing = true ∧ vm.state.artifactValid = true)) (index : Nat)
    (entry : VmAbiCapabilityBinding)
    (hentry : vm.adapter.abiBinding.capabilities[index]? = some entry) :
    entry.proof.capability = kCapabilityNone := by
  by_contra hne
  obtain ⟨kind, row, hprofile, hkind, hindex, -, hversion, hartifact, hisolate, hvouched⟩ :=
    h.recorded index entry hentry hne
  have hopen : vm.adapter.admissionOpen = true := by
    rw [h.admission]
    cases hquiescing : vm.state.artifactQuiescing with
    | false => rfl
    | true => exact absurd ⟨hquiescing, hvouched.valid⟩ hvalid
  exact hnone _ _ _
    (get_recorded h hopen hentry hprofile hkind hindex hversion hartifact hisolate hvouched)

/-- The marks of a revalidation touch no evidence. -/
theorem markEager_keeps (state : FlutterVmState registry)
    (kind : DartPlantVmCapabilityEvidenceKind) :
    KeepsAt kind.capability state state.markEager := by
  have heager : state.capabilities &&& kEagerRuntimeProofMask &&& kind.capability = 0 := by
    rw [BitVec.and_assoc, kind_not_eager]
    exact BitVec.and_zero
  have hlifecycle : kCapabilityArtifactLifecycle &&& kind.capability = 0 := by
    cases kind <;> decide
  exact (markCapabilityVerified_keeps (singleBit_kind kind) heager).trans
    (markCapabilityVerified_keeps (singleBit_kind kind) hlifecycle)

/-- What is vouched for stays vouched for when the core binding is proved again with its row. -/
theorem vouched_reproved {probe : registry.Row → CandidateProbe}
    (hproved : (state.reproveCoreBinding probe).2 = true) (hvalid : state.artifactValid = true)
    (hvouched : Vouched { state with artifactValid := true } kind.capability proof profile)
    (hrow : state.rebuilds kind.capability = true →
      ∃ row ∈ (state.selectProbed probe kind.capability).selectedRows, row.1 = profile) :
    Vouched { (state.reproveCoreBinding probe).1.markEager with artifactQuiescing := false }
      kind.capability proof profile := by
  have hsame := reproveCoreBinding_same state probe
  have heager := markEager_keeps (state.reproveCoreBinding probe).1 kind
  obtain ⟨hverified, hbinding⟩ := reproveCoreBinding_kind hproved kind
  refine ⟨heager.verified.trans (hverified.trans hvouched.verified),
    hvouched.artifact.trans hsame.generation.symm, ?_, hsame.valid.trans hvalid, ?_⟩
  · show proof.isolateGeneration = (state.reproveCoreBinding probe).1.identity.generation
    rw [hsame.identity]
    exact hvouched.isolate
  · show ∃ binding, (state.reproveCoreBinding probe).1.markEager.capabilityBindings.findBinding
      kind.capability = some binding ∧ _
    rw [heager.binding]
    rcases hbinding with ⟨-, hkept⟩ | ⟨hrebuilds, binding, hfind, hrows⟩
    · rw [hkept]
      exact hvouched.row
    · refine ⟨binding, hfind, ?_⟩
      rw [hrows]
      exact hrow hrebuilds

theorem VmRecords.revalidateArtifacts (h : VmRecords vm) {modules : List ModuleImage}
    {probe : registry.Row → CandidateProbe}
    (hkeeps : KeepsVouching vm (.revalidateArtifacts modules probe)) :
    VmRecords (vm.revalidateArtifacts modules probe) := by
  obtain ⟨adapter, state⟩ := vm
  unfold FlutterVm.revalidateArtifacts
  rw [if_neg h.candidates]
  split
  · exact h
  next hready =>
    have hblank : (∀ capability proof profile,
        adapter.getCapabilityBinding capability ≠ .ok (proof, profile)) →
        ∀ (index : Nat) entry, adapter.abiBinding.capabilities[index]? = some entry →
          entry.proof.capability = kCapabilityNone := fun hnone => h.blank hnone hready
    dsimp only
    split
    next hunmapped =>
      refine records_blank h.attached h.isolate h.admission h.candidates (hblank ?_)
      intro capability proof profile hget
      rw [(hkeeps capability proof profile hget).1] at hunmapped
      cases hunmapped
    next hmapped =>
      have hmapped := Bool.eq_true_of_not_eq_false hmapped
      have hsame := reproveCoreBinding_same (state.validateArtifactLifecycle modules) probe
      split
      next hunproved =>
        refine records_blank h.attached (h.isolate.trans hsame.identity.symm) ?_ ?_ (hblank ?_)
        · exact h.admission.trans (congrArg (fun quiescing => !quiescing) hsame.quiescing.symm)
        · exact fun hnil => h.candidates (hsame.profiles.symm.trans hnil)
        · intro capability proof profile hget
          have hreprovable := (hkeeps capability proof profile hget).2.1
          have hproved := reproveCoreBinding_iff.mpr
            (show (state.validateArtifactLifecycle modules).Reprovable probe from
              ⟨hreprovable.roots, hreprovable.entries, hreprovable.structural, hreprovable.eager⟩)
          rw [hproved] at hunproved
          cases hunproved
      next hproved =>
        have hproved := Bool.eq_true_of_not_eq_false hproved
        refine ⟨h.attached, h.isolate.trans hsame.identity.symm, rfl, ?_, ?_⟩
        · exact fun hnil => h.candidates (hsame.profiles.symm.trans hnil)
        · intro index entry hentry hne
          obtain ⟨kind, row, hprofile, hkind, hindex, hrow, hversion, hartifact, hisolate,
            hvouched⟩ := h.recorded index entry hentry hne
          have hopen : adapter.admissionOpen = true := by
            rw [show adapter.admissionOpen = _ from h.admission]
            cases hquiescing : state.artifactQuiescing with
            | false => rfl
            | true => exact absurd ⟨hquiescing, hvouched.valid⟩ hready
          have hget := get_recorded h hopen hentry hprofile hkind hindex hversion hartifact hisolate
            hvouched
          refine ⟨kind, row, hprofile, hkind, hindex, hrow, hversion,
            hartifact.trans hsame.generation.symm, ?_, ?_⟩
          · exact hisolate.trans
              (congrArg DartPlantIsolateIdentity.generation hsame.identity.symm)
          · exact vouched_reproved hproved hmapped ⟨hvouched.verified, hvouched.artifact,
              hvouched.isolate, rfl, hvouched.row⟩ (hkeeps _ _ _ hget).2.2

/-- A call that the adapter's agreement survives. -/
theorem VmRecords.step (h : VmRecords vm) {call : FlutterVmCall registry}
    (hkeeps : KeepsVouching vm call) : VmRecords (flutterVmStep vm call) := by
  cases call with
  | proveCapability contended thread evidence reading => exact h.proveCapability hkeeps
  | invalidateArtifacts => exact h.invalidateArtifacts
  | quiesceArtifacts drained hookRefs => exact h.quiesceArtifacts drained hookRefs
  | retireArtifacts drained hookRefs => exact h.retireArtifacts drained hookRefs
  | revalidateArtifacts modules probe => exact h.revalidateArtifacts hkeeps

/-! ## Calls that part the two -/

/-- A proof that nothing refuses before the rows ends as the rows decide. -/
theorem proveCapability_reached (evidence : DartPlantVmCapabilityEvidence)
    {isolate : DartPlantIsolateIdentity} (hisolate : isolate = state.identity)
    (hfree : reading.contended = false)
    (hquiescing : state.artifactQuiescing = false) (hvalid : state.artifactValid = true)
    (howner : state.validateCurrentOwner reading.ownerCurrent = true) :
    (∃ next, state.proveEvidence evidence reading = (next, none) ∧
        state.proveCapability isolate evidence reading = (next, .error .profileMismatch)) ∨
      ∃ next selected proof, state.proveEvidence evidence reading = (next, some selected) ∧
        state.proveCapability isolate evidence reading = (next, .ok proof) := by
  subst hisolate
  unfold FlutterVmState.proveCapability
  rw [hfree, hquiescing, hvalid, howner]
  simp only [ne_eq, not_true_eq_false, or_self, if_false, Bool.false_eq_true, Bool.true_eq_false]
  split
  next next heq => exact Or.inl ⟨next, heq, rfl⟩
  next next selected heq => exact Or.inr ⟨next, selected, _, heq, rfl⟩

theorem proof_parts (h : VmRecords vm)
    (hlost : ¬ KeepsVouching vm (.proveCapability contended thread evidence reading)) :
    ¬ CoreVouches (vm.proveCapability contended thread evidence reading) := by
  obtain ⟨adapter, state⟩ := vm
  simp only [KeepsVouching, Classical.not_imp, not_forall] at hlost
  obtain ⟨⟨hbegun, hfree, howner, hreceipt⟩, proof, profile, hget, hnot⟩ := hlost
  have hvouched := h.coreVouches _ _ _ hget
  obtain ⟨hopen, -, index, entry, hindex, hentry, hkind, rfl, hprofile⟩ := get_ok hget
  have hquiescing : state.artifactQuiescing = false := by
    have hadmission := h.admission
    rw [show adapter.admissionOpen = true from hopen] at hadmission
    cases hstate : state.artifactQuiescing with
    | false => rfl
    | true =>
      rw [hstate] at hadmission
      cases hadmission
  intro hafter
  unfold FlutterVm.proveCapability at hafter
  obtain ⟨begun, hstart⟩ : ∃ begun, adapter.beginProof contended thread = (begun, .ok ()) :=
    ⟨_, Prod.ext rfl hbegun⟩
  rcases proveCapability_reached evidence h.isolate hfree hquiescing hvouched.valid howner with
    ⟨next, hnone, hproved⟩ | ⟨next, selected, proof, hsome, hproved⟩
  · obtain ⟨settled, hsettled, hstep⟩ := proveCapability_begun registry.rows
      evidence.kind .profileMismatch {} hbegun
    have hfailed : profileMismatch ≠ .ok := noConfusion
    simp only [hstart, hproved, hstep] at hafter
    rw [if_pos hfailed] at hafter
    have hstill := hafter _ _ _ ((hsettled.get _).trans hget)
    rcases proveEvidence_none hnone with rfl | ⟨-, -, hwithdraws⟩
    · rcases proveEvidence_cases evidence reading hreceipt with ⟨-, -, hwithdraws⟩ |
        ⟨row, -, -, hrow, -⟩
      · rw [hnone] at hwithdraws
        exact absurd hstill.verified (Bool.eq_false_iff.mp hwithdraws.verified)
      · rw [hnone] at hrow
        cases hrow
    · exact absurd hstill.verified (Bool.eq_false_iff.mp hwithdraws.verified)
  · obtain ⟨settled, hsettled, hstep⟩ := proveCapability_begun registry.rows
      evidence.kind .ok proof hbegun
    simp only [hstart, hproved, hstep] at hafter
    rw [if_neg (not_not.mpr rfl)] at hafter
    rcases proveEvidence_cases evidence reading hreceipt with ⟨-, hnone, -⟩ |
      ⟨row, hholds, hrepresentative, hrow, hcommits⟩
    · rw [hsome] at hnone
      cases hnone
    rw [hsome] at hrow hcommits
    obtain rfl := Option.some.inj hrow
    obtain ⟨-, -, -, row, hrow, -, hversion, hartifact, hgeneration⟩ := proveCapability_ok hproved
    rw [hsome] at hrow
    obtain ⟨-, hrow⟩ := Prod.mk.inj hrow
    obtain rfl := Option.some.inj hrow
    obtain ⟨kind, held, hheld, hheldKind, -, hheldVersion, -, -, -, -⟩ :=
      h.recorded index entry hentry (by rw [hkind]; exact (singleBit_kind evidence.kind).2)
    rw [hprofile] at hheld
    obtain rfl := Option.some.inj hheld
    -- Another version: the row selected would be the one the core holds.
    have hother : entry.proof.profileVersion ≠ proof.profileVersion := by
      intro hsame
      refine hnot ⟨hholds, selected, ?_, ?_⟩
      · exact (state.evidenceSelection evidence.kind reading).selected _ hrepresentative
      · refine List.inj_on_of_nodup_map registry.versions selected.2 held.2 ?_
        exact hversion.symm.trans (hsame.symm.trans hheldVersion)
    have hrecords : VmRecords ⟨settled, state⟩ := h.of_adapter hsettled
    have hrefused := recordProof_refuses hrecords proof hindex
      (by rw [hsettled.binding]; exact hentry) hkind hother hartifact hgeneration
    have hstill := hafter _ _ _ (((hsettled.trans hrefused).get _).trans hget)
    obtain ⟨binding, hfind, hrows⟩ := hcommits.binding
    obtain ⟨bound, hbound, hmem⟩ := hstill.row
    rw [hfind] at hbound
    obtain rfl := Option.some.inj hbound
    rw [hrows] at hmem
    exact hnot ⟨hholds, hmem⟩

theorem revalidation_parts (h : VmRecords vm) {modules : List ModuleImage}
    {probe : registry.Row → CandidateProbe}
    (hlost : ¬ KeepsVouching vm (.revalidateArtifacts modules probe)) :
    ¬ CoreVouches (vm.revalidateArtifacts modules probe) := by
  obtain ⟨adapter, state⟩ := vm
  simp only [KeepsVouching, not_forall] at hlost
  obtain ⟨capability, proof, profile, hget, hnot⟩ := hlost
  intro hafter
  obtain ⟨hopen, -⟩ := get_ok hget
  have hready : ¬(state.artifactQuiescing = true ∧ state.artifactValid = true) := by
    rintro ⟨hquiescing, -⟩
    have hadmission := h.admission
    rw [show adapter.admissionOpen = true from hopen] at hadmission
    rw [show state.artifactQuiescing = true from hquiescing] at hadmission
    cases hadmission
  unfold FlutterVm.revalidateArtifacts at hafter
  rw [if_neg h.candidates, if_neg hready] at hafter
  by_cases hmapped : (state.validateArtifactLifecycle modules).artifactValid = true
  · have hsame := reproveCoreBinding_same (state.validateArtifactLifecycle modules) probe
    rw [if_neg (by rw [hmapped]; exact Bool.noConfusion)] at hafter
    by_cases hproved : ((state.validateArtifactLifecycle modules).reproveCoreBinding probe).2 = true
    · dsimp only at hafter
      rw [if_neg (by rw [hproved]; exact Bool.noConfusion)] at hafter
      obtain ⟨-, hne, index, entry, -, hentry, hcapability, -, -⟩ := get_ok hget
      obtain ⟨kind, -, -, hkind, -⟩ := h.recorded index entry hentry (hcapability ▸ hne)
      obtain rfl := hcapability.symm.trans hkind
      have hreprovable := reproveCoreBinding_iff.mp hproved
      refine hnot ⟨hmapped, ⟨hreprovable.roots, hreprovable.entries, hreprovable.structural,
        hreprovable.eager⟩, fun hrebuilds => ?_⟩
      have hopened : SameAbi adapter adapter.openAdmission := ⟨rfl, rfl, hopen.symm, rfl⟩
      obtain ⟨binding, hfind, hrow⟩ := (hafter _ _ _ ((hopened.get _).trans hget)).row
      obtain ⟨-, ⟨hno, -⟩ | ⟨-, bound, hbound, hrows⟩⟩ := reproveCoreBinding_kind hproved kind
      · exact absurd (hno.symm.trans hrebuilds) Bool.noConfusion
      · have hkept := (markEager_keeps _ kind).binding.trans hbound
        obtain rfl := Option.some.inj (hfind.symm.trans hkept)
        rw [hrows] at hrow
        exact hrow
    · dsimp only at hafter
      rw [if_pos (Bool.eq_false_of_not_eq_true hproved)] at hafter
      exact Bool.noConfusion (hafter _ _ _ hget).valid
  · have hunmapped := Bool.eq_false_of_not_eq_true hmapped
    rw [if_pos hunmapped] at hafter
    rw [(hafter _ _ _ hget).valid] at hunmapped
    cases hunmapped

theorem vouching_lost (h : VmRecords vm) {call : FlutterVmCall registry}
    (hlost : ¬ KeepsVouching vm call) : ¬ CoreVouches (flutterVmStep vm call) := by
  cases call with
  | proveCapability contended thread evidence reading => exact proof_parts h hlost
  | invalidateArtifacts => exact absurd trivial hlost
  | quiesceArtifacts drained hookRefs => exact absurd trivial hlost
  | retireArtifacts drained hookRefs => exact absurd trivial hlost
  | revalidateArtifacts modules probe => exact revalidation_parts h hlost

end Calls

/-! ## Every run -/

/-- A new adapter has no record. -/
theorem vmRecords_create {binding : VerifiedBinding registry} {identity : DartPlantIsolateIdentity}
    {thread : BitVec 64} {modules : List ModuleImage}
    (hcreated : flutterVmAdapterCreate binding identity thread modules = some vm) :
    VmRecords vm := by
  unfold flutterVmAdapterCreate at hcreated
  dsimp only at hcreated
  split at hcreated
  · cases hcreated
  next hbinding =>
    split at hcreated
    · cases hcreated
    next established hestablished =>
      have hsame := congrArg Prod.fst hestablished ▸ establishEagerCapabilityProofs_same
      split at hcreated
      next adapter hadapter =>
        obtain rfl : adapter = { callbacks := completeCallbacks } :=
          (VmOutcome.ok.inj hadapter).symm
        split at hcreated
        next attached hattached =>
          obtain ⟨rfl, -⟩ := Prod.mk.inj hattached
          obtain rfl := Option.some.inj hcreated
          refine records_blank rfl ?_ ?_ ?_ resetAbiBinding_blank
          · exact hsame.identity.symm
          · exact congrArg (fun quiescing => !quiescing) hsame.quiescing.symm
          · exact fun hnil => hbinding (Or.inl (hsame.profiles.symm.trans hnil))
        · cases hcreated
      · cases hcreated

/-- Whatever the calls, the core vouches only for what its backend has currently proven exactly
when no call parts the two. -/
theorem core_vouches {binding : VerifiedBinding registry} {identity : DartPlantIsolateIdentity}
    {thread : BitVec 64} {modules : List ModuleImage}
    (hcreated : flutterVmAdapterCreate binding identity thread modules = some vm)
    (calls : List (FlutterVmCall registry)) :
    Along flutterVmStep CoreVouches vm calls ↔ AlongSteps flutterVmStep KeepsVouching vm calls :=
  along_iff (fun _ h => h.coreVouches) (fun _ _ h _ hkeeps => h.step hkeeps)
    (fun _ _ h _ hlost => vouching_lost h hlost)
    (show AlongSteps flutterVmStep (fun _ _ => True) vm calls from fun _ _ _ => trivial)
    (vmRecords_create hcreated)

end Vouching

/-! ### A proof and its withdrawal -/

/-- One row, whose key names it for every capability. -/
def soleRegistry : ProfileRegistry where
  rows := [⟨31, 4, "function-type"⟩]
  versions := by decide
  abiKey := fun _ _ => "dart-3.11"

def soleRow : soleRegistry.Row := ⟨⟨31, 4, "function-type"⟩, List.mem_cons_self⟩

def soleIsolate : DartPlantIsolateIdentity where
  isolate := 0x7000
  isolateGroup := 0x8000
  generation := 1

def libApp : ModuleImage where
  name := "libapp.so"
  path := "/data/app/lib/libapp.so"
  buildId := "a1"
  loadBias := 0x10000
  executableRanges := [⟨0x10000, 0x20000, 0, 0, 0x10000⟩]

def libFlutter : ModuleImage where
  name := "libflutter.so"
  path := "/data/app/lib/libflutter.so"
  buildId := "f1"
  loadBias := 0x40000
  executableRanges := [⟨0x40000, 0x50000, 0, 0, 0x10000⟩]

def ModuleImage.incarnation (module : ModuleImage) : ArtifactIncarnation where
  name := module.name
  path := module.path
  buildId := module.buildId
  loadBias := module.loadBias
  executableRanges := module.executableRanges

/-- The binding of an adapter with the row bound to every capability but the last two. -/
def soleBinding : VerifiedBinding soleRegistry where
  candidates := ⟨[soleRow], some soleRow⟩
  capabilityBindings := (capabilityRegistry.take 17).map fun capability =>
    ⟨capability, soleRow, "dart-3.11", [soleRow], List.mem_cons_self⟩
  capabilityMask := 0x1ffff
  artifacts := ⟨libApp.incarnation, [libFlutter.incarnation]⟩

def soleVm : FlutterVm soleRegistry :=
  (flutterVmAdapterCreate soleBinding soleIsolate 0x9000 [libApp, libFlutter]).get rfl

theorem soleVm_created :
    flutterVmAdapterCreate soleBinding soleIsolate 0x9000 [libApp, libFlutter] = some soleVm :=
  (Option.some_get _).symm

/-- A FunctionCode proof on the thread of the isolate, under which the row passes or not. -/
def proveFunctionCode (passes : Bool) : FlutterVmCall soleRegistry :=
  .proveCapability false 5 ⟨.functionCode, false, false, 0x7100, 0x7200, 0x10100, 0⟩
    ⟨false, true, fun _ => passes, fun _ => nullptr, []⟩

/-- The core hands out the row for a proof that passed, and vouches for it. -/
theorem core_vouches_function_code :
    (∃ proof, (flutterVmStep soleVm (proveFunctionCode true)).adapter.getCapabilityBinding
        kCapabilityFunctionCodeLayout = .ok (proof, soleRow.1)) ∧
      Along flutterVmStep CoreVouches soleVm [proveFunctionCode true] := by
  refine ⟨⟨_, rfl⟩, (core_vouches soleVm_created _).mpr ?_⟩
  refine alongSteps_cons.mpr ⟨fun _ proof profile hget => ?_, alongSteps_nil⟩
  cases hget

/-- The same proof under which the row no longer passes: the backend withdraws the capability, and
the core still hands it out. -/
theorem withdrawn_proof_vouched :
    flutterVmAdapterCreate soleBinding soleIsolate 0x9000 [libApp, libFlutter] = some soleVm ∧
      ¬ Along flutterVmStep CoreVouches soleVm
        [proveFunctionCode true, proveFunctionCode false] := by
  refine ⟨soleVm_created, fun hvouches => ?_⟩
  have hvouched := hvouches _ List.prefix_rfl kCapabilityFunctionCodeLayout _ _ rfl
  exact absurd hvouched.verified (by decide)

end DartPlant
