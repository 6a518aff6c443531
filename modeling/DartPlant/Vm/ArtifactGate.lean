import DartPlant.Vm.FlutterVmOperations

/-! # The gate of the artifacts

The backend grants nothing from artifacts that are gone, and begins nothing new while they are being
retired.  Three things carry that: the core's admission, which is the negation of quiescing in every
state; validity, which only a revalidation that succeeds brings back; and the generation, which
stamps every record and moves on when a binding is withdrawn.

An invocation that is under way may still cross between generated and native code while the
artifacts are quiescing: it finishes against the binding that is still valid, and retirement waits
for it.
-/

namespace DartPlant
open Runs FlutterVmState

/-! ## What is granted -/

section Gate
variable {registry : ProfileRegistry}

/-- The operation starts something new: a capability proof or a live heap observation. -/
def FlutterVmOperation.starts : FlutterVmOperation registry → Prop
  | .call (.proveCapability ..) => True
  | .beginLiveHeapObservation .. => True
  | _ => False

/-- The operation is a generated transition. -/
def FlutterVmOperation.crosses : FlutterVmOperation registry → Prop
  | .enterGeneratedToNative .. => True
  | .leaveNativeToGenerated .. => True
  | _ => False

/-- The operation revalidates the artifacts. -/
def FlutterVmOperation.revalidates : FlutterVmOperation registry → Prop
  | .call (.revalidateArtifacts ..) => True
  | _ => False

/-- The operation withdraws the artifacts. -/
def FlutterVmOperation.withdraws : FlutterVmOperation registry → Prop
  | .call .invalidateArtifacts => True
  | .call (.retireArtifacts ..) => True
  | _ => False

namespace FlutterVmInstance
variable (vmInstance : FlutterVmInstance registry)

def admissionOpen : Bool := vmInstance.vm.adapter.admissionOpen
def artifactValid : Bool := vmInstance.vm.state.artifactValid
def artifactQuiescing : Bool := vmInstance.vm.state.artifactQuiescing
def artifactGeneration : BitVec 64 := vmInstance.vm.state.artifactGeneration

/-- The operation returns `ok`. -/
def Grants (operation : FlutterVmOperation registry) : Prop :=
  (vmInstance.perform operation).2 = .ok

/-- A proof or an observation is granted only while the artifacts are valid and not quiescing, a
transition only while they are valid. -/
structure GrantsSafely (operation : FlutterVmOperation registry) : Prop where
  starts : operation.starts → vmInstance.Grants operation →
    vmInstance.artifactValid = true ∧ vmInstance.artifactQuiescing = false
  crosses : operation.crosses → vmInstance.Grants operation → vmInstance.artifactValid = true

/-- A revalidation of artifacts that are valid and not quiescing succeeds. -/
def Revalidates (operation : FlutterVmOperation registry) : Prop :=
  operation.revalidates → vmInstance.artifactValid = true →
    vmInstance.artifactQuiescing = false → vmInstance.Grants operation

/-- The operation takes a valid binding away. -/
def Withdrawn (operation : FlutterVmOperation registry) : Prop :=
  operation.withdraws ∧ vmInstance.artifactValid = true ∧
    (flutterVmInstanceStep vmInstance operation).artifactValid = false

/-- Every proof that is accepted, by the backend or by the core, is of a later generation. -/
structure AcceptsAfter (generation : BitVec 64) : Prop where
  backend : ∀ capability, SingleBit capability →
    vmInstance.vm.state.hasVerifiedCapability capability = true →
    generation < (vmInstance.vm.state.proofRecords capability).artifactGeneration
  core : ∀ capability proof profile,
    vmInstance.vm.adapter.getCapabilityBinding capability = .ok (proof, profile) →
    generation < proof.artifactGeneration

/-! ## The invariant -/

/-- Admission is open exactly while the artifacts are not quiescing, and the core holds proofs of
the current generation only. -/
structure Gated : Prop where
  admission : vmInstance.vm.adapter.admissionOpen = !vmInstance.vm.state.artifactQuiescing
  current : ∀ (index : Nat) entry,
    vmInstance.vm.adapter.abiBinding.capabilities[index]? = some entry →
    entry.proof.capability ≠ kCapabilityNone →
    entry.proof.artifactGeneration = vmInstance.vm.state.artifactGeneration

end FlutterVmInstance

open FlutterVmInstance

variable {vmInstance after : FlutterVmInstance registry}
  {operation : FlutterVmOperation registry} {adapter : DartPlantVmAdapter}
  {state next : FlutterVmState registry}

/-- What an operation can do to the life of the artifacts. -/
inductive LifeStep (vmInstance after : FlutterVmInstance registry)
    (operation : FlutterVmOperation registry) : Prop
  | keeps (hvalid : after.artifactValid = vmInstance.artifactValid)
      (hquiescing : after.artifactQuiescing = vmInstance.artifactQuiescing)
      (hgeneration : after.artifactGeneration = vmInstance.artifactGeneration)
      (hrevalidates : operation.revalidates → vmInstance.artifactValid = true ∧
        vmInstance.artifactQuiescing = true ∧ ¬ vmInstance.Grants operation)
  | quiesces (hvalid : after.artifactValid = vmInstance.artifactValid)
      (hquiescing : after.artifactQuiescing = true)
      (hgeneration : after.artifactGeneration = vmInstance.artifactGeneration)
      (hrevalidates : ¬ operation.revalidates)
  | withdraws (hvalid : after.artifactValid = false) (hquiescing : after.artifactQuiescing = true)
      (hgeneration : after.artifactGeneration = vmInstance.artifactGeneration + 1)
      (hrevalidates : ¬ operation.revalidates)
  | rejected (hvalid : after.artifactValid = false)
      (hquiescing : after.artifactQuiescing = vmInstance.artifactQuiescing)
      (hgeneration : after.artifactGeneration = vmInstance.artifactGeneration)
      (hrevalidates : operation.revalidates) (hgrants : ¬ vmInstance.Grants operation)
  | revalidated (hvalid : after.artifactValid = true)
      (hquiescing : after.artifactQuiescing = false)
      (hgeneration : after.artifactGeneration = vmInstance.artifactGeneration)
      (hrevalidates : operation.revalidates) (hgrants : vmInstance.Grants operation)

theorem LifeStep.of_same (hsame : SameIncarnation vmInstance.vm.state after.vm.state)
    (hrevalidates : ¬ operation.revalidates) : LifeStep vmInstance after operation :=
  .keeps hsame.valid hsame.quiescing hsame.generation fun h => absurd h hrevalidates

/-- The backend's part of a capability proof. -/
theorem proveCapability_same (vm : FlutterVm registry) (contended : Bool) (thread : ThreadId)
    (evidence : DartPlantVmCapabilityEvidence) (reading : EvidenceReading registry.Row) :
    SameIncarnation vm.state (vm.proveCapability contended thread evidence reading).state := by
  unfold FlutterVm.proveCapability
  split
  · split
    next next proof hproved =>
      obtain ⟨-, -, -, selected, hselected, -⟩ := proveCapability_ok hproved
      obtain ⟨rows, hcommits, -⟩ := proveEvidence_some hselected
      exact hcommits.same
    next next status hproved =>
      obtain ⟨-, rfl | ⟨-, -, hnone⟩⟩ := proveCapability_error hproved
      · exact .refl _
      · rcases proveEvidence_none hnone with rfl | ⟨-, -, hwithdraws⟩
        · exact .refl _
        · exact hwithdraws.same
  · exact .refl _

/-- A retirement quiesces, and withdraws what was valid when nothing is outstanding. -/
theorem retireArtifacts_life (vm : FlutterVm registry) (drained : DartPlantStatus)
    (hookRefs : BitVec 64) :
    let retired := vm.retireArtifacts drained hookRefs
    retired.adapter.admissionOpen = false ∧ retired.state.artifactQuiescing = true ∧
      ((retired.state.artifactValid = vm.state.artifactValid ∧
          retired.state.artifactGeneration = vm.state.artifactGeneration ∧
          retired.adapter.abiBinding = vm.adapter.abiBinding) ∨
        (retired.state.artifactValid = false ∧
          retired.state.artifactGeneration = vm.state.artifactGeneration + 1 ∧
          retired.adapter.abiBinding = vm.adapter.resetAbiBinding.abiBinding)) := by
  have hquiesced : (vm.quiesceArtifacts drained hookRefs).1 =
      ⟨{ vm.adapter.closeAdmission with hookRefs },
        { vm.state with artifactQuiescing := true }⟩ := rfl
  dsimp only
  unfold FlutterVm.retireArtifacts
  split
  next quiesced value heq =>
    rw [heq] at hquiesced
    obtain rfl := hquiesced
    dsimp only
    split
    · exact ⟨rfl, rfl, Or.inl ⟨rfl, rfl, rfl⟩⟩
    · exact ⟨rfl, rfl, Or.inr ⟨rfl, rfl, rfl⟩⟩
  next quiesced outcome hnot heq =>
    rw [heq] at hquiesced
    obtain rfl := hquiesced
    exact ⟨rfl, rfl, Or.inl ⟨rfl, rfl, rfl⟩⟩

theorem revalidateArtifacts_life (vm : FlutterVm registry) (modules : List ModuleImage)
    (probe : registry.Row → CandidateProbe) :
    (vm.state.artifactQuiescing = true ∧ vm.state.artifactValid = true ∧
        vm.revalidateArtifacts modules probe = vm ∧
        vm.revalidateStatus modules probe ≠ .ok) ∨
      ((vm.revalidateArtifacts modules probe).adapter = vm.adapter ∧
        (vm.revalidateArtifacts modules probe).state.artifactValid = false ∧
        (vm.revalidateArtifacts modules probe).state.artifactQuiescing =
          vm.state.artifactQuiescing ∧
        (vm.revalidateArtifacts modules probe).state.artifactGeneration =
          vm.state.artifactGeneration ∧
        vm.revalidateStatus modules probe ≠ .ok) ∨
      ((vm.revalidateArtifacts modules probe).adapter = vm.adapter.openAdmission ∧
        (vm.revalidateArtifacts modules probe).state.artifactValid = true ∧
        (vm.revalidateArtifacts modules probe).state.artifactQuiescing = false ∧
        (vm.revalidateArtifacts modules probe).state.artifactGeneration =
          vm.state.artifactGeneration ∧
        vm.revalidateStatus modules probe = .ok) := by
  have hsame := reproveCoreBinding_same (vm.state.validateArtifactLifecycle modules) probe
  unfold FlutterVm.revalidateArtifacts FlutterVm.revalidateStatus
  dsimp only
  split
  · exact Or.inr (Or.inl ⟨rfl, rfl, rfl, rfl, DartPlantStatus.noConfusion⟩)
  split
  next hbusy => exact Or.inl ⟨hbusy.1, hbusy.2, rfl, DartPlantStatus.noConfusion⟩
  split
  next hunmapped =>
    exact Or.inr (Or.inl ⟨rfl, hunmapped, rfl, rfl, DartPlantStatus.noConfusion⟩)
  next hmapped =>
    split
    · exact Or.inr (Or.inl ⟨rfl, rfl, hsame.quiescing, hsame.generation,
        DartPlantStatus.noConfusion⟩)
    · refine Or.inr (Or.inr ⟨rfl, ?_, rfl, ?_, rfl⟩)
      · exact (markEager_same.valid.trans hsame.valid).trans
          (Bool.eq_true_of_not_eq_false hmapped)
      · exact markEager_same.generation.trans hsame.generation

/-- A call, taken as its effect on the life of the artifacts. -/
theorem call_life (call : FlutterVmCall registry) :
    LifeStep vmInstance (flutterVmInstanceStep vmInstance (.call call)) (.call call) := by
  cases call with
  | proveCapability contended thread evidence reading =>
    exact .of_same (proveCapability_same _ contended thread evidence reading) id
  | invalidateArtifacts => exact .withdraws rfl rfl rfl id
  | quiesceArtifacts drained hookRefs => exact .quiesces rfl rfl rfl id
  | retireArtifacts drained hookRefs =>
    obtain ⟨-, hquiescing, ⟨hvalid, hgeneration, -⟩ | ⟨hvalid, hgeneration, -⟩⟩ :=
      retireArtifacts_life vmInstance.vm drained hookRefs
    · exact .quiesces hvalid hquiescing hgeneration id
    · exact .withdraws hvalid hquiescing hgeneration id
  | revalidateArtifacts modules probe =>
    rcases revalidateArtifacts_life vmInstance.vm modules probe with
      ⟨hquiescing, hvalid, hsame, hfailed⟩ | ⟨-, hvalid, hquiescing, hgeneration, hfailed⟩ |
        ⟨-, hvalid, hquiescing, hgeneration, hok⟩
    · refine .keeps ?_ ?_ ?_ fun _ => ⟨hvalid, hquiescing, hfailed⟩
      · exact congrArg (fun vm => vm.state.artifactValid) hsame
      · exact congrArg (fun vm => vm.state.artifactQuiescing) hsame
      · exact congrArg (fun vm => vm.state.artifactGeneration) hsame
    · exact .rejected hvalid hquiescing hgeneration trivial hfailed
    · exact .revalidated hvalid hquiescing hgeneration trivial hok

/-- What a request leaves: the core's record, and the incarnation of the backend. -/
theorem ask_same {α : Type} {request : DartPlantStatus → DartPlantVmAdapter.Step α}
    {answer : FlutterVmState registry × SafepointState registry.Row × DartPlantStatus}
    (h : PassesOn vmInstance.vm.adapter request)
    (hanswer : SameIncarnation vmInstance.vm.state answer.1) :
    SameAbi vmInstance.vm.adapter (vmInstance.ask request answer).1.vm.adapter ∧
      SameIncarnation vmInstance.vm.state (vmInstance.ask request answer).1.vm.state := by
  obtain ⟨hsame, hstate | hstate⟩ := ask_spec answer h
  · exact ⟨hsame, hstate ▸ .refl _⟩
  · exact ⟨hsame, hstate ▸ hanswer⟩

/-- An operation that is no call leaves the core's record and the incarnation. -/
theorem perform_same (hcall : ∀ call, operation ≠ .call call) :
    SameAbi vmInstance.vm.adapter (flutterVmInstanceStep vmInstance operation).vm.adapter ∧
      SameIncarnation vmInstance.vm.state
        (flutterVmInstanceStep vmInstance operation).vm.state := by
  cases operation with
  | call call => exact absurd rfl (hcall call)
  | use thread use => exact ⟨use_sameAbi use, .refl _⟩
  | enterGeneratedToNative contended thread frame rootLease reading =>
    exact ask_same (enterGeneratedToNative_passes contended) enterGeneratedToNative_same
  | leaveNativeToGenerated thread frame rootLease reading =>
    exact ask_same leaveNativeToGenerated_passes leaveNativeToGenerated_same
  | beginLiveHeapObservation thread vmThread reading =>
    exact ask_same beginLiveHeapObservation_passes (.refl _)
  | endLiveHeapObservation thread lease =>
    exact ask_same endLiveHeapObservation_passes (.refl _)
  | readActiveObject thread reading raw =>
    exact ask_same readActiveObject_passes readActiveException_same
  | readTypeArgumentsElement contended thread reading raw =>
    exact ask_same (readTypeArgumentsElement_passes contended) readTypeArgumentsElement_same

theorem revalidates_call (h : operation.revalidates) : ∃ call, operation = .call call := by
  cases operation with
  | call call => exact ⟨call, rfl⟩
  | _ => exact absurd h id

/-- Every operation, as its effect on the life of the artifacts. -/
theorem perform_life (vmInstance : FlutterVmInstance registry)
    (operation : FlutterVmOperation registry) :
    LifeStep vmInstance (flutterVmInstanceStep vmInstance operation) operation := by
  by_cases hcall : ∃ call, operation = .call call
  · obtain ⟨call, rfl⟩ := hcall
    exact call_life call
  · exact .of_same (perform_same fun call h => hcall ⟨call, h⟩).2
      fun h => hcall (revalidates_call h)

/-! ## The core's record -/

theorem gated_of_same (h : vmInstance.Gated)
    (hadapter : SameAbi vmInstance.vm.adapter after.vm.adapter)
    (hstate : SameIncarnation vmInstance.vm.state after.vm.state) : after.Gated where
  admission := by
    rw [hadapter.admission, hstate.quiescing]
    exact h.admission
  current := by
    rw [hadapter.binding, hstate.generation]
    exact h.current

theorem current_blank {binding : DartPlantVmAdapter} {generation : BitVec 64} (index : Nat)
    (entry : VmAbiCapabilityBinding)
    (hentry : binding.resetAbiBinding.abiBinding.capabilities[index]? = some entry)
    (hne : entry.proof.capability ≠ kCapabilityNone) :
    entry.proof.artifactGeneration = generation :=
  absurd (resetAbiBinding_blank index entry hentry) hne

theorem gated_of_binding (h : vmInstance.Gated)
    (hadmission : after.vm.adapter.admissionOpen = !after.vm.state.artifactQuiescing)
    (hbinding : (after.vm.adapter.abiBinding = vmInstance.vm.adapter.abiBinding ∧
        after.vm.state.artifactGeneration = vmInstance.vm.state.artifactGeneration) ∨
      after.vm.adapter.abiBinding = vmInstance.vm.adapter.resetAbiBinding.abiBinding) :
    after.Gated := by
  refine ⟨hadmission, ?_⟩
  rcases hbinding with ⟨hbinding, hgeneration⟩ | hbinding
  · rw [hbinding, hgeneration]
    exact h.current
  · rw [hbinding]
    exact current_blank

/-- A proof of the current generation keeps the core's record current. -/
theorem recordProof_current (profiles : List RuntimeProfileRecord)
    (kind : DartPlantVmCapabilityEvidenceKind) {proof : DartPlantVmCapabilityProof}
    {generation : BitVec 64} (hproof : proof.artifactGeneration = generation)
    (hcurrent : ∀ (index : Nat) entry, adapter.abiBinding.capabilities[index]? = some entry →
      entry.proof.capability ≠ kCapabilityNone → entry.proof.artifactGeneration = generation) :
    (adapter.recordProof profiles kind proof).1.admissionOpen = adapter.admissionOpen ∧
      ∀ (index : Nat) entry,
        (adapter.recordProof profiles kind proof).1.abiBinding.capabilities[index]? = some entry →
        entry.proof.capability ≠ kCapabilityNone →
        entry.proof.artifactGeneration = generation := by
  unfold DartPlantVmAdapter.recordProof
  split
  · exact ⟨rfl, hcurrent⟩
  split
  · exact ⟨rfl, hcurrent⟩
  split
  · exact ⟨rfl, hcurrent⟩
  split
  · exact ⟨rfl, hcurrent⟩
  dsimp only
  -- The record of another incarnation is dropped first.
  have hdropped : ∀ dropped : DartPlantVmAdapter,
      dropped = adapter.resetAbiBinding ∨ dropped = adapter →
      dropped.admissionOpen = adapter.admissionOpen ∧
        ∀ (index : Nat) entry, dropped.abiBinding.capabilities[index]? = some entry →
          entry.proof.capability ≠ kCapabilityNone →
          entry.proof.artifactGeneration = generation := by
    rintro dropped (rfl | rfl)
    · exact ⟨rfl, current_blank⟩
    · exact ⟨rfl, hcurrent⟩
  generalize hdrop : (if adapter.abiBinding.artifactGeneration ≠ 0 ∧
    (adapter.abiBinding.artifactGeneration ≠ proof.artifactGeneration ∨
      adapter.abiBinding.isolateGeneration ≠ proof.isolateGeneration) then
    adapter.resetAbiBinding else adapter) = dropped
  have hchoice : dropped = adapter.resetAbiBinding ∨ dropped = adapter := by
    rw [← hdrop]
    exact ite_eq_or_eq _ _ _
  obtain ⟨hopen, hentries⟩ := hdropped dropped hchoice
  split
  · exact ⟨hopen, hentries⟩
  · refine ⟨hopen, fun index entry hentry hne => ?_⟩
    dsimp only at hentry
    rw [List.getElem?_set] at hentry
    split at hentry
    · split at hentry
      · obtain rfl := Option.some.inj hentry
        exact hproof
      · cases hentry
    · exact hentries index entry hentry hne

section
variable (h : vmInstance.Gated)
include h

theorem gated_proveCapability (contended : Bool) (thread : ThreadId)
    (evidence : DartPlantVmCapabilityEvidence) (reading : EvidenceReading registry.Row) :
    (flutterVmInstanceStep vmInstance
      (.call (.proveCapability contended thread evidence reading))).Gated := by
  have hstate := proveCapability_same vmInstance.vm contended thread evidence reading
  suffices hadapter :
      (vmInstance.vm.proveCapability contended thread evidence reading).adapter.admissionOpen =
          vmInstance.vm.adapter.admissionOpen ∧
        ∀ (index : Nat) entry, (vmInstance.vm.proveCapability contended thread evidence
            reading).adapter.abiBinding.capabilities[index]? = some entry →
          entry.proof.capability ≠ kCapabilityNone →
          entry.proof.artifactGeneration = vmInstance.vm.state.artifactGeneration by
    refine ⟨?_, ?_⟩
    · exact hadapter.1.trans (h.admission.trans (congrArg not hstate.quiescing.symm))
    · intro index entry hentry hne
      exact (hadapter.2 index entry hentry hne).trans hstate.generation.symm
  have hsettled : ∀ settled : DartPlantVmAdapter, SameAbi vmInstance.vm.adapter settled →
      ∀ (index : Nat) entry, settled.abiBinding.capabilities[index]? = some entry →
        entry.proof.capability ≠ kCapabilityNone →
        entry.proof.artifactGeneration = vmInstance.vm.state.artifactGeneration := by
    intro settled hsame
    rw [hsame.binding]
    exact h.current
  unfold FlutterVm.proveCapability
  split
  next begun value hbegun =>
    have hbegun : (vmInstance.vm.adapter.beginProof contended thread).2 = .ok () := by rw [hbegun]
    split
    next next proof hproved =>
      obtain ⟨-, -, -, selected, -, -, -, hgeneration, -⟩ := proveCapability_ok hproved
      obtain ⟨settled, hsame, hstep⟩ := proveCapability_begun registry.rows evidence.kind .ok proof
        hbegun
      obtain ⟨hopen, hcurrent⟩ := recordProof_current registry.rows evidence.kind hgeneration
        (hsettled settled hsame)
      dsimp only
      rw [hstep, if_neg (not_not.mpr rfl)]
      exact ⟨hopen.trans hsame.admission, hcurrent⟩
    next next status hproved =>
      obtain ⟨settled, hsame, hstep⟩ := proveCapability_begun registry.rows evidence.kind status {}
        hbegun
      dsimp only
      rw [hstep, if_pos (proveCapability_error hproved).1]
      exact ⟨hsame.admission, hsettled settled hsame⟩
  next begun outcome hnot hbegun =>
    have hsame := beginProof_sameAbi vmInstance.vm.adapter contended thread
    rw [hbegun] at hsame
    exact ⟨hsame.admission, hsettled begun hsame⟩

theorem gated_call (call : FlutterVmCall registry) :
    (flutterVmInstanceStep vmInstance (.call call)).Gated := by
  cases call with
  | proveCapability contended thread evidence reading =>
    exact gated_proveCapability h contended thread evidence reading
  | invalidateArtifacts => exact ⟨rfl, current_blank⟩
  | quiesceArtifacts drained hookRefs => exact ⟨rfl, h.current⟩
  | retireArtifacts drained hookRefs =>
    obtain ⟨hopen, hquiescing, ⟨-, hgeneration, hbinding⟩ | ⟨-, -, hbinding⟩⟩ :=
      retireArtifacts_life vmInstance.vm drained hookRefs
    · exact gated_of_binding h (hopen.trans (congrArg not hquiescing.symm))
        (Or.inl ⟨hbinding, hgeneration⟩)
    · exact gated_of_binding h (hopen.trans (congrArg not hquiescing.symm)) (Or.inr hbinding)
  | revalidateArtifacts modules probe =>
    rcases revalidateArtifacts_life vmInstance.vm modules probe with
      ⟨-, -, hsame, -⟩ | ⟨hadapter, -, hquiescing, hgeneration, -⟩ |
        ⟨hadapter, -, hquiescing, hgeneration, -⟩
    · refine gated_of_binding h ?_ (Or.inl ⟨congrArg (fun vm => vm.adapter.abiBinding) hsame,
        congrArg (fun vm => vm.state.artifactGeneration) hsame⟩)
      exact (congrArg (fun vm => vm.adapter.admissionOpen) hsame).trans
        (h.admission.trans (congrArg (fun vm => !vm.state.artifactQuiescing) hsame.symm))
    · refine gated_of_binding h ?_ (Or.inl ⟨congrArg (fun adapter => adapter.abiBinding) hadapter,
        hgeneration⟩)
      exact (congrArg (fun adapter => adapter.admissionOpen) hadapter).trans
        (h.admission.trans (congrArg not hquiescing.symm))
    · refine gated_of_binding h ?_ (Or.inl ⟨congrArg (fun adapter => adapter.abiBinding) hadapter,
        hgeneration⟩)
      exact (congrArg (fun adapter => adapter.admissionOpen) hadapter).trans
        (congrArg not hquiescing.symm)

theorem gated_perform (operation : FlutterVmOperation registry) :
    (flutterVmInstanceStep vmInstance operation).Gated := by
  by_cases hcall : ∃ call, operation = .call call
  · obtain ⟨call, rfl⟩ := hcall
    exact gated_call h call
  · obtain ⟨hadapter, hstate⟩ := perform_same fun call heq => hcall ⟨call, heq⟩
    exact gated_of_same h hadapter hstate

theorem gated_quiet (hadmits : vmInstance.admissionOpen = true) :
    vmInstance.artifactQuiescing = false := by
  have hadmission := h.admission
  rw [show vmInstance.vm.adapter.admissionOpen = true from hadmits] at hadmission
  exact (Bool.not_eq_true' _).mp hadmission.symm

end

/-! ## One operation -/

theorem beginProof_status {contended : Bool} {thread : ThreadId}
    (h : (adapter.beginProof contended thread).2.status = .ok) :
    (adapter.beginProof contended thread).2 = .ok () := by
  unfold DartPlantVmAdapter.beginProof DartPlantVmAdapter.checkAttachedOwner at h ⊢
  split at h
  · cases h
  next hfree =>
    rw [if_neg hfree]
    split at h
    · cases h
    next havailable =>
      rw [if_neg havailable]
      split at h
      · cases h
      next hopen =>
        rw [if_neg hopen]
        split at h
        · cases h
        next hattached =>
          rw [if_neg hattached]
          split at h
          · cases h
          next howner =>
            rw [if_neg howner]
            dsimp only [DartPlantVmAdapter.andThen] at h ⊢
            split at h
            · cases h
            next hidle => rw [if_neg hidle]

theorem proveStatus_granted {vm : FlutterVm registry} {contended : Bool} {thread : ThreadId}
    {evidence : DartPlantVmCapabilityEvidence} {reading : EvidenceReading registry.Row}
    (h : vm.proveStatus contended thread evidence reading = .ok) :
    vm.adapter.admissionOpen = true ∧ vm.state.artifactValid = true := by
  unfold FlutterVm.proveStatus at h
  split at h
  next begun value hbegun =>
    have hbegun : (vm.adapter.beginProof contended thread).2 = .ok () := by rw [hbegun]
    split at h
    next next proof hproved =>
      exact ⟨beginProof_open hbegun, (proveCapability_ok hproved).2.2.1⟩
    next next status hproved =>
      obtain ⟨hfailed, -⟩ := proveCapability_error hproved
      obtain ⟨settled, -, hstep⟩ := proveCapability_begun registry.rows evidence.kind status {}
        hbegun
      rw [hstep, if_pos hfailed] at h
      exact absurd h hfailed
  next begun outcome hnot hbegun =>
    have hok : (vm.adapter.beginProof contended thread).2 = .ok () := by
      refine beginProof_status ?_
      rw [hbegun]
      exact h
    rw [hbegun] at hok
    exact (hnot _ hok).elim

/-- What is granted is granted safely. -/
theorem grants_safely (h : vmInstance.Gated) (operation : FlutterVmOperation registry) :
    vmInstance.GrantsSafely operation := by
  have hopened : vmInstance.vm.adapter.admissionOpen = true →
      vmInstance.artifactQuiescing = false := gated_quiet h
  refine ⟨fun hstarts hgrants => ?_, fun hcrosses hgrants => ?_⟩
  · cases operation with
    | call call =>
      cases call with
      | proveCapability contended thread evidence reading =>
        obtain ⟨hopen, hvalid⟩ := proveStatus_granted hgrants
        exact ⟨hvalid, hopened hopen⟩
      | _ => exact absurd hstarts id
    | beginLiveHeapObservation thread vmThread reading =>
      obtain ⟨hanswer, hstatus⟩ := ask_granted beginLiveHeapObservation_passes hgrants
      exact ⟨beginLiveHeapObservation_valid hanswer,
        hopened (beginLiveHeapObservation_open hstatus)⟩
    | _ => exact absurd hstarts id
  · cases operation with
    | enterGeneratedToNative contended thread frame rootLease reading =>
      obtain ⟨hanswer, -⟩ := ask_granted (enterGeneratedToNative_passes contended) hgrants
      exact enterGeneratedToNative_valid hanswer
    | leaveNativeToGenerated thread frame rootLease reading =>
      obtain ⟨hanswer, -⟩ := ask_granted leaveNativeToGenerated_passes hgrants
      exact leaveNativeToGenerated_valid hanswer
    | _ => exact absurd hcrosses id

/-- A withdrawal starts a new generation. -/
theorem withdrawn_generation (h : vmInstance.Withdrawn operation) :
    (flutterVmInstanceStep vmInstance operation).artifactGeneration =
      vmInstance.artifactGeneration + 1 := by
  obtain ⟨hwithdraws, hvalid, hinvalid⟩ := h
  have hcall : ¬ operation.revalidates := by
    cases operation with
    | call call =>
      cases call with
      | revalidateArtifacts modules probe => exact absurd hwithdraws id
      | _ => exact id
    | _ => exact id
  cases perform_life vmInstance operation with
  | keeps hsame => rw [hsame, hvalid] at hinvalid; cases hinvalid
  | quiesces hsame => rw [hsame, hvalid] at hinvalid; cases hinvalid
  | withdraws _ _ hgeneration => exact hgeneration
  | rejected _ _ _ hrevalidates => exact absurd hrevalidates hcall
  | revalidated hsame => rw [hsame] at hinvalid; cases hinvalid

/-- The generation moves by one at most. -/
theorem step_generation (vmInstance : FlutterVmInstance registry)
    (operation : FlutterVmOperation registry)
    (hroom : vmInstance.artifactGeneration.toNat + 1 < 2 ^ 64) :
    vmInstance.artifactGeneration.toNat ≤
        (flutterVmInstanceStep vmInstance operation).artifactGeneration.toNat ∧
      (flutterVmInstanceStep vmInstance operation).artifactGeneration.toNat ≤
        vmInstance.artifactGeneration.toNat + 1 := by
  have hmoved : (vmInstance.artifactGeneration + 1).toNat =
      vmInstance.artifactGeneration.toNat + 1 := by
    rw [BitVec.toNat_add]
    exact Nat.mod_eq_of_lt hroom
  cases perform_life vmInstance operation with
  | keeps _ _ hgeneration => rw [hgeneration]; omega
  | quiesces _ _ hgeneration => rw [hgeneration]; omega
  | withdraws _ _ hgeneration => rw [hgeneration, hmoved]; omega
  | rejected _ _ hgeneration => rw [hgeneration]; omega
  | revalidated _ _ hgeneration => rw [hgeneration]; omega

/-- Proofs are accepted of the current generation only. -/
theorem acceptsAfter_of_lt (h : vmInstance.Gated) {generation : BitVec 64}
    (hlater : generation < vmInstance.artifactGeneration) :
    vmInstance.AcceptsAfter generation where
  backend := by
    intro capability hsingle hverified
    rw [hasVerified_single hsingle, Bool.and_eq_true] at hverified
    have hrecord := hverified.2
    simp only [recordVerified, Bool.and_eq_true, beq_iff_eq] at hrecord
    rw [hrecord.1.1.1.2]
    exact hlater
  core := by
    intro capability proof profile hget
    obtain ⟨-, hne, index, entry, -, hentry, hcapability, rfl, -⟩ := get_ok hget
    rw [h.current index entry hentry (hcapability ▸ hne)]
    exact hlater

/-- Until a revalidation succeeds, what is closed stays closed. -/
theorem closed_step (operation : FlutterVmOperation registry)
    (hfailed : operation.revalidates → ¬ vmInstance.Grants operation) :
    (vmInstance.artifactQuiescing = true ∨ vmInstance.artifactValid = false →
        (flutterVmInstanceStep vmInstance operation).artifactQuiescing = true ∨
          (flutterVmInstanceStep vmInstance operation).artifactValid = false) ∧
      (vmInstance.artifactValid = false →
        (flutterVmInstanceStep vmInstance operation).artifactValid = false) := by
  cases perform_life vmInstance operation with
  | keeps hvalid hquiescing =>
    rw [hvalid, hquiescing]
    exact ⟨id, id⟩
  | quiesces hvalid hquiescing =>
    rw [hvalid, hquiescing]
    exact ⟨fun _ => Or.inl rfl, id⟩
  | withdraws hvalid => exact ⟨fun _ => Or.inr hvalid, fun _ => hvalid⟩
  | rejected hvalid => exact ⟨fun _ => Or.inr hvalid, fun _ => hvalid⟩
  | revalidated _ _ _ hrevalidates hgrants => exact absurd hgrants (hfailed hrevalidates)

/-- A revalidation that fails leaves the artifacts closed, and not valid unless they were quiescing
while valid. -/
theorem failed_revalidation (hrevalidates : operation.revalidates)
    (hfailed : ¬ vmInstance.Grants operation) :
    ((flutterVmInstanceStep vmInstance operation).artifactQuiescing = true ∨
        (flutterVmInstanceStep vmInstance operation).artifactValid = false) ∧
      (¬(vmInstance.artifactQuiescing = true ∧ vmInstance.artifactValid = true) →
        (flutterVmInstanceStep vmInstance operation).artifactValid = false) := by
  cases perform_life vmInstance operation with
  | keeps hvalid hquiescing _ hbusy =>
    obtain ⟨hwas, hquiesced, -⟩ := hbusy hrevalidates
    exact ⟨Or.inl (hquiescing.trans hquiesced), fun hnot => absurd ⟨hquiesced, hwas⟩ hnot⟩
  | quiesces _ _ _ hno => exact absurd hrevalidates hno
  | withdraws _ _ _ hno => exact absurd hrevalidates hno
  | rejected hvalid => exact ⟨Or.inr hvalid, fun _ => hvalid⟩
  | revalidated _ _ _ _ hgrants => exact absurd hgrants hfailed

/-- Where revalidations hold, artifacts that are not quiescing are valid. -/
theorem valid_step (hholds : vmInstance.Revalidates operation)
    (hvalid : vmInstance.artifactQuiescing = false → vmInstance.artifactValid = true)
    (hquiescing : (flutterVmInstanceStep vmInstance operation).artifactQuiescing = false) :
    (flutterVmInstanceStep vmInstance operation).artifactValid = true := by
  cases perform_life vmInstance operation with
  | keeps hsame hkept => exact hsame.trans (hvalid (hkept.symm.trans hquiescing))
  | quiesces _ htrue => rw [htrue] at hquiescing; cases hquiescing
  | withdraws _ htrue => rw [htrue] at hquiescing; cases hquiescing
  | rejected _ hkept _ hrevalidates hfailed =>
    have hopen := hkept.symm.trans hquiescing
    exact absurd (hholds hrevalidates (hvalid hopen) hopen) hfailed
  | revalidated hvalid => exact hvalid

/-! ## Every run -/

/-- A new adapter is valid, admits, and holds no proof. -/
theorem flutterVmAdapterCreate_open {vm : FlutterVm registry} {binding : VerifiedBinding registry}
    {identity : DartPlantIsolateIdentity} {thread : BitVec 64} {modules : List ModuleImage}
    (hcreated : flutterVmAdapterCreate binding identity thread modules = some vm) :
    vm.adapter.admissionOpen = true ∧ vm.state.artifactQuiescing = false ∧
      vm.state.artifactValid = true ∧ vm.state.artifactGeneration = 1 ∧
      ∀ (index : Nat) entry, vm.adapter.abiBinding.capabilities[index]? = some entry →
        entry.proof.capability = kCapabilityNone := by
  unfold flutterVmAdapterCreate at hcreated
  dsimp only at hcreated
  split at hcreated
  · cases hcreated
  next hbinding =>
    simp only [not_or, Bool.not_eq_false] at hbinding
    split at hcreated
    · cases hcreated
    next established hestablished =>
      have hsame := congrArg Prod.fst hestablished ▸ establishEagerCapabilityProofs_same
      split at hcreated
      next adapter hadapter =>
        obtain rfl : adapter = { callbacks := completeCallbacks } :=
          (VmOutcome.ok.inj hadapter).symm
        split at hcreated
        next attached hattached =>
          obtain ⟨rfl, -⟩ := Prod.mk.inj hattached
          obtain rfl := Option.some.inj hcreated
          exact ⟨rfl, hsame.quiescing, hsame.valid.trans hbinding.2.2, hsame.generation,
            resetAbiBinding_blank⟩
        · cases hcreated
      · cases hcreated

section Runs
variable {operations : List (FlutterVmOperation registry)}

/-- A new instance. -/
theorem flutterVmInstanceCreate_gated {binding : VerifiedBinding registry}
    {identity : DartPlantIsolateIdentity} {thread : BitVec 64} {modules : List ModuleImage}
    {safepoints : SafepointState registry.Row}
    {address : { address : Address // address ≠ nullptr }}
    (hcreated : flutterVmInstanceCreate binding identity thread modules safepoints address =
      some vmInstance) :
    vmInstance.Gated ∧ vmInstance.artifactValid = true ∧ vmInstance.artifactGeneration = 1 := by
  obtain ⟨vm, hvm, rfl⟩ := Option.map_eq_some_iff.mp hcreated
  obtain ⟨hopen, hquiescing, hvalid, hgeneration, hblank⟩ := flutterVmAdapterCreate_open hvm
  refine ⟨⟨hopen.trans (congrArg not hquiescing.symm), ?_⟩, hvalid, hgeneration⟩
  exact fun index entry hentry hne => absurd (hblank index entry hentry) hne

theorem run_generation (hroom : vmInstance.artifactGeneration.toNat + operations.length < 2 ^ 64) :
    vmInstance.artifactGeneration.toNat ≤
        (operations.foldl flutterVmInstanceStep vmInstance).artifactGeneration.toNat ∧
      (operations.foldl flutterVmInstanceStep vmInstance).artifactGeneration.toNat ≤
        vmInstance.artifactGeneration.toNat + operations.length := by
  induction operations generalizing vmInstance with
  | nil => exact ⟨Nat.le_refl _, Nat.le_refl _⟩
  | cons operation operations ih =>
    rw [List.length_cons] at hroom
    obtain ⟨hmono, hstep⟩ := step_generation vmInstance operation (by omega)
    have hrest : (flutterVmInstanceStep vmInstance operation).artifactGeneration.toNat +
        operations.length < 2 ^ 64 := by omega
    obtain ⟨hlow, hhigh⟩ := ih hrest
    rw [List.foldl_cons, List.length_cons]
    omega

theorem run_gated (h : vmInstance.Gated) :
    (operations.foldl flutterVmInstanceStep vmInstance).Gated := by
  induction operations generalizing vmInstance with
  | nil => exact h
  | cons operation operations ih => exact ih (gated_perform h operation)

/-- Until a revalidation succeeds, a run leaves closed what was closed. -/
theorem run_closed
    (hfailed : AlongSteps flutterVmInstanceStep
      (fun vmInstance operation => operation.revalidates → ¬ vmInstance.Grants operation)
      vmInstance operations) :
    (vmInstance.artifactQuiescing = true ∨ vmInstance.artifactValid = false →
        (operations.foldl flutterVmInstanceStep vmInstance).artifactQuiescing = true ∨
          (operations.foldl flutterVmInstanceStep vmInstance).artifactValid = false) ∧
      (vmInstance.artifactValid = false →
        (operations.foldl flutterVmInstanceStep vmInstance).artifactValid = false) := by
  induction operations generalizing vmInstance with
  | nil => exact ⟨id, id⟩
  | cons operation operations ih =>
    obtain ⟨hfirst, hrest⟩ := alongSteps_cons.mp hfailed
    obtain ⟨hclosed, hinvalid⟩ := closed_step operation hfirst
    obtain ⟨hclosedRest, hinvalidRest⟩ := ih hrest
    exact ⟨fun h => hclosedRest (hclosed h), fun h => hinvalidRest (hinvalid h)⟩

/-- Every generation after a withdrawal is later than the one before it. -/
theorem withdrawn_later (later : List (FlutterVmOperation registry))
    (hwithdrawn : vmInstance.Withdrawn operation)
    (hroom : vmInstance.artifactGeneration.toNat + (later.length + 1) < 2 ^ 64) :
    vmInstance.artifactGeneration <
      ((operation :: later).foldl flutterVmInstanceStep vmInstance).artifactGeneration := by
  have hnext : (flutterVmInstanceStep vmInstance operation).artifactGeneration.toNat =
      vmInstance.artifactGeneration.toNat + 1 := by
    rw [withdrawn_generation hwithdrawn, BitVec.toNat_add]
    exact Nat.mod_eq_of_lt (by rw [show (1 : BitVec 64).toNat = 1 from rfl]; omega)
  have hrest : (flutterVmInstanceStep vmInstance operation).artifactGeneration.toNat +
      later.length < 2 ^ 64 := by omega
  obtain ⟨hlow, -⟩ := run_generation hrest
  rw [List.foldl_cons, BitVec.lt_def]
  omega

/-- Whatever the operations: admission is open only while the artifacts are not quiescing, and,
where no revalidation of artifacts that are valid and not quiescing fails, only while they are
valid; a proof or an observation is granted only while both hold, and a transition only while the
artifacts are valid; a withdrawal starts a later generation, and no proof of an earlier one is
accepted after it; and after a revalidation that fails, until one succeeds, no proof and no
observation is granted, and no transition either unless the artifacts were still valid and
quiescing. -/
theorem artifact_gate {binding : VerifiedBinding registry} {identity : DartPlantIsolateIdentity}
    {thread : BitVec 64} {modules : List ModuleImage} {safepoints : SafepointState registry.Row}
    {address : { address : Address // address ≠ nullptr }}
    (hcreated : flutterVmInstanceCreate binding identity thread modules safepoints address =
      some vmInstance)
    (hlength : operations.length < 2 ^ 64 - 1) :
    Along flutterVmInstanceStep
        (fun reached => reached.admissionOpen = true → reached.artifactQuiescing = false)
        vmInstance operations ∧
      (AlongSteps flutterVmInstanceStep Revalidates vmInstance operations →
        Along flutterVmInstanceStep
          (fun reached => reached.admissionOpen = true → reached.artifactValid = true)
          vmInstance operations) ∧
      AlongSteps flutterVmInstanceStep GrantsSafely vmInstance operations ∧
      (∀ before operation later, before ++ operation :: later <+: operations →
        (before.foldl flutterVmInstanceStep vmInstance).Withdrawn operation →
        (before.foldl flutterVmInstanceStep vmInstance).artifactGeneration <
            ((before ++ operation :: later).foldl flutterVmInstanceStep
              vmInstance).artifactGeneration ∧
          ((before ++ operation :: later).foldl flutterVmInstanceStep vmInstance).AcceptsAfter
            (before.foldl flutterVmInstanceStep vmInstance).artifactGeneration) ∧
      ∀ before operation later next, before ++ operation :: later ++ [next] <+: operations →
        operation.revalidates →
        ¬ (before.foldl flutterVmInstanceStep vmInstance).Grants operation →
        AlongSteps flutterVmInstanceStep
          (fun reached operation => operation.revalidates → ¬ reached.Grants operation)
          ((before ++ [operation]).foldl flutterVmInstanceStep vmInstance) later →
        (next.starts →
          ¬ ((before ++ operation :: later).foldl flutterVmInstanceStep
            vmInstance).Grants next) ∧
          (¬((before.foldl flutterVmInstanceStep vmInstance).artifactQuiescing = true ∧
              (before.foldl flutterVmInstanceStep vmInstance).artifactValid = true) →
            next.crosses →
            ¬ ((before ++ operation :: later).foldl flutterVmInstanceStep
              vmInstance).Grants next) := by
  obtain ⟨hgated, hvalid, hgeneration⟩ := flutterVmInstanceCreate_gated hcreated
  have hquiet : ∀ before : List (FlutterVmOperation registry),
      (before.foldl flutterVmInstanceStep vmInstance).admissionOpen = true →
      (before.foldl flutterVmInstanceStep vmInstance).artifactQuiescing = false :=
    fun before hadmits => gated_quiet (run_gated hgated) hadmits
  refine ⟨fun before _ => hquiet before, fun hholds before hbefore hadmits => ?_,
    fun before operation _ => grants_safely (run_gated hgated) operation, ?_, ?_⟩
  · have hinvariant := along_of_invariant (I := fun reached : FlutterVmInstance registry =>
        reached.artifactQuiescing = false → reached.artifactValid = true)
      (fun _ _ hvalid hholds => valid_step hholds hvalid) hholds (fun _ => hvalid)
    exact hinvariant before hbefore (hquiet before hadmits)
  · intro before operation later hprefix hwithdrawn
    have hcount := hprefix.length_le
    rw [List.length_append, List.length_cons] at hcount
    have hstart : vmInstance.artifactGeneration.toNat = 1 := by rw [hgeneration]; rfl
    have hroom : vmInstance.artifactGeneration.toNat + before.length < 2 ^ 64 := by omega
    obtain ⟨-, hreached⟩ := run_generation hroom
    have hlater := withdrawn_later later hwithdrawn (by omega)
    rw [List.foldl_append]
    exact ⟨hlater, acceptsAfter_of_lt (run_gated (run_gated hgated)) hlater⟩
  · intro before operation later next hprefix hrevalidates hfailed hlater
    obtain ⟨hclosed, hinvalid⟩ := failed_revalidation hrevalidates hfailed
    rw [List.foldl_append, List.foldl_cons, List.foldl_nil] at hlater
    obtain ⟨hrunClosed, hrunInvalid⟩ := run_closed hlater
    have hreached : ((before ++ operation :: later).foldl flutterVmInstanceStep
        vmInstance).Gated := run_gated hgated
    have hsafe := grants_safely hreached next
    rw [List.foldl_append, List.foldl_cons] at hsafe ⊢
    refine ⟨fun hstarts hgrants => ?_, fun hbusy hcrosses hgrants => ?_⟩
    · obtain ⟨hvalid, hquiescing⟩ := hsafe.starts hstarts hgrants
      rcases hrunClosed hclosed with htrue | hfalse
      · rw [hquiescing] at htrue
        cases htrue
      · rw [hvalid] at hfalse
        cases hfalse
    · have hvalid := hsafe.crosses hcrosses hgrants
      rw [hrunInvalid (hinvalid hbusy)] at hvalid
      cases hvalid

end Runs

end Gate

/-! ### A retirement, and an invocation under way -/

def soleSafepoints : SafepointState soleRegistry.Row where
  enterSafepoint := 0x10200
  exitSafepoint := 0x10300
  safepointBindings := [⟨soleRow, 0x10200, 0x10300⟩]

theorem soleAddress_ne : (0xa000 : Address) ≠ nullptr := by decide

def soleInstance : FlutterVmInstance soleRegistry :=
  (flutterVmInstanceCreate soleBinding soleIsolate 0x9000 [libApp, libFlutter] soleSafepoints
    ⟨0xa000, by decide⟩).get rfl

theorem soleInstance_created :
    flutterVmInstanceCreate soleBinding soleIsolate 0x9000 [libApp, libFlutter] soleSafepoints
      ⟨0xa000, by decide⟩ = some soleInstance :=
  (Option.some_get _).symm

/-- A retirement with nothing outstanding, then a FunctionCode proof. -/
def retireThenProve : List (FlutterVmOperation soleRegistry) :=
  [.call (.retireArtifacts .ok 0), .call (proveFunctionCode true)]

theorem artifact_gate_retired :
    soleInstance.artifactGeneration <
        (retireThenProve.foldl flutterVmInstanceStep soleInstance).artifactGeneration ∧
      (retireThenProve.foldl flutterVmInstanceStep soleInstance).AcceptsAfter
        soleInstance.artifactGeneration := by
  have hlength : retireThenProve.length < 2 ^ 64 - 1 := by decide
  have hgate := artifact_gate soleInstance_created hlength
  exact hgate.2.2.2.1 [] _ _ List.prefix_rfl ⟨trivial, by decide, by decide⟩

/-- The roots of an invocation are pinned on the thread of the isolate. -/
def pinSole : FlutterVmOperation soleRegistry :=
  .use 5 (.pinGeneratedRoots false 0xb000 1 .ok 0xc000)

/-- A transition of that invocation, whose thread is in generated state. -/
def crossSole : FlutterVmOperation soleRegistry :=
  .enterGeneratedToNative false 5 (some ⟨48⟩) 0xc000
    { frameThread := 0x9000
      moduleOf := fun _ => some (libApp.path, libApp.loadBias)
      passes := fun _ => true
      confirms := fun _ => true
      admits := fun _ => true
      settled := fun _ => true }

/-- The artifacts are quiescing, and the invocation still crosses into native code. -/
theorem transition_while_quiescing :
    flutterVmInstanceCreate soleBinding soleIsolate 0x9000 [libApp, libFlutter] soleSafepoints
        ⟨0xa000, by decide⟩ = some soleInstance ∧
      ¬ AlongSteps flutterVmInstanceStep
        (fun reached operation => operation.crosses → reached.Grants operation →
          reached.artifactValid = true ∧ reached.artifactQuiescing = false)
        soleInstance [pinSole, .call (.quiesceArtifacts .ok 0), crossSole] := by
  refine ⟨soleInstance_created, fun hgate => ?_⟩
  have hgranted : (([pinSole, .call (.quiesceArtifacts .ok 0)].foldl flutterVmInstanceStep
      soleInstance).perform crossSole).2 = .ok := by decide
  have hcrossed := hgate [pinSole, .call (.quiesceArtifacts .ok 0)] crossSole List.prefix_rfl
    trivial hgranted
  exact absurd hcrossed.2 (by decide)

end DartPlant
