import DartPlant.Vm.ProofCoherence

/-! # Runs in which the proof records stay coherent

A revalidation renews the eager capabilities and their marks; the other operations prove one
capability or withdraw them all.  An operation that keeps the records coherent is one of
`KeepsCoherent`, and a run of such operations from a new adapter has coherent records throughout.
-/

namespace DartPlant
open Runs FlutterVmState CapabilityBindingSet

namespace FlutterVmState
variable {registry : ProfileRegistry} {state after : FlutterVmState registry}
  {capability : VmCapability} {probe : registry.Row → CandidateProbe}

/-! ## Revalidation -/

/-- A revalidation rebinds what is verified to the key of its record. -/
def RebindsInPlace (state : FlutterVmState registry)
    (probe : registry.Row → CandidateProbe) : Prop :=
  state.RootsPass probe → ∀ capability, SingleBit capability →
    state.hasVerifiedCapability capability = true → state.RebindsOnly probe capability →
    (state.selectProbed probe capability).abiDomainKey =
      (state.proofRecords capability).abiDomainKey

/-- What a revalidation that rebinds in place does to a coherent slot. -/
structure SlotRenewal (capability : VmCapability) (state after : FlutterVmState registry) :
    Prop where
  coherent : SlotCoherent capability after
  keyed : ∀ key, (after.slot capability).key = some key → key ≠ ""
  failed : (state.slot capability).failed = true → (after.slot capability).failed = true

theorem slotRenewal_keyed {key : String} (h : state.Coherent) (hsingle : SingleBit capability)
    (hstamp : SameStamp state after) (hkey : key ≠ "")
    (hslot : after.slot capability =
      { (state.slot capability).keyed capability key with key := some key }) :
    SlotRenewal capability state after := by
  have hwas := h.slots capability hsingle
  refine ⟨⟨?_, ?_, fun _ _ => ?_, ?_⟩, fun bound hbound => ?_, ?_⟩
  · rw [hslot]
    exact hwas.exclusive
  · rw [hslot]
    exact hwas.failed
  · rw [hslot]
    rfl
  · rw [hslot, hstamp.generation]
    exact hwas.stamped
  · rw [hslot] at hbound
    exact Option.some.inj hbound ▸ hkey
  · rw [hslot]
    exact id

theorem slotRenewal_rebound {key : String} (h : state.Coherent) (hsingle : SingleBit capability)
    (hstamp : SameStamp state after) (hkey : key ≠ "")
    (hsame : state.hasVerifiedCapability capability = true →
      key = (state.proofRecords capability).abiDomainKey)
    (hslot : after.slot capability = { state.slot capability with key := some key }) :
    SlotRenewal capability state after := by
  have hwas := h.slots capability hsingle
  have hverified : after.hasVerifiedCapability capability =
      state.hasVerifiedCapability capability := by
    rw [hasVerified_slot hsingle, hasVerified_slot hsingle, hslot, hstamp.recordCurrent]
  refine ⟨⟨?_, ?_, fun _ hnow => ?_, ?_⟩, fun bound hbound => ?_, ?_⟩
  · rw [hslot]
    exact hwas.exclusive
  · rw [hslot]
    exact hwas.failed
  · rw [hslot]
    exact congrArg some (hsame (hverified ▸ hnow))
  · rw [hslot, hstamp.generation]
    exact hwas.stamped
  · rw [hslot] at hbound
    exact Option.some.inj hbound ▸ hkey
  · rw [hslot]
    exact id

theorem slotRenewal_kept (h : state.Coherent) (hsingle : SingleBit capability)
    (hstamp : SameStamp state after) (hslot : after.slot capability = state.slot capability) :
    SlotRenewal capability state after := by
  refine ⟨slotCoherent_kept (h.slots capability hsingle) hsingle hstamp hslot, ?_, ?_⟩
  · rw [hslot]
    exact h.keyed capability hsingle
  · rw [hslot]
    exact id

theorem reproveCoreBinding_renewal (h : state.Coherent) (hkeys : state.RebindsInPlace probe)
    (hsingle : SingleBit capability) :
    SlotRenewal capability state (state.reproveCoreBinding probe).1 := by
  have hsame := reproveCoreBinding_same state probe
  have hstamp := hsame.stamp
  have hstep : ReproveStep probe capability state (state.reproveCoreBinding probe).1 :=
    reproveCoreBinding_slots hsingle
  cases hstep with
  | kept hnot hslot => exact slotRenewal_kept h hsingle hstamp hslot
  | rebound hroots hrebinds hslot =>
    obtain ⟨before, after, -, -, -, hpassed⟩ := hrebinds.1
    exact slotRenewal_rebound h hsingle hstamp (select_key_ne hpassed)
      (fun hverified => hkeys hroots capability hsingle hverified hrebinds) hslot
  | renewed heager hrenewed =>
    cases hrenewed with
    | renewed key hkey hslot => exact slotRenewal_keyed h hsingle hstamp hkey hslot
    | withdrawn record hstate hgeneration hslot =>
      refine ⟨slotCoherent_withdrawn hsingle hstate hgeneration hsame.generation hslot, ?_, ?_⟩
      · rw [hslot]
        intro key hkey
        cases hkey
      · rw [hslot]
        exact fun _ => rfl

/-- What is not proved eagerly keeps its mark and its record. -/
theorem reproveCoreBinding_verified (hsingle : SingleBit capability)
    (heager : capability ∉ state.eagerBits) :
    (state.reproveCoreBinding probe).1.hasVerifiedCapability capability =
        state.hasVerifiedCapability capability ∧
      ((state.reproveCoreBinding probe).1.slot capability).failed =
        (state.slot capability).failed := by
  have hstamp := (reproveCoreBinding_same state probe).stamp
  have hverified : ∀ {key : Option String}, (state.reproveCoreBinding probe).1.slot capability =
      { state.slot capability with key } →
      (state.reproveCoreBinding probe).1.hasVerifiedCapability capability =
        state.hasVerifiedCapability capability := by
    intro key hslot
    rw [hasVerified_slot hsingle, hasVerified_slot hsingle, hslot, hstamp.recordCurrent]
  have hstep : ReproveStep probe capability state (state.reproveCoreBinding probe).1 :=
    reproveCoreBinding_slots hsingle
  cases hstep with
  | kept hnot hslot =>
    exact ⟨hasVerified_of_slot hsingle hstamp hslot, congrArg CapabilitySlot.failed hslot⟩
  | rebound hroots hrebinds hslot =>
    exact ⟨hverified hslot, by rw [hslot]⟩
  | renewed hmem hrenewed => exact absurd hmem heager

theorem Coherent.reprove (h : state.Coherent) (hkeys : state.RebindsInPlace probe) :
    (state.reproveCoreBinding probe).1.Coherent ∧
      KeepsFailed state (state.reproveCoreBinding probe).1 := by
  have hslot : ∀ capability, SingleBit capability →
      SlotRenewal capability state (state.reproveCoreBinding probe).1 :=
    fun capability hsingle => reproveCoreBinding_renewal h hkeys hsingle
  refine ⟨⟨fun capability hsingle => (hslot capability hsingle).coherent,
    fun capability hsingle => (hslot capability hsingle).keyed, ?_, ?_⟩,
    fun capability hsingle hfailed _ => (hslot capability hsingle).failed hfailed⟩
  · intro dependent dependency hmem hverified
    obtain ⟨hdependent, hdependency, -, hout, hdependencyOut, -⟩ := dependency_single state hmem
    rw [(reproveCoreBinding_verified hdependent hout).1] at hverified
    rw [(reproveCoreBinding_verified hdependency hdependencyOut).1]
    exact h.dependencies dependent dependency hmem hverified
  · have hout : kCapabilityArtifactLifecycle ∉ state.eagerBits :=
      fun hmem => mem_maskBits_of_and hmem (by decide)
    rw [(reproveCoreBinding_verified ⟨by decide, by decide⟩ hout).2]
    exact h.lifecycle

/-! ### Marks -/

/-- Marking a mask keeps the records coherent where it has the keys for it, withdrew nothing, and is
apart from what depends on anything. -/
theorem Coherent.markVerified (h : state.Coherent) (mask : BitVec 64)
    (hkeyed : ∀ capability, SingleBit capability → mask &&& capability ≠ 0 →
      capabilityDomains capability ≠ 0 →
      (state.slot capability).key = some (state.slot capability).record.abiDomainKey)
    (hhealthy : ∀ capability, SingleBit capability → mask &&& capability ≠ 0 →
      (state.slot capability).failed = false)
    (hapart : ∀ dependent, ∀ dependency ∈ capabilityDependencies dependent,
      mask &&& dependent = 0 ∧ mask &&& dependency = 0) :
    (state.markCapabilityVerified mask).Coherent ∧
      KeepsFailed state (state.markCapabilityVerified mask) := by
  have hstamp : SameStamp state (state.markCapabilityVerified mask) :=
    markCapabilityVerified_same.stamp
  have hslot : ∀ capability, SingleBit capability →
      (mask &&& capability = 0 ∧
          (state.markCapabilityVerified mask).slot capability = state.slot capability) ∨
        (mask &&& capability ≠ 0 ∧ (state.markCapabilityVerified mask).slot capability =
          { state.slot capability with
            verified := true, failed := false
            record := state.stampRecord capability .verified }) := by
    intro capability hsingle
    by_cases hmeets : mask &&& capability = 0
    · exact Or.inl ⟨hmeets, slot_markVerified_ne hmeets⟩
    · exact Or.inr ⟨hmeets, slot_markVerified hsingle hmeets⟩
  have hapartSlot : ∀ capability, SingleBit capability → mask &&& capability = 0 →
      (state.markCapabilityVerified mask).hasVerifiedCapability capability =
        state.hasVerifiedCapability capability := fun capability hsingle hmeets =>
    hasVerified_of_slot hsingle hstamp (slot_markVerified_ne hmeets)
  refine ⟨⟨fun capability hsingle => ?_, fun capability hsingle key hkey => ?_,
    fun dependent dependency hmem hverified => ?_, ?_⟩, fun capability hsingle hfailed _ => ?_⟩
  · rcases hslot capability hsingle with ⟨-, hkept⟩ | ⟨hmeets, hmarked⟩
    · exact slotCoherent_kept (h.slots capability hsingle) hsingle hstamp hkept
    · refine ⟨fun _ => ?_, ?_, fun hdomains _ => ?_, ?_⟩
      · rw [hmarked]
      · rw [hmarked]
        exact iff_of_false Bool.false_ne_true fun hstate => hstate.elim nofun nofun
      · rw [hmarked]
        exact hkeyed capability hsingle hmeets hdomains
      · rw [hmarked, hstamp.generation]
        exact Nat.le_refl _
  · rcases hslot capability hsingle with ⟨-, hkept⟩ | ⟨hmeets, hmarked⟩
    · exact h.keyed capability hsingle key (hkept ▸ hkey)
    · rw [hmarked] at hkey
      exact h.keyed capability hsingle key hkey
  · obtain ⟨hdependent, hdependency, -⟩ := dependency_single state hmem
    obtain ⟨hout, hdependencyOut⟩ := hapart dependent dependency hmem
    rw [hapartSlot dependent hdependent hout] at hverified
    rw [hapartSlot dependency hdependency hdependencyOut]
    exact h.dependencies dependent dependency hmem hverified
  · rcases hslot kCapabilityArtifactLifecycle ⟨by decide, by decide⟩ with
      ⟨-, hkept⟩ | ⟨-, hmarked⟩
    · exact hkept ▸ h.lifecycle
    · rw [hmarked]
  · rcases hslot capability hsingle with ⟨-, hkept⟩ | ⟨hmeets, -⟩
    · rw [hkept]
      exact hfailed
    · rw [hhealthy capability hsingle hmeets] at hfailed
      cases hfailed

theorem mem_eagerBits (hsingle : SingleBit capability) :
    capability ∈ state.eagerBits ↔
      state.capabilities &&& kEagerRuntimeProofMask &&& capability ≠ 0 := by
  rw [BitVec.and_comm state.capabilities]
  exact hsingle.mem_maskBits

/-- A failure that is kept here was there before, and one there is here. -/
theorem KeepsFailed.trans {last : FlutterVmState registry} (h : KeepsFailed state after)
    (h' : KeepsFailed after last)
    (hgeneration : last.artifactGeneration = state.artifactGeneration →
      after.artifactGeneration = state.artifactGeneration) : KeepsFailed state last := by
  intro capability hsingle hfailed hsame
  have hmiddle := hgeneration hsame
  exact h' capability hsingle (h capability hsingle hfailed hmiddle) (hsame.trans hmiddle.symm)

/-- The marks of an adapter whose eager capabilities are bound to the keys of their records and did
not fail. -/
theorem Coherent.markEager (h : state.Coherent)
    (hkeyed : ∀ capability ∈ state.eagerBits,
      (state.slot capability).key = some (state.slot capability).record.abiDomainKey)
    (hhealthy : ∀ capability ∈ state.eagerBits, (state.slot capability).failed = false) :
    state.markEager.Coherent ∧ KeepsFailed state state.markEager := by
  have hlifecycle : SingleBit kCapabilityArtifactLifecycle := ⟨by decide, by decide⟩
  obtain ⟨heager, heagerKeeps⟩ := h.markVerified
    (state.capabilities &&& kEagerRuntimeProofMask)
    (fun capability hsingle hmeets _ => hkeyed capability ((mem_eagerBits hsingle).mpr hmeets))
    (fun capability hsingle hmeets => hhealthy capability ((mem_eagerBits hsingle).mpr hmeets))
    (fun dependent dependency hmem => by
      obtain ⟨hdependent, hdependency, -, hout, hdependencyOut, -⟩ := dependency_single state hmem
      rw [mem_eagerBits hdependent, not_not] at hout
      rw [mem_eagerBits hdependency, not_not] at hdependencyOut
      exact ⟨hout, hdependencyOut⟩)
  have hown : ∀ capability, SingleBit capability → kCapabilityArtifactLifecycle &&& capability ≠ 0 →
      capability = kCapabilityArtifactLifecycle := by
    intro capability hsingle hmeets
    by_contra hne
    exact hmeets (hlifecycle.disjoint hsingle hne)
  obtain ⟨hmarked, hmarkedKeeps⟩ := heager.markVerified kCapabilityArtifactLifecycle
    (fun capability hsingle hmeets hdomains => by
      rw [hown capability hsingle hmeets] at hdomains
      exact absurd (by decide) hdomains)
    (fun capability hsingle hmeets => hown capability hsingle hmeets ▸ heager.lifecycle)
    (fun dependent dependency hmem => by
      obtain ⟨hdependent, hdependency, -, -, -, hne, hdependencyNe⟩ := dependency_single state hmem
      exact ⟨hlifecycle.disjoint hdependent hne.symm,
        hlifecycle.disjoint hdependency hdependencyNe.symm⟩)
  exact ⟨hmarked, heagerKeeps.trans hmarkedKeeps fun _ => rfl⟩

/-- What a revalidation that succeeds makes of the eager capabilities. -/
theorem reproveCoreBinding_eager (hproved : (state.reproveCoreBinding probe).2 = true)
    (hhealthy : ∀ capability ∈ state.eagerBits, (state.slot capability).failed = false)
    (heager : capability ∈ state.eagerBits) :
    ((state.reproveCoreBinding probe).1.slot capability).key =
        some ((state.reproveCoreBinding probe).1.slot capability).record.abiDomainKey ∧
      ((state.reproveCoreBinding probe).1.slot capability).failed = false := by
  have hsingle : SingleBit capability := mem_maskBits_single heager
  obtain ⟨hroots, hrenews⟩ := renewsEager_of_proved hproved heager
  have hfailed : ((state.reproveCoreBinding probe).1.slot capability).failed = false := by
    show ((state.reproveCoreBinding probe).1.failedCapabilities &&& capability != 0) = false
    rw [reproveCoreBinding_marks hproved]
    exact hhealthy capability heager
  have hstep : ReproveStep probe capability state (state.reproveCoreBinding probe).1 :=
    reproveCoreBinding_slots hsingle
  cases hstep with
  | kept hnot hslot => exact absurd ⟨hroots, hrenews⟩ hnot
  | rebound _ hrebinds hslot => exact absurd hrenews hrebinds.2
  | renewed _ hrenewed =>
    cases hrenewed with
    | renewed key hkey hslot =>
      refine ⟨?_, hfailed⟩
      rw [hslot]
      rfl
    | withdrawn record hstate hgeneration hslot =>
      rw [hslot] at hfailed
      cases hfailed

/-- What a proof of a capability leaves: the state it found, or the one its evidence leads to. -/
theorem proveCapability_state (state : FlutterVmState registry)
    (isolate : DartPlantIsolateIdentity) (evidence : DartPlantVmCapabilityEvidence)
    (reading : EvidenceReading registry.Row) :
    (state.proveCapability isolate evidence reading).1 = state ∨
      (reading.contended = false ∧ state.artifactQuiescing = false ∧ state.artifactValid = true ∧
        state.validateCurrentOwner reading.ownerCurrent = true ∧
        (state.proveCapability isolate evidence reading).1 =
          (state.proveEvidence evidence reading).1) := by
  unfold proveCapability
  split
  · exact Or.inl rfl
  split
  · exact Or.inl rfl
  next hidle =>
    split
    · exact Or.inl rfl
    next hvalid =>
      split
      · exact Or.inl rfl
      next howner =>
        simp only [not_or, Bool.not_eq_true, Bool.not_eq_false] at hidle hvalid howner
        refine Or.inr ⟨hidle.1, hidle.2, hvalid, howner, ?_⟩
        split
        next heq => rw [heq]
        next heq => rw [heq]

end FlutterVmState

/-! ## One operation -/

section Operations
variable {registry : ProfileRegistry} {vm : FlutterVm registry}
  {vmInstance : FlutterVmInstance registry}

/-- The records stay coherent, and within the incarnation what failed stays failed. -/
def StaysCoherent (state after : FlutterVmState registry) : Prop :=
  after.Coherent ∧ KeepsFailed state after

/-- A proof that reaches the rows does not verify what failed, and where its evidence does not hold
nothing verified depends on it.  A revalidation that gets to the core binding rebinds in place, and
one that succeeds finds that no eager capability failed. -/
def KeepsCoherent (vmInstance : FlutterVmInstance registry) : FlutterVmOperation registry → Prop
  | .call (.proveCapability contended thread evidence reading) =>
    let state := vmInstance.vm.state
    ProofReached vmInstance.vm contended thread evidence reading → state.artifactValid = true →
      state.artifactQuiescing = false →
      (state.EvidenceHolds evidence.kind reading →
          state.hasFailedCapability evidence.kind.capability = false) ∧
        (¬ state.EvidenceHolds evidence.kind reading → ∀ dependent,
          evidence.kind.capability ∈ capabilityDependencies dependent →
          state.hasVerifiedCapability dependent = false)
  | .call (.revalidateArtifacts modules probe) =>
    let state := vmInstance.vm.state
    state.abiCandidates.profiles ≠ [] →
      ¬(state.artifactQuiescing = true ∧ state.artifactValid = true) →
      (state.validateArtifactLifecycle modules).artifactValid = true →
      state.RebindsInPlace probe ∧
        (state.Reprovable probe → ∀ capability ∈ state.eagerBits,
          state.hasFailedCapability capability = false)
  | _ => True

theorem staysCoherent_refl {state : FlutterVmState registry} (h : state.Coherent) :
    StaysCoherent state state := ⟨h, fun _ _ hfailed _ => hfailed⟩

/-- Only the marks of the artifacts change. -/
theorem staysCoherent_marks {state : FlutterVmState registry} (h : state.Coherent)
    (valid quiescing : Bool) :
    StaysCoherent state { state with artifactValid := valid, artifactQuiescing := quiescing } :=
  h.of_slots ⟨rfl, rfl, rfl⟩ fun _ _ => rfl

theorem proveCapability_coherent (h : vm.state.Coherent) {contended : Bool} {thread : ThreadId}
    {evidence : DartPlantVmCapabilityEvidence} {reading : EvidenceReading registry.Row}
    (hkeeps : ProofReached vm contended thread evidence reading →
      vm.state.artifactValid = true → vm.state.artifactQuiescing = false →
      (vm.state.EvidenceHolds evidence.kind reading →
          vm.state.hasFailedCapability evidence.kind.capability = false) ∧
        (¬ vm.state.EvidenceHolds evidence.kind reading → ∀ dependent,
          evidence.kind.capability ∈ capabilityDependencies dependent →
          vm.state.hasVerifiedCapability dependent = false)) :
    StaysCoherent vm.state (vm.proveCapability contended thread evidence reading).state := by
  have hproof : (vm.adapter.beginProof contended thread).2 = .ok () →
      StaysCoherent vm.state
        (vm.state.proveCapability vm.adapter.isolate evidence reading).1 := by
    intro hbegun
    rcases proveCapability_state vm.state vm.adapter.isolate evidence reading with
      hkept | ⟨hidle, hquiescing, hvalid, howner, hproved⟩
    · rw [hkept]
      exact staysCoherent_refl h
    · rw [hproved]
      exact h.ofEvidence fun hreceipt => hkeeps ⟨hbegun, hidle, howner, hreceipt⟩ hvalid hquiescing
  unfold FlutterVm.proveCapability
  split
  next hbegun =>
    have hstate := hproof (by rw [hbegun])
    split
    next heq =>
      rw [heq] at hstate
      exact hstate
    next heq =>
      rw [heq] at hstate
      exact hstate
  · exact staysCoherent_refl h

/-- A withdrawal, by an operation that also marks the artifacts as quiescing. -/
theorem invalidate_coherent {state : FlutterVmState registry} (h : state.Coherent)
    (hroom : state.artifactGeneration.toNat + 1 < 2 ^ 64) :
    StaysCoherent state { state with artifactQuiescing := true }.invalidateArtifactBinding := by
  have hmarked := (staysCoherent_marks h state.artifactValid true).1
  exact hmarked.invalidate hroom

theorem retireArtifacts_coherent (h : vm.state.Coherent)
    (hroom : vm.state.artifactGeneration.toNat + 1 < 2 ^ 64) (drained : DartPlantStatus)
    (hookRefs : BitVec 64) :
    StaysCoherent vm.state (vm.retireArtifacts drained hookRefs).state := by
  have hquiesced : StaysCoherent vm.state (vm.quiesceArtifacts drained hookRefs).1.state :=
    staysCoherent_marks h vm.state.artifactValid true
  unfold FlutterVm.retireArtifacts
  split
  next quiesced _ heq =>
    rw [heq] at hquiesced
    split
    · exact hquiesced
    · obtain rfl : (vm.quiesceArtifacts drained hookRefs).1 = quiesced := congrArg Prod.fst heq
      exact invalidate_coherent h hroom
  next quiesced _ _ heq =>
    rw [heq] at hquiesced
    exact hquiesced

theorem StaysCoherent.trans {state middle last : FlutterVmState registry}
    (h : StaysCoherent state middle) (h' : StaysCoherent middle last)
    (hgeneration : middle.artifactGeneration = state.artifactGeneration) :
    StaysCoherent state last := ⟨h'.1, h.2.trans h'.2 fun _ => hgeneration⟩

/-- Proving the core binding again, and the marks where that succeeds. -/
theorem reprove_coherent {state : FlutterVmState registry} {probe : registry.Row → CandidateProbe}
    (h : state.Coherent) (hkeys : state.RebindsInPlace probe)
    (hhealthy : state.Reprovable probe → ∀ capability ∈ state.eagerBits,
      state.hasFailedCapability capability = false) :
    StaysCoherent state (state.reproveCoreBinding probe).1 ∧
      ((state.reproveCoreBinding probe).2 = true →
        StaysCoherent state (state.reproveCoreBinding probe).1.markEager) := by
  have hreproved : StaysCoherent state (state.reproveCoreBinding probe).1 := h.reprove hkeys
  have hsame := reproveCoreBinding_same state probe
  refine ⟨hreproved, fun hproved => ?_⟩
  have heager : ∀ capability ∈ (state.reproveCoreBinding probe).1.eagerBits,
      ((state.reproveCoreBinding probe).1.slot capability).key =
          some ((state.reproveCoreBinding probe).1.slot capability).record.abiDomainKey ∧
        ((state.reproveCoreBinding probe).1.slot capability).failed = false := by
    intro capability hmem
    rw [eagerBits, hsame.capabilities] at hmem
    exact reproveCoreBinding_eager hproved (hhealthy (reproveCoreBinding_iff.mp hproved)) hmem
  exact hreproved.trans (hreproved.1.markEager (fun capability hmem => (heager capability hmem).1)
    fun capability hmem => (heager capability hmem).2) hsame.generation

theorem revalidateArtifacts_coherent (h : vm.state.Coherent) {modules : List ModuleImage}
    {probe : registry.Row → CandidateProbe}
    (hkeeps : vm.state.abiCandidates.profiles ≠ [] →
      ¬(vm.state.artifactQuiescing = true ∧ vm.state.artifactValid = true) →
      (vm.state.validateArtifactLifecycle modules).artifactValid = true →
      vm.state.RebindsInPlace probe ∧
        (vm.state.Reprovable probe → ∀ capability ∈ vm.state.eagerBits,
          vm.state.hasFailedCapability capability = false)) :
    StaysCoherent vm.state (vm.revalidateArtifacts modules probe).state := by
  unfold FlutterVm.revalidateArtifacts
  split
  · exact staysCoherent_marks h false vm.state.artifactQuiescing
  next hcandidates =>
    split
    · exact staysCoherent_refl h
    next hbusy =>
      have hvalidated : StaysCoherent vm.state (vm.state.validateArtifactLifecycle modules) :=
        h.of_slots ⟨rfl, rfl, rfl⟩ fun _ _ => rfl
      dsimp only
      split
      · exact hvalidated
      next hmapped =>
        obtain ⟨hkeys, hhealthy⟩ := hkeeps hcandidates hbusy (Bool.eq_true_of_not_eq_false hmapped)
        obtain ⟨hreproved, hmarked⟩ := reprove_coherent hvalidated.1 hkeys fun hreprovable =>
          hhealthy ⟨hreprovable.roots, hreprovable.entries, hreprovable.structural,
            hreprovable.eager⟩
        have hgeneration : ((vm.state.validateArtifactLifecycle modules).reproveCoreBinding
            probe).1.artifactGeneration = vm.state.artifactGeneration :=
          (reproveCoreBinding_same (vm.state.validateArtifactLifecycle modules) probe).generation
        split
        · exact (hvalidated.trans hreproved rfl).trans
            (hreproved.1.of_slots ⟨rfl, rfl, rfl⟩ fun _ _ => rfl) hgeneration
        next hproved =>
          have hmarked := hmarked (Bool.eq_true_of_not_eq_false hproved)
          exact (hvalidated.trans hmarked rfl).trans
            (hmarked.1.of_slots ⟨rfl, rfl, rfl⟩ fun _ _ => rfl) hgeneration

/-- What a request leaves coherent. -/
theorem ask_coherent {α : Type} {request : DartPlantStatus → DartPlantVmAdapter.Step α}
    {answer : FlutterVmState registry × SafepointState registry.Row × DartPlantStatus}
    (h : vmInstance.vm.state.Coherent) (hpasses : PassesOn vmInstance.vm.adapter request)
    (hanswer : StaysCoherent vmInstance.vm.state answer.1) :
    StaysCoherent vmInstance.vm.state (vmInstance.ask request answer).1.vm.state := by
  obtain ⟨-, hstate | hstate⟩ := ask_spec answer hpasses
  · rw [hstate]
    exact staysCoherent_refl h
  · rw [hstate]
    exact hanswer

theorem coherent_perform (h : vmInstance.vm.state.Coherent)
    (operation : FlutterVmOperation registry)
    (hroom : vmInstance.artifactGeneration.toNat + 1 < 2 ^ 64)
    (hkeeps : KeepsCoherent vmInstance operation) :
    StaysCoherent vmInstance.vm.state
      (flutterVmInstanceStep vmInstance operation).vm.state := by
  cases operation with
  | call call =>
    cases call with
    | proveCapability contended thread evidence reading => exact proveCapability_coherent h hkeeps
    | invalidateArtifacts => exact invalidate_coherent h hroom
    | quiesceArtifacts drained hookRefs =>
      exact staysCoherent_marks h vmInstance.vm.state.artifactValid true
    | retireArtifacts drained hookRefs => exact retireArtifacts_coherent h hroom drained hookRefs
    | revalidateArtifacts modules probe => exact revalidateArtifacts_coherent h hkeeps
  | use thread use => exact staysCoherent_refl h
  | enterGeneratedToNative contended thread frame rootLease reading =>
    exact ask_coherent h (enterGeneratedToNative_passes contended)
      (h.transition enterGeneratedToNative_slots)
  | leaveNativeToGenerated thread frame rootLease reading =>
    exact ask_coherent h leaveNativeToGenerated_passes (h.transition leaveNativeToGenerated_slots)
  | beginLiveHeapObservation thread vmThread reading =>
    exact ask_coherent h beginLiveHeapObservation_passes (staysCoherent_refl h)
  | endLiveHeapObservation thread lease =>
    exact ask_coherent h endLiveHeapObservation_passes (staysCoherent_refl h)
  | readActiveObject thread reading raw =>
    exact ask_coherent h readActiveObject_passes (h.exception readActiveException_slots)
  | readTypeArgumentsElement contended thread reading raw =>
    exact ask_coherent h (readTypeArgumentsElement_passes contended)
      (h.typeArguments readTypeArgumentsElement_slots)

/-! ## Every run -/

/-- A run of operations that keep the records coherent does, and what failed before it stays failed
while the generation does. -/
theorem run_coherent {operations : List (FlutterVmOperation registry)}
    (h : vmInstance.vm.state.Coherent)
    (hroom : vmInstance.artifactGeneration.toNat + operations.length < 2 ^ 64)
    (hkeeps : AlongSteps flutterVmInstanceStep KeepsCoherent vmInstance operations) :
    StaysCoherent vmInstance.vm.state
      (operations.foldl flutterVmInstanceStep vmInstance).vm.state := by
  induction operations generalizing vmInstance with
  | nil => exact staysCoherent_refl h
  | cons operation operations ih =>
    rw [List.length_cons] at hroom
    obtain ⟨hfirst, hrest⟩ := alongSteps_cons.mp hkeeps
    have hstep := coherent_perform h operation (by omega) hfirst
    obtain ⟨hmono, hnext⟩ := step_generation vmInstance operation (by omega)
    have hroomRest : (flutterVmInstanceStep vmInstance operation).artifactGeneration.toNat +
        operations.length < 2 ^ 64 := by omega
    obtain ⟨hcoherent, hkept⟩ := ih hstep.1 hroomRest hrest
    obtain ⟨hlow, -⟩ := run_generation hroomRest
    rw [List.foldl_cons]
    refine ⟨hcoherent, hstep.2.trans hkept fun hsame => ?_⟩
    -- The generation only grows, so it did not move on the first step either.
    have hend : ((operations.foldl flutterVmInstanceStep
        (flutterVmInstanceStep vmInstance operation)).artifactGeneration).toNat =
          vmInstance.artifactGeneration.toNat := congrArg BitVec.toNat hsame
    exact BitVec.eq_of_toNat_eq (Nat.le_antisymm (hend ▸ hlow) hmono)

end Operations

/-! ## Creation -/

/-- The bindings of `ResolveVerifiedBinding`, each of a capability that selects one ABI among the
rows it is available on. -/
def resolveBindings (registry : ProfileRegistry) (candidates : AbiCandidateSet registry.Row)
    (compatible : VmCapability → List Bool) : CapabilityBindingSet registry.Row :=
  capabilityRegistry.foldl
    (fun bindings capability =>
      if capability = kCapabilityArtifactLifecycle ∨
          capability = kCapabilityDeferredLoadingUnitLayout then bindings
      else (bindings.bindSelection capability (selectCapabilityAbiSet registry.rowAbiKey candidates
        capability (compatible capability))).getD bindings) []

/-- The binding is one that the resolver returns. -/
def VerifiedBinding.Resolved {registry : ProfileRegistry} (binding : VerifiedBinding registry) :
    Prop :=
  ∃ compatible, binding.capabilityBindings =
    resolveBindings registry binding.candidates compatible

section Creation
variable {registry : ProfileRegistry} {state : FlutterVmState registry}
  {capability : VmCapability}

/-- No binding of the set is without a key. -/
def SetKeyed (bindings : CapabilityBindingSet registry.Row) : Prop :=
  ∀ capability binding, bindings.findBinding capability = some binding →
    binding.abiDomainKey ≠ ""

theorem setKeyed_bind {bindings bound : CapabilityBindingSet registry.Row}
    {candidates : AbiCandidateSet registry.Row} {compatible : List Bool} (h : SetKeyed bindings)
    (hbound : bindings.bindSelection capability (selectCapabilityAbiSet registry.rowAbiKey
      candidates capability compatible) = some bound) : SetKeyed bound := by
  intro other binding hfind
  obtain ⟨hpassed, -, hothers⟩ := bindSelection_spec hbound
  by_cases hsame : other = capability
  · subst hsame
    obtain ⟨selected, hselected, hkey⟩ := bindSelection_key hbound
    rw [hselected] at hfind
    obtain rfl := Option.some.inj hfind
    rw [hkey]
    exact select_key_ne hpassed
  · rw [hothers other hsame] at hfind
    exact h other binding hfind

theorem resolveBindings_keyed (candidates : AbiCandidateSet registry.Row)
    (compatible : VmCapability → List Bool) :
    SetKeyed (resolveBindings registry candidates compatible) := by
  unfold resolveBindings
  refine List.foldlRecOn capabilityRegistry _ (motive := SetKeyed) ?_ ?_
  · intro capability binding hfind
    cases hfind
  · intro bindings h capability _
    split
    · exact h
    · cases hbound : bindings.bindSelection capability (selectCapabilityAbiSet registry.rowAbiKey
          candidates capability (compatible capability)) with
      | none => exact h
      | some bound => exact setKeyed_bind h hbound

/-- Nothing is proven yet, and nothing failed. -/
structure Unproven (state : FlutterVmState registry) : Prop where
  failed : state.failedCapabilities = kCapabilityNone
  records : ∀ capability, (state.proofRecords capability).state = .unavailable ∨
    (state.proofRecords capability).state = .unverified
  stamped : ∀ capability, (state.proofRecords capability).artifactGeneration.toNat ≤
    state.artifactGeneration.toNat
  keyed : SetKeyed state.capabilityBindings

theorem Unproven.not_verified (h : Unproven state) (hsingle : SingleBit capability) :
    state.hasVerifiedCapability capability = false := by
  rw [hasVerified_slot hsingle, Bool.and_eq_false_iff]
  refine Or.inr (Bool.eq_false_of_not_eq_true fun hcurrent => ?_)
  simp only [recordCurrent, Bool.and_eq_true, beq_iff_eq] at hcurrent
  have hstate : (state.proofRecords capability).state = .verified := hcurrent.1.1.1.1.2
  have hrecord := h.records capability
  rw [hstate] at hrecord
  rcases hrecord with hrecord | hrecord
  · cases hrecord
  · cases hrecord

theorem Unproven.slot_failed (h : Unproven state) : (state.slot capability).failed = false := by
  have hzero : kCapabilityNone &&& capability = 0 := BitVec.zero_and
  show (state.failedCapabilities &&& capability != 0) = false
  rw [h.failed, hzero]
  rfl

theorem Unproven.coherent (h : Unproven state) : state.Coherent where
  slots := by
    intro capability hsingle
    refine ⟨fun _ => h.slot_failed, ?_, fun _ hverified => ?_, h.stamped capability⟩
    · rw [h.slot_failed]
      refine iff_of_false Bool.false_ne_true fun hstate => ?_
      have hrecord := h.records capability
      rcases hstate with hstate | hstate
      · rw [show (state.proofRecords capability).state = _ from hstate] at hrecord
        exact hrecord.elim nofun nofun
      · rw [show (state.proofRecords capability).state = _ from hstate] at hrecord
        exact hrecord.elim nofun nofun
    · rw [h.not_verified hsingle] at hverified
      cases hverified
  keyed := by
    intro capability _ key hkey
    obtain ⟨binding, hfind, rfl⟩ := Option.map_eq_some_iff.mp hkey
    exact h.keyed capability binding hfind
  dependencies := by
    intro dependent dependency hmem hverified
    obtain ⟨hdependent, -⟩ := dependency_single state hmem
    rw [h.not_verified hdependent] at hverified
    cases hverified
  lifecycle := h.slot_failed

theorem Unproven.recordUnverified (h : Unproven state) : Unproven state.recordUnverified where
  failed := h.failed
  records := by
    intro other
    unfold FlutterVmState.recordUnverified
    dsimp only
    split
    · exact Or.inr rfl
    · exact h.records other
  stamped := by
    intro other
    unfold FlutterVmState.recordUnverified
    dsimp only
    split
    · exact Nat.le_refl _
    · exact h.stamped other
  keyed := h.keyed

theorem Unproven.setKey (h : Unproven state) (key : String) :
    Unproven (state.setProofRecordKey capability key) where
  failed := h.failed
  records := by
    intro other
    unfold setProofRecordKey
    dsimp only
    split
    · exact h.records other
    · exact h.records other
  stamped := by
    intro other
    unfold setProofRecordKey
    dsimp only
    split
    · exact h.stamped other
    · exact h.stamped other
  keyed := h.keyed

/-- The record has the key that is bound. -/
def KeyAgrees (state : FlutterVmState registry) (capability : VmCapability) : Prop :=
  (state.slot capability).key = some (state.slot capability).record.abiDomainKey

theorem keyAgrees_setKey {bit : VmCapability} {binding : CapabilityBinding registry.Row}
    (hfind : state.capabilityBindings.findBinding bit = some binding) :
    KeyAgrees (state.setProofRecordKey bit binding.abiDomainKey) bit ∧
      ∀ other, KeyAgrees state other →
        KeyAgrees (state.setProofRecordKey bit binding.abiDomainKey) other := by
  have hset : KeyAgrees (state.setProofRecordKey bit binding.abiDomainKey) bit := by
    unfold KeyAgrees
    rw [slot_setKey]
    simp only [CapabilitySlot.keyed, slot, hfind, Option.map_some]
  refine ⟨hset, fun other hother => ?_⟩
  by_cases hsame : other = bit
  · exact hsame ▸ hset
  · unfold KeyAgrees
    rw [slot_setKey_ne hsame]
    exact hother

/-- The eager proofs of a new adapter take the keys that are bound. -/
theorem establishEager_create {bits : List VmCapability} (h : Unproven state)
    (hestablished : (establishEager none bits state).2 = true) :
    Unproven (establishEager none bits state).1 ∧
      (∀ bit ∈ bits, KeyAgrees (establishEager none bits state).1 bit) ∧
      ∀ other, KeyAgrees state other → KeyAgrees (establishEager none bits state).1 other := by
  induction bits generalizing state with
  | nil => exact ⟨h, fun _ hmem => absurd hmem List.not_mem_nil, fun _ hother => hother⟩
  | cons bit bits ih =>
    rw [establishEager] at hestablished ⊢
    split at hestablished
    · cases hestablished
    next binding hfind =>
      rw [setProofRecordDomains_eq (h.keyed bit binding hfind)] at hestablished ⊢
      obtain ⟨hunproven, hbits, hkept⟩ := ih (h.setKey binding.abiDomainKey) hestablished
      obtain ⟨hset, hothers⟩ := keyAgrees_setKey hfind
      refine ⟨hunproven, List.forall_mem_cons.mpr ⟨hkept bit hset, hbits⟩, fun other hother => ?_⟩
      exact hkept other (hothers other hother)

theorem establishEagerCapabilityProofs_create (h : Unproven state)
    (hestablished : (state.establishEagerCapabilityProofs none).2 = true) :
    (state.establishEagerCapabilityProofs none).1.markEager.Coherent := by
  have hsame : SameIncarnation state (state.establishEagerCapabilityProofs none).1 :=
    establishEagerCapabilityProofs_same
  have heager : (state.establishEagerCapabilityProofs none).1.eagerBits = state.eagerBits := by
    rw [eagerBits, hsame.capabilities, eagerBits]
  have hunfold : state.establishEagerCapabilityProofs none =
      establishEager none state.eagerBits
        { state with
          rootCompatibleCandidates := state.abiCandidates.profiles.map fun _ => true } :=
    if_neg (not_not.mpr (List.length_map _))
  have hrooted : Unproven
      { state with
        rootCompatibleCandidates := state.abiCandidates.profiles.map fun _ => true } :=
    ⟨h.failed, h.records, h.stamped, h.keyed⟩
  rw [hunfold] at hestablished
  obtain ⟨hunproven, hkeyed, -⟩ := establishEager_create hrooted hestablished
  rw [← hunfold] at hunproven hkeyed
  refine (hunproven.coherent.markEager (fun capability hmem => ?_)
    fun capability _ => hunproven.slot_failed).1
  rw [heager] at hmem
  exact hkeyed capability hmem

theorem flutterVmAdapterCreate_coherent {vm : FlutterVm registry}
    {binding : VerifiedBinding registry} {identity : DartPlantIsolateIdentity} {thread : BitVec 64}
    {modules : List ModuleImage} (hresolved : binding.Resolved)
    (hcreated : flutterVmAdapterCreate binding identity thread modules = some vm) :
    vm.state.Coherent := by
  obtain ⟨compatible, hbindings⟩ := hresolved
  have hkeyed : SetKeyed binding.capabilityBindings := by
    rw [hbindings]
    exact resolveBindings_keyed binding.candidates compatible
  unfold flutterVmAdapterCreate at hcreated
  dsimp only at hcreated
  split at hcreated
  · cases hcreated
  split at hcreated
  · cases hcreated
  next established hestablished =>
    have hmarked := establishEagerCapabilityProofs_create (Unproven.recordUnverified
      ⟨rfl, fun _ => Or.inl rfl, fun _ => Nat.zero_le _, hkeyed⟩) (congrArg Prod.snd hestablished)
    rw [hestablished] at hmarked
    split at hcreated
    next adapter hadapter =>
      split at hcreated
      next attached hattached =>
        obtain rfl := Option.some.inj hcreated
        exact hmarked
      · cases hcreated
    · cases hcreated

end Creation

/-- Whatever the operations, as long as no proof that fails has a verified capability depending on
it, no proof verifies what failed, and revalidations rebind in place and renew nothing that failed:
the proof records are coherent and closed under dependencies throughout, and a capability that
failed is not verified again in the same incarnation. -/
theorem proofs_coherent {registry : ProfileRegistry} {vmInstance : FlutterVmInstance registry}
    {binding : VerifiedBinding registry} {identity : DartPlantIsolateIdentity} {thread : BitVec 64}
    {modules : List ModuleImage} {safepoints : SafepointState registry.Row}
    {address : { address : Address // address ≠ nullptr }}
    {operations : List (FlutterVmOperation registry)} (hresolved : binding.Resolved)
    (hcreated : flutterVmInstanceCreate binding identity thread modules safepoints address =
      some vmInstance)
    (hlength : operations.length < 2 ^ 64 - 1)
    (hkeeps : AlongSteps flutterVmInstanceStep KeepsCoherent vmInstance operations) :
    Along flutterVmInstanceStep (fun reached => reached.vm.state.ProofsCoherent) vmInstance
        operations ∧
      ∀ before later, before ++ later <+: operations → ∀ capability, SingleBit capability →
        ((before ++ later).foldl flutterVmInstanceStep vmInstance).artifactGeneration =
          (before.foldl flutterVmInstanceStep vmInstance).artifactGeneration →
        (before.foldl flutterVmInstanceStep vmInstance).vm.state.hasFailedCapability capability =
          true →
        ((before ++ later).foldl flutterVmInstanceStep vmInstance).vm.state.hasVerifiedCapability
          capability = false := by
  obtain ⟨vm, hvm, hinstance⟩ := Option.map_eq_some_iff.mp hcreated
  have hstart : vmInstance.vm.state.Coherent := by
    rw [← hinstance]
    exact flutterVmAdapterCreate_coherent hresolved hvm
  obtain ⟨-, -, hgeneration⟩ := flutterVmInstanceCreate_gated hcreated
  have hone : vmInstance.artifactGeneration.toNat = 1 := by rw [hgeneration]; rfl
  have hreached : ∀ before, before <+: operations →
      StaysCoherent vmInstance.vm.state
        (before.foldl flutterVmInstanceStep vmInstance).vm.state := by
    intro before hbefore
    have hcount := hbefore.length_le
    exact run_coherent hstart (by omega) (hkeeps.of_prefix hbefore)
  refine ⟨fun before hbefore => (hreached before hbefore).1.proofsCoherent, ?_⟩
  intro before later hprefix capability hsingle hsame hfailed
  have hbefore : before <+: operations := (List.prefix_append before later).trans hprefix
  have hcount := hprefix.length_le
  rw [List.length_append] at hcount
  have hroom : vmInstance.artifactGeneration.toNat + before.length < 2 ^ 64 := by omega
  obtain ⟨-, hhigh⟩ := run_generation hroom
  have hlater := run_coherent (hreached before hbefore).1 (by omega) (hkeeps.after hprefix)
  rw [List.foldl_append] at hsame ⊢
  have hstill := hlater.2 capability hsingle hfailed hsame
  refine not_verified_of_slot hsingle (Bool.eq_false_of_not_eq_true fun hverified => ?_)
  rw [(hlater.1.slots capability hsingle).exclusive hverified] at hstill
  cases hstill

/-! ### A proof, what depends on it, and its withdrawal -/

/-- What the resolver returns for a process in which the row is available on everything but deferred
loading units. -/
def resolvedBinding : VerifiedBinding soleRegistry where
  candidates := ⟨[soleRow], some soleRow⟩
  capabilityBindings := resolveBindings soleRegistry ⟨[soleRow], some soleRow⟩ fun _ => [true]
  capabilityMask := 0x5ffff
  artifacts := ⟨libApp.incarnation, [libFlutter.incarnation]⟩

theorem resolvedBinding_resolved : resolvedBinding.Resolved := ⟨fun _ => [true], rfl⟩

def resolvedInstance : FlutterVmInstance soleRegistry :=
  (flutterVmInstanceCreate resolvedBinding soleIsolate 0x9000 [libApp, libFlutter] soleSafepoints
    ⟨0xa000, soleAddress_ne⟩).get rfl

theorem resolvedInstance_created :
    flutterVmInstanceCreate resolvedBinding soleIsolate 0x9000 [libApp, libFlutter] soleSafepoints
      ⟨0xa000, by decide⟩ = some resolvedInstance :=
  (Option.some_get _).symm

/-- An AotEntry proof on the thread of the isolate, under which the row passes. -/
def proveAotEntry : FlutterVmCall soleRegistry :=
  .proveCapability false 5 ⟨.aotEntry, false, false, 0x7100, 0x7200, 0x10100, 0⟩
    ⟨false, true, fun _ => true, fun _ => nullptr, []⟩

/-- FunctionCode, then AotEntry. -/
def proveEntry : List (FlutterVmOperation soleRegistry) :=
  [.call (proveFunctionCode true), .call proveAotEntry]

theorem function_code_dependent {dependent : VmCapability}
    (h : kCapabilityFunctionCodeLayout ∈ capabilityDependencies dependent) :
    dependent = kCapabilityAotEntryLayout := by
  unfold capabilityDependencies at h
  split at h
  next haot => exact haot
  · split at h
    · exact absurd h (by decide)
    · exact absurd h List.not_mem_nil

/-- What is depended on depends on nothing. -/
theorem dependency_flat {dependent dependency : VmCapability}
    (h : dependency ∈ capabilityDependencies dependent) :
    capabilityDependencies dependency = [] := by
  obtain ⟨kind, rfl⟩ := dependency_kind h
  unfold capabilityDependencies at h
  split at h
  · rw [List.mem_singleton.mp h]
    decide
  · split at h
    · simp only [List.mem_cons, List.not_mem_nil, or_false] at h
      rcases h with heq | heq | heq
      · rw [heq]
        decide
      · rw [heq]
        decide
      · rw [heq]
        decide
    · exact absurd h List.not_mem_nil

/-- Both are verified, and the records are coherent. -/
theorem proofs_coherent_entry :
    (proveEntry.foldl flutterVmInstanceStep resolvedInstance).vm.state.ProofsCoherent ∧
      (proveEntry.foldl flutterVmInstanceStep resolvedInstance).vm.state.hasVerifiedCapability
        kCapabilityAotEntryLayout = true := by
  have hkeeps : AlongSteps flutterVmInstanceStep KeepsCoherent resolvedInstance proveEntry := by
    refine alongSteps_cons.mpr ⟨fun _ _ _ => ⟨fun _ => by decide, fun _ dependent hmem => ?_⟩,
      alongSteps_cons.mpr ⟨fun _ _ _ => ⟨fun _ => by decide, fun _ dependent hmem => ?_⟩,
        alongSteps_nil⟩⟩
    · rw [function_code_dependent hmem]
      decide
    · exact absurd (dependency_flat hmem) (by decide)
  exact ⟨(proofs_coherent resolvedBinding_resolved resolvedInstance_created (by decide)
    hkeeps).1 proveEntry List.prefix_rfl, by decide⟩

/-- FunctionCode fails after AotEntry was proven on it, and AotEntry stays verified. -/
theorem aot_entry_outlives_function_code :
    flutterVmInstanceCreate resolvedBinding soleIsolate 0x9000 [libApp, libFlutter] soleSafepoints
        ⟨0xa000, by decide⟩ = some resolvedInstance ∧
      ¬ Along flutterVmInstanceStep (fun reached => reached.vm.state.ProofsCoherent)
        resolvedInstance (proveEntry ++ [.call (proveFunctionCode false)]) := by
  refine ⟨resolvedInstance_created, fun hcoherent => ?_⟩
  have hreached := hcoherent _ List.prefix_rfl
  have hclosed := hreached.dependencies kCapabilityAotEntryLayout kCapabilityFunctionCodeLayout
    (by decide) (by decide)
  exact absurd hclosed (by decide)

end DartPlant
