import DartPlant.Vm.FlutterVmOperations

/-! # What the backend holds about one capability

Two bits, a proof record and a binding: the slot of the capability.  Every operation of the backend
is said here as what it does to slots.  A proof leaves every slot but its own, and leaves its own as
it was, withdrawn, or committed to a key that the record and the binding share.
-/

namespace DartPlant
open CapabilityBindingSet List

/-! ## Single bits -/

section Bits
variable {mask capability : BitVec 64}

section
variable (h : SingleBit capability)
include h

theorem SingleBit.shift : ∃ index, index < 64 ∧ capability = (1 : BitVec 64) <<< index := by
  have hmem : capability ∈ maskBits capability := by
    rw [h.1]
    exact mem_singleton_self _
  obtain ⟨index, hindex, hshift⟩ := mem_map.mp (mem_filter.mp hmem).1
  exact ⟨index, mem_range.mp hindex, hshift.symm⟩

theorem SingleBit.mem_maskBits : capability ∈ maskBits mask ↔ mask &&& capability ≠ 0 := by
  obtain ⟨index, hindex, hshift⟩ := h.shift
  rw [maskBits, mem_filter, bne_iff_ne]
  refine and_iff_right ?_
  exact mem_map.mpr ⟨index, mem_range.mpr hindex, hshift.symm⟩

/-- A mask that meets a single bit holds it. -/
theorem SingleBit.and_eq (hmeets : mask &&& capability ≠ 0) : mask &&& capability = capability := by
  obtain ⟨index, hindex, hshift⟩ := h.shift
  have htwoPow : capability = BitVec.twoPow 64 index := hshift
  rw [htwoPow, BitVec.and_twoPow] at hmeets ⊢
  split at hmeets
  next hset => rw [if_pos hset]
  · exact absurd rfl hmeets

theorem SingleBit.or_eq {bits : BitVec 64}
    (hmeets : mask &&& capability ≠ 0) : (bits ||| mask) &&& capability = capability := by
  rw [BitVec.and_or_distrib_right, h.and_eq hmeets]
  ext i hi
  simp only [BitVec.getElem_or, BitVec.getElem_and]
  cases bits[i] <;> cases capability[i] <;> rfl

theorem SingleBit.and_not_eq {bits : BitVec 64}
    (hmeets : mask &&& capability ≠ 0) : bits &&& ~~~mask &&& capability = 0 := by
  have hnone : bits &&& (0 : BitVec 64) = 0 := BitVec.and_zero
  have hzero : bits &&& (~~~mask &&& mask) &&& capability = 0 := by
    rw [BitVec.not_and_self, hnone]
    exact BitVec.zero_and
  rw [← h.and_eq hmeets, ← BitVec.and_assoc, BitVec.and_assoc bits]
  exact hzero

/-- Two single bits are the same or disjoint. -/
theorem SingleBit.disjoint {other : VmCapability}
    (hother : SingleBit other) (hne : other ≠ capability) : capability &&& other = 0 := by
  by_contra hmeets
  have hheld := hother.and_eq hmeets
  have hmem : other ∈ maskBits capability := hother.mem_maskBits.mpr hmeets
  rw [h.1, mem_singleton] at hmem
  exact hne hmem

end

theorem mem_maskBits_single {bit : VmCapability} (hmem : bit ∈ maskBits mask) : SingleBit bit := by
  obtain ⟨hshift, hmeets⟩ := mem_filter.mp hmem
  obtain ⟨index, hindex, rfl⟩ := mem_map.mp hshift
  rw [mem_range] at hindex
  have hall : ∀ index < 64, maskBits ((1 : BitVec 64) <<< index) = [(1 : BitVec 64) <<< index] ∧
      (1 : BitVec 64) <<< index ≠ 0 := by decide +kernel
  exact hall index hindex

end Bits

/-! ## Slots -/

/-- Whether the capability is marked verified or failed, its proof record, and the key it is bound
to. -/
structure CapabilitySlot where
  verified : Bool
  failed : Bool
  record : CapabilityProofRecord
  key : Option String
  deriving DecidableEq, Repr

/-- The key and the domains of the record, as a proof of this capability sets them. -/
def CapabilitySlot.keyed (held : CapabilitySlot) (capability : VmCapability) (key : String) :
    CapabilitySlot :=
  { held with record := { held.record with
      abiDomains := capabilityDomains capability
      abiDomainKey := key } }

section Selections
variable {Row : Type} [DecidableEq Row]

/-- Only rows with a key are selected. -/
theorem select_key_ne {abiKey : Row → VmCapability → String} {candidates : AbiCandidateSet Row}
    {capability : VmCapability} {compatible : List Bool}
    (hpassed : (selectCapabilityAbiSet abiKey candidates capability compatible).passed = true) :
    (selectCapabilityAbiSet abiKey candidates capability compatible).abiDomainKey ≠ "" := by
  unfold selectCapabilityAbiSet at hpassed ⊢
  dsimp only at hpassed ⊢
  split at hpassed
  · cases hpassed
  next hadmitted =>
    rw [if_neg hadmitted]
    split at hpassed
    next key hkeys =>
      dsimp only
      have hmem : key ∈ [key] := mem_singleton_self _
      rw [← hkeys, mem_dedup, mem_map] at hmem
      obtain ⟨row, hrow, rfl⟩ := hmem
      exact bne_iff_ne.mp (mem_filter.mp hrow).2
    · cases hpassed

omit [DecidableEq Row] in
/-- What a selection is bound with. -/
theorem bindSelection_key {bindings bound : CapabilityBindingSet Row} {capability : VmCapability}
    {selection : DomainSetSelection Row}
    (hbound : bindings.bindSelection capability selection = some bound) :
    ∃ binding, bound.findBinding capability = some binding ∧
      binding.abiDomainKey = selection.abiDomainKey := by
  unfold bindSelection at hbound
  split at hbound
  · cases hbound
  · split at hbound
    · cases hbound
    · obtain rfl := Option.some.inj hbound
      exact ⟨_, findBinding_put_self, rfl⟩

end Selections

namespace FlutterVmState
variable {registry : ProfileRegistry} {state after : FlutterVmState registry}
  {capability other : VmCapability} {mask : BitVec 64}

def slot (state : FlutterVmState registry) (capability : VmCapability) : CapabilitySlot where
  verified := state.verifiedCapabilities &&& capability == capability
  failed := state.failedCapabilities &&& capability != 0
  record := state.proofRecords capability
  key := (state.capabilityBindings.findBinding capability).map fun binding => binding.abiDomainKey

/-- The record is of this capability, and verified in this incarnation. -/
def recordCurrent (state : FlutterVmState registry) (bit : VmCapability)
    (record : CapabilityProofRecord) : Bool :=
  record.capability == bit && record.state == .verified &&
    record.artifactGeneration == state.artifactGeneration &&
    record.isolateGeneration == state.identity.generation &&
    record.isolateGroup == state.identity.isolateGroup &&
    record.engineLoadBias == state.boundEngineLoadBias

theorem hasVerified_slot (h : SingleBit capability) :
    state.hasVerifiedCapability capability =
      ((state.slot capability).verified &&
        state.recordCurrent capability (state.slot capability).record) :=
  hasVerified_single h

/-- The incarnation that the record of a proof is stamped with. -/
structure SameStamp (state after : FlutterVmState registry) : Prop where
  identity : after.identity = state.identity
  artifacts : after.artifacts = state.artifacts
  generation : after.artifactGeneration = state.artifactGeneration

theorem SameIncarnation.stamp (h : SameIncarnation state after) : SameStamp state after :=
  ⟨h.identity, h.artifacts, h.generation⟩

theorem SameStamp.recordCurrent (h : SameStamp state after) (record : CapabilityProofRecord) :
    after.recordCurrent capability record = state.recordCurrent capability record := by
  unfold FlutterVmState.recordCurrent boundEngineLoadBias
  rw [h.identity, h.artifacts, h.generation]

theorem hasVerified_of_slot (h : SingleBit capability) (hstamp : SameStamp state after)
    (hslot : after.slot capability = state.slot capability) :
    after.hasVerifiedCapability capability = state.hasVerifiedCapability capability := by
  rw [hasVerified_slot h, hasVerified_slot h, hslot, hstamp.recordCurrent]

/-! ### What the marks do -/

theorem slot_markVerified (h : SingleBit capability) (hmeets : mask &&& capability ≠ 0) :
    (state.markCapabilityVerified mask).slot capability =
      { state.slot capability with
        verified := true
        failed := false
        record := state.stampRecord capability .verified } := by
  simp only [slot, markCapabilityVerified, h.or_eq hmeets, h.and_not_eq hmeets, BEq.rfl,
    bne_self_eq_false, h.mem_maskBits.mpr hmeets, if_true]

theorem slot_markVerified_ne (hdisjoint : mask &&& capability = 0) :
    (state.markCapabilityVerified mask).slot capability = state.slot capability := by
  have hrecord : (state.markCapabilityVerified mask).proofRecords capability =
      state.proofRecords capability := if_neg (not_mem_maskBits hdisjoint)
  simp only [slot, hrecord]
  simp only [markCapabilityVerified, or_and_of_disjoint hdisjoint,
    and_not_and_of_disjoint hdisjoint]

theorem findBinding_foldl_clear_mem {bindings : CapabilityBindingSet registry.Row}
    {bits : List VmCapability} (h : capability ∈ bits) :
    (bits.foldl clear bindings).findBinding capability = none := by
  induction bits generalizing bindings with
  | nil => exact absurd h not_mem_nil
  | cons bit bits ih =>
    rw [foldl_cons]
    by_cases hrest : capability ∈ bits
    · exact ih hrest
    · obtain rfl : capability = bit := (mem_cons.mp h).resolve_right hrest
      rw [findBinding_foldl_clear hrest]
      exact findBinding_clear_self

theorem slot_markFailed {proof : ProofState} (h : SingleBit capability)
    (hmeets : mask &&& capability ≠ 0) :
    (state.markCapabilityFailed mask proof).slot capability =
      ⟨false, true, state.stampRecord capability proof, none⟩ := by
  have hbit := h.mem_maskBits.mpr hmeets
  have hcleared : (state.markCapabilityFailed mask proof).capabilityBindings.findBinding
      capability = none := findBinding_foldl_clear_mem hbit
  simp only [slot, hcleared, Option.map_none]
  simp only [markCapabilityFailed, h.and_not_eq hmeets, h.or_eq hmeets, hbit, if_true,
    bne_iff_ne.mpr h.2, beq_eq_false_iff_ne.mpr h.2.symm]

theorem slot_markFailed_ne {proof : ProofState} (hdisjoint : mask &&& capability = 0) :
    (state.markCapabilityFailed mask proof).slot capability = state.slot capability := by
  have hnot := not_mem_maskBits hdisjoint
  have hrecord : (state.markCapabilityFailed mask proof).proofRecords capability =
      state.proofRecords capability := if_neg hnot
  have hbinding : (state.markCapabilityFailed mask proof).capabilityBindings.findBinding
      capability = state.capabilityBindings.findBinding capability :=
    findBinding_foldl_clear hnot
  simp only [slot, hrecord, hbinding]
  simp only [markCapabilityFailed, or_and_of_disjoint hdisjoint,
    and_not_and_of_disjoint hdisjoint]

theorem slot_reset_ne (hdisjoint : mask &&& capability = 0) :
    (state.resetCapabilityProof mask).slot capability = state.slot capability := by
  have hnot := not_mem_maskBits hdisjoint
  have hrecord : (state.resetCapabilityProof mask).proofRecords capability =
      state.proofRecords capability := if_neg hnot
  have hbinding : (state.resetCapabilityProof mask).capabilityBindings.findBinding
      capability = state.capabilityBindings.findBinding capability :=
    findBinding_foldl_clear hnot
  simp only [slot, hrecord, hbinding]
  simp only [resetCapabilityProof, and_not_and_of_disjoint hdisjoint]

theorem slot_reset (h : SingleBit capability) (hmeets : mask &&& capability ≠ 0) :
    (state.resetCapabilityProof mask).slot capability =
      ⟨false, false, { capability, state :=
        if state.hasCapability capability then .unverified else .unavailable }, none⟩ := by
  have hbit := h.mem_maskBits.mpr hmeets
  have hbinding : (state.resetCapabilityProof mask).capabilityBindings.findBinding
      capability = none := findBinding_foldl_clear_mem hbit
  simp only [slot, hbinding, Option.map_none]
  simp only [resetCapabilityProof, h.and_not_eq hmeets, hbit, if_true, bne_self_eq_false,
    beq_eq_false_iff_ne.mpr h.2.symm]

theorem setProofRecordDomains_eq {row : registry.Row} {key : String} (hkey : key ≠ "") :
    state.setProofRecordDomains capability row key = state.setProofRecordKey capability key := by
  unfold setProofRecordDomains setProofRecordKey
  rw [if_neg hkey]

theorem slot_setKey {key : String} :
    (state.setProofRecordKey capability key).slot capability =
      (state.slot capability).keyed capability key := by
  simp only [slot, setProofRecordKey, CapabilitySlot.keyed, if_true]

theorem slot_setKey_ne {key : String} (hne : other ≠ capability) :
    (state.setProofRecordKey capability key).slot other = state.slot other := by
  simp only [slot, setProofRecordKey, if_neg hne]

theorem slot_bind {bindings : CapabilityBindingSet registry.Row}
    {selection : DomainSetSelection registry.Row}
    (hbound : state.capabilityBindings.bindSelection capability selection = some bindings) :
    ({ state with capabilityBindings := bindings } : FlutterVmState registry).slot capability =
      { state.slot capability with key := some selection.abiDomainKey } := by
  obtain ⟨binding, hfind, hkey⟩ := bindSelection_key hbound
  simp only [slot, hfind, Option.map_some, hkey]

theorem slot_bind_ne {bindings : CapabilityBindingSet registry.Row}
    {selection : DomainSetSelection registry.Row}
    (hbound : state.capabilityBindings.bindSelection capability selection = some bindings)
    (hne : other ≠ capability) :
    ({ state with capabilityBindings := bindings } : FlutterVmState registry).slot other =
      state.slot other := by
  simp only [slot, (bindSelection_spec hbound).2.2 other hne]

/-! ## What the proofs do -/

/-- Only the slot of this capability may change. -/
structure Touches (capability : VmCapability) (state after : FlutterVmState registry) : Prop where
  same : SameIncarnation state after
  others : ∀ other, SingleBit other → other ≠ capability → after.slot other = state.slot other

theorem Touches.refl : Touches capability state state := ⟨.refl state, fun _ _ _ => rfl⟩

theorem Touches.trans {last : FlutterVmState registry} (h : Touches capability state after)
    (h' : Touches capability after last) : Touches capability state last :=
  ⟨h.same.trans h'.same, fun other hother hne =>
    (h'.others other hother hne).trans (h.others other hother hne)⟩

/-- What a proof does to its own slot: nothing, or it withdraws the capability, or commits it to a
key that the record and the binding share. -/
inductive SlotStep (capability : VmCapability) (state after : FlutterVmState registry) : Prop
  | kept (hslot : after.slot capability = state.slot capability)
  | withdrawn (record : CapabilityProofRecord)
      (hstate : record.state = .failedForIncarnation ∨ record.state = .ambiguous)
      (hgeneration : record.artifactGeneration = state.artifactGeneration)
      (hslot : after.slot capability = ⟨false, true, record, none⟩)
  | committed (record : CapabilityProofRecord)
      (hcurrent : state.recordCurrent capability record = true)
      (hkey : record.abiDomainKey ≠ "")
      (hslot : after.slot capability = ⟨true, false, record, some record.abiDomainKey⟩)

theorem SlotStep.trans {last : FlutterVmState registry} (hsame : SameIncarnation state after)
    (h : SlotStep capability state after) (h' : SlotStep capability after last) :
    SlotStep capability state last := by
  cases h' with
  | kept hlast =>
    cases h with
    | kept hslot => exact .kept (hlast.trans hslot)
    | withdrawn record hstate hgeneration hslot =>
      exact .withdrawn record hstate hgeneration (hlast.trans hslot)
    | committed record hcurrent hkey hslot =>
      exact .committed record hcurrent hkey (hlast.trans hslot)
  | withdrawn record hstate hgeneration hlast =>
    exact .withdrawn record hstate (hgeneration.trans hsame.generation) hlast
  | committed record hcurrent hkey hlast =>
    rw [hsame.stamp.recordCurrent] at hcurrent
    exact .committed record hcurrent hkey hlast

theorem recordCurrent_stamp {bit : VmCapability} :
    state.recordCurrent bit (state.stampRecord bit .verified) = true := by
  simp only [recordCurrent, stampRecord, BEq.rfl, Bool.and_self]

theorem touches_markFailed {proof : ProofState} (h : SingleBit capability) :
    Touches capability state (state.markCapabilityFailed capability proof) :=
  ⟨markCapabilityFailed_same, fun _ hother hne => slot_markFailed_ne (h.disjoint hother hne)⟩

theorem and_self_ne (h : SingleBit capability) : capability &&& capability ≠ 0 := by
  rw [BitVec.and_self]
  exact h.2

/-- A withdrawal, whatever was bound on the way to it. -/
theorem slotStep_markFailed {proof : ProofState} (h : SingleBit capability)
    (hproof : proof = .failedForIncarnation ∨ proof = .ambiguous)
    (hgeneration : after.artifactGeneration = state.artifactGeneration) :
    SlotStep capability state (after.markCapabilityFailed capability proof) :=
  .withdrawn (after.stampRecord capability proof) hproof hgeneration
    (slot_markFailed h (and_self_ne h))

theorem touches_bind {bindings : CapabilityBindingSet registry.Row}
    {selection : DomainSetSelection registry.Row}
    (hbound : state.capabilityBindings.bindSelection capability selection = some bindings) :
    Touches capability state { state with capabilityBindings := bindings } :=
  ⟨bind_same, fun _ _ hne => slot_bind_ne hbound hne⟩

theorem touches_setKey {key : String} :
    Touches capability state (state.setProofRecordKey capability key) :=
  ⟨setProofRecordKey_same, fun _ _ hne => slot_setKey_ne hne⟩

theorem touches_keyed {bindings : CapabilityBindingSet registry.Row}
    {selection : DomainSetSelection registry.Row} {key : String}
    (hbound : state.capabilityBindings.bindSelection capability selection = some bindings) :
    Touches capability state
      ({ state with capabilityBindings := bindings }.setProofRecordKey capability key) :=
  (touches_bind hbound).trans touches_setKey

theorem touches_markVerified (h : SingleBit capability) :
    Touches capability state (state.markCapabilityVerified capability) :=
  ⟨markCapabilityVerified_same, fun _ hother hne => slot_markVerified_ne (h.disjoint hother hne)⟩

/-- The capability is verified with the key its record was given. -/
theorem slotStep_markVerified {key : String} (h : SingleBit capability) (hkey : key ≠ "")
    (hsame : SameIncarnation state after) (hbound : (after.slot capability).key = some key) :
    SlotStep capability state
      ((after.setProofRecordKey capability key).markCapabilityVerified capability) := by
  have hslot : ((after.setProofRecordKey capability key).markCapabilityVerified
      capability).slot capability = ⟨true, false,
        (after.setProofRecordKey capability key).stampRecord capability .verified, some key⟩ := by
    rw [slot_markVerified h (and_self_ne h), slot_setKey]
    simp only [CapabilitySlot.keyed, hbound]
  have hrecord : ((after.setProofRecordKey capability key).stampRecord capability
      .verified).abiDomainKey = key := by
    simp only [stampRecord, setProofRecordKey, if_true]
  refine .committed ((after.setProofRecordKey capability key).stampRecord capability .verified) ?_
    (hrecord.symm ▸ hkey) (hrecord.symm ▸ hslot)
  rw [← (hsame.trans setProofRecordKey_same).stamp.recordCurrent]
  exact recordCurrent_stamp

theorem proveRows_slots {passes : registry.Row → Bool}
    {agrees : FlutterVmState registry → registry.Row → Bool} (h : SingleBit capability) :
    Touches capability state (state.proveRows capability passes agrees).1 ∧
      SlotStep capability state (state.proveRows capability passes agrees).1 := by
  unfold proveRows
  dsimp only
  split
  · split
    · exact ⟨touches_markFailed h, slotStep_markFailed h (Or.inr rfl) rfl⟩
    · exact ⟨touches_markFailed h, slotStep_markFailed h (Or.inl rfl) rfl⟩
  next hpassed =>
    have hkey : (state.selectCandidates capability passes).abiDomainKey ≠ "" :=
      select_key_ne (Bool.eq_true_of_not_eq_false hpassed)
    split
    next selected bindings hselected hbound =>
      split
      · exact ⟨(touches_bind hbound).trans (touches_markFailed h),
          slotStep_markFailed h (Or.inl rfl) rfl⟩
      · rw [setProofRecordDomains_eq hkey]
        refine ⟨(touches_keyed hbound).trans (touches_markVerified h), ?_⟩
        refine slotStep_markVerified h hkey bind_same ?_
        rw [slot_bind hbound]
    · exact ⟨touches_markFailed h, slotStep_markFailed h (Or.inl rfl) rfl⟩

/-- No binding is without a key. -/
def BindingsKeyed (state : FlutterVmState registry) : Prop :=
  ∀ capability, SingleBit capability → ∀ key, (state.slot capability).key = some key → key ≠ ""

/-- A receipt keeps the key that is bound. -/
theorem proveReceipt_slots (hkeyed : state.BindingsKeyed)
    (evidence : DartPlantVmCapabilityEvidence) (modules : List ModuleImage) :
    Touches evidence.kind.capability state (state.proveReceipt evidence modules).1 ∧
      SlotStep evidence.kind.capability state (state.proveReceipt evidence modules).1 := by
  have hsingle := singleBit_kind evidence.kind
  unfold proveReceipt
  dsimp only
  split
  · exact ⟨.refl, .kept rfl⟩
  split
  · exact ⟨.refl, .kept rfl⟩
  split
  · exact ⟨.refl, .kept rfl⟩
  next binding hfind =>
    have hbound : (state.slot evidence.kind.capability).key = some binding.abiDomainKey := by
      simp only [slot, hfind, Option.map_some]
    have hkey := hkeyed _ hsingle _ hbound
    rw [setProofRecordDomains_eq hkey]
    exact ⟨touches_setKey.trans (touches_markVerified hsingle),
      slotStep_markVerified hsingle hkey (.refl state) hbound⟩

theorem proveEvidence_slots (hkeyed : state.BindingsKeyed)
    (evidence : DartPlantVmCapabilityEvidence) (reading : EvidenceReading registry.Row) :
    Touches evidence.kind.capability state (state.proveEvidence evidence reading).1 ∧
      SlotStep evidence.kind.capability state (state.proveEvidence evidence reading).1 := by
  have hsingle := singleBit_kind evidence.kind
  cases hreceipt : evidence.observationReceipt || evidence.semanticReceipt with
  | true =>
    rw [proveEvidence, if_pos hreceipt]
    exact proveReceipt_slots hkeyed evidence reading.modules
  | false =>
    rw [proveEvidence_rows state evidence reading hreceipt]
    split
    · exact ⟨touches_markFailed hsingle, slotStep_markFailed hsingle (Or.inl rfl) rfl⟩
    · exact proveRows_slots hsingle

/-! ### Transitions and reads -/

theorem singleBit_transition : SingleBit kCapabilityGeneratedTransitionLayout :=
  ⟨by decide, by decide⟩

theorem singleBit_exception : SingleBit kCapabilityExceptionLayout := ⟨by decide, by decide⟩

theorem singleBit_typeArguments : SingleBit kCapabilityTypeArgumentsLayout :=
  ⟨by decide, by decide⟩

theorem crossTransition_slots {reading : TransitionReading registry.Row} :
    Touches kCapabilityGeneratedTransitionLayout state (state.crossTransition reading).1 ∧
      SlotStep kCapabilityGeneratedTransitionLayout state (state.crossTransition reading).1 := by
  unfold crossTransition
  dsimp only
  split
  · exact ⟨.refl, .kept rfl⟩
  split
  · exact ⟨touches_markFailed singleBit_transition,
      slotStep_markFailed singleBit_transition (Or.inl rfl) rfl⟩
  · exact ⟨.refl, .kept rfl⟩

theorem proveTransitionCapability_slots (state : FlutterVmState registry)
    (safepoints : SafepointState registry.Row) (passes confirms : registry.Row → Bool) :
    Touches kCapabilityGeneratedTransitionLayout state
        (state.proveTransitionCapability safepoints passes confirms).1 ∧
      SlotStep kCapabilityGeneratedTransitionLayout state
        (state.proveTransitionCapability safepoints passes confirms).1 := by
  have hsingle := singleBit_transition
  unfold proveTransitionCapability resolveCapabilityProfile
  dsimp only
  split
  · exact ⟨.refl, .kept rfl⟩
  by_cases hpassed : (state.selectCandidates kCapabilityGeneratedTransitionLayout
      passes).passed = false
  · rw [if_pos hpassed]
    dsimp only
    split
    · exact ⟨touches_markFailed hsingle, slotStep_markFailed hsingle (Or.inr rfl) rfl⟩
    · exact ⟨touches_markFailed hsingle, slotStep_markFailed hsingle (Or.inl rfl) rfl⟩
  · rw [if_neg hpassed]
    have hpassed := Bool.eq_true_of_not_eq_false hpassed
    have hkey : (state.selectCandidates kCapabilityGeneratedTransitionLayout
        passes).abiDomainKey ≠ "" := select_key_ne hpassed
    obtain ⟨bindings, hbound⟩ := bindSelection_isSome state.capabilityBindings hsingle.2 hpassed
    obtain ⟨-, ⟨binding, -, hselected, -⟩, -⟩ := bindSelection_spec hbound
    rw [hbound]
    dsimp only
    rw [hselected]
    dsimp only
    split
    · exact ⟨(touches_keyed hbound).trans (touches_markFailed hsingle),
        slotStep_markFailed hsingle (Or.inl rfl) rfl⟩
    split
    · exact ⟨(touches_keyed hbound).trans (touches_markFailed hsingle),
        slotStep_markFailed hsingle (Or.inl rfl) rfl⟩
    · refine ⟨(touches_keyed hbound).trans (touches_markVerified hsingle),
        slotStep_markVerified hsingle hkey bind_same ?_⟩
      rw [slot_bind hbound]

theorem enterGeneratedToNative_slots {safepoints : SafepointState registry.Row}
    {isolate : DartPlantIsolateIdentity} {reading : TransitionReading registry.Row} :
    let entered := (state.enterGeneratedToNative safepoints isolate reading).1
    Touches kCapabilityGeneratedTransitionLayout state entered ∧
      SlotStep kCapabilityGeneratedTransitionLayout state entered ∧
      ((state.slot kCapabilityGeneratedTransitionLayout).failed = true → entered = state) := by
  unfold FlutterVmState.enterGeneratedToNative
  dsimp only
  split
  · exact ⟨.refl, .kept rfl, fun _ => rfl⟩
  next hadmitted =>
    simp only [not_or, Bool.not_eq_true, Bool.not_eq_false] at hadmitted
    have hhealthy : (state.slot kCapabilityGeneratedTransitionLayout).failed = false :=
      hadmitted.2.2.2.2.1
    have hnever : ∀ {P : Prop}, (state.slot kCapabilityGeneratedTransitionLayout).failed = true →
        P := by
      intro P hfailed
      rw [hhealthy] at hfailed
      cases hfailed
    split
    · exact ⟨crossTransition_slots.1, crossTransition_slots.2, hnever⟩
    obtain ⟨htouches, hstep⟩ := proveTransitionCapability_slots state safepoints reading.passes
      reading.confirms
    split
    next proved bound heq =>
      rw [heq] at htouches hstep
      exact ⟨htouches, hstep, hnever⟩
    next proved bound heq =>
      rw [heq] at htouches hstep
      exact ⟨htouches.trans crossTransition_slots.1,
        hstep.trans htouches.same crossTransition_slots.2, hnever⟩

theorem leaveNativeToGenerated_slots {safepoints : SafepointState registry.Row}
    {isolate : DartPlantIsolateIdentity} {reading : TransitionReading registry.Row} :
    let left := (state.leaveNativeToGenerated safepoints isolate reading).1
    Touches kCapabilityGeneratedTransitionLayout state left ∧
      SlotStep kCapabilityGeneratedTransitionLayout state left ∧
      ((state.slot kCapabilityGeneratedTransitionLayout).failed = true → left = state) := by
  unfold FlutterVmState.leaveNativeToGenerated
  dsimp only
  split
  · exact ⟨.refl, .kept rfl, fun _ => rfl⟩
  next hadmitted =>
    simp only [not_or, Bool.not_eq_true, Bool.not_eq_false] at hadmitted
    have hhealthy : (state.slot kCapabilityGeneratedTransitionLayout).failed = false :=
      hadmitted.2.2.2.2.1
    refine ⟨crossTransition_slots.1, crossTransition_slots.2, fun hfailed => ?_⟩
    rw [hhealthy] at hfailed
    cases hfailed

theorem proveRead_slots {passes : registry.Row → Bool} {read : registry.Row → DartPlantStatus}
    (h : SingleBit capability) :
    Touches capability state (state.proveRead capability passes read).1 ∧
      SlotStep capability state (state.proveRead capability passes read).1 := by
  unfold proveRead
  dsimp only
  split
  · split
    · exact ⟨touches_markFailed h, slotStep_markFailed h (Or.inr rfl) rfl⟩
    · exact ⟨touches_markFailed h, slotStep_markFailed h (Or.inl rfl) rfl⟩
  next hpassed =>
    have hkey : (state.selectCandidates capability passes).abiDomainKey ≠ "" :=
      select_key_ne (Bool.eq_true_of_not_eq_false hpassed)
    split
    next selected bindings hselected hbound =>
      rw [setProofRecordDomains_eq hkey]
      split
      · exact ⟨(touches_keyed hbound).trans (touches_markFailed h),
          slotStep_markFailed h (Or.inl rfl) rfl⟩
      · refine ⟨(touches_keyed hbound).trans (touches_markVerified h),
          slotStep_markVerified h hkey bind_same ?_⟩
        rw [slot_bind hbound]
    · exact ⟨touches_markFailed h, slotStep_markFailed h (Or.inl rfl) rfl⟩

theorem readActiveException_slots {isolate : DartPlantIsolateIdentity}
    {reading : LayoutReading registry.Row} :
    let read := (state.readActiveException isolate reading).1
    Touches kCapabilityExceptionLayout state read ∧
      SlotStep kCapabilityExceptionLayout state read ∧
      ((state.slot kCapabilityExceptionLayout).failed = true → read = state) := by
  unfold readActiveException
  dsimp only
  split
  · exact ⟨.refl, .kept rfl, fun _ => rfl⟩
  split
  · exact ⟨.refl, .kept rfl, fun _ => rfl⟩
  next hadmitted =>
    split
    · exact ⟨.refl, .kept rfl, fun _ => rfl⟩
    · exact ⟨(proveRead_slots singleBit_exception).1, (proveRead_slots singleBit_exception).2,
        fun hfailed => absurd (Or.inr hfailed) hadmitted⟩

theorem readTypeArgumentsElement_slots {isolate : DartPlantIsolateIdentity}
    {reading : LayoutReading registry.Row} :
    let read := (state.readTypeArgumentsElement isolate reading).1
    Touches kCapabilityTypeArgumentsLayout state read ∧
      SlotStep kCapabilityTypeArgumentsLayout state read ∧
      ((state.slot kCapabilityTypeArgumentsLayout).failed = true → read = state) := by
  unfold FlutterVmState.readTypeArgumentsElement
  dsimp only
  split
  · exact ⟨.refl, .kept rfl, fun _ => rfl⟩
  split
  · exact ⟨.refl, .kept rfl, fun _ => rfl⟩
  next hadmitted =>
    exact ⟨(proveRead_slots singleBit_typeArguments).1,
      (proveRead_slots singleBit_typeArguments).2,
      fun hfailed => absurd (Or.inr hfailed) hadmitted⟩

end FlutterVmState

end DartPlant
