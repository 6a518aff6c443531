import DartPlant.Vm.FlutterVm

/-! # Laws of the Flutter backend

What each mark does to one capability and leaves alone at every other one, and from it what a proof
does: it withdraws its own capability, or commits it to the rows it selected.  A revalidation that
succeeds rebinds every structural capability and withdraws none.
-/

namespace DartPlant
open CapabilityBindingSet List

/-! ## Masks -/

/-- A mask of one bit. -/
def SingleBit (capability : VmCapability) : Prop :=
  maskBits capability = [capability] ∧ capability ≠ 0

theorem singleBit_kind (kind : DartPlantVmCapabilityEvidenceKind) : SingleBit kind.capability := by
  cases kind with
  | functionCode => exact ⟨by decide, by decide⟩
  | aotEntry => exact ⟨by decide, by decide⟩
  | argumentsDescriptor => exact ⟨by decide, by decide⟩
  | functionType => exact ⟨by decide, by decide⟩
  | closureCall => exact ⟨by decide, by decide⟩
  | invocationCallAbi => exact ⟨by decide, by decide⟩
  | exceptionBridge => exact ⟨by decide, by decide⟩

/-- Different kinds of evidence prove different capabilities. -/
theorem kind_disjoint {kind other : DartPlantVmCapabilityEvidenceKind} (hne : kind ≠ other) :
    kind.capability &&& other.capability = 0 := by
  revert hne
  cases kind <;> cases other <;> decide

/-- No evidence proves an eager capability. -/
theorem kind_not_eager (kind : DartPlantVmCapabilityEvidenceKind) :
    kEagerRuntimeProofMask &&& kind.capability = 0 := by
  cases kind <;> decide

theorem not_mem_maskBits {mask capability : BitVec 64} (h : mask &&& capability = 0) :
    capability ∉ maskBits mask := by
  intro hmem
  have hbit := (mem_filter.mp hmem).2
  rw [h] at hbit
  cases hbit

theorem mem_maskBits_of_and {mask other capability : BitVec 64}
    (hmem : capability ∈ maskBits (mask &&& other)) : mask &&& capability ≠ 0 := by
  intro hzero
  have hbit := (mem_filter.mp hmem).2
  rw [BitVec.and_assoc, BitVec.and_comm other, ← BitVec.and_assoc, hzero,
    show (0 : BitVec 64) &&& other = 0 from BitVec.zero_and] at hbit
  cases hbit

section Mask
variable {mask capability verified : BitVec 64}

theorem and_not_and_self : verified &&& ~~~capability &&& capability = 0 := by
  rw [BitVec.and_assoc, BitVec.not_and_self]
  exact BitVec.and_zero

theorem or_and_self : (verified ||| capability) &&& capability = capability := by
  ext i hi
  simp only [BitVec.getElem_and, BitVec.getElem_or]
  cases verified[i] <;> cases capability[i] <;> rfl

theorem and_not_and_of_disjoint (h : mask &&& capability = 0) :
    verified &&& ~~~mask &&& capability = verified &&& capability := by
  have hkept : ~~~mask &&& capability = capability := by
    ext i hi
    have hi' : (mask &&& capability)[i] = false := by
      rw [h]
      exact BitVec.getElem_zero hi
    simp only [BitVec.getElem_and, BitVec.getElem_not] at hi' ⊢
    cases hm : mask[i] with
    | false => rfl
    | true =>
      rw [hm] at hi'
      exact hi'.symm
  rw [BitVec.and_assoc, hkept]

theorem or_and_of_disjoint (h : mask &&& capability = 0) :
    (verified ||| mask) &&& capability = verified &&& capability := by
  ext i hi
  have hi' : (mask &&& capability)[i] = false := by
    rw [h]
    exact BitVec.getElem_zero hi
  simp only [BitVec.getElem_and, BitVec.getElem_or] at hi' ⊢
  cases hm : mask[i] with
  | false => rw [Bool.or_false]
  | true =>
    rw [hm] at hi'
    rw [show capability[i] = false from hi', Bool.and_false, Bool.and_false]

end Mask

/-! ## Marks -/

namespace FlutterVmState
variable {registry : ProfileRegistry} {state after : FlutterVmState registry}
  {capability other : VmCapability} {mask : BitVec 64}

/-- The two states are of one incarnation of the artifacts and the isolate. -/
structure SameIncarnation (state after : FlutterVmState registry) : Prop where
  identity : after.identity = state.identity
  thread : after.thread = state.thread
  artifacts : after.artifacts = state.artifacts
  capabilities : after.capabilities = state.capabilities
  profiles : after.abiCandidates.profiles = state.abiCandidates.profiles
  generation : after.artifactGeneration = state.artifactGeneration
  quiescing : after.artifactQuiescing = state.artifactQuiescing
  valid : after.artifactValid = state.artifactValid

theorem SameIncarnation.refl (state : FlutterVmState registry) : SameIncarnation state state :=
  ⟨rfl, rfl, rfl, rfl, rfl, rfl, rfl, rfl⟩

theorem SameIncarnation.trans {last : FlutterVmState registry} (h : SameIncarnation state after)
    (h' : SameIncarnation after last) : SameIncarnation state last :=
  ⟨h'.identity.trans h.identity, h'.thread.trans h.thread, h'.artifacts.trans h.artifacts,
    h'.capabilities.trans h.capabilities, h'.profiles.trans h.profiles,
    h'.generation.trans h.generation, h'.quiescing.trans h.quiescing, h'.valid.trans h.valid⟩

/-- Nothing changes for this capability. -/
structure KeepsAt (capability : VmCapability) (state after : FlutterVmState registry) : Prop where
  verified : after.hasVerifiedCapability capability = state.hasVerifiedCapability capability
  binding : after.capabilityBindings.findBinding capability =
    state.capabilityBindings.findBinding capability

theorem KeepsAt.refl (capability : VmCapability) (state : FlutterVmState registry) :
    KeepsAt capability state state := ⟨rfl, rfl⟩

theorem KeepsAt.trans {last : FlutterVmState registry} (h : KeepsAt capability state after)
    (h' : KeepsAt capability after last) : KeepsAt capability state last :=
  ⟨h'.verified.trans h.verified, h'.binding.trans h.binding⟩

theorem hasVerified_single (h : SingleBit capability) :
    state.hasVerifiedCapability capability =
      (state.verifiedCapabilities &&& capability == capability &&
        state.recordVerified capability) := by
  rw [hasVerifiedCapability, h.1, all_cons, all_nil, Bool.and_true]

theorem recordVerified_stamp
    (hrecord : after.proofRecords capability = state.stampRecord capability .verified)
    (hsame : SameIncarnation state after) : after.recordVerified capability = true := by
  simp only [recordVerified, hrecord, stampRecord, boundEngineLoadBias, hsame.identity,
    hsame.artifacts, hsame.generation, BEq.rfl, Bool.and_self]

theorem recordVerified_congr (hrecord : after.proofRecords capability =
    state.proofRecords capability) (hsame : SameIncarnation state after) :
    after.recordVerified capability = state.recordVerified capability := by
  simp only [recordVerified, hrecord, boundEngineLoadBias, hsame.identity, hsame.artifacts,
    hsame.generation]

theorem markCapabilityVerified_same :
    SameIncarnation state (state.markCapabilityVerified mask) :=
  ⟨rfl, rfl, rfl, rfl, rfl, rfl, rfl, rfl⟩

theorem markCapabilityFailed_same {proof : ProofState} :
    SameIncarnation state (state.markCapabilityFailed mask proof) :=
  ⟨rfl, rfl, rfl, rfl, rfl, rfl, rfl, rfl⟩

theorem setProofRecordDomains_same {row : registry.Row} {key : String} :
    SameIncarnation state (state.setProofRecordDomains capability row key) :=
  ⟨rfl, rfl, rfl, rfl, rfl, rfl, rfl, rfl⟩

theorem markCapabilityVerified_keeps (h : SingleBit capability) (hmask : mask &&& capability = 0) :
    KeepsAt capability state (state.markCapabilityVerified mask) := by
  refine ⟨?_, rfl⟩
  have hrecord : (state.markCapabilityVerified mask).proofRecords capability =
      state.proofRecords capability := if_neg (not_mem_maskBits hmask)
  rw [hasVerified_single h, hasVerified_single h,
    recordVerified_congr hrecord markCapabilityVerified_same]
  show ((state.verifiedCapabilities ||| mask) &&& capability == capability && _) = _
  rw [or_and_of_disjoint hmask]

theorem markCapabilityVerified_self (h : SingleBit capability) :
    (state.markCapabilityVerified capability).hasVerifiedCapability capability = true := by
  have hmem : capability ∈ maskBits capability := by
    rw [h.1]
    exact mem_singleton_self _
  have hrecord : (state.markCapabilityVerified capability).proofRecords capability =
      state.stampRecord capability .verified := if_pos hmem
  rw [hasVerified_single h, recordVerified_stamp hrecord markCapabilityVerified_same,
    Bool.and_true]
  show ((state.verifiedCapabilities ||| capability) &&& capability == capability) = true
  rw [or_and_self, BEq.rfl]

theorem findBinding_foldl_clear {bindings : CapabilityBindingSet registry.Row}
    {bits : List VmCapability} (h : capability ∉ bits) :
    (bits.foldl clear bindings).findBinding capability = bindings.findBinding capability := by
  induction bits generalizing bindings with
  | nil => rfl
  | cons bit bits ih =>
    rw [mem_cons, not_or] at h
    rw [foldl_cons, ih h.2]
    exact findBinding_clear_ne (Ne.symm h.1)

theorem markCapabilityFailed_keeps {proof : ProofState} (h : SingleBit capability)
    (hmask : mask &&& capability = 0) :
    KeepsAt capability state (state.markCapabilityFailed mask proof) := by
  refine ⟨?_, findBinding_foldl_clear (not_mem_maskBits hmask)⟩
  have hrecord : (state.markCapabilityFailed mask proof).proofRecords capability =
      state.proofRecords capability := if_neg (not_mem_maskBits hmask)
  rw [hasVerified_single h, hasVerified_single h,
    recordVerified_congr hrecord markCapabilityFailed_same]
  show (state.verifiedCapabilities &&& ~~~mask &&& capability == capability && _) = _
  rw [and_not_and_of_disjoint hmask]

theorem markCapabilityFailed_self {proof : ProofState} (h : SingleBit capability) :
    (state.markCapabilityFailed capability proof).hasVerifiedCapability capability = false := by
  rw [hasVerified_single h]
  show (state.verifiedCapabilities &&& ~~~capability &&& capability == capability && _) = false
  rw [and_not_and_self, beq_eq_false_iff_ne.mpr h.2.symm, Bool.false_and]

theorem setProofRecordDomains_keeps {row : registry.Row} {key : String} (h : SingleBit other) :
    KeepsAt other state (state.setProofRecordDomains capability row key) := by
  refine ⟨?_, rfl⟩
  rw [hasVerified_single h, hasVerified_single h]
  congr 1
  unfold recordVerified setProofRecordDomains
  dsimp only
  split
  · rfl
  · rfl

/-- New bindings keep every capability they do not bind. -/
theorem bind_keeps {bindings : CapabilityBindingSet registry.Row}
    (h : bindings.findBinding capability = state.capabilityBindings.findBinding capability) :
    KeepsAt capability state { state with capabilityBindings := bindings } := ⟨rfl, h⟩

/-! ## Proofs -/

/-- The capability is withdrawn, and nothing else happens. -/
structure Withdraws (capability : VmCapability) (state after : FlutterVmState registry) :
    Prop where
  same : SameIncarnation state after
  verified : after.hasVerifiedCapability capability = false
  others : ∀ other, SingleBit other → capability &&& other = 0 → KeepsAt other state after

/-- The capability is verified on these rows, and nothing else happens. -/
structure Commits (capability : VmCapability) (rows : List registry.Row)
    (state after : FlutterVmState registry) : Prop where
  same : SameIncarnation state after
  verified : after.hasVerifiedCapability capability = true
  binding : ∃ binding, after.capabilityBindings.findBinding capability = some binding ∧
    binding.selectedRows = rows
  others : ∀ other, SingleBit other → capability &&& other = 0 → KeepsAt other state after

theorem ne_of_disjoint (h : SingleBit other) (hdisjoint : capability &&& other = 0) :
    other ≠ capability := by
  rintro rfl
  rw [BitVec.and_self] at hdisjoint
  exact h.2 hdisjoint

theorem markCapabilityFailed_withdraws {proof : ProofState} (h : SingleBit capability) :
    Withdraws capability state (state.markCapabilityFailed capability proof) :=
  ⟨markCapabilityFailed_same, markCapabilityFailed_self h,
    fun _ hother hdisjoint => markCapabilityFailed_keeps hother hdisjoint⟩

/-- What was verified on the way to a withdrawal does not matter. -/
theorem Withdraws.of_bound {bindings : CapabilityBindingSet registry.Row}
    (h : Withdraws capability { state with capabilityBindings := bindings } after)
    (hbindings : ∀ other, other ≠ capability →
      bindings.findBinding other = state.capabilityBindings.findBinding other) :
    Withdraws capability state after where
  same := { h.same with }
  verified := h.verified
  others := fun other hother hdisjoint =>
    (bind_keeps (hbindings other (ne_of_disjoint hother hdisjoint))).trans
      (h.others other hother hdisjoint)

/-- The selection passed, and its row agrees. -/
def Agreed (selection : DomainSetSelection registry.Row) (agrees : registry.Row → Bool) : Prop :=
  selection.passed = true ∧ ∀ row, selection.representative = some row → agrees row = true

theorem proveRows_cases {passes : registry.Row → Bool}
    {agrees : FlutterVmState registry → registry.Row → Bool} (h : SingleBit capability)
    (hagrees : ∀ bindings row, agrees { state with capabilityBindings := bindings } row =
      agrees state row) :
    (¬ Agreed (state.selectCandidates capability passes) (agrees state) ∧
        (state.proveRows capability passes agrees).2 = none ∧
        Withdraws capability state (state.proveRows capability passes agrees).1) ∨
      ∃ selected, Agreed (state.selectCandidates capability passes) (agrees state) ∧
        (state.selectCandidates capability passes).representative = some selected ∧
        (state.proveRows capability passes agrees).2 = some selected ∧
        Commits capability (state.selectCandidates capability passes).selectedRows state
          (state.proveRows capability passes agrees).1 := by
  unfold proveRows
  dsimp only
  split
  next hfailed =>
    refine Or.inl ⟨fun hagreed => ?_, rfl, ?_⟩
    · rw [hagreed.1] at hfailed
      cases hfailed
    · dsimp only
      split
      · exact markCapabilityFailed_withdraws h
      · exact markCapabilityFailed_withdraws h
  next hpassed =>
    have hpassed := Bool.eq_true_of_not_eq_false hpassed
    obtain ⟨bindings, hbindings⟩ := bindSelection_isSome state.capabilityBindings
      h.2 hpassed
    obtain ⟨-, ⟨binding, hfind, hrepresentative, hrows⟩, hothers⟩ := bindSelection_spec hbindings
    rw [hrepresentative, hbindings]
    dsimp only
    split
    next hdisagrees =>
      refine Or.inl ⟨fun hagreed => ?_, rfl, ?_⟩
      · have hrow := hagreed.2 _ hrepresentative
        rw [← hagrees bindings, hdisagrees] at hrow
        cases hrow
      · exact (markCapabilityFailed_withdraws h).of_bound hothers
    next hagree =>
      have hagree := Bool.eq_true_of_not_eq_false hagree
      rw [hagrees] at hagree
      refine Or.inr ⟨_, ⟨hpassed, fun row hrow => ?_⟩, rfl, rfl, ?_⟩
      · rw [hrepresentative] at hrow
        rw [← Option.some.inj hrow]
        exact hagree
      · refine ⟨⟨rfl, rfl, rfl, rfl, rfl, rfl, rfl, rfl⟩, markCapabilityVerified_self h,
          ⟨binding, hfind, hrows⟩, fun other hother hdisjoint => ?_⟩
        have hbound := bind_keeps (hothers other (ne_of_disjoint hother hdisjoint))
        exact (hbound.trans (setProofRecordDomains_keeps hother)).trans
          (markCapabilityVerified_keeps hother hdisjoint)

/-! ### One proof for every kind of evidence -/

/-- What a proof looks at before the rows. -/
def admitsEvidence (state : FlutterVmState registry) :
    DartPlantVmCapabilityEvidenceKind → Bool
  | .exceptionBridge => state.hasCapability kCapabilityExceptionBridgeLayout &&
      !state.hasFailedCapability kCapabilityExceptionBridgeLayout && state.artifacts.engines != []
  | .functionType => true
  | kind => state.capabilityDependenciesVerified kind.capability

/-- What it asks of a row. -/
def evidencePasses (state : FlutterVmState registry) (kind : DartPlantVmCapabilityEvidenceKind)
    (reading : EvidenceReading registry.Row) : registry.Row → Bool :=
  match kind with
  | .exceptionBridge => fun row => state.targetOwned (reading.target row)
  | _ => reading.passes

/-- What it asks of the row that stands for the selection. -/
def evidenceAgrees (kind : DartPlantVmCapabilityEvidenceKind) (state : FlutterVmState registry)
    (row : registry.Row) : Bool :=
  match kind with
  | .aotEntry => state.proofDomainsMatch kCapabilityFunctionCodeLayout row
  | .closureCall => state.closureDependencyDomainsMatch row
  | _ => true

theorem proveEvidence_rows (state : FlutterVmState registry)
    (evidence : DartPlantVmCapabilityEvidence) (reading : EvidenceReading registry.Row)
    (hreceipt : (evidence.observationReceipt || evidence.semanticReceipt) = false) :
    state.proveEvidence evidence reading =
      if state.admitsEvidence evidence.kind = false then
        (state.markCapabilityFailed evidence.kind.capability, none)
      else state.proveRows evidence.kind.capability (state.evidencePasses evidence.kind reading)
        (evidenceAgrees evidence.kind) := by
  unfold proveEvidence
  rw [hreceipt, if_neg Bool.false_ne_true]
  cases evidence.kind with
  | functionCode => rfl
  | aotEntry => rfl
  | invocationCallAbi => rfl
  | argumentsDescriptor => rfl
  | functionType => rfl
  | closureCall => rfl
  | exceptionBridge =>
    have hiff : (state.hasCapability kCapabilityExceptionBridgeLayout = false ∨
        state.hasFailedCapability kCapabilityExceptionBridgeLayout = true ∨
        state.artifacts.engines = []) ↔ state.admitsEvidence .exceptionBridge = false := by
      simp only [admitsEvidence, Bool.and_eq_false_iff, Bool.not_eq_false', bne_eq_false_iff_eq,
        or_assoc]
    unfold proveExceptionBridge
    by_cases hrejected : state.admitsEvidence .exceptionBridge = false
    · rw [if_pos (hiff.mpr hrejected), if_pos hrejected]
      rfl
    · rw [if_neg fun h => hrejected (hiff.mp h), if_neg hrejected]
      rfl

/-- The rows a proof of this evidence would commit its capability to. -/
def evidenceSelection (state : FlutterVmState registry) (kind : DartPlantVmCapabilityEvidenceKind)
    (reading : EvidenceReading registry.Row) : DomainSetSelection registry.Row :=
  state.selectCandidates kind.capability (state.evidencePasses kind reading)

/-- The evidence is admitted and selects one ABI that agrees. -/
def EvidenceHolds (state : FlutterVmState registry) (kind : DartPlantVmCapabilityEvidenceKind)
    (reading : EvidenceReading registry.Row) : Prop :=
  state.admitsEvidence kind = true ∧
    Agreed (state.evidenceSelection kind reading) (evidenceAgrees kind state)

/-- A proof that is no receipt commits its capability when its evidence holds, and withdraws it
otherwise. -/
theorem proveEvidence_cases (evidence : DartPlantVmCapabilityEvidence)
    (reading : EvidenceReading registry.Row)
    (hreceipt : (evidence.observationReceipt || evidence.semanticReceipt) = false) :
    (¬ state.EvidenceHolds evidence.kind reading ∧
        (state.proveEvidence evidence reading).2 = none ∧
        Withdraws evidence.kind.capability state (state.proveEvidence evidence reading).1) ∨
      ∃ selected, state.EvidenceHolds evidence.kind reading ∧
        (state.evidenceSelection evidence.kind reading).representative = some selected ∧
        (state.proveEvidence evidence reading).2 = some selected ∧
        Commits evidence.kind.capability
          (state.evidenceSelection evidence.kind reading).selectedRows state
          (state.proveEvidence evidence reading).1 := by
  have hsingle := singleBit_kind evidence.kind
  rw [proveEvidence_rows state evidence reading hreceipt]
  split
  next hrejected =>
    refine Or.inl ⟨fun h => ?_, rfl, markCapabilityFailed_withdraws hsingle⟩
    rw [h.1] at hrejected
    cases hrejected
  next hadmitted =>
    have hadmitted := Bool.eq_true_of_not_eq_false hadmitted
    have hagrees : ∀ bindings row, evidenceAgrees evidence.kind
        { state with capabilityBindings := bindings } row =
          evidenceAgrees evidence.kind state row := by
      intro bindings row
      cases evidence.kind <;> rfl
    rcases proveRows_cases hsingle hagrees with ⟨hnot, hnone, hwithdraws⟩ |
      ⟨selected, hagreed, hrepresentative, hsome, hcommits⟩
    · exact Or.inl ⟨fun h => hnot h.2, hnone, hwithdraws⟩
    · exact Or.inr ⟨selected, ⟨hadmitted, hagreed⟩, hrepresentative, hsome, hcommits⟩

/-- A receipt leaves the state alone, or verifies its capability on the rows that are bound. -/
theorem proveReceipt_cases (evidence : DartPlantVmCapabilityEvidence)
    (modules : List ModuleImage) :
    state.proveReceipt evidence modules = (state, none) ∨
      ∃ binding, state.capabilityBindings.findBinding evidence.kind.capability = some binding ∧
        (state.proveReceipt evidence modules).2 = some binding.representative ∧
        Commits evidence.kind.capability binding.selectedRows state
          (state.proveReceipt evidence modules).1 := by
  have hsingle := singleBit_kind evidence.kind
  unfold proveReceipt
  dsimp only
  split
  · exact Or.inl rfl
  split
  · exact Or.inl rfl
  split
  · exact Or.inl rfl
  next binding hfind =>
    refine Or.inr ⟨binding, hfind, rfl, ⟨⟨rfl, rfl, rfl, rfl, rfl, rfl, rfl, rfl⟩,
      markCapabilityVerified_self hsingle, ⟨binding, hfind, rfl⟩, fun other hother hdisjoint => ?_⟩⟩
    exact (setProofRecordDomains_keeps hother).trans
      (markCapabilityVerified_keeps hother hdisjoint)

/-! ## Revalidation -/

theorem rebuilds_ne_none (h : state.rebuilds capability = true) : capability ≠ kCapabilityNone := by
  rintro rfl
  simp only [rebuilds, Bool.and_eq_true, bne_iff_ne] at h
  exact h.1.1 BitVec.and_zero

/-- The capabilities are rebound exactly when each of them selects one ABI. -/
theorem rebind_iff {probe : registry.Row → CandidateProbe} {capabilities : List VmCapability}
    {bindings : CapabilityBindingSet registry.Row} :
    (state.rebind probe capabilities bindings).2 = true ↔
      ∀ capability ∈ capabilities, state.rebuilds capability = true →
        (state.selectProbed probe capability).passed = true := by
  induction capabilities generalizing bindings with
  | nil => exact ⟨fun _ _ h => absurd h not_mem_nil, fun _ => rfl⟩
  | cons capability capabilities ih =>
    rw [rebind, forall_mem_cons]
    split
    next hskipped =>
      rw [ih]
      exact ⟨fun h => ⟨fun hrebuilds => absurd (hskipped.symm.trans hrebuilds) Bool.false_ne_true,
        h⟩, fun h => h.2⟩
    next hrebuilds =>
      have hrebuilds := Bool.eq_true_of_not_eq_false hrebuilds
      split
      next hunbound =>
        refine ⟨fun h => absurd h Bool.false_ne_true, fun h => ?_⟩
        obtain ⟨bound, hbound⟩ := bindSelection_isSome bindings
          (rebuilds_ne_none hrebuilds) (h.1 hrebuilds)
        rw [hunbound] at hbound
        cases hbound
      next bound hbound =>
        rw [ih]
        exact ⟨fun h => ⟨fun _ => (bindSelection_spec hbound).1, h⟩, fun h => h.2⟩

/-- What a capability is bound to after the others and it are rebound. -/
theorem rebind_binding {probe : registry.Row → CandidateProbe} {capabilities : List VmCapability}
    {bindings : CapabilityBindingSet registry.Row}
    (hrebound : (state.rebind probe capabilities bindings).2 = true) (capability : VmCapability) :
    (state.rebind probe capabilities bindings).1.findBinding capability =
        bindings.findBinding capability ∧
          ¬(capability ∈ capabilities ∧ state.rebuilds capability = true) ∨
      state.rebuilds capability = true ∧
        ∃ binding, (state.rebind probe capabilities bindings).1.findBinding capability =
          some binding ∧
        binding.selectedRows = (state.selectProbed probe capability).selectedRows := by
  induction capabilities generalizing bindings with
  | nil => exact Or.inl ⟨rfl, fun h => absurd h.1 not_mem_nil⟩
  | cons first capabilities ih =>
    rw [rebind] at hrebound ⊢
    split
    next hskipped =>
      rw [if_pos hskipped] at hrebound
      refine (ih hrebound).imp_left fun ⟨hkept, hnot⟩ => ⟨hkept, fun ⟨hmem, hrebuilds⟩ => ?_⟩
      rcases mem_cons.mp hmem with rfl | hmem
      · rw [hskipped] at hrebuilds
        cases hrebuilds
      · exact hnot ⟨hmem, hrebuilds⟩
    next hrebuilds =>
      rw [if_neg hrebuilds] at hrebound
      have hrebuilds := Bool.eq_true_of_not_eq_false hrebuilds
      split
      next hunbound =>
        rw [hunbound] at hrebound
        cases hrebound
      next bound hbound =>
        rw [hbound] at hrebound
        obtain ⟨-, ⟨binding, hfind, -, hrows⟩, hothers⟩ := bindSelection_spec hbound
        rcases ih hrebound with ⟨hkept, hnot⟩ | hrebuilt
        · by_cases hfirst : capability = first
          · subst hfirst
            exact Or.inr ⟨hrebuilds, binding, hkept.trans hfind, hrows⟩
          · refine Or.inl ⟨hkept.trans (hothers capability hfirst), fun ⟨hmem, hcapability⟩ => ?_⟩
            exact hnot ⟨(mem_cons.mp hmem).resolve_left hfirst, hcapability⟩
        · exact Or.inr hrebuilt

/-- The eager capabilities are established exactly when each of them selects one ABI. -/
theorem establishEager_iff (state : FlutterVmState registry) (rows : List Bool)
    {bits : List VmCapability}
    (hbits : ∀ bit ∈ bits, bit ≠ kCapabilityNone) :
    (establishEager (some rows) bits state).2 = true ↔
      ∀ bit ∈ bits, (selectCapabilityAbiSet registry.rowAbiKey state.abiCandidates bit
        rows).passed = true := by
  induction bits generalizing state with
  | nil => exact ⟨fun _ _ h => absurd h not_mem_nil, fun _ => rfl⟩
  | cons bit bits ih =>
    rw [establishEager, forall_mem_cons]
    rw [forall_mem_cons] at hbits
    split
    next hfailed =>
      refine ⟨fun h => absurd h Bool.false_ne_true, fun h => ?_⟩
      rw [hfailed] at h
      exact absurd h.1 Bool.false_ne_true
    next hpassed =>
      have hpassed := Bool.eq_true_of_not_eq_false hpassed
      obtain ⟨bound, hbound⟩ := bindSelection_isSome state.capabilityBindings hbits.1
        hpassed
      obtain ⟨-, ⟨binding, -, hrepresentative, -⟩, -⟩ := bindSelection_spec hbound
      rw [hrepresentative, hbound]
      dsimp only
      rw [ih _ hbits.2]
      exact ⟨fun h => ⟨hpassed, h⟩, fun h => h.2⟩

theorem establishEager_same {compatible : Option (List Bool)} {bits : List VmCapability} :
    SameIncarnation state (establishEager compatible bits state).1 := by
  induction bits generalizing state with
  | nil => exact .refl state
  | cons bit bits ih =>
    cases compatible with
    | none =>
      rw [establishEager]
      split
      · exact .refl state
      · exact setProofRecordDomains_same.trans ih
    | some rows =>
      rw [establishEager]
      split
      · split
        · exact markCapabilityFailed_same
        · exact markCapabilityFailed_same
      · split
        · refine SameIncarnation.trans ?_ ih
          exact ⟨rfl, rfl, rfl, rfl, rfl, rfl, rfl, rfl⟩
        · exact .refl state

theorem establishEagerCapabilityProofs_same {compatible : Option (List Bool)} :
    SameIncarnation state (state.establishEagerCapabilityProofs compatible).1 := by
  unfold establishEagerCapabilityProofs
  dsimp only
  split
  · exact .refl state
  · refine SameIncarnation.trans ?_ establishEager_same
    exact ⟨rfl, rfl, rfl, rfl, rfl, rfl, rfl, rfl⟩

theorem markEager_same : SameIncarnation state state.markEager :=
  markCapabilityVerified_same.trans markCapabilityVerified_same

theorem establishEager_keeps {rows : List Bool} {bits : List VmCapability}
    (hestablished : (establishEager (some rows) bits state).2 = true)
    (hcapability : SingleBit capability) (hbits : capability ∉ bits) :
    KeepsAt capability state (establishEager (some rows) bits state).1 := by
  induction bits generalizing state with
  | nil => exact .refl capability state
  | cons bit bits ih =>
    rw [establishEager] at hestablished ⊢
    rw [mem_cons, not_or] at hbits
    split
    next hfailed =>
      rw [if_pos hfailed] at hestablished
      cases hestablished
    next hpassed =>
      rw [if_neg hpassed] at hestablished
      split
      next selected bindings hrepresentative hbound =>
        rw [hrepresentative, hbound] at hestablished
        have hothers := (bindSelection_spec hbound).2.2 capability hbits.1
        exact ((bind_keeps hothers).trans (setProofRecordDomains_keeps hcapability)).trans
          (ih hestablished hbits.2)
      next hnone =>
        split at hestablished
        next selected bindings hrepresentative hbound =>
          exact absurd hbound (hnone selected bindings hrepresentative)
        · cases hestablished

/-- What the core binding needs to be proved again: the roots select one ABI whose row has both
safepoint entries, every structural capability selects one ABI among the rows that offer it, and so
does every eager one among the rows whose probe passed. -/
structure Reprovable (state : FlutterVmState registry) (probe : registry.Row → CandidateProbe) :
    Prop where
  roots : (state.selectRoots probe).passed = true
  entries : ∀ row, (state.selectRoots probe).representative = some row →
    (probe row).passed = true ∧ (probe row).enterEntry ≠ nullptr ∧ (probe row).exitEntry ≠ nullptr
  structural : ∀ capability ∈ capabilityRegistry, state.rebuilds capability = true →
    (state.selectProbed probe capability).passed = true
  eager : ∀ bit ∈ maskBits (kEagerRuntimeProofMask &&& state.capabilities),
    (selectCapabilityAbiSet registry.rowAbiKey state.abiCandidates bit
      (state.abiCandidates.profiles.map fun row => (probe row).passed)).passed = true

theorem selectProbed_rooted {probe : registry.Row → CandidateProbe} {selected : registry.Row} :
    ((state.rooted probe selected).selectProbed probe capability).passed =
        (state.selectProbed probe capability).passed ∧
      ((state.rooted probe selected).selectProbed probe capability).selectedRows =
        (state.selectProbed probe capability).selectedRows :=
  select_preferred _ _ _ _ _

theorem establishEagerCapabilityProofs_some (state : FlutterVmState registry)
    (hlength : state.rootCompatibleCandidates.length = state.abiCandidates.profiles.length) :
    state.establishEagerCapabilityProofs (some state.rootCompatibleCandidates) =
      establishEager (some state.rootCompatibleCandidates)
        (maskBits (kEagerRuntimeProofMask &&& state.capabilities)) state := by
  unfold establishEagerCapabilityProofs
  exact if_neg (not_not.mpr hlength)

/-- `ReproveCoreBinding` past the roots. -/
theorem reproveCoreBinding_rooted {probe : registry.Row → CandidateProbe} {selected : registry.Row}
    (hroots : (state.selectRoots probe).passed = true)
    (hselected : (state.selectRoots probe).representative = some selected)
    (hentries : (probe selected).passed = true ∧ (probe selected).enterEntry ≠ nullptr ∧
      (probe selected).exitEntry ≠ nullptr) :
    state.reproveCoreBinding probe =
      let rooted := state.rooted probe selected
      let rebound := rooted.rebind probe capabilityRegistry rooted.capabilityBindings
      let rebuilt := { rooted with capabilityBindings := rebound.1 }
      if rebound.2 = false then (rebuilt, false)
      else establishEager (some rooted.rootCompatibleCandidates)
        (maskBits (kEagerRuntimeProofMask &&& state.capabilities)) rebuilt := by
  have hok : ¬((state.selectRoots probe).passed = false ∨ (probe selected).passed = false ∨
      (probe selected).enterEntry = nullptr ∨ (probe selected).exitEntry = nullptr) := by
    rw [hroots, hentries.1]
    rintro (h | h | h | h)
    · cases h
    · cases h
    · exact hentries.2.1 h
    · exact hentries.2.2 h
  unfold reproveCoreBinding
  dsimp only
  rw [hselected]
  dsimp only
  rw [if_neg hok]
  split
  · rfl
  · exact establishEagerCapabilityProofs_some _ (length_map _)

theorem reproveCoreBinding_same (state : FlutterVmState registry)
    (probe : registry.Row → CandidateProbe) :
    SameIncarnation state (state.reproveCoreBinding probe).1 := by
  have hcleared : ∀ rows, SameIncarnation state { state with rootCompatibleCandidates := rows } :=
    fun _ => ⟨rfl, rfl, rfl, rfl, rfl, rfl, rfl, rfl⟩
  unfold reproveCoreBinding
  dsimp only
  split
  · exact hcleared _
  next selected hselected =>
    have hrooted : SameIncarnation state (state.rooted probe selected) :=
      ⟨rfl, rfl, rfl, rfl, rfl, rfl, rfl, rfl⟩
    split
    · exact hcleared _
    · split
      · exact hrooted.trans ⟨rfl, rfl, rfl, rfl, rfl, rfl, rfl, rfl⟩
      · refine hrooted.trans (SameIncarnation.trans ?_ establishEagerCapabilityProofs_same)
        exact ⟨rfl, rfl, rfl, rfl, rfl, rfl, rfl, rfl⟩

theorem maskBits_ne_none {bit : VmCapability} (h : bit ∈ maskBits mask) :
    bit ≠ kCapabilityNone := by
  rintro rfl
  have hbit := (mem_filter.mp h).2
  rw [show mask &&& kCapabilityNone = 0 from BitVec.and_zero] at hbit
  cases hbit

theorem reproveCoreBinding_roots {probe : registry.Row → CandidateProbe}
    (h : (state.reproveCoreBinding probe).2 = true) :
    ∃ selected, (state.selectRoots probe).passed = true ∧
      (state.selectRoots probe).representative = some selected ∧
      (probe selected).passed = true ∧ (probe selected).enterEntry ≠ nullptr ∧
      (probe selected).exitEntry ≠ nullptr := by
  unfold reproveCoreBinding at h
  dsimp only at h
  split at h
  · cases h
  next selected hselected =>
    split at h
    · cases h
    next hok =>
      simp only [not_or, Bool.not_eq_false] at hok
      obtain ⟨hroots, hpassed, henter, hexit⟩ := hok
      exact ⟨selected, hroots, hselected, hpassed, henter, hexit⟩

/-- The core binding is proved again exactly when it is reprovable. -/
theorem reproveCoreBinding_iff {probe : registry.Row → CandidateProbe} :
    (state.reproveCoreBinding probe).2 = true ↔ state.Reprovable probe := by
  have hbits : ∀ bit ∈ maskBits (kEagerRuntimeProofMask &&& state.capabilities),
      bit ≠ kCapabilityNone := fun bit hbit => maskBits_ne_none hbit
  constructor
  · intro h
    obtain ⟨selected, hroots, hselected, hentries⟩ := reproveCoreBinding_roots h
    rw [reproveCoreBinding_rooted hroots hselected hentries] at h
    dsimp only at h
    split at h
    · cases h
    next hrebound =>
      have hrebound := rebind_iff.mp (Bool.eq_true_of_not_eq_false hrebound)
      refine ⟨hroots, fun row hrow => ?_, fun capability hmem hrebuilds => ?_, fun bit hbit => ?_⟩
      · rw [hselected] at hrow
        obtain rfl := Option.some.inj hrow
        exact hentries
      · exact selectProbed_rooted.1.symm.trans (hrebound capability hmem hrebuilds)
      · have hbit := (establishEager_iff _ _ hbits).mp h bit hbit
        exact (select_preferred _ _ _ _ _).1.symm.trans hbit
  · intro h
    obtain ⟨selected, hselected⟩ : ∃ selected, (state.selectRoots probe).representative =
        some selected := by
      have hroots := h.roots
      simp only [DomainSetSelection.passed, Bool.and_eq_true] at hroots
      exact Option.isSome_iff_exists.mp hroots.1
    rw [reproveCoreBinding_rooted h.roots hselected (h.entries selected hselected)]
    dsimp only
    have hrebound : ((state.rooted probe selected).rebind probe capabilityRegistry
        (state.rooted probe selected).capabilityBindings).2 = true := by
      refine rebind_iff.mpr fun capability hmem hrebuilds => ?_
      exact selectProbed_rooted.1.trans (h.structural capability hmem hrebuilds)
    rw [if_neg (by rw [hrebound]; exact Bool.true_eq_false_eq_False),
      establishEager_iff _ _ hbits]
    intro bit hbit
    exact (select_preferred _ _ _ _ _).1.trans (h.eager bit hbit)

/-- A core binding proved again withdraws no evidence, and rebinds its capability when it is
structural. -/
theorem reproveCoreBinding_kind {probe : registry.Row → CandidateProbe}
    (hproved : (state.reproveCoreBinding probe).2 = true)
    (kind : DartPlantVmCapabilityEvidenceKind) :
    (state.reproveCoreBinding probe).1.hasVerifiedCapability kind.capability =
        state.hasVerifiedCapability kind.capability ∧
      ((state.rebuilds kind.capability = false ∧
          (state.reproveCoreBinding probe).1.capabilityBindings.findBinding kind.capability =
            state.capabilityBindings.findBinding kind.capability) ∨
        state.rebuilds kind.capability = true ∧ ∃ binding,
          (state.reproveCoreBinding probe).1.capabilityBindings.findBinding kind.capability =
            some binding ∧
          binding.selectedRows = (state.selectProbed probe kind.capability).selectedRows) := by
  obtain ⟨selected, hroots, hselected, hentries⟩ := reproveCoreBinding_roots hproved
  rw [reproveCoreBinding_rooted hroots hselected hentries] at hproved ⊢
  dsimp only at hproved ⊢
  split at hproved
  · cases hproved
  next hrebound =>
    rw [if_neg hrebound]
    have hkind := singleBit_kind kind
    have hnot : kind.capability ∉ maskBits (kEagerRuntimeProofMask &&& state.capabilities) :=
      fun hmem => mem_maskBits_of_and hmem (kind_not_eager kind)
    have hkeeps := establishEager_keeps hproved hkind hnot
    have hregistered : kind.capability ∈ capabilityRegistry := by
      cases kind <;> decide
    have hverified : { state.rooted probe selected with
        capabilityBindings := ((state.rooted probe selected).rebind probe capabilityRegistry
          (state.rooted probe selected).capabilityBindings).1 }.hasVerifiedCapability
            kind.capability = state.hasVerifiedCapability kind.capability := rfl
    refine ⟨hkeeps.verified.trans hverified, ?_⟩
    rw [hkeeps.binding]
    rcases rebind_binding (Bool.eq_true_of_not_eq_false hrebound) kind.capability with
      ⟨hkept, hnot⟩ | ⟨hrebuilds, binding, hfind, hrows⟩
    · refine Or.inl ⟨Bool.eq_false_of_not_eq_true fun h => hnot ⟨hregistered, h⟩, hkept⟩
    · exact Or.inr ⟨hrebuilds, binding, hfind, hrows.trans selectProbed_rooted.2⟩

end FlutterVmState

end DartPlant
