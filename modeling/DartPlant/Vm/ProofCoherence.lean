import DartPlant.Vm.ArtifactGate
import DartPlant.Vm.ProofSlots

/-! # The proof records of the backend stay coherent

A capability is never both verified and failed, its record says which it is, a verified one is bound
to the key of its record, and what it depends on is verified too.  A proof that fails withdraws its
own capability and never looks at the ones that depend on it; a proof that passes after one that
failed verifies again; and a revalidation of artifacts that are still valid rebinds capabilities
whose records it leaves alone.  `proofs_coherent` is about the runs in which none of that happens.
-/

namespace DartPlant
open Runs FlutterVmState CapabilityBindingSet List

/-! ## Revalidation, slot by slot -/

namespace FlutterVmState
variable {registry : ProfileRegistry} {state after : FlutterVmState registry}
  {capability : VmCapability} {probe : registry.Row → CandidateProbe}

/-- The capability is rebound among these: every one before it that is rebuilt selects one ABI, and
so does it. -/
def RebindsIn (state : FlutterVmState registry) (probe : registry.Row → CandidateProbe)
    (capabilities : List VmCapability) (capability : VmCapability) : Prop :=
  ∃ before after, capabilities = before ++ capability :: after ∧
    (∀ earlier ∈ before, state.rebuilds earlier = true →
      (state.selectProbed probe earlier).passed = true) ∧
    state.rebuilds capability = true ∧ (state.selectProbed probe capability).passed = true

/-- The eager proofs get to the capability: every one before it selects one ABI among the rows whose
probe passed. -/
def EagerIn (state : FlutterVmState registry) (rows : List Bool)
    (bits : List VmCapability) (capability : VmCapability) : Prop :=
  ∃ before after, bits = before ++ capability :: after ∧
    ∀ earlier ∈ before, (selectCapabilityAbiSet registry.rowAbiKey state.abiCandidates earlier
      rows).passed = true

theorem rebindsIn_cons {first : VmCapability} {rest : List VmCapability} :
    state.RebindsIn probe (first :: rest) capability ↔
      (capability = first ∧ state.rebuilds first = true ∧
          (state.selectProbed probe first).passed = true) ∨
        ((state.rebuilds first = true → (state.selectProbed probe first).passed = true) ∧
          state.RebindsIn probe rest capability) := by
  constructor
  · rintro ⟨before, after, hsplit, hbefore, hrebuilds, hpassed⟩
    cases before with
    | nil =>
      obtain ⟨rfl, -⟩ := List.cons.inj hsplit
      exact Or.inl ⟨rfl, hrebuilds, hpassed⟩
    | cons head before =>
      obtain ⟨rfl, htail⟩ := List.cons.inj hsplit
      rw [forall_mem_cons] at hbefore
      exact Or.inr ⟨hbefore.1, before, after, htail, hbefore.2, hrebuilds, hpassed⟩
  · rintro (⟨rfl, hrebuilds, hpassed⟩ | ⟨hfirst, before, after, rfl, hbefore, hrest⟩)
    · exact ⟨[], rest, rfl, fun _ h => absurd h not_mem_nil, hrebuilds, hpassed⟩
    · exact ⟨first :: before, after, rfl, forall_mem_cons.mpr ⟨hfirst, hbefore⟩, hrest⟩

theorem eagerIn_cons {rows : List Bool} {first : VmCapability} {rest : List VmCapability} :
    state.EagerIn rows (first :: rest) capability ↔
      capability = first ∨
        ((selectCapabilityAbiSet registry.rowAbiKey state.abiCandidates first rows).passed =
            true ∧ state.EagerIn rows rest capability) := by
  constructor
  · rintro ⟨before, after, hsplit, hbefore⟩
    cases before with
    | nil => exact Or.inl (List.cons.inj hsplit).1.symm
    | cons head before =>
      obtain ⟨rfl, htail⟩ := List.cons.inj hsplit
      rw [forall_mem_cons] at hbefore
      exact Or.inr ⟨hbefore.1, before, after, htail, hbefore.2⟩
  · rintro (rfl | ⟨hfirst, before, after, rfl, hbefore⟩)
    · exact ⟨[], rest, rfl, fun _ h => absurd h not_mem_nil⟩
    · exact ⟨first :: before, after, rfl, forall_mem_cons.mpr ⟨hfirst, hbefore⟩⟩

/-- The key a capability is bound to after a rebinding, whether or not it got to the end. -/
theorem rebind_key (state : FlutterVmState registry) (probe : registry.Row → CandidateProbe)
    (capability : VmCapability) (capabilities : List VmCapability)
    (bindings : CapabilityBindingSet registry.Row) :
    (¬ state.RebindsIn probe capabilities capability ∧
        (state.rebind probe capabilities bindings).1.findBinding capability =
          bindings.findBinding capability) ∨
      (state.RebindsIn probe capabilities capability ∧
        ((state.rebind probe capabilities bindings).1.findBinding capability).map
          (fun binding => binding.abiDomainKey) =
            some (state.selectProbed probe capability).abiDomainKey) := by
  induction capabilities generalizing bindings with
  | nil =>
    refine Or.inl ⟨?_, rfl⟩
    rintro ⟨before, after, hsplit, -⟩
    exact cons_ne_nil _ _ (append_eq_nil_iff.mp hsplit.symm).2
  | cons first rest ih =>
    rw [rebind, rebindsIn_cons]
    split
    next hskipped =>
      have hnot : ¬ state.rebuilds first = true := by
        rw [hskipped]
        exact Bool.false_ne_true
      rcases ih bindings with ⟨hrest, hkept⟩ | ⟨hrest, hkey⟩
      · refine Or.inl ⟨?_, hkept⟩
        rintro (⟨-, hrebuilds, -⟩ | ⟨-, hlater⟩)
        · exact hnot hrebuilds
        · exact hrest hlater
      · exact Or.inr ⟨Or.inr ⟨fun h => absurd h hnot, hrest⟩, hkey⟩
    next hrebuilds =>
      have hrebuilds := Bool.eq_true_of_not_eq_false hrebuilds
      split
      next hunbound =>
        have hfailed : ¬ (state.selectProbed probe first).passed = true := by
          intro hpassed
          obtain ⟨bound, hbound⟩ := bindSelection_isSome bindings (rebuilds_ne_none hrebuilds)
            hpassed
          rw [hunbound] at hbound
          cases hbound
        refine Or.inl ⟨?_, rfl⟩
        rintro (⟨-, -, hpassed⟩ | ⟨hpassed, -⟩)
        · exact hfailed hpassed
        · exact hfailed (hpassed hrebuilds)
      next bound hbound =>
        have hpassed := (bindSelection_spec hbound).1
        rcases ih bound with ⟨hrest, hkept⟩ | ⟨hrest, hkey⟩
        · by_cases hfirst : capability = first
          · subst hfirst
            obtain ⟨binding, hfind, hkey⟩ := bindSelection_key hbound
            refine Or.inr ⟨Or.inl ⟨rfl, hrebuilds, hpassed⟩, ?_⟩
            rw [hkept, hfind, Option.map_some, hkey]
          · refine Or.inl ⟨?_, hkept.trans ((bindSelection_spec hbound).2.2 capability hfirst)⟩
            rintro (⟨hsame, -⟩ | ⟨-, hlater⟩)
            · exact hfirst hsame
            · exact hrest hlater
        · exact Or.inr ⟨Or.inr ⟨fun _ => hpassed, hrest⟩, hkey⟩

/-- What the eager proofs do to a slot they get to: the record and the binding take a new key, or
the capability is withdrawn. -/
inductive RenewStep (capability : VmCapability) (state after : FlutterVmState registry) : Prop
  | renewed (key : String) (hkey : key ≠ "")
      (hslot : after.slot capability =
        { (state.slot capability).keyed capability key with key := some key })
  | withdrawn (record : CapabilityProofRecord)
      (hstate : record.state = .failedForIncarnation ∨ record.state = .ambiguous)
      (hgeneration : record.artifactGeneration = state.artifactGeneration)
      (hslot : after.slot capability = ⟨false, true, record, none⟩)

/-- A bit that passes is bound and keyed. -/
theorem slot_renewed {bindings : CapabilityBindingSet registry.Row}
    {selection : DomainSetSelection registry.Row}
    (hbound : state.capabilityBindings.bindSelection capability selection = some bindings) :
    ({ state with capabilityBindings := bindings }.setProofRecordKey capability
        selection.abiDomainKey).slot capability =
      { (state.slot capability).keyed capability selection.abiDomainKey with
        key := some selection.abiDomainKey } := by
  rw [slot_setKey, slot_bind hbound]
  rfl

theorem RenewStep.renew {next : FlutterVmState registry} {key : String}
    (h : RenewStep capability next after)
    (hgeneration : next.artifactGeneration = state.artifactGeneration)
    (hnext : next.slot capability =
      { (state.slot capability).keyed capability key with key := some key }) :
    RenewStep capability state after := by
  cases h with
  | renewed key hkey hslot =>
    refine .renewed key hkey (hslot.trans ?_)
    rw [hnext]
    rfl
  | withdrawn record hstate hstamp hslot =>
    exact .withdrawn record hstate (hstamp.trans hgeneration) hslot

theorem RenewStep.keep {next : FlutterVmState registry} (h : RenewStep capability next after)
    (hgeneration : next.artifactGeneration = state.artifactGeneration)
    (hnext : next.slot capability = state.slot capability) :
    RenewStep capability state after := by
  cases h with
  | renewed key hkey hslot => exact .renewed key hkey (hnext ▸ hslot)
  | withdrawn record hstate hstamp hslot =>
    exact .withdrawn record hstate (hstamp.trans hgeneration) hslot

theorem establishEager_slots (state : FlutterVmState registry) (rows : List Bool)
    {bits : List VmCapability} (hcapability : SingleBit capability)
    (hbits : ∀ bit ∈ bits, SingleBit bit) :
    (¬ state.EagerIn rows bits capability ∧
        (establishEager (some rows) bits state).1.slot capability = state.slot capability) ∨
      (state.EagerIn rows bits capability ∧
        RenewStep capability state (establishEager (some rows) bits state).1) := by
  induction bits generalizing state with
  | nil =>
    refine Or.inl ⟨?_, rfl⟩
    rintro ⟨before, after, hsplit, -⟩
    exact cons_ne_nil _ _ (append_eq_nil_iff.mp hsplit.symm).2
  | cons bit bits ih =>
    rw [forall_mem_cons] at hbits
    rw [eagerIn_cons]
    by_cases hpassed : (selectCapabilityAbiSet registry.rowAbiKey state.abiCandidates bit
        rows).passed = true
    · obtain ⟨bindings, hbound⟩ := bindSelection_isSome state.capabilityBindings hbits.1.2 hpassed
      obtain ⟨-, ⟨binding, -, hselected, -⟩, -⟩ := bindSelection_spec hbound
      have hkey := select_key_ne hpassed
      have hstep : establishEager (some rows) (bit :: bits) state =
          establishEager (some rows) bits
            ({ state with capabilityBindings := bindings }.setProofRecordKey bit
              (selectCapabilityAbiSet registry.rowAbiKey state.abiCandidates bit
                rows).abiDomainKey) := by
        rw [establishEager, if_neg (by rw [hpassed]; exact Bool.noConfusion), hselected, hbound,
          ← setProofRecordDomains_eq hkey]
      rw [hstep]
      have hrest := ih ({ state with capabilityBindings := bindings }.setProofRecordKey bit
        (selectCapabilityAbiSet registry.rowAbiKey state.abiCandidates bit rows).abiDomainKey)
        hbits.2
      by_cases hfirst : capability = bit
      · subst hfirst
        refine Or.inr ⟨Or.inl rfl, ?_⟩
        rcases hrest with ⟨-, hkept⟩ | ⟨-, hrenewed⟩
        · exact .renewed _ hkey (hkept.trans (slot_renewed hbound))
        · exact hrenewed.renew rfl (slot_renewed hbound)
      · have hkept : ∀ key, ({ state with capabilityBindings := bindings }.setProofRecordKey bit
            key).slot capability = state.slot capability := fun key =>
          (touches_keyed hbound).others capability hcapability hfirst
        rcases hrest with ⟨hnot, hslot⟩ | ⟨heager, hrenewed⟩
        · refine Or.inl ⟨?_, hslot.trans (hkept _)⟩
          rintro (hsame | ⟨-, hlater⟩)
          · exact hfirst hsame
          · exact hnot hlater
        · exact Or.inr ⟨Or.inr ⟨hpassed, heager⟩, hrenewed.keep rfl (hkept _)⟩
    · have hfailed : ∃ proof, (proof = .failedForIncarnation ∨ proof = .ambiguous) ∧
          (establishEager (some rows) (bit :: bits) state).1 =
            state.markCapabilityFailed bit proof := by
        rw [establishEager, if_pos (Bool.eq_false_of_not_eq_true hpassed)]
        dsimp only
        split
        · exact ⟨.ambiguous, Or.inr rfl, rfl⟩
        · exact ⟨.failedForIncarnation, Or.inl rfl, rfl⟩
      obtain ⟨proof, hproof, hstep⟩ := hfailed
      rw [hstep]
      by_cases hfirst : capability = bit
      · subst hfirst
        exact Or.inr ⟨Or.inl rfl, .withdrawn (state.stampRecord capability proof) hproof rfl
          (slot_markFailed hcapability (and_self_ne hcapability))⟩
      · refine Or.inl ⟨?_, (touches_markFailed hbits.1).others capability hcapability hfirst⟩
        rintro (hsame | ⟨hfirstPassed, -⟩)
        · exact hfirst hsame
        · exact hpassed hfirstPassed

/-- Eager proofs that get to the end mark nothing. -/
theorem establishEager_marks {rows : List Bool} {bits : List VmCapability}
    (hbits : ∀ bit ∈ bits, bit ≠ kCapabilityNone)
    (hestablished : (establishEager (some rows) bits state).2 = true) :
    (establishEager (some rows) bits state).1.failedCapabilities = state.failedCapabilities := by
  induction bits generalizing state with
  | nil => rfl
  | cons bit bits ih =>
    rw [forall_mem_cons] at hbits
    rw [establishEager] at hestablished ⊢
    split
    next hfailed =>
      rw [if_pos hfailed] at hestablished
      cases hestablished
    next hpassed =>
      rw [if_neg hpassed] at hestablished
      obtain ⟨bindings, hbound⟩ := bindSelection_isSome state.capabilityBindings hbits.1
        (Bool.eq_true_of_not_eq_false hpassed)
      obtain ⟨-, ⟨binding, -, hselected, -⟩, -⟩ := bindSelection_spec hbound
      rw [hselected, hbound] at hestablished ⊢
      exact ih hbits.2 hestablished

/-! ### `ReproveCoreBinding` -/

/-- The roots select one ABI whose row has both safepoint entries. -/
def RootsPass (state : FlutterVmState registry) (probe : registry.Row → CandidateProbe) : Prop :=
  (state.selectRoots probe).passed = true ∧
    ∀ row, (state.selectRoots probe).representative = some row →
      (probe row).passed = true ∧ (probe row).enterEntry ≠ nullptr ∧
        (probe row).exitEntry ≠ nullptr

/-- Every structural capability selects one ABI. -/
def StructuralPass (state : FlutterVmState registry)
    (probe : registry.Row → CandidateProbe) : Prop :=
  ∀ capability ∈ capabilityRegistry, state.rebuilds capability = true →
    (state.selectProbed probe capability).passed = true

/-- The eager capabilities of the adapter. -/
def eagerBits (state : FlutterVmState registry) : List VmCapability :=
  maskBits (kEagerRuntimeProofMask &&& state.capabilities)

/-- The eager proofs of a revalidation get to the capability. -/
def RenewsEager (state : FlutterVmState registry) (probe : registry.Row → CandidateProbe)
    (capability : VmCapability) : Prop :=
  state.StructuralPass probe ∧
    state.EagerIn (state.abiCandidates.profiles.map fun row => (probe row).passed)
      state.eagerBits capability

/-- The capability gets a new binding and its record does not. -/
def RebindsOnly (state : FlutterVmState registry) (probe : registry.Row → CandidateProbe)
    (capability : VmCapability) : Prop :=
  state.RebindsIn probe capabilityRegistry capability ∧ ¬ state.RenewsEager probe capability

/-- What a revalidation does to a slot. -/
inductive ReproveStep (probe : registry.Row → CandidateProbe) (capability : VmCapability)
    (state after : FlutterVmState registry) : Prop
  | kept (hnot : ¬(state.RootsPass probe ∧ state.RenewsEager probe capability))
      (hslot : after.slot capability = state.slot capability)
  | rebound (hroots : state.RootsPass probe) (hrebinds : state.RebindsOnly probe capability)
      (hslot : after.slot capability = { state.slot capability with
        key := some (state.selectProbed probe capability).abiDomainKey })
  | renewed (heager : capability ∈ state.eagerBits) (hrenewed : RenewStep capability state after)

theorem rebindsIn_rooted {selected : registry.Row} {capabilities : List VmCapability} :
    (state.rooted probe selected).RebindsIn probe capabilities capability ↔
      state.RebindsIn probe capabilities capability := by
  have hpassed : ∀ other, ((state.rooted probe selected).selectProbed probe other).passed =
      (state.selectProbed probe other).passed := fun other => selectProbed_rooted.1
  have hrebuilds : ∀ other, (state.rooted probe selected).rebuilds other = state.rebuilds other :=
    fun other => rfl
  simp only [RebindsIn, hpassed, hrebuilds]

theorem selectProbed_rooted_key {selected : registry.Row} :
    ((state.rooted probe selected).selectProbed probe capability).abiDomainKey =
      (state.selectProbed probe capability).abiDomainKey := by
  unfold selectProbed selectCapabilityAbiSet rooted
  dsimp only
  split
  · rfl
  split
  · rfl
  · rfl

/-- The rebinding of a revalidation past the roots. -/
theorem rebind_slots (state : FlutterVmState registry) (probe : registry.Row → CandidateProbe)
    (capability : VmCapability) (selected : registry.Row) :
    let rooted := state.rooted probe selected
    let rebuilt : FlutterVmState registry := { rooted with
      capabilityBindings := (rooted.rebind probe capabilityRegistry rooted.capabilityBindings).1 }
    (¬ state.RebindsIn probe capabilityRegistry capability ∧
        rebuilt.slot capability = state.slot capability) ∨
      (state.RebindsIn probe capabilityRegistry capability ∧
        rebuilt.slot capability = { state.slot capability with
          key := some (state.selectProbed probe capability).abiDomainKey }) := by
  have hiff : (state.rooted probe selected).RebindsIn probe capabilityRegistry capability ↔
      state.RebindsIn probe capabilityRegistry capability := rebindsIn_rooted
  have hprobed : ((state.rooted probe selected).selectProbed probe capability).abiDomainKey =
      (state.selectProbed probe capability).abiDomainKey := selectProbed_rooted_key
  have hrebind := rebind_key (state.rooted probe selected) probe capability capabilityRegistry
    state.capabilityBindings
  rw [hiff, hprobed] at hrebind
  rcases hrebind with ⟨hnot, hkept⟩ | ⟨hrebinds, hkey⟩
  · refine Or.inl ⟨hnot, ?_⟩
    exact congrArg (fun found => CapabilitySlot.mk _ _ _ (Option.map _ found)) hkept
  · exact Or.inr ⟨hrebinds, congrArg (CapabilitySlot.mk _ _ _) hkey⟩

theorem eagerIn_mem {rows : List Bool} {bits : List VmCapability}
    (h : state.EagerIn rows bits capability) : capability ∈ bits := by
  obtain ⟨before, after, rfl, -⟩ := h
  exact mem_append_right _ mem_cons_self

theorem reproveCoreBinding_slots (hcapability : SingleBit capability) :
    ReproveStep probe capability state (state.reproveCoreBinding probe).1 := by
  by_cases hroots : state.RootsPass probe
  · have hsome := hroots.1
    simp only [DomainSetSelection.passed, Bool.and_eq_true] at hsome
    obtain ⟨selected, hselected⟩ := Option.isSome_iff_exists.mp hsome.1
    rw [reproveCoreBinding_rooted hroots.1 hselected (hroots.2 selected hselected)]
    have hrebuilt := rebind_slots state probe capability selected
    dsimp only at hrebuilt ⊢
    split
    next hincomplete =>
      have hstructural : ¬ state.StructuralPass probe := by
        intro hpass
        have hcomplete : ((state.rooted probe selected).rebind probe capabilityRegistry
            (state.rooted probe selected).capabilityBindings).2 = true :=
          rebind_iff.mpr fun other hother hrebuilds =>
            selectProbed_rooted.1.trans (hpass other hother hrebuilds)
        rw [hincomplete] at hcomplete
        cases hcomplete
      rcases hrebuilt with ⟨-, hslot⟩ | ⟨hrebinds, hslot⟩
      · exact .kept (fun hboth => hstructural hboth.2.1) hslot
      · exact .rebound hroots ⟨hrebinds, fun hboth => hstructural hboth.1⟩ hslot
    next hcomplete =>
      have hpassed : ∀ other, (selectCapabilityAbiSet registry.rowAbiKey
          (state.rooted probe selected).abiCandidates other
            (state.rooted probe selected).rootCompatibleCandidates).passed =
          (selectCapabilityAbiSet registry.rowAbiKey state.abiCandidates other
            (state.abiCandidates.profiles.map fun row => (probe row).passed)).passed :=
        fun other => (select_preferred _ _ _ _ _).1
      generalize hrooted : ({ state.rooted probe selected with
        capabilityBindings := ((state.rooted probe selected).rebind probe capabilityRegistry
          (state.rooted probe selected).capabilityBindings).1 } :
            FlutterVmState registry) = rebuilt at hrebuilt ⊢
      have heagerIff : rebuilt.EagerIn (state.rooted probe selected).rootCompatibleCandidates
          state.eagerBits capability ↔
            state.EagerIn (state.abiCandidates.profiles.map fun row => (probe row).passed)
              state.eagerBits capability := by
        subst hrooted
        simp only [EagerIn, hpassed]
      have hbits : ∀ bit ∈ state.eagerBits, SingleBit bit := fun bit hbit =>
        mem_maskBits_single hbit
      rcases establishEager_slots rebuilt (state.rooted probe selected).rootCompatibleCandidates
          hcapability hbits with
        ⟨hnot, hkept⟩ | ⟨heager, hrenewed⟩
      · rw [heagerIff] at hnot
        rcases hrebuilt with ⟨-, hslot⟩ | ⟨hrebinds, hslot⟩
        · exact .kept (fun hboth => hnot hboth.2.2) (hkept.trans hslot)
        · exact .rebound hroots ⟨hrebinds, fun hboth => hnot hboth.2⟩ (hkept.trans hslot)
      · refine .renewed (eagerIn_mem heager) ?_
        have hgeneration : rebuilt.artifactGeneration = state.artifactGeneration := by
          subst hrooted
          rfl
        rcases hrebuilt with ⟨-, hslot⟩ | ⟨-, hslot⟩
        · exact hrenewed.keep hgeneration hslot
        · cases hrenewed with
          | renewed key hkey hlast =>
            refine .renewed key hkey (hlast.trans ?_)
            rw [hslot]
            rfl
          | withdrawn record hstate hstamp hlast =>
            exact .withdrawn record hstate (hstamp.trans hgeneration) hlast
  · have hkept : (state.reproveCoreBinding probe).1.slot capability = state.slot capability := by
      unfold reproveCoreBinding
      dsimp only
      split
      · rfl
      next selected hselected =>
        split
        · rfl
        next hok =>
          simp only [not_or, Bool.not_eq_false] at hok
          refine absurd ⟨hok.1, fun row hrow => ?_⟩ hroots
          rw [hselected] at hrow
          obtain rfl := Option.some.inj hrow
          exact hok.2
    exact .kept (fun hboth => hroots hboth.1) hkept

theorem reproveCoreBinding_marks (hproved : (state.reproveCoreBinding probe).2 = true) :
    (state.reproveCoreBinding probe).1.failedCapabilities = state.failedCapabilities := by
  obtain ⟨selected, hroots, hselected, hentries⟩ := reproveCoreBinding_roots hproved
  rw [reproveCoreBinding_rooted hroots hselected hentries] at hproved ⊢
  dsimp only at hproved ⊢
  split at hproved
  · cases hproved
  next hcomplete =>
    rw [if_neg hcomplete]
    exact establishEager_marks (fun bit hbit => maskBits_ne_none hbit) hproved

/-- Every eager capability is renewed by a revalidation that succeeds. -/
theorem renewsEager_of_proved (hproved : (state.reproveCoreBinding probe).2 = true)
    (heager : capability ∈ state.eagerBits) :
    state.RootsPass probe ∧ state.RenewsEager probe capability := by
  have hreprovable := reproveCoreBinding_iff.mp hproved
  obtain ⟨before, after, hsplit⟩ := append_of_mem heager
  refine ⟨⟨hreprovable.roots, hreprovable.entries⟩, hreprovable.structural, before, after, hsplit,
    fun earlier hearlier => hreprovable.eager earlier ?_⟩
  show earlier ∈ state.eagerBits
  rw [hsplit]
  exact mem_append_left _ hearlier

/-! ## Coherence -/

/-- What a capability depends on. -/
def capabilityDependencies (capability : VmCapability) : List VmCapability :=
  if capability = kCapabilityAotEntryLayout then [kCapabilityFunctionCodeLayout]
  else if capability = kCapabilityClosureCallLayout then
    [kCapabilityInvocationCallAbi, kCapabilityArgumentsDescriptorLayout,
      kCapabilityFunctionTypeLayout]
  else []

/-- The proof records are coherent and closed under dependencies. -/
structure ProofsCoherent (state : FlutterVmState registry) : Prop where
  exclusive : ∀ capability, SingleBit capability →
    state.verifiedCapabilities &&& capability = 0 ∨ state.failedCapabilities &&& capability = 0
  failed : ∀ capability, SingleBit capability →
    (state.hasFailedCapability capability = true ↔
      (state.proofRecords capability).state = .failedForIncarnation ∨
        (state.proofRecords capability).state = .ambiguous)
  verified : ∀ capability, SingleBit capability → state.hasVerifiedCapability capability = true →
    (state.proofRecords capability).state = .verified ∧
      (state.proofRecords capability).artifactGeneration = state.artifactGeneration ∧
      (state.proofRecords capability).isolateGeneration = state.identity.generation ∧
      (state.proofRecords capability).isolateGroup = state.identity.isolateGroup ∧
      (state.proofRecords capability).engineLoadBias = state.boundEngineLoadBias
  bound : ∀ capability, SingleBit capability → capabilityDomains capability ≠ 0 →
    state.hasVerifiedCapability capability = true →
    ∃ binding, state.capabilityBindings.findBinding capability = some binding ∧
      binding.abiDomainKey = (state.proofRecords capability).abiDomainKey
  dependencies : ∀ capability, ∀ dependency ∈ capabilityDependencies capability,
    state.hasVerifiedCapability capability = true →
    state.hasVerifiedCapability dependency = true

/-- One slot, with the generation its record was stamped in. -/
structure SlotCoherent (capability : VmCapability) (state : FlutterVmState registry) : Prop where
  exclusive : (state.slot capability).verified = true → (state.slot capability).failed = false
  failed : (state.slot capability).failed = true ↔
    (state.slot capability).record.state = .failedForIncarnation ∨
      (state.slot capability).record.state = .ambiguous
  bound : capabilityDomains capability ≠ 0 → state.hasVerifiedCapability capability = true →
    (state.slot capability).key = some (state.slot capability).record.abiDomainKey
  stamped : (state.slot capability).record.artifactGeneration.toNat ≤
    state.artifactGeneration.toNat

/-- The invariant behind it. -/
structure Coherent (state : FlutterVmState registry) : Prop where
  slots : ∀ capability, SingleBit capability → SlotCoherent capability state
  keyed : state.BindingsKeyed
  dependencies : ∀ capability, ∀ dependency ∈ capabilityDependencies capability,
    state.hasVerifiedCapability capability = true →
    state.hasVerifiedCapability dependency = true
  lifecycle : (state.slot kCapabilityArtifactLifecycle).failed = false

/-- A capability that failed stays so within the incarnation. -/
def KeepsFailed (state after : FlutterVmState registry) : Prop :=
  ∀ capability, SingleBit capability → (state.slot capability).failed = true →
    after.artifactGeneration = state.artifactGeneration → (after.slot capability).failed = true

theorem dependency_single (state : FlutterVmState registry) {dependency : VmCapability}
    (h : dependency ∈ capabilityDependencies capability) :
    SingleBit capability ∧ SingleBit dependency ∧ dependency ≠ capability ∧
      capability ∉ state.eagerBits ∧ dependency ∉ state.eagerBits ∧
      kCapabilityArtifactLifecycle ≠ capability ∧ kCapabilityArtifactLifecycle ≠ dependency := by
  have hout : ∀ kind : DartPlantVmCapabilityEvidenceKind, kind.capability ∉ state.eagerBits :=
    fun kind hmem => mem_maskBits_of_and hmem (kind_not_eager kind)
  unfold capabilityDependencies at h
  split at h
  next haot =>
    subst haot
    obtain rfl := mem_singleton.mp h
    exact ⟨singleBit_kind .aotEntry, singleBit_kind .functionCode, by decide, hout .aotEntry,
      hout .functionCode, by decide, by decide⟩
  · split at h
    next hclosure =>
      subst hclosure
      have hclosureOut := hout .closureCall
      simp only [mem_cons, not_mem_nil, or_false] at h
      rcases h with rfl | rfl | rfl
      · exact ⟨singleBit_kind .closureCall, singleBit_kind .invocationCallAbi, by decide,
          hclosureOut, hout .invocationCallAbi, by decide, by decide⟩
      · exact ⟨singleBit_kind .closureCall, singleBit_kind .argumentsDescriptor, by decide,
          hclosureOut, hout .argumentsDescriptor, by decide, by decide⟩
      · exact ⟨singleBit_kind .closureCall, singleBit_kind .functionType, by decide,
          hclosureOut, hout .functionType, by decide, by decide⟩
    · exact absurd h not_mem_nil

theorem dependenciesVerified_iff :
    state.capabilityDependenciesVerified capability = true ↔
      ∀ dependency ∈ capabilityDependencies capability,
        state.hasVerifiedCapability dependency = true := by
  unfold capabilityDependenciesVerified capabilityDependencies
  split
  · rw [forall_mem_singleton]
  · split
    · simp only [Bool.and_eq_true, forall_mem_cons, not_mem_nil, IsEmpty.forall_iff,
        implies_true, and_true, and_assoc]
    · exact ⟨fun _ _ h => absurd h not_mem_nil, fun _ => rfl⟩

theorem Coherent.proofsCoherent (h : state.Coherent) : state.ProofsCoherent where
  exclusive := by
    intro capability hsingle
    have hslot := h.slots capability hsingle
    by_cases hverified : state.verifiedCapabilities &&& capability = 0
    · exact Or.inl hverified
    · refine Or.inr ?_
      have hset : (state.slot capability).verified = true :=
        beq_iff_eq.mpr (hsingle.and_eq hverified)
      exact bne_eq_false_iff_eq.mp (hslot.exclusive hset)
  failed := fun capability hsingle => (h.slots capability hsingle).failed
  verified := by
    intro capability hsingle hverified
    rw [hasVerified_slot hsingle, Bool.and_eq_true] at hverified
    have hcurrent := hverified.2
    simp only [recordCurrent, Bool.and_eq_true, beq_iff_eq] at hcurrent
    obtain ⟨⟨⟨⟨⟨-, hstate⟩, hartifact⟩, hisolate⟩, hgroup⟩, hengine⟩ := hcurrent
    exact ⟨hstate, hartifact, hisolate, hgroup, hengine⟩
  bound := by
    intro capability hsingle hdomains hverified
    have hkey := (h.slots capability hsingle).bound hdomains hverified
    obtain ⟨binding, hfind, hsame⟩ := Option.map_eq_some_iff.mp hkey
    exact ⟨binding, hfind, hsame⟩
  dependencies := h.dependencies

/-! ### Proofs -/

theorem slotCoherent_kept (h : SlotCoherent capability state) (hsingle : SingleBit capability)
    (hstamp : SameStamp state after) (hslot : after.slot capability = state.slot capability) :
    SlotCoherent capability after where
  exclusive := hslot ▸ h.exclusive
  failed := hslot ▸ h.failed
  bound := by
    rw [hasVerified_of_slot hsingle hstamp hslot, hslot]
    exact h.bound
  stamped := by
    rw [hslot, hstamp.generation]
    exact h.stamped

theorem not_verified_of_slot (hsingle : SingleBit capability)
    (hslot : (state.slot capability).verified = false) :
    state.hasVerifiedCapability capability = false := by
  rw [hasVerified_slot hsingle, hslot, Bool.false_and]

theorem slotCoherent_withdrawn {record : CapabilityProofRecord} {generation : BitVec 64}
    (hsingle : SingleBit capability)
    (hstate : record.state = .failedForIncarnation ∨ record.state = .ambiguous)
    (hrecord : record.artifactGeneration = generation)
    (hgeneration : after.artifactGeneration = generation)
    (hslot : after.slot capability = ⟨false, true, record, none⟩) :
    SlotCoherent capability after where
  exclusive := by
    rw [hslot]
    exact fun h => Bool.noConfusion h
  failed := by
    rw [hslot]
    exact iff_of_true rfl hstate
  bound := by
    rw [not_verified_of_slot hsingle (hslot ▸ rfl)]
    exact fun _ h => Bool.noConfusion h
  stamped := by
    rw [hslot, hgeneration, ← hrecord]

theorem slotCoherent_committed {record : CapabilityProofRecord}
    (hcurrent : after.recordCurrent capability record = true)
    (hslot : after.slot capability = ⟨true, false, record, some record.abiDomainKey⟩) :
    SlotCoherent capability after := by
  simp only [recordCurrent, Bool.and_eq_true, beq_iff_eq] at hcurrent
  obtain ⟨⟨⟨⟨⟨-, hstate⟩, hgeneration⟩, -⟩, -⟩, -⟩ := hcurrent
  refine ⟨fun _ => ?_, ?_, fun _ _ => ?_, ?_⟩
  · rw [hslot]
  · rw [hslot, hstate]
    refine iff_of_false Bool.false_ne_true ?_
    rintro (hfailed | hambiguous)
    · cases hfailed
    · cases hambiguous
  · rw [hslot]
  · rw [hslot, hgeneration]

theorem slotCoherent_step (h : SlotCoherent capability state) (hsingle : SingleBit capability)
    (hsame : SameIncarnation state after) (hstep : SlotStep capability state after) :
    SlotCoherent capability after := by
  cases hstep with
  | kept hslot => exact slotCoherent_kept h hsingle hsame.stamp hslot
  | withdrawn record hstate hgeneration hslot =>
    exact slotCoherent_withdrawn hsingle hstate hgeneration hsame.generation hslot
  | committed record hcurrent hkey hslot =>
    rw [← hsame.stamp.recordCurrent] at hcurrent
    exact slotCoherent_committed hcurrent hslot

/-- What a proof must not do: withdraw what a verified capability depends on, verify without what it
depends on itself, or verify what failed. -/
structure SoundProof (capability : VmCapability) (state after : FlutterVmState registry) :
    Prop where
  dependents : ∀ dependent, capability ∈ capabilityDependencies dependent →
    state.hasVerifiedCapability dependent = true →
    state.hasVerifiedCapability capability = true →
    after.hasVerifiedCapability capability = true
  dependencies : after.hasVerifiedCapability capability = true →
    state.hasVerifiedCapability capability = false →
    ∀ dependency ∈ capabilityDependencies capability, state.hasVerifiedCapability dependency = true
  failed : (state.slot capability).failed = true → (after.slot capability).failed = true

theorem Coherent.proof (h : state.Coherent) (hsingle : SingleBit capability)
    (hlifecycle : kCapabilityArtifactLifecycle ≠ capability)
    (htouches : Touches capability state after) (hstep : SlotStep capability state after)
    (hsound : SoundProof capability state after) : after.Coherent ∧ KeepsFailed state after := by
  have hothers : ∀ other, SingleBit other → other ≠ capability →
      after.hasVerifiedCapability other = state.hasVerifiedCapability other :=
    fun other hother hne =>
      hasVerified_of_slot hother htouches.same.stamp (htouches.others other hother hne)
  refine ⟨⟨fun other hother => ?_, fun other hother key hkey => ?_,
    fun dependent dependency hmem hverified => ?_, ?_⟩, fun other hother hfailed _ => ?_⟩
  · by_cases hsame : other = capability
    · subst hsame
      exact slotCoherent_step (h.slots other hother) hother htouches.same hstep
    · exact slotCoherent_kept (h.slots other hother) hother htouches.same.stamp
        (htouches.others other hother hsame)
  · by_cases hsame : other = capability
    · subst hsame
      cases hstep with
      | kept hslot => exact h.keyed other hother key (hslot ▸ hkey)
      | withdrawn record hstate hgeneration hslot =>
        rw [hslot] at hkey
        cases hkey
      | committed record hcurrent hrecord hslot =>
        rw [hslot] at hkey
        obtain rfl := Option.some.inj hkey
        exact hrecord
    · rw [htouches.others other hother hsame] at hkey
      exact h.keyed other hother key hkey
  · obtain ⟨hdependent, hdependency, hne, -⟩ := dependency_single state hmem
    by_cases hsame : dependent = capability
    · subst hsame
      rw [hothers dependency hdependency hne]
      by_cases hwas : state.hasVerifiedCapability dependent = true
      · exact h.dependencies dependent dependency hmem hwas
      · exact hsound.dependencies hverified (Bool.eq_false_of_not_eq_true hwas) dependency hmem
    · rw [hothers dependent hdependent hsame] at hverified
      have hwas := h.dependencies dependent dependency hmem hverified
      by_cases hsameDependency : dependency = capability
      · subst hsameDependency
        exact hsound.dependents dependent hmem hverified hwas
      · rw [hothers dependency hdependency hsameDependency]
        exact hwas
  · rw [htouches.others kCapabilityArtifactLifecycle ⟨by decide, by decide⟩ hlifecycle]
    exact h.lifecycle
  · by_cases hsame : other = capability
    · subst hsame
      exact hsound.failed hfailed
    · rw [htouches.others other hother hsame]
      exact hfailed

theorem soundProof_isolated (hnone : capabilityDependencies capability = [])
    (hnot : ∀ dependent, capability ∉ capabilityDependencies dependent)
    (hfailed : (state.slot capability).failed = true → after = state) :
    SoundProof capability state after where
  dependents := fun dependent hmem => absurd hmem (hnot dependent)
  dependencies := by
    intro _ _ dependency hmem
    rw [hnone] at hmem
    exact absurd hmem not_mem_nil
  failed := by
    intro h
    rw [hfailed h]
    exact h

/-- Only evidence is depended on. -/
theorem dependency_kind {dependent dependency : VmCapability}
    (h : dependency ∈ capabilityDependencies dependent) :
    ∃ kind : DartPlantVmCapabilityEvidenceKind, dependency = kind.capability := by
  unfold capabilityDependencies at h
  split at h
  · exact ⟨.functionCode, mem_singleton.mp h⟩
  · split at h
    · simp only [mem_cons, not_mem_nil, or_false] at h
      rcases h with rfl | rfl | rfl
      · exact ⟨.invocationCallAbi, rfl⟩
      · exact ⟨.argumentsDescriptor, rfl⟩
      · exact ⟨.functionType, rfl⟩
    · exact absurd h not_mem_nil

theorem kind_ne {mask : BitVec 64} (hmask : ∀ kind : DartPlantVmCapabilityEvidenceKind,
    kind.capability ≠ mask) (dependent : VmCapability) :
    mask ∉ capabilityDependencies dependent := by
  intro hmem
  obtain ⟨kind, hkind⟩ := dependency_kind hmem
  exact hmask kind hkind.symm

theorem Coherent.transition (h : state.Coherent)
    (hslots : Touches kCapabilityGeneratedTransitionLayout state after ∧
      SlotStep kCapabilityGeneratedTransitionLayout state after ∧
      ((state.slot kCapabilityGeneratedTransitionLayout).failed = true → after = state)) :
    after.Coherent ∧ KeepsFailed state after :=
  h.proof singleBit_transition (by decide) hslots.1 hslots.2.1
    (soundProof_isolated (by decide) (kind_ne fun kind => by cases kind <;> decide) hslots.2.2)

theorem Coherent.exception (h : state.Coherent)
    (hslots : Touches kCapabilityExceptionLayout state after ∧
      SlotStep kCapabilityExceptionLayout state after ∧
      ((state.slot kCapabilityExceptionLayout).failed = true → after = state)) :
    after.Coherent ∧ KeepsFailed state after :=
  h.proof singleBit_exception (by decide) hslots.1 hslots.2.1
    (soundProof_isolated (by decide) (kind_ne fun kind => by cases kind <;> decide) hslots.2.2)

theorem Coherent.typeArguments (h : state.Coherent)
    (hslots : Touches kCapabilityTypeArgumentsLayout state after ∧
      SlotStep kCapabilityTypeArgumentsLayout state after ∧
      ((state.slot kCapabilityTypeArgumentsLayout).failed = true → after = state)) :
    after.Coherent ∧ KeepsFailed state after :=
  h.proof singleBit_typeArguments (by decide) hslots.1 hslots.2.1
    (soundProof_isolated (by decide) (kind_ne fun kind => by cases kind <;> decide) hslots.2.2)

/-! ### Evidence -/

section Evidence
variable {evidence : DartPlantVmCapabilityEvidence} {reading : EvidenceReading registry.Row}

/-- Evidence that is admitted has what its capability depends on. -/
theorem admitsEvidence_dependencies {kind : DartPlantVmCapabilityEvidenceKind}
    (h : state.admitsEvidence kind = true) :
    ∀ dependency ∈ capabilityDependencies kind.capability,
      state.hasVerifiedCapability dependency = true := by
  cases kind with
  | exceptionBridge => exact fun _ hmem => absurd hmem not_mem_nil
  | functionType => exact fun _ hmem => absurd hmem not_mem_nil
  | _ => exact dependenciesVerified_iff.mp h

/-- A receipt that is not rejected is of a capability that did not fail, with what it depends on. -/
theorem receipt_admitted (h : state.receiptRejected evidence = false) :
    state.hasFailedCapability evidence.kind.capability = false ∧
      ∀ dependency ∈ capabilityDependencies evidence.kind.capability,
        state.hasVerifiedCapability dependency = true := by
  simp only [receiptRejected, Bool.or_eq_false_iff, Bool.not_eq_false'] at h
  obtain ⟨⟨⟨-, hfailed⟩, hdependencies⟩, -⟩ := h
  exact ⟨hfailed, dependenciesVerified_iff.mp hdependencies⟩

/-- A proof is sound where it does not withdraw what a verified capability depends on, and does not
pass after one that failed. -/
theorem proveEvidence_sound
    (hkeeps : (evidence.observationReceipt || evidence.semanticReceipt) = false →
      (state.EvidenceHolds evidence.kind reading →
          state.hasFailedCapability evidence.kind.capability = false) ∧
        (¬ state.EvidenceHolds evidence.kind reading → ∀ dependent,
          evidence.kind.capability ∈ capabilityDependencies dependent →
          state.hasVerifiedCapability dependent = false))
    (hstep : SlotStep evidence.kind.capability state
      (state.proveEvidence evidence reading).1) :
    SoundProof evidence.kind.capability state (state.proveEvidence evidence reading).1 := by
  have hcommitted : state.hasFailedCapability evidence.kind.capability = false →
      (∀ dependency ∈ capabilityDependencies evidence.kind.capability,
        state.hasVerifiedCapability dependency = true) →
      (state.proveEvidence evidence reading).1.hasVerifiedCapability evidence.kind.capability =
        true →
      SoundProof evidence.kind.capability state (state.proveEvidence evidence reading).1 := by
    intro hhealthy hdependencies hverified
    refine ⟨fun _ _ _ _ => hverified, fun _ _ => hdependencies, fun hfailed => ?_⟩
    rw [show (state.slot evidence.kind.capability).failed = false from hhealthy] at hfailed
    cases hfailed
  cases hreceipt : evidence.observationReceipt || evidence.semanticReceipt with
  | true =>
    have hproved : state.proveEvidence evidence reading =
        state.proveReceipt evidence reading.modules := by rw [proveEvidence, if_pos hreceipt]
    rw [hproved] at hcommitted ⊢
    rcases proveReceipt_cases evidence reading.modules with hnone | ⟨binding, -, hsome, hcommits⟩
    · rw [hnone]
      refine ⟨fun _ _ _ hwas => hwas, fun hverified hwas => ?_, id⟩
      rw [hverified] at hwas
      cases hwas
    · have hadmitted : state.receiptRejected evidence = false := by
        cases hrejected : state.receiptRejected evidence with
        | false => rfl
        | true =>
          rw [proveReceipt, hrejected, if_pos rfl] at hsome
          cases hsome
      obtain ⟨hhealthy, hdependencies⟩ := receipt_admitted hadmitted
      exact hcommitted hhealthy hdependencies hcommits.verified
  | false =>
    obtain ⟨hagain, hwithdrawn⟩ := hkeeps hreceipt
    rcases proveEvidence_cases evidence reading hreceipt with ⟨hnot, -, hwithdraws⟩ |
      ⟨selected, hholds, -, -, hcommits⟩
    · refine ⟨fun dependent hmem hverified _ => ?_, fun hverified => ?_, fun hfailed => ?_⟩
      · rw [hwithdrawn hnot dependent hmem] at hverified
        cases hverified
      · rw [hwithdraws.verified] at hverified
        cases hverified
      · cases hstep with
        | kept hslot => exact hslot ▸ hfailed
        | withdrawn record hstate hgeneration hslot => rw [hslot]
        | committed record hcurrent hkey hslot =>
          have hverified : (state.proveEvidence evidence reading).1.hasVerifiedCapability
              evidence.kind.capability = true := by
            rw [hasVerified_slot (singleBit_kind evidence.kind), hslot,
              hwithdraws.same.stamp.recordCurrent, hcurrent, Bool.and_self]
          rw [hwithdraws.verified] at hverified
          cases hverified
    · exact hcommitted (hagain hholds) (admitsEvidence_dependencies hholds.1) hcommits.verified

theorem Coherent.ofEvidence (h : state.Coherent)
    (hkeeps : (evidence.observationReceipt || evidence.semanticReceipt) = false →
      (state.EvidenceHolds evidence.kind reading →
          state.hasFailedCapability evidence.kind.capability = false) ∧
        (¬ state.EvidenceHolds evidence.kind reading → ∀ dependent,
          evidence.kind.capability ∈ capabilityDependencies dependent →
          state.hasVerifiedCapability dependent = false)) :
    (state.proveEvidence evidence reading).1.Coherent ∧
      KeepsFailed state (state.proveEvidence evidence reading).1 := by
  obtain ⟨htouches, hstep⟩ := proveEvidence_slots h.keyed evidence reading
  have hlifecycle : kCapabilityArtifactLifecycle ≠ evidence.kind.capability := by
    cases evidence.kind <;> decide
  exact h.proof (singleBit_kind evidence.kind) hlifecycle htouches hstep
    (proveEvidence_sound hkeeps hstep)

end Evidence

/-! ### The life of the artifacts -/

theorem Coherent.of_slots (h : state.Coherent) (hstamp : SameStamp state after)
    (hslots : ∀ capability, SingleBit capability → after.slot capability = state.slot capability) :
    after.Coherent ∧ KeepsFailed state after := by
  refine ⟨⟨fun capability hsingle => slotCoherent_kept (h.slots capability hsingle) hsingle hstamp
      (hslots capability hsingle), fun capability hsingle key hkey => ?_,
    fun capability dependency hmem hverified => ?_, ?_⟩, fun capability hsingle hfailed _ => ?_⟩
  · rw [hslots capability hsingle] at hkey
    exact h.keyed capability hsingle key hkey
  · obtain ⟨hcapability, hdependency, -⟩ := dependency_single state hmem
    rw [hasVerified_of_slot hcapability hstamp (hslots capability hcapability)] at hverified
    rw [hasVerified_of_slot hdependency hstamp (hslots dependency hdependency)]
    exact h.dependencies capability dependency hmem hverified
  · rw [hslots kCapabilityArtifactLifecycle ⟨by decide, by decide⟩]
    exact h.lifecycle
  · rw [hslots capability hsingle]
    exact hfailed

/-- A withdrawal of the artifacts leaves nothing verified. -/
theorem Coherent.invalidate (h : state.Coherent)
    (hroom : state.artifactGeneration.toNat + 1 < 2 ^ 64) :
    state.invalidateArtifactBinding.Coherent ∧
      KeepsFailed state state.invalidateArtifactBinding := by
  have hmoved : state.invalidateArtifactBinding.artifactGeneration.toNat =
      state.artifactGeneration.toNat + 1 := by
    show (state.artifactGeneration + 1).toNat = _
    rw [BitVec.toNat_add]
    exact Nat.mod_eq_of_lt hroom
  have hslot : ∀ capability, SingleBit capability →
      (state.invalidateArtifactBinding.slot capability = state.slot capability ∨
        ∃ proof, (proof = .unverified ∨ proof = .unavailable) ∧
          state.invalidateArtifactBinding.slot capability =
            ⟨false, false, { capability, state := proof }, none⟩) := by
    intro capability hsingle
    by_cases hmeets : state.capabilities &&& capability = 0
    · exact Or.inl (slot_reset_ne hmeets)
    · refine Or.inr ⟨_, ?_, slot_reset hsingle hmeets⟩
      exact ite_eq_or_eq _ _ _
  have hnothing : ∀ capability, SingleBit capability →
      state.invalidateArtifactBinding.hasVerifiedCapability capability = false := by
    intro capability hsingle
    rcases hslot capability hsingle with hkept | ⟨proof, -, hreset⟩
    · rw [hasVerified_slot hsingle, hkept]
      have hstale : state.invalidateArtifactBinding.recordCurrent capability
          (state.slot capability).record = false := by
        rw [Bool.eq_false_iff]
        intro hcurrent
        simp only [recordCurrent, Bool.and_eq_true, beq_iff_eq] at hcurrent
        have hstamped := (h.slots capability hsingle).stamped
        rw [hcurrent.1.1.1.2, hmoved] at hstamped
        omega
      rw [hstale, Bool.and_false]
    · exact not_verified_of_slot hsingle (hreset ▸ rfl)
  refine ⟨⟨fun capability hsingle => ⟨?_, ?_, fun _ hverified => ?_, ?_⟩,
    fun capability hsingle key hkey => ?_, fun capability dependency hmem hverified => ?_, ?_⟩,
    fun capability hsingle _ hsame => ?_⟩
  · rcases hslot capability hsingle with hkept | ⟨proof, -, hreset⟩
    · exact hkept ▸ (h.slots capability hsingle).exclusive
    · rw [hreset]
      exact fun _ => rfl
  · rcases hslot capability hsingle with hkept | ⟨proof, hproof, hreset⟩
    · exact hkept ▸ (h.slots capability hsingle).failed
    · rw [hreset]
      refine iff_of_false Bool.false_ne_true ?_
      rintro (hfailed | hambiguous)
      · rcases hproof with rfl | rfl <;> cases hfailed
      · rcases hproof with rfl | rfl <;> cases hambiguous
  · rw [hnothing capability hsingle] at hverified
    cases hverified
  · rw [hmoved]
    rcases hslot capability hsingle with hkept | ⟨proof, -, hreset⟩
    · rw [hkept]
      exact Nat.le_succ_of_le (h.slots capability hsingle).stamped
    · rw [hreset]
      exact Nat.zero_le _
  · rcases hslot capability hsingle with hkept | ⟨proof, -, hreset⟩
    · exact h.keyed capability hsingle key (hkept ▸ hkey)
    · rw [hreset] at hkey
      cases hkey
  · obtain ⟨hcapability, -⟩ := dependency_single state hmem
    rw [hnothing capability hcapability] at hverified
    cases hverified
  · rcases hslot kCapabilityArtifactLifecycle ⟨by decide, by decide⟩ with
      hkept | ⟨proof, -, hreset⟩
    · exact hkept ▸ h.lifecycle
    · rw [hreset]
  · exact absurd (congrArg BitVec.toNat hsame) (by rw [hmoved]; omega)

end FlutterVmState

end DartPlant
